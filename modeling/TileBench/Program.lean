import TileBench.CommandLine.Grammar
import TileBench.LogFilter
import TileBench.Session
import TileBench.Stamp

/-!
# Programs

A program is given its arguments and its surroundings. It prints lines, writes to the log and to the
standard error, and leaves files and an exit code; or its command line is refused.
-/

namespace TileBench

structure Surroundings where
  /-- The programs that it may start. -/
  programs : Launcher.Programs
  /-- The rules of the log, if there are any. -/
  logRules : Option String
  began : String
  finished : String
  machine : String

namespace Surroundings

/-- The stamp of a run that was started by a command line. -/
def stamp (e : Surroundings) (name : String) (args : List String) : Stamp where
  began := e.began
  finished := e.finished
  machine := e.machine
  commandLine := " ".intercalate (name :: args)

end Surroundings

/-- What a program leaves. -/
structure Completion where
  exitCode : UInt8
  /-- The printed lines. -/
  printed : List String
  /-- The lines of the log, which go to the standard error. -/
  log : List String
  /-- What the program complains about there after the log. -/
  complaints : List String
  store : Store
  deriving DecidableEq

namespace Completion

def ofSession (filter : LogFilter) (s : Session) (exitCode : UInt8) (complaints : List String) :
    Completion where
  exitCode := exitCode
  printed := s.printed.toList
  log := (s.events.toList.filter filter.shows).map Event.line
  complaints := complaints
  store := s.store

end Completion

/-- The lines that tell about a fault. -/
def Fault.complaints (fault : Fault) : List String :=
  ("ERROR: " ++ fault.message) ::
    match fault with
    | .unknownProcessCount _ available =>
      ["Procs configuration not available use one these: " ++ countList available,
        "Or add a new configuration to the harness config file"]
    | _ => []

end TileBench
