import TileBench.Launch.Command
import TileBench.Logging
import TileBench.Store

/-!
# Launchers

A launcher answers launches. Its answer may depend on the launches before, and it may change files
and add to the log. One launcher records the commands in a shell script and runs nothing, one runs
the commands as processes, and one gives replies that were rehearsed.
-/

namespace TileBench

open Text

/-- What came back from a launch. -/
structure Output where
  /-- Was the command run, and not just recorded? -/
  executed : Bool
  /-- The exit code of a process that ended by itself. -/
  exitCode : Option Int
  /-- The standard output, followed by the standard error. -/
  text : String
  deriving DecidableEq

/-- What comes back if nothing is run. -/
def Output.recorded : Output := ⟨false, none, ""⟩

/-- A launch and what came of it. -/
structure Launch where
  phase : Phase
  command : Command
  outcome : Except Fault Output

/-- What a launcher answers: the outcome, the files as they are then, and what it tells the log. -/
structure Answer where
  outcome : Except Fault Output
  store : Store
  events : List Event

/-- A way to launch commands. -/
structure Launcher where
  name : String
  /-- Does it run commands, so that their output is worth judging? -/
  executes : Bool
  /-- The answer to a command, after some launches. -/
  answer : Array Launch → Phase → Command → Store → Answer

namespace Launcher

/-! ### Recording -/

def scriptHead : String := "#!/bin/sh\n\n"

def startScript (store : Store) (path : String) : Except Fault Store :=
  (store.write path (bytesOf scriptHead)).mapError (.file path)

/-- Appends the commands to a script, one on each line. -/
def recording (script : String) : Launcher where
  name := "script"
  executes := false
  answer _ _ command store :=
    match store.append script (bytesOf (command.text ++ "\n")) with
    | .ok store => ⟨.ok .recorded, store, []⟩
    | .error cause => ⟨.error (.file script cause), store, []⟩

theorem eq_recorded_of_recording {script : String} {history : Array Launch} {phase : Phase}
    {command : Command} {store : Store} {output : Output}
    (h : ((recording script).answer history phase command store).outcome = .ok output) :
    output = .recorded := by
  simp only [recording] at h
  split at h <;> cases h
  rfl

/-! ### Running -/

inductive Stream where
  | out
  | err
  deriving DecidableEq

/-- How a program ended, what it wrote, piece by piece, and the files that it left. -/
structure Ending where
  status : ExitStatus
  written : List (Stream × Bytes)
  store : Store

namespace Ending

def bytesOn (e : Ending) (stream : Stream) : Bytes :=
  (e.written.filter fun piece => piece.1 = stream).flatMap (·.2)

/-- The standard output of a program, followed by its standard error. What is not UTF-8 is replaced
in each of them. -/
def text (e : Ending) : String :=
  String.ofList (decodeLossy (e.bytesOn .out) ++ decodeLossy (e.bytesOn .err))

end Ending

/-- The programs that can be started. A program is given its name, its arguments and the files. -/
abbrev Programs := String → List String → Store → Except FileError Ending

/-- Runs the commands and appends their output to a file for each phase. -/
def process (programs : Programs) (log : Phase → String) : Launcher where
  name := "process"
  executes := true
  answer _ phase command store :=
    match programs command.launcher command.argv store with
    | .error cause => ⟨.error (.launch command.text cause), store, []⟩
    | .ok ending =>
      match ending.store.append (log phase) (bytesOf ending.text) with
      | .error cause => ⟨.error (.file (log phase) cause), ending.store, []⟩
      | .ok store =>
        ⟨.ok ⟨true, ending.status.code?, ending.text⟩, store,
          [.launched phase ending.status (log phase)]⟩

/-! ### Rehearsing -/

/-- A reply that is known beforehand. -/
inductive Reply where
  /-- The command cannot be started. -/
  | fault (cause : String)
  /-- The command is recorded. -/
  | recorded
  /-- The command is run. -/
  | executed (exitCode : Option Int) (text : String)
  deriving DecidableEq

def Reply.outcome (command : Command) : Reply → Except Fault Output
  | .fault cause => .error (.launch command.text (.other cause))
  | .recorded => .ok .recorded
  | .executed exitCode text => .ok ⟨true, exitCode, text⟩

def launchesOf (phase : Phase) (history : Array Launch) : Nat :=
  history.countP fun l => l.phase = phase

/-- Gives the replies of each phase in turn, and begins anew after the last one. Without replies a
command is recorded, or run without output. -/
def rehearsed (name : String) (executes : Bool) (replies : Phase → List Reply) : Launcher where
  name := name
  executes := executes
  answer history phase command store :=
    let turn := launchesOf phase history % (replies phase).length
    let reply := (replies phase)[turn]?.getD (if executes then .executed (some 0) "" else .recorded)
    ⟨reply.outcome command, store, []⟩

end Launcher

end TileBench
