import TileBench.Launch.Command
import TileBench.Text.Terminal
import TileBench.VarType

/-!
# Log events

What a run tells its log, by kind. Every event has a level, belongs to a part of the program and
carries a message, which may be followed by fields.
-/

namespace TileBench

/-- How much an event matters, the weightiest first. -/
inductive Level where
  | error
  | warn
  | info
  | debug
  | trace
  deriving DecidableEq

namespace Level

/-- The place of a level, counted from one for errors. -/
def rank : Level → Nat
  | .error => 1
  | .warn => 2
  | .info => 3
  | .debug => 4
  | .trace => 5

def name : Level → String
  | .error => "ERROR"
  | .warn => "WARN"
  | .info => "INFO"
  | .debug => "DEBUG"
  | .trace => "TRACE"

end Level

/-- How a process ended. -/
inductive ExitStatus where
  | code (n : UInt8)
  | signal (n : Nat)
  deriving DecidableEq

namespace ExitStatus

/-- The exit code of a process that ended by itself. -/
def code? : ExitStatus → Option Int
  | .code n => some n.toNat
  | .signal _ => none

/-- The system's number for the status: the code in the second byte, or the signal. -/
def number : ExitStatus → Nat
  | .code n => n.toNat * 256
  | .signal n => n

end ExitStatus

/-- What a run tells its log. -/
inductive Event where
  /-- A command is about to be launched. -/
  | executing (phase : Phase) (command : String)
  /-- A type is tested that only a small domain has memory for. -/
  | smallDomain (varType : VarType)
  /-- The write executable failed. -/
  | uncleanWrite (exitCode : Option Int)
  /-- A process ended, and its output is in a file. -/
  | launched (phase : Phase) (status : ExitStatus) (log : String)
  /-- A benchmark log is about to be read. -/
  | reading (path : String)
  /-- The times on a line of a benchmark log are kept. -/
  | keptSample (line : Nat)
  /-- A benchmark log has been read. -/
  | logRead (path : String) (iterations : Nat)
  /-- A benchmark log is left out. -/
  | skipping (path : String) (reason : String)
  /-- The table to be written is there already. -/
  | overwriting (path : String)
  deriving DecidableEq

namespace Event

def level : Event → Level
  | .executing .. | .reading _ => .info
  | .smallDomain _ | .uncleanWrite _ | .skipping .. | .overwriting _ => .warn
  | .launched .. | .logRead .. => .debug
  | .keptSample _ => .trace

/-- The part of the program that an event belongs to. -/
def part : Event → String
  | .executing .. | .smallDomain _ | .uncleanWrite _ => "pidx_test::runner"
  | .launched .. => "pidx_core::launcher"
  | .reading _ | .logRead .. | .skipping .. => "pidx_extract::runner"
  | .keptSample _ => "pidx_extract::parser"
  | .overwriting _ => "pidx_extract"

/-- The text of an exit code that may be missing. -/
def exitCodeText : Option Int → String
  | some code => "Some(" ++ toString code ++ ")"
  | none => "None"

def message : Event → String
  | .executing phase command => "EXECUTE " ++ phase.name ++ ": " ++ command
  | .smallDomain varType =>
    "testing " ++ varType.text ++ " this datatype can be tested only on small domains"
  | .uncleanWrite _ => "write executable did not exit cleanly"
  | .launched .. => "launch finished"
  | .reading path => path
  | .keptSample _ => "kept timing sample"
  | .logRead .. => "parsed benchmark log"
  | .skipping path reason => "skipping " ++ path ++ ": " ++ reason
  | .overwriting path => path ++ " already exists, overwriting"

def fields : Event → List (String × String)
  | .uncleanWrite exitCode => [("exit_code", exitCodeText exitCode)]
  | .launched phase status log =>
    [("phase", phase.name),
      ("status", "ExitStatus(unix_wait_status(" ++ toString status.number ++ "))"), ("log", log)]
  | .keptSample line => [("line", toString line)]
  | .logRead path iterations => [("file", path), ("iterations", toString iterations)]
  | .executing .. | .smallDomain _ | .reading _ | .skipping .. | .overwriting _ => []

/-- Has the event a field of the name? The message counts as one. -/
def hasField (e : Event) (name : String) : Bool :=
  name == "message" || e.fields.any fun field => field.1 == name

def line (e : Event) : String :=
  " ".intercalate (e.level.name :: Text.disarm e.message ::
    e.fields.map fun field => field.1 ++ "=" ++ field.2)

end Event

end TileBench
