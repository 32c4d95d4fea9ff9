import TileBench.Text.Quoted

/-!
# Faults

What can go wrong, by cause. `Fault.message` is the text that a user sees.
-/

namespace TileBench

open Text

/-- Which of the two executables a launch belongs to. -/
inductive Phase where
  | write
  | read
  deriving DecidableEq

def Phase.name : Phase → String
  | .write => "write"
  | .read => "read"

/-- Why a file or a program cannot be used. -/
inductive FileError where
  | notFound
  | notDirectory
  | isDirectory
  | permissionDenied
  | tooManyLinks
  | notExecutable
  | notUtf8
  | nulInName
  | nulInArgument
  | nameTooLong
  | noSpace
  | tooManyProcesses
  /-- A cause in words. -/
  | other (text : String)
  deriving DecidableEq

def FileError.text : FileError → String
  | .notFound => "No such file or directory"
  | .notDirectory => "Not a directory"
  | .isDirectory => "Is a directory"
  | .permissionDenied => "Permission denied"
  | .tooManyLinks => "Too many levels of symbolic links"
  | .notExecutable => "Exec format error"
  | .notUtf8 => "stream did not contain valid UTF-8"
  | .nulInName => "file name contained an unexpected NUL byte"
  | .nulInArgument => "nul byte found in provided data"
  | .nameTooLong => "File name too long"
  | .noSpace => "No space left on device"
  | .tooManyProcesses => "Resource temporarily unavailable"
  | .other text => text

/-- The number that the system gives a file error. -/
def FileError.number? : FileError → Option Nat
  | .notFound => some 2
  | .notExecutable => some 8
  | .tooManyProcesses => some 11
  | .permissionDenied => some 13
  | .notDirectory => some 20
  | .isDirectory => some 21
  | .noSpace => some 28
  | .nameTooLong => some 36
  | .tooManyLinks => some 40
  | .notUtf8 | .nulInName | .nulInArgument | .other _ => none

/-- The text of a file error, with its number if it has one. -/
def FileError.message (e : FileError) : String :=
  match e.number? with
  | some n => e.text ++ " (os error " ++ toString n ++ ")"
  | none => e.text

/-- The texts that tag the lines of a benchmark log. -/
inductive LogMarker where
  | blocksPerFile
  | restructuringSize
  | globalData
  | fileCreate
  | writeTime
  | timeTaken
  deriving DecidableEq

/-- The tag as it stands in a log. -/
def LogMarker.text : LogMarker → String
  | .blocksPerFile => "Blocks Per File"
  | .restructuringSize => "Blocks Restructuring Size"
  | .globalData => "Global Data"
  | .fileCreate => "File Create time"
  | .writeTime => "Write time"
  | .timeTaken => "Time Taken"

/-- What is wrong with a tagged line of a benchmark log. -/
inductive LineError where
  /-- The line has `found` words, and the word at `index` was asked for. -/
  | tooShort (marker : LogMarker) (found index : Nat)
  /-- The word at `index` is no number. -/
  | notNumber (marker : LogMarker) (index : Nat) (word : String)
  deriving DecidableEq

def LineError.message : LineError → String
  | .tooShort marker found index =>
    "'" ++ marker.text ++ "' line has " ++ toString found ++ " words, expected at least "
      ++ toString (index + 1)
  | .notNumber marker index word =>
    "'" ++ marker.text ++ "' field " ++ toString index ++ " is not a number: " ++ quote word

/-- Why a JSON text is refused. -/
inductive DecodeError where
  /-- The text is no JSON, or is longer than what was asked for. -/
  | malformed
  /-- The text is JSON with the wrong content. -/
  | content (message : String)
  deriving DecidableEq

def DecodeError.message : DecodeError → String
  | .malformed => "malformed JSON"
  | .content message => message

/-- Everything that can stop a run. -/
inductive Fault where
  /-- A stream without a name cannot be read. -/
  | stream (cause : FileError)
  /-- A file cannot be used. -/
  | file (path : String) (cause : FileError)
  /-- No process grid is known for a process count. -/
  | unknownProcessCount (count : UInt32) (available : List UInt32)
  /-- A text is no extent. -/
  | invalidExtent (text : String)
  /-- A product does not fit in 64 bits. -/
  | extentOverflow (product : String)
  /-- A text is no variable type. -/
  | invalidVarType (text : String)
  /-- The executable of a phase is no file. -/
  | executableNotFound (phase : Phase) (path : String)
  /-- The launcher program cannot be started. -/
  | launch (command : String) (cause : FileError)
  /-- A configuration file cannot be decoded. -/
  | config (path : String) (cause : DecodeError)
  /-- A line of a benchmark log cannot be decoded. -/
  | logLine (path : String) (line : Nat) (cause : LineError)
  /-- A benchmark log lacks a line. -/
  | missingMarker (path : String) (marker : LogMarker)
  deriving DecidableEq

/-- A list of process counts between brackets. -/
def countList (counts : List UInt32) : String :=
  "[" ++ ", ".intercalate (counts.map fun n => toString n.toNat) ++ "]"

def Fault.message : Fault → String
  | .stream cause => "I/O error: " ++ cause.message
  | .file path cause => path ++ ": " ++ cause.message
  | .unknownProcessCount count available =>
    "no process grid configured for " ++ toString count.toNat ++ " processes (available: "
      ++ countList available ++ ")"
  | .invalidExtent text =>
    "invalid extent " ++ quote text ++ ": expected three positive integers like 12x12x12"
  | .extentOverflow product => "extent overflow: " ++ product ++ " does not fit in 64 bits"
  | .invalidVarType text =>
    "invalid variable type " ++ quote text ++ ": expected <components>*<scalar>, e.g. 1*float32"
  | .executableNotFound phase path => phase.name ++ " executable not found: " ++ path
  | .launch command cause => "failed to launch \x60" ++ command ++ "\x60: " ++ cause.message
  | .config path cause => "invalid configuration " ++ path ++ ": " ++ cause.message
  | .logLine path line cause => path ++ ":" ++ toString line ++ ": " ++ cause.message
  | .missingMarker path marker => path ++ ": missing \x60" ++ marker.text ++ "\x60 line"

end TileBench
