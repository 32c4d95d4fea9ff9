import TileBench.Text.Numeral

/-!
# The grammar of a command line

A grammar lists the options of a program and its positional arguments. An option has a long name and
may have a short one; it takes a value or none.
-/

namespace TileBench.CommandLine

open Text

/-- Why a command line is refused, or not followed any further. -/
inductive UsageError where
  /-- No option has the name, or there is a positional argument too many. -/
  | unknownArgument
  /-- A value is missing, or is empty where that is no value. -/
  | missingValue
  /-- A value is no number, or is out of range. -/
  | badNumber
  /-- An option is given twice. -/
  | repeated
  /-- A flag is given a value. -/
  | unexpectedValue
  /-- A positional argument is missing. -/
  | missingArgument
  /-- Help is asked for. -/
  | helpRequested
  deriving DecidableEq

def UsageError.message : UsageError → String
  | .unknownArgument => "unexpected argument"
  | .missingValue => "a value is required"
  | .badNumber => "invalid number"
  | .repeated => "an argument cannot be used multiple times"
  | .unexpectedValue => "unexpected value"
  | .missingArgument => "a required argument was not provided"
  | .helpRequested => "help requested"

inductive ValueKind where
  | text
  /-- A text that is not empty. -/
  | path
  /-- A number below 2 ^ 32. -/
  | word32
  deriving DecidableEq

/-- What an argument is given as. -/
inductive Value where
  /-- The argument has no value. -/
  | present
  | text (s : String)
  | word32 (n : UInt32)
  deriving DecidableEq

namespace ValueKind

def read : ValueKind → String → Except UsageError Value
  | .text, s => .ok (.text s)
  | .path, s => if s.isEmpty then .error .missingValue else .ok (.text s)
  | .word32, s =>
    match signed64? s.toList with
    | some n =>
      if 0 ≤ n ∧ n < UInt32.size then .ok (.word32 (UInt32.ofNat n.toNat)) else .error .badNumber
    | none => .error .badNumber

end ValueKind

/-- How an argument is used. -/
inductive Usage where
  /-- Asks for help. -/
  | help
  /-- Has no value and is given at most once. -/
  | flag
  /-- Has no value, and is counted. -/
  | tally
  /-- Has a value and is given at most once. -/
  | single (kind : ValueKind)
  /-- Has a value each time it is given. -/
  | many (kind : ValueKind)
  deriving DecidableEq

namespace Usage

def takesValue : Usage → Bool
  | .single _ | .many _ => true
  | .help | .flag | .tally => false

end Usage

structure Argument where
  name : String
  /-- The letter of the short form. -/
  letter : Option Char
  usage : Usage
  deriving DecidableEq

/-- The arguments of a program. -/
structure Grammar where
  options : List Argument
  /-- The positional arguments, all of which are needed. -/
  positionals : List Argument
  deriving DecidableEq

namespace Grammar

def help : Argument := ⟨"help", some 'h', .help⟩

def long? (g : Grammar) (name : String) : Option Argument :=
  (g.options ++ [help]).find? fun option => option.name = name

def short? (g : Grammar) (letter : Char) : Option Argument :=
  (g.options ++ [help]).find? fun option => option.letter = some letter

/-- The forms of an option. -/
def optionLine (option : Argument) : String :=
  "  " ++ (match option.letter with
    | some c => "-" ++ String.ofList [c] ++ ", "
    | none => "    ")
    ++ "--" ++ option.name ++ if option.usage.takesValue then " <VALUE>" else ""

/-- The lines that tell how a program is called. -/
def usageLines (g : Grammar) (program : String) : List String :=
  [" ".intercalate (["Usage:", program, "[OPTIONS]"]
      ++ g.positionals.map fun a => "<" ++ a.name ++ ">"), "", "Options:"]
    ++ (g.options ++ [help]).map optionLine

end Grammar

end TileBench.CommandLine
