import TileBench.CommandLine.Grammar
import TileBench.Text.Split

/-!
# Reading a command line

The arguments are read from left to right. An option that takes a value waits for the next argument
that is no option. The value itself is read when the next option or positional argument is
recognised, or at the end; so an argument that is not recognised is reported before a fault in the
value in front of it, and every other fault after it. Behind `--` every argument is positional.
-/

namespace TileBench.CommandLine

open Text

/-- The arguments that were found, by name, in the order of the command line. -/
structure Matches where
  found : List (String × Value)
  deriving DecidableEq

namespace Matches

/-- The values of an argument. -/
def all (m : Matches) (name : String) : List Value :=
  m.found.filterMap fun entry => if entry.1 = name then some entry.2 else none

def has (m : Matches) (name : String) : Bool := !(m.all name).isEmpty

/-- How often the argument is given, counted up to 255. -/
def count (m : Matches) (name : String) : Nat := min (m.all name).length 255

def texts (m : Matches) (name : String) : List String :=
  (m.all name).filterMap fun
    | .text s => some s
    | _ => none

def text? (m : Matches) (name : String) : Option String := (m.texts name).head?

/-- The number of an argument. -/
def word32? (m : Matches) (name : String) : Option UInt32 :=
  ((m.all name).filterMap fun
    | .word32 n => some n
    | _ => none).head?

def add (m : Matches) (name : String) (value : Value) : Matches := ⟨m.found ++ [(name, value)]⟩

end Matches

/-- An argument that is recognised but not read yet, and its value as far as it is known. -/
structure Waiting where
  argument : Argument
  value : Option String
  deriving DecidableEq

/-- How far a command line is read. -/
structure Reading where
  matched : Matches
  waiting : Option Waiting
  /-- The positional arguments to come. -/
  positionals : List Argument
  /-- Is every argument from here on positional? -/
  literal : Bool
  deriving DecidableEq

namespace Reading

/-- Takes an argument with its value. -/
def accept (r : Reading) (a : Argument) (value : Option String) : Except UsageError Reading :=
  match a.usage, value with
  | .help, _ => .error .helpRequested
  | .flag, _ =>
    if r.matched.has a.name then .error .repeated
    else .ok { r with matched := r.matched.add a.name .present }
  | .tally, _ => .ok { r with matched := r.matched.add a.name .present }
  | .single _, none | .many _, none => .error .missingValue
  | .single kind, some s =>
    if r.matched.has a.name then .error .repeated
    else do return { r with matched := r.matched.add a.name (← kind.read s) }
  | .many kind, some s => do return { r with matched := r.matched.add a.name (← kind.read s) }

/-- Takes the argument that waits. -/
def settle (r : Reading) : Except UsageError Reading :=
  match r.waiting with
  | some w => { r with waiting := none }.accept w.argument w.value
  | none => .ok r

/-- Takes an option, after the argument that waits. -/
def take (r : Reading) (a : Argument) (value : Option String) : Except UsageError Reading := do
  (← r.settle).accept a value

/-- Lets an argument wait, after the one that waits. -/
def await (r : Reading) (a : Argument) (value : Option String) : Except UsageError Reading := do
  return { ← r.settle with waiting := some ⟨a, value⟩ }

def position (r : Reading) (arg : String) : Except UsageError Reading :=
  match r.positionals with
  | a :: rest => { r with positionals := rest }.await a (some arg)
  | [] => .error .unknownArgument

/-- Reads an argument that is no option. -/
def word (r : Reading) (arg : String) : Except UsageError Reading :=
  match r.waiting with
  | some ⟨a, none⟩ => .ok { r with waiting := some ⟨a, some arg⟩ }
  | _ => r.position arg

/-- Reads an option by its long name, which an equals sign may separate from a value. -/
def long (g : Grammar) (r : Reading) (body : List Char) : Except UsageError Reading :=
  let (name, value) : List Char × Option String :=
    match splitOnce '=' body with
    | some (name, value) => (name, some (String.ofList value))
    | none => (body, none)
  match g.long? (String.ofList name) with
  | none => .error .unknownArgument
  | some a =>
    if a.usage.takesValue then
      if value.isSome then r.take a value else r.await a none
    else if value.isSome then .error .unexpectedValue
    else r.take a none

/-- Reads options by their letters. What follows the letter of an option that takes a value is its
value, with or without an equals sign. -/
def letters (g : Grammar) (r : Reading) : List Char → Except UsageError Reading
  | [] => .ok r
  | c :: rest =>
    match g.short? c with
    | none => .error .unknownArgument
    | some a =>
      if a.usage.takesValue then
        match rest with
        | [] => r.await a none
        | '=' :: value => r.take a (some (String.ofList value))
        | value => r.take a (some (String.ofList value))
      else do letters g (← r.take a none) rest

def read (g : Grammar) (r : Reading) (arg : String) : Except UsageError Reading :=
  if r.literal then r.position arg
  else
    match arg.toList with
    | ['-', '-'] => .ok { r with literal := true }
    | '-' :: '-' :: body => r.long g body
    | '-' :: c :: rest => r.letters g (c :: rest)
    | _ => r.word arg

end Reading

def parse (g : Grammar) (args : List String) : Except UsageError Matches := do
  let r ← args.foldlM (Reading.read g) ⟨⟨[]⟩, none, g.positionals, false⟩
  let r ← r.settle
  if r.positionals.isEmpty then return r.matched
  else .error .missingArgument

end TileBench.CommandLine
