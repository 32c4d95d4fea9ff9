import TileBench.OrderedMap
import TileBench.Text.Alphanumeric
import TileBench.Text.Split

/-!
# Launcher options

The user hands options to the launcher program as `--mpirun.KEY=VALUE`, as `--mpirun.KEY VALUE`, or
as the flag `--mpirun.KEY`. They are taken out of the command line; the last occurrence of a key
holds. The launcher receives them in the order of their keys.
-/

namespace TileBench

open Text

/-- The value of a launcher option; `none` for a flag. -/
abbrev OptionValue := Option String

structure LaunchOptions where
  bindings : OrderedMap String OptionValue
  deriving DecidableEq

namespace LaunchOptions

def empty : LaunchOptions := ⟨.empty⟩

/-- Sets an option, in place of an earlier value. -/
def insert (options : LaunchOptions) (key : String) (value : OptionValue) : LaunchOptions :=
  ⟨options.bindings.insert key value⟩

def get? (options : LaunchOptions) (key : String) : Option OptionValue := options.bindings.get? key

/-- The options in the order of their keys. -/
def toList (options : LaunchOptions) : List (String × OptionValue) := options.bindings.entries

/-- A key with one dash if it is a single character and with two otherwise. -/
def dashed (key : String) : String := (if key.length = 1 then "-" else "--") ++ key

def launcherArgs (options : LaunchOptions) : List String :=
  options.toList.flatMap fun option => dashed option.1 :: option.2.toList

/-! ### The command line -/

/-- What every launcher option starts with. -/
def lead : List Char := "--mpirun.".toList

def isKeyChar (c : Char) : Bool := isAlphanumeric c || c == '_' || c == '-'

/-- Reads an argument as a launcher option, with the value that stands in the same argument. -/
def ofArg? (arg : String) : Option (String × OptionValue) :=
  if lead.isPrefixOf arg.toList then
    let body := arg.toList.drop lead.length
    let (key, value) : List Char × OptionValue :=
      match splitOnce '=' body with
      | some (key, value) => (key, some (String.ofList value))
      | none => (body, none)
    if !key.isEmpty && key.all isKeyChar then some (String.ofList key, value) else none
  else none

/-- Can the argument be the value of the option in front of it? -/
def isValueArg (arg : String) : Bool := arg.toList.head? != some '-'

/-- What an argument is on the command line. -/
inductive Segment where
  /-- No launcher option. -/
  | kept (arg : String)
  /-- A launcher option, written in one argument or in two. -/
  | option (key : String) (value : OptionValue)
  deriving DecidableEq

/-- Cuts a command line into launcher options and other arguments. An option without a value takes
the next argument if that does not start with a dash. -/
def segments : List String → List Segment
  | [] => []
  | arg :: rest =>
    match ofArg? arg with
    | none => .kept arg :: segments rest
    | some (key, some value) => .option key (some value) :: segments rest
    | some (key, none) =>
      match rest with
      | [] => [.option key none]
      | next :: rest =>
        if isValueArg next then .option key (some next) :: segments rest
        else .option key none :: segments (next :: rest)

/-- The argument that a segment leaves on the command line. -/
def Segment.kept? : Segment → Option String
  | .kept arg => some arg
  | .option .. => none

/-- Sets the option of a segment. -/
def Segment.apply (options : LaunchOptions) : Segment → LaunchOptions
  | .kept _ => options
  | .option key value => options.insert key value

/-- Takes the launcher options out of a command line. -/
def extract (args : List String) : List String × LaunchOptions :=
  ((segments args).filterMap Segment.kept?, (segments args).foldl Segment.apply empty)

end LaunchOptions

end TileBench
