import TileBench.Store
import TileBench.Text.Split

/-!
# Profiles

The executables tag some lines of their output as profiling data. Those lines are collected in one
file for each phase, whose names start with a prefix that the user chooses.
-/

namespace TileBench

open Text

/-- The two files of a profile. -/
structure Profile where
  writePath : String
  readPath : String
  deriving DecidableEq

namespace Profile

/-- The text that tags a line as profiling data. -/
def marker : List Char := "IRPIWCCHHAI".toList

/-- The files of a prefix. -/
def ofPrefix (stem : String) : Profile := ⟨stem ++ "_write.prof", stem ++ "_read.prof"⟩

def path (p : Profile) : Phase → String
  | .write => p.writePath
  | .read => p.readPath

def taggedLines (output : String) : List (List Char) :=
  (lines output.toList).filter (occursIn marker)

/-- The tagged lines of an output, each with one newline. -/
def excerpt (output : String) : List Char :=
  (taggedLines output).flatMap fun line => line ++ ['\n']

/-- Adds the tagged lines of an output to a file, which is not touched if there is none. -/
def capture (store : Store) (path output : String) : Except Fault Store :=
  if (taggedLines output).isEmpty then .ok store
  else (store.append path (encode (excerpt output))).mapError (.file path)

/-- Removes a file that may be missing. -/
def discard (store : Store) (path : String) : Except Fault Store :=
  match store.delete path with
  | .ok store => .ok store
  | .error .notFound => .ok store
  | .error cause => .error (.file path cause)

/-- Removes what an earlier run left, the file of the writers first. A fault leaves the second file
alone. -/
def reset (p : Profile) (store : Store) : Except Fault Unit × Store :=
  match discard store p.writePath with
  | .error fault => (.error fault, store)
  | .ok store =>
    match discard store p.readPath with
    | .error fault => (.error fault, store)
    | .ok store => (.ok (), store)

end Profile

end TileBench
