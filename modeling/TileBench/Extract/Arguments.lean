import TileBench.CommandLine.Matches

/-!
# The command line of the extraction program

The directory with the logs and the file for the table are positional.
-/

namespace TileBench.Extract

open CommandLine

/-- What the command line says. -/
structure Arguments where
  /-- The directory with the logs. -/
  input : String
  /-- The file for the table. -/
  output : String
  /-- Are logs that cannot be read left out? -/
  skips : Bool
  verbosity : Nat
  /-- Is a summary printed? -/
  summary : Bool
  /-- The file for the report. -/
  jsonFile : Option String
  deriving DecidableEq

namespace Arguments

/-- The options and the positional arguments of the program. -/
def grammar : Grammar where
  options := [
    ⟨"continue-on-error", none, .flag⟩,
    ⟨"verbose", some 'v', .tally⟩,
    ⟨"summary", some 's', .flag⟩,
    ⟨"json-file", none, .single .path⟩]
  positionals := [⟨"INPUT_DIR", none, .single .path⟩, ⟨"OUTPUT", none, .single .path⟩]

def ofMatches (m : Matches) : Arguments where
  input := (m.text? "INPUT_DIR").getD ""
  output := (m.text? "OUTPUT").getD ""
  skips := m.has "continue-on-error"
  verbosity := m.count "verbose"
  summary := m.has "summary"
  jsonFile := m.text? "json-file"

def parse (args : List String) : Except UsageError Arguments :=
  (CommandLine.parse grammar args).map ofMatches

end Arguments

end TileBench.Extract
