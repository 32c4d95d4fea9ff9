import TileBench.CommandLine.Matches
import TileBench.Config.Json
import TileBench.Launch.Options

/-!
# The command line of the test program

What is given on the command line goes before the configuration file, and that before the defaults.
The options of the launcher are taken out of the command line first.
-/

namespace TileBench.Bench

open CommandLine

/-- What the command line says. -/
structure Arguments where
  writers : UInt32
  readers : UInt32
  launcher : Option String
  /-- How the names of the profile files start. -/
  profile : Option String
  /-- Are the commands recorded in a script? -/
  scriptMode : Bool
  script : Option String
  config : Option String
  writeExecutable : Option String
  readExecutable : Option String
  varTypes : List String
  patch : Option String
  vars : Option UInt32
  timesteps : Option UInt32
  fixedBox : Bool
  restructure : Bool
  verbosity : Nat
  /-- Is the report printed instead of text? -/
  json : Bool
  /-- The file for the report. -/
  jsonFile : Option String
  deriving DecidableEq

namespace Arguments

def grammar : Grammar where
  options := [
    ⟨"wcores", some 'w', .single .word32⟩,
    ⟨"rcores", some 'r', .single .word32⟩,
    ⟨"mpirun", some 'm', .single .text⟩,
    ⟨"pfile", some 'p', .single .text⟩,
    ⟨"travis", some 't', .flag⟩,
    ⟨"script", none, .single .path⟩,
    ⟨"config", some 'c', .single .path⟩,
    ⟨"write-exe", none, .single .path⟩,
    ⟨"read-exe", none, .single .path⟩,
    ⟨"var-type", none, .many .text⟩,
    ⟨"patch-size", none, .single .text⟩,
    ⟨"vars", none, .single .word32⟩,
    ⟨"timesteps", none, .single .word32⟩,
    ⟨"non-pow2", none, .flag⟩,
    ⟨"restructure", none, .flag⟩,
    ⟨"verbose", some 'v', .tally⟩,
    ⟨"json", none, .flag⟩,
    ⟨"json-file", none, .single .path⟩]
  positionals := []

/-- The processes on each side if no number is given. -/
def defaultProcs : UInt32 := 8

def ofMatches (m : Matches) : Arguments where
  writers := (m.word32? "wcores").getD defaultProcs
  readers := (m.word32? "rcores").getD defaultProcs
  launcher := m.text? "mpirun"
  profile := m.text? "pfile"
  scriptMode := m.has "travis"
  script := m.text? "script"
  config := m.text? "config"
  writeExecutable := m.text? "write-exe"
  readExecutable := m.text? "read-exe"
  varTypes := m.texts "var-type"
  patch := m.text? "patch-size"
  vars := m.word32? "vars"
  timesteps := m.word32? "timesteps"
  fixedBox := m.has "non-pow2"
  restructure := m.has "restructure"
  verbosity := m.count "verbose"
  json := m.has "json"
  jsonFile := m.text? "json-file"

/-- Reads a command line without the options of the launcher. -/
def parse (args : List String) : Except UsageError Arguments :=
  (CommandLine.parse grammar args).map ofMatches

/-- Reads a whole command line, with the options of the launcher. -/
def parseAll (args : List String) : Except UsageError (Arguments × LaunchOptions) :=
  let (rest, options) := LaunchOptions.extract args
  (parse rest).map fun a => (a, options)

/-! ### The configuration in effect -/

/-- Reads each text, or fails at the first that cannot be read. -/
def varTypesOver (a : Arguments) (types : List VarType) : Except Fault (List VarType) :=
  if a.varTypes.isEmpty then .ok types else a.varTypes.mapM VarType.parse

/-- Reads the block size, if it is given. -/
def patchOver (a : Arguments) (patch : Extent) : Except Fault Extent :=
  match a.patch with
  | some text => Extent.parse text
  | none => .ok patch

/-- Puts what is given over a configuration. -/
def applyTo (a : Arguments) (c : Config) : Except Fault Config := do
  let varTypes ← a.varTypesOver c.varTypes
  let patch ← a.patchOver c.patch
  return { c with
    launcher := a.launcher.getD c.launcher
    writeExecutable := a.writeExecutable.getD c.writeExecutable
    readExecutable := a.readExecutable.getD c.readExecutable
    scriptPath := a.script.getD c.scriptPath
    varTypes
    patch
    vars := a.vars.getD c.vars
    timesteps := a.timesteps.getD c.timesteps
    fixedBox := c.fixedBox || a.fixedBox
    restructure := c.restructure || a.restructure }

/-- The configuration file, or the defaults. -/
def baseConfig (a : Arguments) (store : Store) : Except Fault Config :=
  match a.config with
  | some path => Config.ofFile store path
  | none => .ok .standard

def effectiveConfig (a : Arguments) (store : Store) : Except Fault Config := do
  a.applyTo (← a.baseConfig store)

end Arguments

end TileBench.Bench
