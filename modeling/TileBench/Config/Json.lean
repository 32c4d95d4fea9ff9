import TileBench.Config
import TileBench.ProcessTable.Json

/-!
# Configurations in JSON

A configuration file is an object whose members replace some of the defaults, in any order. An
unknown or repeated name is an error. The file may also be an array with the values in the order of
the settings, of which the last ones may be missing.
-/

namespace TileBench

inductive Setting where
  | writeExecutable
  | readExecutable
  | launcher
  | varTypes
  | patch
  | procs
  | vars
  | timesteps
  | fixedBox
  | restructure
  | varsFile
  | dataFile
  | writeLog
  | readLog
  | scriptPath
  deriving DecidableEq

namespace Setting

def all : List Setting :=
  [.writeExecutable, .readExecutable, .launcher, .varTypes, .patch, .procs, .vars, .timesteps,
    .fixedBox, .restructure, .varsFile, .dataFile, .writeLog, .readLog, .scriptPath]

/-- The name of a setting in a file. -/
def name : Setting → String
  | .writeExecutable => "write_executable"
  | .readExecutable => "read_executable"
  | .launcher => "mpirun"
  | .varTypes => "var_types"
  | .patch => "patch_size"
  | .procs => "procs"
  | .vars => "n_vars"
  | .timesteps => "timesteps"
  | .fixedBox => "non_pow2"
  | .restructure => "restructure"
  | .varsFile => "vars_file"
  | .dataFile => "data_file"
  | .writeLog => "write_log"
  | .readLog => "read_log"
  | .scriptPath => "script_path"

def ofName? (name : String) : Option Setting := all.find? fun setting => setting.name = name

/-- A name between backquotes. -/
def cited (name : String) : String := "\x60" ++ name ++ "\x60"

/-- The setting of a name, or an error that lists the names. -/
def ofName (name : String) : Except DecodeError Setting :=
  match ofName? name with
  | some setting => .ok setting
  | none => .error (.content ("unknown field " ++ cited name ++ ", expected one of "
      ++ ", ".intercalate (all.map fun setting => cited setting.name)))

/-- Decodes the value of a setting and puts it into a configuration. -/
def apply (c : Config) (d : Json.Draft) : Setting → Except DecodeError Config
  | .writeExecutable => return { c with writeExecutable := ← d.text "path string" }
  | .readExecutable => return { c with readExecutable := ← d.text "path string" }
  | .launcher => return { c with launcher := ← d.text "a string" }
  | .varTypes => return { c with varTypes := ← d.list fun item => item.parsed VarType.parse }
  | .patch => return { c with patch := ← d.parsed Extent.parse }
  | .procs => return { c with procs := ← ProcessTable.decode d }
  | .vars => return { c with vars := ← d.word32 }
  | .timesteps => return { c with timesteps := ← d.word32 }
  | .fixedBox => return { c with fixedBox := ← d.truth }
  | .restructure => return { c with restructure := ← d.truth }
  | .varsFile => return { c with varsFile := ← d.text "path string" }
  | .dataFile => return { c with dataFile := ← d.text "a string" }
  | .writeLog => return { c with writeLog := ← d.text "path string" }
  | .readLog => return { c with readLog := ← d.text "path string" }
  | .scriptPath => return { c with scriptPath := ← d.text "path string" }

def json (c : Config) : Setting → Json
  | .writeExecutable => .str c.writeExecutable
  | .readExecutable => .str c.readExecutable
  | .launcher => .str c.launcher
  | .varTypes => .arr (c.varTypes.map fun v => .str v.text)
  | .patch => .str c.patch.text
  | .procs => c.procs.json
  | .vars => .nat c.vars.toNat
  | .timesteps => .nat c.timesteps.toNat
  | .fixedBox => .bool c.fixedBox
  | .restructure => .bool c.restructure
  | .varsFile => .str c.varsFile
  | .dataFile => .str c.dataFile
  | .writeLog => .str c.writeLog
  | .readLog => .str c.readLog
  | .scriptPath => .str c.scriptPath

end Setting

namespace Config

/-- A configuration as a JSON object with all settings. -/
def json (c : Config) : Json :=
  .obj (Setting.all.map fun setting => (setting.name, setting.json c))

/-- Puts the members of an object into a configuration; `seen` are the settings met so far. -/
def applyMembers (c : Config) (seen : List Setting) :
    List (Json.Token × Json.Draft) → Except DecodeError Config
  | [] => .ok c
  | (key, value) :: rest => do
    let setting ← Setting.ofName (← key.decode)
    if setting ∈ seen then
      .error (.content ("duplicate field " ++ Setting.cited setting.name))
    else (← setting.apply c value).applyMembers (setting :: seen) rest

/-- Puts values into the settings in order. There may be no more values than settings. -/
def applyItems (c : Config) : List Setting → List Json.Draft → Except DecodeError Config
  | _, [] => .ok c
  | [], _ :: _ => .error .malformed
  | setting :: settings, item :: items => do
    (← setting.apply c item).applyItems settings items

/-- Decodes a configuration over another one. -/
def decodeOver (c : Config) : Json.Draft → Except DecodeError Config
  | .obj members closed => do
    let c ← c.applyMembers [] members
    Json.wellFormed closed
    return c
  | .arr items closed => do
    let c ← c.applyItems Setting.all items
    Json.wellFormed closed
    return c
  | d => .error (d.unexpected "struct HarnessConfig")

/-- Decodes a configuration over the defaults. -/
def decode (d : Json.Draft) : Except DecodeError Config := standard.decodeOver d

def ofFile (store : Store) (path : String) : Except Fault Config :=
  match store.readText path with
  | .error cause => .error (.file path cause)
  | .ok text => (Json.decodeText decode text).mapError (.config path)

end Config

end TileBench
