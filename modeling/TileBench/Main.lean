import Std.Time.Format
import TileBench.Bench.Program
import TileBench.Extract.Program
import TileBench.Shell.Programs

/-!
# The command line

The first argument names the program. The files below the working directory are read into a store,
the program is run on it, and what it changed is written back. The system does not tell which files
are executable, so all of them count as such.
-/

namespace TileBench.Main

open Text CommandLine

/-- Reads the entries of a directory into a store, where they stand behind a path. Links are left
out. -/
partial def load (path : String) (entries : Array IO.FS.DirEntry) (store : Store) : IO Store := do
  let mut store := store
  for entry in entries do
    let name := path ++ entry.fileName
    match (← entry.path.symlinkMetadata).type with
    | .dir => store ← load (name ++ "/") (← entry.path.readDir) (store.install name .directory)
    | .file =>
      let contents ← IO.FS.readBinFile entry.path
      store := store.install name (.file contents.toList true)
    | _ => pure ()
  return store

def pathOf (place : Place) : String := "/" ++ "/".intercalate place

/-- Writes the files that have changed, and removes those that are gone. -/
def save (before after : Store) : IO Unit := do
  for (place, entry) in after.entries do
    if before.entryAt? place ≠ some entry then
      match entry with
      | .file contents _ => IO.FS.writeBinFile (pathOf place) ⟨contents.toArray⟩
      | _ => pure ()
  for (place, _) in before.entries do
    if (after.entryAt? place).isNone then
      IO.FS.removeFile (pathOf place)

/-- A line that the system keeps in a file, or nothing. -/
def systemLine (path : String) : IO String := do
  try
    let text ← IO.FS.readFile path
    return text.trimAscii.toString
  catch _ => return ""

/-- What the report of a program says about the machine: its name and that of its system, and for
the test program the system's release. -/
def machine (program : String) : IO String := do
  let release := if program = Bench.programName then ["osrelease"] else []
  let parts ← (["hostname", "ostype"] ++ release).mapM fun name =>
    systemLine ("/proc/sys/kernel/" ++ name)
  return " ".intercalate parts

def now : IO String := do
  return (← Std.Time.PlainDateTime.now).format "EEE MMM dd HH:mm:ss uuuu"

/-- Runs one of the programs by its name. -/
def runNamed (name : String) (e : Surroundings) (args : List String) (store : Store) :
    Option (Grammar × Except UsageError Completion) :=
  if name = Bench.programName then some (Bench.Arguments.grammar, Bench.runProgram e args store)
  else if name = Extract.programName then
    some (Extract.Arguments.grammar, Extract.runProgram .unlimited e args store)
  else none

/-- Prints what a program left, and gives its exit code. -/
def report (before : Store) (c : Completion) : IO UInt32 := do
  for line in c.printed do
    IO.println line
  for line in c.log ++ c.complaints do
    IO.eprintln line
  save before c.store
  return c.exitCode.toUInt32

/-- Runs the program that the first argument names. -/
def start (args : List String) : IO UInt32 := do
  let name := args.headD ""
  let directory ← IO.currentDir
  let here := (Store.names directory.toString).filter (· ≠ ".")
  let store ← load "" (← directory.readDir) (.bare here)
  let time ← now
  let surroundings : Surroundings :=
    ⟨Shell.programs, ← IO.getEnv "TILEBENCH_LOG", time, time, ← machine name⟩
  match runNamed name surroundings args.tail store with
  | none => do
    IO.eprintln ("error: expected " ++ Bench.programName ++ " or " ++ Extract.programName)
    return 2
  | some (_, .ok completion) => report store completion
  | some (grammar, .error .helpRequested) => do
    for line in grammar.usageLines name do
      IO.println line
    return 0
  | some (_, .error cause) => do
    IO.eprintln ("error: " ++ cause.message)
    return 2

end TileBench.Main

def main (args : List String) : IO UInt32 := TileBench.Main.start args
