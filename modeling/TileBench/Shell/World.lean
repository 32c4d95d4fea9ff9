import TileBench.Launch.Launcher

/-!
# What processes share

Processes share the files, what was written so far, and the files that are open. A descriptor is a
number that a process knows an open file by; the process that starts another one hands its
descriptors on. A signal waits in the world for the process to which it was sent.
-/

namespace TileBench.Shell

open Text Launcher

/-! ### Open files -/

/-- What an open file reads and writes. -/
inductive Backing where
  | file (place : Place)
  /-- A text that is kept for a reader. -/
  | text (contents : Bytes)
  deriving DecidableEq

structure OpenFile where
  backing : Backing
  offset : Nat
  /-- Does it write to the end, wherever that is? -/
  appends : Bool
  deriving DecidableEq

inductive Channel where
  /-- To one of the streams of the first process. -/
  | stream (s : Stream)
  /-- To an open file, by its number. -/
  | opened (n : Nat)
  | nowhere
  deriving DecidableEq

/-- The descriptors of a process. One that is not there is closed. -/
abbrev Wiring := List (Nat × Channel)

namespace Wiring

/-- The descriptors that the first process gets: it reads nothing, and its streams are kept. -/
def standard : Wiring := [(0, .nowhere), (1, .stream .out), (2, .stream .err)]

def channel? (w : Wiring) (descriptor : Nat) : Option Channel :=
  (w.find? fun entry => entry.1 = descriptor).map (·.2)

def close (w : Wiring) (descriptor : Nat) : Wiring := w.filter fun entry => entry.1 ≠ descriptor

/-- Lets a descriptor lead somewhere. -/
def connect (w : Wiring) (descriptor : Nat) (c : Channel) : Wiring :=
  (descriptor, c) :: w.close descriptor

end Wiring

/-! ### The world -/

/-- What processes share. -/
structure World where
  store : Store
  written : Array (Stream × Bytes)
  opened : Array OpenFile
  /-- The number of the process that was started last. -/
  lastProcess : Nat
  /-- The signals that were sent and not received: the process and the signal. -/
  signals : List (Nat × Nat)
  /-- The milliseconds that processes have waited. -/
  clock : Nat

namespace World

/-- The number in front of that of the first process. -/
def firstProcess : Nat := 1000

/-- The world before the first process. -/
def ofStore (store : Store) : World := ⟨store, #[], #[], firstProcess, [], 0⟩

def send (w : World) (process signal : Nat) : World :=
  { w with signals := w.signals ++ [(process, signal)] }

def signalsFor (w : World) (process : Nat) : List Nat :=
  (w.signals.filter fun sent => sent.1 = process).map (·.2)

def dropSignals (w : World) (process : Nat) : World :=
  { w with signals := w.signals.filter fun sent => sent.1 ≠ process }

def openFile (w : World) (f : OpenFile) : World × Channel :=
  ({ w with opened := w.opened.push f }, .opened w.opened.size)

def contents (w : World) (f : OpenFile) : Bytes :=
  match f.backing with
  | .text contents => contents
  | .file place =>
    match w.store.entryAt? place with
    | some (.file contents _) => contents
    | _ => []

/-- What a channel still has to read. -/
def pending (w : World) : Channel → Bytes
  | .opened n =>
    match w.opened[n]? with
    | some f => (w.contents f).drop f.offset
    | none => []
  | .stream _ | .nowhere => []

/-- Goes on in what a channel reads. -/
def advance (w : World) (c : Channel) (count : Nat) : World :=
  match c with
  | .opened n =>
    match w.opened[n]? with
    | some f => { w with opened := w.opened.setIfInBounds n { f with offset := f.offset + count } }
    | none => w
  | .stream _ | .nowhere => w

/-- Bytes with others in place of what stands at an offset. -/
def overwrite (old : Bytes) (offset : Nat) (new : Bytes) : Bytes :=
  (old.take offset).rightpad offset 0 ++ new ++ old.drop (offset + new.length)

def writeOpened (w : World) (n : Nat) (f : OpenFile) (bytes : Bytes) : World :=
  let old := w.contents f
  let offset := if f.appends then old.length else f.offset
  let new := overwrite old offset bytes
  let store := match f.backing with
    | .text _ => w.store
    | .file place =>
      match w.store.entryAt? place with
      | some (.file _ executable) => w.store.put place (.file new executable)
      | _ => w.store
  let backing := match f.backing with
    | .text _ => .text new
    | .file place => .file place
  let f := { f with backing, offset := offset + bytes.length }
  { w with store, opened := w.opened.setIfInBounds n f }

def write (w : World) (c : Channel) (bytes : Bytes) : World :=
  if bytes.isEmpty then w
  else
    match c with
    | .stream s => { w with written := w.written.push (s, bytes) }
    | .nowhere => w
    | .opened n =>
      match w.opened[n]? with
      | some f => w.writeOpened n f bytes
      | none => w

end World

/-! ### Processes -/

/-- What a process gets from the one that starts it. -/
structure Inherited where
  wiring : Wiring
  /-- The variables. -/
  environment : List (String × List Char)
  /-- The directories in which a program is looked for by its name. -/
  searchPath : List Char
  /-- The working directory. -/
  here : Place
  /-- The numbers of the processes above it, the nearest first. -/
  ancestors : List Nat
  /-- The signals that it does not receive. -/
  ignored : List Nat

/-- Starts a program with its arguments. -/
abbrev Starter := Inherited → String → List String → World → Except FileError (ExitStatus × World)

/-! ### Paths -/

def fullPath (place : Place) : String := "/" ++ "/".intercalate place

/-- A path of a process as the store takes it, whose own working directory may be another one. -/
def seenFrom (store : Store) (here : Place) (path : String) : String :=
  if here = store.cwd || path.isEmpty || Store.isAbsolute path then path
  else fullPath here ++ "/" ++ path

/-- The paths that a name stands for in some directories. -/
def searchCandidates (searchPath : List Char) (name : String) : List String :=
  (searchPath.splitOn ':').map fun directory =>
    if directory.isEmpty then name else String.ofList directory ++ "/" ++ name

end TileBench.Shell
