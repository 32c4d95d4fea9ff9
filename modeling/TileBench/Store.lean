import TileBench.Fault
import TileBench.Text.Utf8

/-!
# The file store

A store holds the files, directories and symbolic links of a file system, and the working directory,
from which a path starts unless it starts at the root. A path is walked name by name; a link is
followed where it stands, and a path that follows too many links is refused.

Every operation gives the cause of its failure. The ones that change the store give the new one.
-/

namespace TileBench

open Text

/-- The names that lead from the root to a place. -/
abbrev Place := List String

namespace Place

/-- The places on the way from the root to a place, with the place itself and without the root. -/
def steps (place : Place) : List Place := (List.range place.length).map fun n => place.take (n + 1)

theorem mem_steps_iff {place other : Place} :
    other ∈ place.steps ↔ other ≠ [] ∧ other <+: place := by
  simp only [steps, List.mem_map, List.mem_range]
  constructor
  · rintro ⟨n, hn, rfl⟩
    refine ⟨?_, List.take_prefix ..⟩
    rw [← List.length_pos_iff, List.length_take]
    omega
  · rintro ⟨hne, hprefix⟩
    have hpos := List.length_pos_iff.mpr hne
    have hle := hprefix.length_le
    refine ⟨other.length - 1, by omega, ?_⟩
    rw [Nat.sub_add_cancel hpos, ← List.prefix_iff_eq_take.mp hprefix]

theorem nodup_steps (place : Place) : place.steps.Nodup := by
  refine List.pairwise_map.mpr (List.pairwise_lt_range.imp_of_mem fun ha hb hlt heq => ?_)
  have hlength := congrArg List.length heq
  rw [List.mem_range] at ha hb
  simp only [List.length_take] at hlength
  omega

end Place

/-- What stands at a place. -/
inductive Entry where
  | file (contents : Bytes) (executable : Bool)
  | directory
  /-- A symbolic link and the path written in it. -/
  | link (target : String)
  /-- What may not be opened: a file, or something else that is no directory. -/
  | sealed (regular : Bool)
  deriving DecidableEq

/-- Puts an entry at a place, instead of what stood there. -/
def putEntry (place : Place) (entry : Entry) (entries : List (Place × Entry)) :
    List (Place × Entry) :=
  if entries.any fun old => old.1 = place then
    entries.map fun old => if old.1 = place then (place, entry) else old
  else entries ++ [(place, entry)]

theorem map_fst_putEntry (place : Place) (entry : Entry) (entries : List (Place × Entry)) :
    (putEntry place entry entries).map Prod.fst =
      if place ∈ entries.map Prod.fst then entries.map Prod.fst
      else entries.map Prod.fst ++ [place] := by
  have hany : entries.any (fun old => old.1 = place) = true ↔ place ∈ entries.map Prod.fst := by
    simp
  unfold putEntry
  simp only [hany]
  split
  · rw [List.map_map]
    refine List.map_congr_left fun old _ => ?_
    by_cases hold : old.1 = place <;> simp [hold]
  · simp

theorem nodup_putEntry (place : Place) (entry : Entry) {entries : List (Place × Entry)}
    (h : (entries.map Prod.fst).Nodup) : ((putEntry place entry entries).map Prod.fst).Nodup := by
  rw [map_fst_putEntry]
  split
  · exact h
  · rename_i hnew
    rw [List.nodup_append]
    refine ⟨h, List.nodup_cons.mpr ⟨List.not_mem_nil, List.nodup_nil⟩, fun old hold new hmem heq => ?_⟩
    rw [List.mem_singleton.mp hmem] at heq
    exact hnew (heq ▸ hold)

/-- What stands elsewhere is left. -/
theorem mem_putEntry {place other : Place} {entry old : Entry} {entries : List (Place × Entry)}
    (hne : other ≠ place) (h : (other, old) ∈ entries) :
    (other, old) ∈ putEntry place entry entries := by
  unfold putEntry
  split
  · exact List.mem_map.mpr ⟨_, h, if_neg hne⟩
  · exact List.mem_append_left _ h

/-- A file system and the working directory. The working directory is there, and so are the
directories on the way to it. -/
structure Store where
  entries : List (Place × Entry)
  cwd : Place := []
  /-- No place has two entries. -/
  distinct : (entries.map Prod.fst).Nodup := by decide
  reached : ∀ place ∈ cwd.steps, (place, Entry.directory) ∈ entries := by decide
  deriving DecidableEq

namespace Store

/-- The store with nothing but the way to a working directory. -/
def bare (cwd : Place) : Store where
  entries := cwd.steps.map fun place => (place, .directory)
  cwd := cwd
  distinct := by
    rw [List.map_map, List.map_congr_left fun _ _ => Function.comp_apply, List.map_id']
    exact cwd.nodup_steps
  reached place h := List.mem_map_of_mem h

/-- The store with nothing in it, where the root is the working directory. -/
def empty : Store := bare []

/-! ### Places -/

/-- What stands at a place. The root itself is always there. -/
def entryAt? (s : Store) (place : Place) : Option Entry :=
  if place = [] then some .directory
  else (s.entries.find? fun entry => entry.1 = place).map (·.2)

/-- Puts an entry at a place, instead of what stood there. The way to the working directory is left
alone. -/
def put (s : Store) (place : Place) (entry : Entry) : Store :=
  if hway : place <+: s.cwd then s
  else
    { s with
      entries := putEntry place entry s.entries
      distinct := nodup_putEntry place entry s.distinct
      reached := fun other hother => mem_putEntry
        (fun heq => hway (heq ▸ (Place.mem_steps_iff.mp hother).2)) (s.reached other hother) }

/-- Removes what stands at a place, unless it is on the way to the working directory. -/
def remove (s : Store) (place : Place) : Store :=
  if hway : place <+: s.cwd then s
  else
    { s with
      entries := s.entries.filter fun entry => entry.1 ≠ place
      distinct := s.distinct.sublist (List.filter_sublist.map _)
      reached := fun other hother => List.mem_filter.mpr ⟨s.reached other hother, decide_eq_true
        fun heq => hway (heq ▸ (Place.mem_steps_iff.mp hother).2)⟩ }

/-! ### Paths -/

/-- The names of a path. A slash at the end asks for a directory, as a dot does. -/
def names (path : String) : List String :=
  let parts := path.toList.splitOn '/'
  let named := (parts.filter fun part => !part.isEmpty).map String.ofList
  if parts.getLast? = some [] then named ++ ["."] else named

/-- Does the path start at the root? -/
def isAbsolute (path : String) : Bool := path.toList.head? = some '/'

/-- Does the path ask for a directory by a slash at its end? -/
def endsInSlash (path : String) : Bool := path.toList.getLast? = some '/'

/-- The directory from which a path starts that stands in a directory. -/
def startOf (here : Place) (path : String) : Place := if isAbsolute path then [] else here

/-- Where a path leads. -/
inductive Spot where
  /-- To something that is there and is no link. -/
  | taken (place : Place) (entry : Entry)
  /-- To a name that is not there, in a directory that is. -/
  | free (place : Place)
  deriving DecidableEq

/-- The links that one path may follow. -/
def maxLinks : Nat := 40

/-- The bytes that a name may have. -/
def maxNameBytes : Nat := 255

/-- The bytes that a path may have. -/
def maxPathBytes : Nat := 4095

/-- Walks from a directory, given the links that may still be followed. -/
def walk (s : Store) : Nat → Place → List String → Except FileError Spot
  | _, here, [] => .ok (.taken here .directory)
  | links, here, "." :: rest => walk s links here rest
  | links, here, ".." :: rest => walk s links here.dropLast rest
  | links, here, name :: rest =>
    if name.utf8ByteSize > maxNameBytes then .error .nameTooLong
    else
      let place := here ++ [name]
      match s.entryAt? place with
      | none => if rest.isEmpty then .ok (.free place) else .error .notFound
      | some .directory => walk s links place rest
      | some (.file contents executable) =>
        if rest.isEmpty then .ok (.taken place (.file contents executable))
        else .error .notDirectory
      | some (.sealed regular) =>
        if rest.isEmpty then .ok (.taken place (.sealed regular)) else .error .notDirectory
      | some (.link target) =>
        match links with
        | 0 => .error .tooManyLinks
        | links + 1 => walk s links (startOf here target) (names target ++ rest)
termination_by links _ path => (links, path.length)

/-- Where some of the names of a path lead, all links followed. -/
def follow (s : Store) (path : String) (steps : List String) : Except FileError Spot :=
  if path.toList.contains '\x00' then .error .nulInName
  else if path.isEmpty then .error .notFound
  else if path.utf8ByteSize > maxPathBytes then .error .nameTooLong
  else s.walk maxLinks (startOf s.cwd path) steps

/-- Where a path leads, all links followed. -/
def find (s : Store) (path : String) : Except FileError Spot := s.follow path (names path)

/-! ### Files -/

def read (s : Store) (path : String) : Except FileError Bytes := do
  match ← s.find path with
  | .taken _ (.file contents _) => .ok contents
  | .taken _ (.sealed _) => .error .permissionDenied
  | .taken .. => .error .isDirectory
  | .free _ => .error .notFound

/-- The text of a file in UTF-8. -/
def readText (s : Store) (path : String) : Except FileError String := do
  match decode? (← s.read path) with
  | some text => .ok (String.ofList text)
  | none => .error .notUtf8

/-- Where a path leads to a file that may be new. A slash at the end leads to no file. -/
def findFile (s : Store) (path : String) : Except FileError Spot :=
  if endsInSlash path then do
    let _ ← s.follow path (names path).dropLast
    .error .isDirectory
  else s.find path

/-- Writes a file: `change` gives its contents from those before, empty for a new file. -/
def modify (s : Store) (path : String) (change : Bytes → Bytes) : Except FileError Store := do
  match ← s.findFile path with
  | .taken place (.file contents executable) =>
    .ok (s.put place (.file (change contents) executable))
  | .taken _ (.sealed _) => .error .permissionDenied
  | .taken .. => .error .isDirectory
  | .free place => .ok (s.put place (.file (change []) false))

/-- Gives a file new contents. -/
def write (s : Store) (path : String) (contents : Bytes) : Except FileError Store :=
  s.modify path fun _ => contents

/-- Adds to the end of a file. -/
def append (s : Store) (path : String) (contents : Bytes) : Except FileError Store :=
  s.modify path fun old => old ++ contents

/-- Is there a file at the end of the path? -/
def isFile (s : Store) (path : String) : Bool :=
  match s.find path with
  | .ok (.taken _ (.file ..)) => true
  | .ok (.taken _ (.sealed regular)) => regular
  | _ => false

/-- Removes a file, or a link that stands at the end of the path. -/
def delete (s : Store) (path : String) : Except FileError Store := do
  let last := (names path).getLastD "."
  match ← s.follow path (names path).dropLast with
  | .free _ => .error .notFound
  | .taken here .directory =>
    if last = "." ∨ last = ".." then .error .isDirectory
    else if last.utf8ByteSize > maxNameBytes then .error .nameTooLong
    else
      match s.entryAt? (here ++ [last]) with
      | none => .error .notFound
      | some .directory => .error .isDirectory
      | some _ => .ok (s.remove (here ++ [last]))
  | .taken .. => .error .notDirectory

def list (s : Store) (path : String) : Except FileError (List String) := do
  match ← s.find path with
  | .taken here .directory =>
    .ok (s.entries.filterMap fun entry =>
      if entry.1.dropLast = here then entry.1.getLast? else none)
  | .taken .. => .error .notDirectory
  | .free _ => .error .notFound

/-! ### Limited room -/

/-- A device that may be full. -/
structure Device where
  /-- How many bytes there is room for in a file that was opened and emptied, given the files as they
  are then; `none` if there is always enough. -/
  room : Store → String → Option Nat

def Device.unlimited : Device := ⟨fun _ _ => none⟩

/-- Opens a file, which empties it, and writes to it as much as there is room for. -/
def overwrite (s : Store) (device : Device) (path : String) (contents : Bytes) :
    Except FileError Unit × Store :=
  match s.write path [] with
  | .error cause => (.error cause, s)
  | .ok opened =>
    let room := (device.room opened path).getD contents.length
    match opened.append path (contents.take room) with
    | .error cause => (.error cause, opened)
    | .ok written => (if contents.length ≤ room then .ok () else .error .noSpace, written)

/-! ### Filling a store -/

/-- Makes a directory at the end of some steps, if nothing is there. -/
def makeDirectory (s : Store) (steps : List String) : Store :=
  match s.walk maxLinks s.cwd steps with
  | .ok (.free place) => s.put place .directory
  | _ => s

/-- Makes the directories on the way along some steps. -/
def makeDirectories (s : Store) (steps : List String) : Store :=
  ((List.range (steps.length + 1)).map steps.take).foldl makeDirectory s

/-- Puts an entry at the end of a path, with the directories that it needs. A file that is there is
written, a link that is there is followed. -/
def install (s : Store) (path : String) (entry : Entry) : Store :=
  let steps := (names path).filter (· ≠ ".")
  let s := s.makeDirectories steps.dropLast
  match entry with
  | .directory => s.makeDirectory steps
  | .file contents executable =>
    match s.walk maxLinks s.cwd steps with
    | .ok (.free place) => s.put place (.file contents executable)
    | .ok (.taken place (.file _ before)) => s.put place (.file contents (executable || before))
    | _ => s
  | .link target =>
    match s.walk maxLinks s.cwd steps.dropLast, steps.getLast? with
    | .ok (.taken here .directory), some name => s.put (here ++ [name]) (.link target)
    | _, _ => s
  | .sealed regular =>
    match s.walk maxLinks s.cwd steps with
    | .ok (.free place) => s.put place (.sealed regular)
    | _ => s

end Store

end TileBench
