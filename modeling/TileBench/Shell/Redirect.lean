import TileBench.Shell.Condition
import TileBench.Shell.Expansion

/-!
# Redirections

A redirection opens a file for a descriptor, or lets the descriptor be another one. A file that
cannot be opened keeps the command from being run.
-/

namespace TileBench.Shell

open Text Launcher

/-! ### Opening files -/

/-- Why a file cannot be opened, for a reader or a writer. -/
def openError (creates : Bool) (path : String) (cause : FileError) : String :=
  let reason := match cause with
    | .notFound | .notDirectory => if creates then "Directory nonexistent" else "No such file"
    | cause => cause.text
  (if creates then "cannot create " else "cannot open ") ++ path ++ ": " ++ reason

/-- The descriptor that a path of the system stands for. -/
def descriptorPath? (path : String) : Option Nat :=
  match path with
  | "/dev/stdin" => some 0
  | "/dev/stdout" => some 1
  | "/dev/stderr" => some 2
  | _ =>
    ["/dev/fd/", "/proc/self/fd/"].findSome? fun directory =>
      if path.startsWith directory then
        natural? 10 (path.toList.drop directory.length)
      else none

def openReader (path : String) : Act (Except String Channel) := do
  let s ← get
  let refused (cause : FileError) : Act (Except String Channel) :=
    return .error (openError false path cause)
  match s.world.store.find (seenFrom s.world.store s.here path) with
  | .error cause => refused cause
  | .ok (.free _) => refused .notFound
  | .ok (.taken _ (.sealed _)) => refused .permissionDenied
  | .ok (.taken place (.file ..)) => do
    let (world, c) := s.world.openFile ⟨.file place, 0, false⟩
    set { s with world }
    return .ok c
  | .ok _ => return .ok .nowhere

/-- Opens a file for a writer. `change` is what happens to its contents, and `protected` tells that
a file which is there is left alone. -/
def openWriter (path : String) (change : Bytes → Bytes) (appends isProtected : Bool) :
    Act (Except String Channel) := do
  let s ← get
  let seen := seenFrom s.world.store s.here path
  match s.world.store.findFile seen with
  | .ok (.taken place (.file contents executable)) =>
    if isProtected then return .error ("cannot create " ++ path ++ ": File exists")
    else do
      let store := s.world.store.put place (.file (change contents) executable)
      let (world, c) := { s.world with store }.openFile ⟨.file place, 0, appends⟩
      set { s with world }
      return .ok c
  | .ok (.free place) => do
    let store := s.world.store.put place (.file [] false)
    let (world, c) := { s.world with store }.openFile ⟨.file place, 0, appends⟩
    set { s with world }
    return .ok c
  | .ok (.taken _ (.sealed _)) => return .error (openError (!isProtected) path .permissionDenied)
  | .ok _ => return .error (openError (!isProtected) path .isDirectory)
  | .error cause => return .error (openError true path cause)

def openPath (w : Wiring) (access : Access) (path : String) : Act (Except String Channel) := do
  if path = nullDevice then return .ok .nowhere
  else
    match descriptorPath? path with
    | some n =>
      match w.channel? n with
      | some c => return .ok c
      | none => return .error (openError (access != .read) path .notFound)
    | none =>
      match access with
      | .read => openReader path
      | .readWrite => openWriter path id false false
      | .append => openWriter path id true false
      | .overwrite => openWriter path (fun _ => []) false false
      | .write => do openWriter path (fun _ => []) false ((← get).hasOption 'C')

/-! ### Applying redirections -/

/-- Applies a redirection to descriptors, or tells why it cannot be applied. -/
def redirectOne (e : Engine) (w : Wiring) : Redirection → Act (Except String Wiring)
  | .file descriptor access path => do
    let path := String.ofList (← expandText e path)
    return (← openPath w access path).map (w.connect descriptor)
  | .copy descriptor source => do
    match ← expandText e source with
    | ['-'] => return .ok (w.close descriptor)
    | [c] =>
      if c.isDigit then
        match w.channel? (c.toNat - '0'.toNat) with
        | some channel => return .ok (w.connect descriptor channel)
        | none => return .error (String.ofList [c] ++ ": Bad file descriptor")
      else refuse "Syntax error: Bad fd number"
    | _ => refuse "Syntax error: Bad fd number"
  | .document descriptor number => do
    let body := ((← get).documents.find? fun entry => entry.1 = number).elim [] (·.2)
    let text ← expandText e body
    let s ← get
    let (world, c) := s.world.openFile ⟨.text (encode text), 0, false⟩
    set { s with world }
    return .ok (w.connect descriptor c)

/-- Applies redirections in turn, up to one that cannot be applied. Gives the descriptors, and what
is wrong with that one. -/
def redirectAll (e : Engine) (w : Wiring) : List Redirection → Act (Wiring × Option String)
  | [] => return (w, none)
  | r :: rest => do
    match ← redirectOne e w r with
    | .ok w => redirectAll e w rest
    | .error message => return (w, some message)

/-- Runs a step under redirections. If one of them cannot be applied, that is reported, and the step
is not run. -/
def underRedirections (e : Engine) (redirections : List Redirection) (act : Act Unit) :
    Act Unit := do
  match ← redirectAll e (← get).wiring redirections with
  | (w, none) => underWiring w act
  | (w, some message) => do
    underWiring w (complain message)
    setStatus 2

end TileBench.Shell
