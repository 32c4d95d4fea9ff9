import TileBench.Launch.Launcher

/-!
# Sessions

A session keeps what a run has done so far: the files, the lines it printed, what it told the log,
and its launches. A step of a run changes the session and ends with a value or with a fault; what
was done before a fault stays done.
-/

namespace TileBench

/-- What a run has done so far. -/
structure Session where
  store : Store
  /-- The printed lines. -/
  printed : Array String
  events : Array Event
  launches : Array Launch

namespace Session

/-- The session of a run that has done nothing. -/
def start (store : Store) : Session := ⟨store, #[], #[], #[]⟩

end Session

abbrev Step (α : Type) := ExceptT Fault (StateM Session) α

namespace Step

def run {α : Type} (step : Step α) (s : Session) : Except Fault α × Session :=
  StateT.run (ExceptT.run step) s

def printLine (line : String) : Step Unit :=
  modify fun s => { s with printed := s.printed.push line }

def printLines : List String → Step Unit
  | [] => pure ()
  | line :: rest => do
    printLine line
    printLines rest

def tellAll (events : List Event) : Step Unit :=
  modify fun s => { s with events := s.events ++ events }

def tell (event : Event) : Step Unit :=
  modify fun s => { s with events := s.events.push event }

/-- Ends with a value or a fault that is known. -/
def ofExcept {α : Type} : Except Fault α → Step α
  | .ok a => pure a
  | .error fault => throw fault

/-- Changes the files, unless the change ends with a fault. -/
def changeStore (change : Store → Except Fault Store) : Step Unit := do
  let s ← get
  let store ← ofExcept (change s.store)
  set { s with store }

/-- Changes the files, and keeps what is changed before a fault. -/
def changeStoreKeeping (change : Store → Except Fault Unit × Store) : Step Unit := do
  let s ← get
  let (result, store) := change s.store
  set { s with store }
  ofExcept result

def launch (launcher : Launcher) (phase : Phase) (command : Command) : Step Output := do
  let s ← get
  let answer := launcher.answer s.launches phase command s.store
  set { s with
    store := answer.store
    events := s.events ++ answer.events
    launches := s.launches.push ⟨phase, command, answer.outcome⟩ }
  ofExcept answer.outcome

end Step

end TileBench
