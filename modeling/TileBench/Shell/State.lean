import TileBench.Shell.Words
import TileBench.Shell.World

/-!
# The state of a shell

A shell has variables, arguments, functions and options. A step of it changes the state and the
world, and may end more than itself: a loop, a function, or the shell.
-/

namespace TileBench.Shell

open Text

/-- A variable. It may be known without having a value. -/
structure Variable where
  name : String
  value : Option (List Char)
  /-- Is it handed on to programs? -/
  exported : Bool
  readOnly : Bool
  deriving DecidableEq

/-- What a shell knows besides the world and its jobs. -/
structure Frame where
  wiring : Wiring
  /-- The working directory. -/
  here : Place
  /-- The path that led to the working directory. -/
  directory : String
  /-- The name of the script. -/
  name : String
  args : List String
  bindings : List Variable
  functions : List (String × Script)
  aliases : List (String × List Char)
  /-- The documents of the scripts that were read, by their numbers. -/
  documents : List (Nat × Word)
  nextDocument : Nat
  /-- What the variables of the functions that are running were before, the innermost first. -/
  saved : List (List (String × Option Variable))
  /-- The status of the last command. -/
  status : Nat
  /-- The status of the last script whose output was taken into a word. -/
  outputStatus : Nat
  /-- The letters of the options that are on. -/
  options : List Char
  /-- The scripts for signals, and for the end of the shell under the number zero. -/
  traps : List (Nat × String)
  /-- The status before the script for a signal, while that is running. -/
  trapStatus : Option Nat
  /-- The number of the process that began to run the script. -/
  process : Nat
  /-- The number of this process, which is another one in a part of the script that has a process of
  its own. -/
  own : Nat
  /-- The processes above this one, the nearest first. -/
  ancestors : List Nat
  /-- The line of the command that is running. -/
  line : Nat
  /-- The command of the shell that is running. -/
  command : Option String
  /-- Was something written to a descriptor that is closed? -/
  lost : Bool
  /-- The number of loops around the command. -/
  loops : Nat
  /-- The number of functions around the command. -/
  calls : Nat
  /-- The rights that new files do not get. -/
  mask : Nat
  /-- Where in an argument of the script the next option stands. -/
  optionOffset : Nat

structure Job where
  process : Nat
  /-- The status with which it ended. -/
  status : Nat
  /-- The signal that ended it. -/
  signal : Option Nat
  /-- When it began. -/
  begun : Nat
  /-- What it has to run, if that was not done. -/
  waiting : Option (Script × Frame)

structure State extends Frame where
  world : World
  jobs : List Job

/-- What a step may end besides itself. -/
inductive Jump where
  /-- The shell ends. -/
  | leave (status : Nat)
  /-- An error that was reported ends the shell, unless it is caught. -/
  | fault
  /-- Some loops end, or the outermost of them goes on with its next turn. -/
  | loops (count : Nat) (goesOn : Bool)
  /-- A function, or a script that was read in, ends. -/
  | finish (status : Nat)
  /-- The shell is ended by a signal. -/
  | died (signal : Nat)

/-- A step of a shell. -/
abbrev Act := ExceptT Jump (StateM State)

/-! ### Options -/

def optionNames : List (String × Char) :=
  [("errexit", 'e'), ("noglob", 'f'), ("ignoreeof", 'I'), ("interactive", 'i'), ("monitor", 'm'),
    ("noexec", 'n'), ("stdin", 's'), ("xtrace", 'x'), ("verbose", 'v'), ("vi", 'V'), ("emacs", 'E'),
    ("noclobber", 'C'), ("allexport", 'a'), ("notify", 'b'), ("nounset", 'u'), ("privileged", 'p')]

/-- The names of the options that have no letter and change nothing. -/
def idleOptionNames : List String := ["nolog", "debug"]

def optionLetters : List Char := optionNames.map (·.2)

/-- The letters that are on, in the order in which they are shown. -/
def shownLetters (letters : List Char) : List Char :=
  optionLetters.reverse.filter letters.contains

namespace State

def hasOption (s : State) (c : Char) : Bool := s.options.contains c

/-! ### Variables -/

def known? (s : State) (name : String) : Option Variable :=
  s.bindings.find? fun v => v.name = name

def value? (s : State) (name : String) : Option (List Char) := (s.known? name).bind (·.value)

/-- Replaces the entry of a variable, or drops it. -/
def setEntry (s : State) (name : String) (entry : Option Variable) : State :=
  { s with bindings := entry.toList ++ s.bindings.filter fun v => v.name ≠ name }

/-- What programs are handed on. -/
def environment (s : State) : List (String × List Char) :=
  s.bindings.filterMap fun v =>
    if v.exported then v.value.map fun value => (v.name, value) else none

def searchPath (s : State) : List Char := (s.value? "PATH").getD []

/-- The characters at which values are split. -/
def separators (s : State) : List Char := (s.value? "IFS").getD [' ', '\t', '\n']

def trap? (s : State) (signal : Nat) : Option String :=
  (s.traps.find? fun trap => trap.1 = signal).map (·.2)

/-- Keeps the scripts of signals that are ignored alone. -/
def ignoringTraps (s : State) : List (Nat × String) :=
  s.traps.filter fun trap => trap.1 ≠ 0 && trap.2.isEmpty

/-- What a program gets that the shell starts. -/
def inherited (s : State) : Inherited :=
  ⟨s.wiring, s.environment, s.searchPath, s.here, s.own :: s.ancestors, s.ignoringTraps.map (·.1)⟩

end State

/-! ### Errors -/

def emit (descriptor : Nat) (bytes : Bytes) : Act Unit := do
  let s ← get
  match s.wiring.channel? descriptor with
  | some c => set { s with world := s.world.write c bytes }
  | none => set { s with lost := s.lost || !bytes.isEmpty }

/-- Reports an error of the command that is running. -/
def complain (message : String) : Act Unit := do
  let s ← get
  let command := match s.command with
    | some command => command ++ ": "
    | none => ""
  emit 2 (bytesOf (s.name ++ ": " ++ toString s.line ++ ": " ++ command ++ message ++ "\n"))

def setStatus (n : Nat) : Act Unit := modify fun s => { s with status := n }

/-- Reports an error and gives up. -/
def refuse {α : Type} (message : String) : Act α := do
  complain message
  setStatus 2
  throw .fault

/-- Ends the shell with a code. -/
def leave {α : Type} (code : Nat) : Act α := throw (.leave (code % 256))

/-! ### Assignments -/

/-- Changes the entry of a variable that may be changed. -/
def changeVariable (name : String) (change : Variable → Variable) : Act Unit := do
  let s ← get
  let old := (s.known? name).getD ⟨name, none, s.hasOption 'a', false⟩
  set (s.setEntry name (some (change old)))

def assign (name : String) (value : List Char) : Act Unit := do
  if ((← get).known? name).any (·.readOnly) then refuse (name ++ ": is read only")
  else changeVariable name fun v => { v with value := some value }

/-- Gives a variable a value whose name was made by the script. -/
def assignChecked (name : String) (value : List Char) : Act Unit := do
  if isName name.toList then assign name value else refuse (name ++ ": bad variable name")

/-- Remembers a variable for the end of the function that is running, unless that was done. -/
def save (name : String) : Act Unit := modify fun s =>
  match s.saved with
  | frame :: outer =>
    if frame.any fun entry => entry.1 = name then s
    else { s with saved := ((name, s.known? name) :: frame) :: outer }
  | [] => s

/-- Runs a step whose saved variables are what they were before at its end. -/
def withSaved {α : Type} (act : Act α) : Act α := do
  modify fun s => { s with saved := [] :: s.saved }
  let restore : Act Unit := modify fun s =>
    match s.saved with
    | frame :: outer =>
      { frame.foldl (fun s entry => s.setEntry entry.1 entry.2) s with saved := outer }
    | [] => s
  let result ← ExceptT.lift (ExceptT.run act)
  restore
  match result with
  | .ok a => return a
  | .error jump => throw jump

/-- Runs a step and gives how it ended. -/
def attempt {α : Type} (act : Act α) : Act (Except Jump α) := ExceptT.lift (ExceptT.run act)

def underName {α : Type} (name : String) (act : Act α) : Act α := do
  let before := (← get).command
  modify fun s => { s with command := some name }
  let result ← attempt act
  modify fun s => { s with command := before }
  match result with
  | .ok a => return a
  | .error jump => throw jump

def underWiring {α : Type} (w : Wiring) (act : Act α) : Act α := do
  let before := (← get).wiring
  modify fun s => { s with wiring := w }
  let result ← attempt act
  modify fun s => { s with wiring := before }
  match result with
  | .ok a => return a
  | .error jump => throw jump

end TileBench.Shell
