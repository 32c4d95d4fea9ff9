import TileBench.Shell.Arithmetic
import TileBench.Shell.Pattern
import TileBench.Shell.Signal
import TileBench.Shell.State

/-!
# Expanding words

What stands for something else in a word is replaced by that. A value that is not quoted is split at
the separators, so a word may become several words or none; then a word with active characters is
replaced by the paths that fit it, if there are any.
-/

namespace TileBench.Shell

open Text

/-- What a shell needs besides its state. -/
structure Engine where
  /-- Runs a script; the flag tells that somebody looks at its status. -/
  run : Script → Bool → Act Unit
  /-- Reads a text as a script and runs it; the flag is that of `run`. -/
  interpret : List Char → Bool → Act Unit
  /-- Runs the script in a file. -/
  load : List Char → Act Unit
  /-- Runs the jobs in the background: all of them, or those that end before now. -/
  complete : Bool → Act Unit
  start : Starter
  /-- The path of the program of a name, if there is one. -/
  locate : State → String → Option String

/-! ### Scripts as values -/

/-- Tells that a process was ended by a signal, and sets the status for that. -/
def mourn (signal : Nat) : Act Unit := do
  match obituary? signal with
  | some text => emit 2 (bytesOf (text ++ "\n"))
  | none => pure ()
  setStatus (128 + signal)

/-- Is the shell ended by a signal? A script for the signal keeps it from that, but for signals that
nothing helps against. -/
def State.isEndedBy (s : State) (signal : Nat) : Bool :=
  !harmlessSignals.contains signal && (signal == killSignal || (s.trap? signal).isNone)

/-- Ends the shell if a signal waits for it that does so. -/
def heedSignals : Act Unit := do
  let s ← get
  match (s.world.signalsFor s.own).find? s.isEndedBy with
  | some signal => do
    set { s with world := s.world.dropSignals s.own }
    throw (.died signal)
  | none => pure ()

/-- Runs the script for a signal, or for the end of the shell under the number zero. -/
def runTrap (e : Engine) (script : String) : Act Unit := do
  let before ← get
  set { before with trapStatus := some before.status }
  let result ← attempt (e.interpret script.toList false)
  modify fun s => { s with trapStatus := before.trapStatus }
  match result with
  | .ok () => setStatus before.status
  | .error jump => throw jump

def answerSignals (e : Engine) : Act Unit := do
  heedSignals
  let s ← get
  set { s with world := s.world.dropSignals s.own }
  for signal in s.world.signalsFor s.own do
    match s.trap? signal with
    | some script => runTrap e script
    | none => pure ()

/-- Runs the script for the end of the shell, if there is one. -/
def runExitTrap (e : Engine) : Act Unit := do
  let s ← get
  match s.trap? 0 with
  | none => pure ()
  | some script => do
    set { s with traps := s.traps.filter fun trap => trap.1 ≠ 0 }
    match ← attempt (runTrap e script) with
    | .error (.leave n) => setStatus n
    | .error (.died signal) => throw (.died signal)
    | _ => setStatus s.status

/-- Runs a step to the end of a shell. The signal is one that ended it. -/
def toEnd (e : Engine) (act : Act Unit) : Act (Option Nat) := do
  let ended ← attempt do
    match ← attempt act with
    | .ok () | .error (.loops ..) => pure ()
    | .error (.leave n) | .error (.finish n) => setStatus n
    | .error .fault => setStatus 2
    | .error (.died signal) => throw (.died signal)
    runExitTrap e
  e.complete true
  match ended with
  | .error (.died signal) => return some signal
  | _ => return none

/-- Runs a step in a process of its own, which leaves nothing but its status and the world. -/
def inSubshell (e : Engine) (act : Act Unit) : Act Unit := do
  e.complete false
  let before ← get
  let own := before.world.lastProcess + 1
  set { before with
    world := { before.world with lastProcess := own }
    own, ancestors := before.own :: before.ancestors
    traps := before.ignoringTraps, jobs := [] }
  let signal ← toEnd e act
  let after ← get
  set { before with world := after.world, status := after.status }
  match signal with
  | some signal => mourn signal
  | none => pure ()
  heedSignals

/-- The bytes that a step writes to its standard output. -/
def capture (act : Act Unit) : Act Bytes := do
  let s ← get
  let (world, c) := s.world.openFile ⟨.text [], 0, true⟩
  set { s with world }
  underWiring (s.wiring.connect 1 c) act
  let world := (← get).world
  return (world.opened[s.world.opened.size]?).elim [] world.contents

/-- The output of a script, without the line ends at its end. Its status is kept apart. -/
def outputOf (e : Engine) (script : Script) : Act (List Char) := do
  let before ← get
  let bytes ← capture (inSubshell e (e.run script false))
  modify fun s => { s with status := before.status, outputStatus := s.status }
  let kept := bytes.filter (· ≠ 0)
  return decodeLossy (kept.reverse.dropWhile (· == 0x0a)).reverse

/-! ### Parameters -/

/-- The value of a parameter: a text, or the arguments. -/
inductive Content where
  | one (s : List Char)
  | each (quotedApart : Bool) (args : List String)

def Parameter.text : Parameter → String
  | .named name => name
  | .position n => toString n
  | .each => "@"
  | .joined => "*"
  | .count => "#"
  | .status => "?"
  | .process => "$"
  | .background => "!"
  | .options => "-"

/-- The value of a parameter, if it has one. -/
def State.content? (s : State) : Parameter → Option Content
  | .named name => (s.value? name).map .one
  | .position 0 => some (.one s.name.toList)
  | .position (n + 1) => (s.args[n]?).map fun arg => .one arg.toList
  | .each => some (.each true s.args)
  | .joined => some (.each false s.args)
  | .count => some (.one (toString s.args.length).toList)
  | .status => some (.one (toString s.status).toList)
  | .process => some (.one (toString (s.process)).toList)
  | .background => s.jobs.getLast?.map fun job => .one (toString job.process).toList
  | .options => some (.one (shownLetters s.options))

def State.joinArgs (s : State) (args : List String) : List Char :=
  List.intercalate (s.separators.take 1) (args.map String.toList)

def State.contentText (s : State) : Content → List Char
  | .one text => text
  | .each _ args => s.joinArgs args

/-! ### Marks -/

/-- A part of a word that is being expanded. -/
inductive Mark where
  /-- A character: is it active in a pattern, and may the word be cut there? -/
  | glyph (c : Char) (active splits : Bool)
  /-- The word is there even if it has no character. -/
  | present
  /-- The word is cut here. -/
  | gap

def marksOf (active splits : Bool) (s : List Char) : List Mark :=
  s.map fun c => .glyph c active splits

/-- The marks of a text that is quoted, or may be cut. -/
def valueMarks (quoted : Bool) (s : List Char) : List Mark :=
  if quoted then .present :: marksOf false false s else marksOf true true s

/-- The marks of a content. Arguments are cut from each other where words may be cut. -/
def contentMarks (s : State) (cuts quoted : Bool) (c : Content) : List Mark :=
  match c with
  | .one text => valueMarks quoted text
  | .each apart args =>
    if cuts && (apart || !quoted) then
      List.intercalate [.gap] (args.map fun arg => valueMarks quoted arg.toList)
    else valueMarks quoted (s.joinArgs args)

def markText (marks : List Mark) : List Char :=
  marks.filterMap fun
    | .glyph c .. => some c
    | .present => none
    | .gap => some ' '

def markPattern (marks : List Mark) : Glyphs :=
  marks.filterMap fun
    | .glyph c active _ => some (c, active)
    | .present => none
    | .gap => some (' ', false)

/-- Marks at which the word may be cut if they are active. -/
def splittable (marks : List Mark) : List Mark :=
  marks.map fun
    | .glyph c active _ => .glyph c active active
    | mark => mark

def calculate (expression : List Char) : Act (List Char) := do
  let s ← get
  match evaluate (fun name => (s.value? name).getD []) expression with
  | .ok (value, assigned) => do
    for (name, n) in assigned do
      assign name (toString n.toInt).toList
    return (toString value.toInt).toList
  | .error (.malformed reason) =>
    refuse ("arithmetic expression: " ++ reason ++ ": \"" ++ String.ofList expression ++ "\"")
  | .error (.notNumber value) => refuse ("Illegal number: " ++ value)

/-- The error for a parameter without a value. -/
def refuseUnset {α : Type} (p : Parameter) (message : String) : Act α :=
  refuse (p.text ++ ": " ++ message)

/-- Expands the use of a parameter. `expandWord` expands the words in it, and tells whether they may
be cut; `cuts` tells whether words may be cut here at all. -/
def expandUse (expandWord : Word → Act (List Mark)) (cuts : Bool) (p : Parameter) (quoted : Bool)
    (use : Use) : Act (List Mark) := do
  let s ← get
  let content := s.content? p
  let given (ifNull : Bool) : Option Content :=
    content.filter fun c => !ifNull || !(s.contentText c).isEmpty
  let strict : Act Content :=
    match content with
    | some c => return c
    | none =>
      if s.hasOption 'u' then refuseUnset p "parameter not set" else return .one []
  let instead (w : Word) : Act (List Mark) := do
    let marks ← expandWord w
    return if quoted then .present :: marks else splittable marks
  match use with
  | .plain => return contentMarks s cuts quoted (← strict)
  | .length =>
    return valueMarks quoted (toString (encode (s.contentText (← strict))).length).toList
  | .otherwise ifNull w =>
    match given ifNull with
    | some c => return contentMarks s cuts quoted c
    | none => instead w
  | .instead ifNull w =>
    match given ifNull with
    | some _ => instead w
    | none => return if quoted then [.present] else []
  | .assign ifNull w =>
    match given ifNull, p with
    | some c, _ => return contentMarks s cuts quoted c
    | none, .named name => do
      let text := markText (← expandWord w)
      assign name text
      return valueMarks quoted text
    | none, p => refuseUnset p "bad variable name"
  | .demand ifNull w =>
    match given ifNull with
    | some c => return contentMarks s cuts quoted c
    | none => do
      if w.isEmpty then
        refuseUnset p ("parameter not set" ++ if ifNull then " or null" else "")
      else refuseUnset p (String.ofList (markText (← expandWord w)))
  | .trim atEnd longest w => do
    let text := s.contentText (← strict)
    let pattern := markPattern (← expandWord w)
    return valueMarks quoted (pattern.trim atEnd longest text)
  | .invalid => refuse "Bad substitution"

/-- Expands a word, whose parts are nested down to a depth. -/
def expandMarks (e : Engine) : Nat → Bool → Word → Act (List Mark)
  | 0, _, _ => refuse "Bad substitution"
  | depth + 1, cuts, w => do
    let parts ← w.mapM fun piece => do
      match piece with
      | .text s quoted =>
        return if s.isEmpty && quoted then [.present] else marksOf (!quoted) false s
      | .parameter p use quoted => expandUse (expandMarks e depth cuts) cuts p quoted use
      | .output script quoted => return valueMarks quoted (← outputOf e script)
      | .value expression quoted =>
        let text := markText (← expandMarks e depth false expression)
        return valueMarks quoted (← calculate text)
    return parts.flatten

/-- How deep the parts of a word may be nested. -/
def maxNesting : Nat := 1000

/-- The text of a word that is not cut. -/
def expandText (e : Engine) (w : Word) : Act (List Char) := do
  return markText (← expandMarks e maxNesting false w)

/-- The pattern of a word that is not cut. -/
def expandPattern (e : Engine) (w : Word) : Act Glyphs := do
  return markPattern (← expandMarks e maxNesting false w)

/-! ### Cutting -/

/-- Words that are complete, the last one first, and one that is not. -/
structure Fields where
  complete : List Glyphs
  current : Option Glyphs
  /-- Was the last word cut off at a blank, so that a separator behind it does not count? -/
  atBlank : Bool

namespace Fields

def none : Fields := ⟨[], .none, false⟩

def add (f : Fields) (g : Glyphs) : Fields := ⟨f.complete, some (f.current.getD [] ++ g), false⟩

/-- Completes the current word. -/
def cut (f : Fields) (atBlank : Bool) : Fields :=
  match f.current with
  | some w => ⟨w :: f.complete, .none, atBlank⟩
  | .none => f

/-- Cuts at a separator. Several blanks count as one, and another separator ends a word even if it
has no character. -/
def separate (f : Fields) (c : Char) : Fields :=
  if c = ' ' || c = '\t' || c = '\n' then f.cut true
  else
    match f.current with
    | some _ => f.cut false
    | .none => if f.atBlank then { f with atBlank := false } else ⟨[] :: f.complete, .none, false⟩

def addMark (separators : List Char) (f : Fields) : Mark → Fields
  | .present => f.add []
  | .gap => { f.cut false with atBlank := false }
  | .glyph c active splits =>
    if splits && separators.contains c then f.separate c else f.add [(c, active)]

def words (f : Fields) : List Glyphs := (f.cut false).complete.reverse

end Fields

/-! ### Paths -/

/-- The names in a directory that fit a pattern. -/
def fittingNames (store : Store) (here : Place) (directory : String) (p : Glyphs) : List String :=
  let showsHidden := p.plain.head? = some '.' || p.plain.take 2 = ['\\', '.']
  let path := if directory.isEmpty then "." else directory
  let names := ((store.list (seenFrom store here path)).toOption).getD []
  (".." :: "." :: names).filter fun name =>
    (showsHidden || !name.startsWith ".") && p.fits name.toList

def isThere (store : Store) (here : Place) (path : String) : Bool :=
  match store.find (seenFrom store here path) with
  | .ok (.taken ..) => true
  | _ => false

/-- The paths that fit the parts of a pattern between slashes, behind the front of a path. -/
def fittingPaths (store : Store) (here : Place) (front : String) : List Glyphs → List String
  | [] => []
  | [part] =>
    if part.isPattern then (fittingNames store here front part).map (front ++ ·)
    else [front ++ String.ofList part.unprotected].filter (isThere store here)
  | part :: rest =>
    let names := if part.isPattern then fittingNames store here front part
      else [String.ofList part.unprotected]
    names.flatMap fun name => fittingPaths store here (front ++ name ++ "/") rest

/-- The paths that fit a pattern in order, or else its text. -/
def pathsOf (s : State) (g : Glyphs) : List String :=
  let text := String.ofList g.plain
  if !g.isPattern || s.hasOption 'f' then [text]
  else
    let parts := g.splitOnP fun x => x.1 == '/'
    match fittingPaths s.world.store s.here "" parts with
    | [] => [text]
    | paths => paths.mergeSort fun a b => a ≤ b

/-- The words that a word becomes. -/
def expand (e : Engine) (w : Word) : Act (List String) := do
  let marks ← expandMarks e maxNesting true w
  let s ← get
  return (marks.foldl (Fields.addMark s.separators) .none).words.flatMap (pathsOf s)

end TileBench.Shell
