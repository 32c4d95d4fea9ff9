import TileBench.Shell.Script

/-!
# The text of a script as it is read

A script is read character by character. A backslash in front of a line end joins the two lines. A
document inside a script is announced by its last line and stands behind the line that announces it,
so the reader remembers the announcements until it comes to the end of a line. The text of an alias
is read in place of its name, but not inside itself.
-/

namespace TileBench.Shell

/-- An error in a script and its line. -/
structure ScriptError where
  line : Nat
  message : String
  deriving DecidableEq

/-- A word, an operator, or an end. -/
inductive Token where
  | word (w : Word)
  /-- A word with a meaning of its own. -/
  | reserved (text : String)
  | operator (text : String)
  /-- An operator that changes a descriptor. -/
  | redirect (descriptor : Nat) (text : String)
  | lineEnd
  | inputEnd

structure Announcement where
  number : Nat
  lastLine : List Char
  /-- Are parameters left as they are? -/
  literal : Bool
  /-- Are tabs dropped in front of the lines? -/
  dropsTabs : Bool

/-- What is left of a script, and what is known about it. -/
structure Source where
  rest : List Char
  line : Nat
  /-- The token that was looked at and put back. -/
  ahead : Option Token
  announced : List Announcement
  /-- The documents, by their numbers. -/
  documents : List (Nat × Word)
  /-- The number of the next document. -/
  nextDocument : Nat
  aliases : List (String × List Char)
  /-- The aliases whose text was put in place of them, with what was left behind the text. -/
  replaced : List (String × Nat)

/-- The beginning of a script, in which documents are numbered from a number on. -/
def Source.ofChars (s : List Char) (nextDocument : Nat) (aliases : List (String × List Char)) :
    Source := ⟨s, 1, none, [], [], nextDocument, aliases, []⟩

/-- The text of an alias, unless the name stands in that text. -/
def Source.alias? (s : Source) (name : String) : Option (List Char) :=
  if s.replaced.any fun entry => entry.1 = name && entry.2 ≤ s.rest.length then none
  else (s.aliases.find? fun entry => entry.1 = name).map (·.2)

/-- The length that the rest may have when all aliases in it are replaced. -/
def Source.fullLength (s : Source) : Nat :=
  (s.rest.length + 2) * Nat.pow ((s.aliases.flatMap (·.2)).length + 1) s.aliases.length

/-- A step that reads from a script. -/
abbrev Reader := StateT Source (Except ScriptError)

namespace Reader

def fail {α : Type} (message : String) : Reader α := do
  throw ⟨(← get).line, "Syntax error: " ++ message⟩

/-- The script with the joined lines at its front put together. -/
def joinLines (line : Nat) : List Char → Nat × List Char
  | '\\' :: '\n' :: s => joinLines (line + 1) s
  | s => (line, s)

/-- The next character, and the lines in front of it joined. -/
def peek : Reader (Option Char) := do
  let s ← get
  let (line, rest) := joinLines s.line s.rest
  set { s with line, rest }
  return rest.head?

/-- The next character, however it stands there. -/
def peekRaw : Reader (Option Char) := return (← get).rest.head?

/-- Skips a character, and counts it if it is a line end. -/
def skip : Reader Unit := modify fun s =>
  match s.rest with
  | c :: rest => { s with rest, line := if c = '\n' then s.line + 1 else s.line }
  | [] => s

/-- Skips the next character if it is the given one, and tells whether it was. -/
def skipChar (c : Char) : Reader Bool := do
  if (← peek) = some c then do
    skip
    return true
  else return false

/-- Reads characters of a kind. -/
def takeWhile (p : Char → Bool) : Nat → Reader (List Char)
  | 0 => return []
  | n + 1 => do
    match ← peek with
    | some c =>
      if p c then do
        skip
        return c :: (← takeWhile p n)
      else return []
    | none => return []

/-- More steps than a reader can take that reads something at each of them. -/
def bound : Reader Nat := return (← get).fullLength

/-- Reads characters of a kind as far as there are any. -/
def takeAll (p : Char → Bool) : Reader (List Char) := do takeWhile p (← bound)

/-- Repeats a step until it gives a result. -/
def repeatFor {α β : Type} (step : α → Reader (α ⊕ β)) : Nat → α → Reader β
  | 0, _ => fail "too long"
  | n + 1, a => do
    match ← step a with
    | .inl a => repeatFor step n a
    | .inr b => return b

/-- Repeats a step that reads something until it gives a result. -/
def iterate {α β : Type} (step : α → Reader (α ⊕ β)) (a : α) : Reader β := do
  repeatFor step (← bound) a

/-- Runs a reader on a text of its own, whose lines are counted from a number on. Only the documents
that it finds are kept. -/
def within {α : Type} (text : List Char) (line : Nat) (reader : Reader α) : Reader α := do
  let s ← get
  set { s with rest := text, line, ahead := none, announced := [] }
  let a ← reader
  modify fun after => { s with documents := after.documents, nextDocument := after.nextDocument }
  return a

end Reader

end TileBench.Shell
