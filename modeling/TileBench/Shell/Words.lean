import TileBench.Shell.Source

/-!
# Reading words

A word ends at a blank or at an operator. Quotes and backslashes keep what they cover in the word, a
dollar sign stands in front of a parameter, an expression or a script, and a script may stand
between backquotes too. The reader of a script is an argument, because a script is made of words.
-/

namespace TileBench.Shell

open Reader

/-! ### Characters -/

def endsWord (c : Char) : Bool := " \t\n;&|<>()".toList.contains c

/-- May a name start with the character? -/
def startsName (c : Char) : Bool := c.isAlpha || c == '_'

/-- May the character stand in a name? -/
def inName (c : Char) : Bool := c.isAlphanum || c == '_'

def isName (s : List Char) : Bool := s.head?.any startsName && s.all inName

/-- The parameter of one character. -/
def specialParameter? : Char → Option Parameter
  | '@' => some .each
  | '*' => some .joined
  | '#' => some .count
  | '?' => some .status
  | '$' => some .process
  | '!' => some .background
  | '-' => some .options
  | c => if c.isDigit then some (.position (c.toNat - '0'.toNat)) else none

/-! ### Pieces -/

/-- What surrounds a text. -/
inductive Surrounding where
  /-- Nothing; the text ends with the word. -/
  | bare
  /-- The text is the announced last line of a document. -/
  | announcement
  /-- Braces; the text ends with them. -/
  | braces
  /-- Double quotes, which may stand in braces. -/
  | quotes (inBraces : Bool)
  /-- Braces between double quotes, or in a document. Quotes inside hide the end of the braces. -/
  | quotedBraces (inDocument hidden : Bool)
  | document
  | expression
  deriving DecidableEq

namespace Surrounding

def isQuoted : Surrounding → Bool
  | .bare | .announcement | .braces => false
  | _ => true

/-- What surrounds the word behind a parameter between braces. -/
def inner : Surrounding → Surrounding
  | .bare | .announcement | .braces => .braces
  | .document => .quotedBraces true false
  | .quotedBraces inDocument _ => .quotedBraces inDocument false
  | .quotes _ | .expression => .quotedBraces false false

/-- Does a brace end the text, or something around it? -/
def isInBraces : Surrounding → Bool
  | .quotes inBraces => inBraces
  | .braces | .quotedBraces .. => true
  | _ => false

/-- Does a backslash protect the character, if the text is quoted? -/
def protects (s : Surrounding) (c : Char) : Bool :=
  c == '\\' || c == '\x60' || c == '$' || (c == '"' && s != .document)
    || (c == '\x7d' && s.isInBraces)

end Surrounding

/-- Reads a text between single quotes, behind the first one. -/
def readSingle : Reader (List Char) :=
  iterate (fun read => do
    match ← peekRaw with
    | none => fail "Unterminated quoted string"
    | some '\'' => do
      skip
      return .inr read.reverse
    | some c => do
      skip
      return .inl (c :: read)) []

/-- Reads a text between backquotes, behind the first one. A backslash in front of a backslash, a
backquote or a dollar sign is dropped, and between double quotes one in front of a double quote. -/
def readBackquoted (quoted : Bool) : Reader (List Char) :=
  iterate (fun read => do
    match ← peek with
    | none => fail "EOF in backquote substitution"
    | some '\x60' => do
      skip
      return .inr read.reverse
    | some '\\' => do
      skip
      match ← peekRaw with
      | none => fail "EOF in backquote substitution"
      | some c => do
        skip
        let drops := c == '\\' || c == '\x60' || c == '$' || (quoted && c == '"')
        return .inl (if drops then c :: read else c :: '\\' :: read)
    | some c => do
      skip
      return .inl (c :: read)) []

/-- The readers that words need. -/
structure Readers where
  /-- Reads a script up to a closing parenthesis. -/
  enclosed : Reader Script
  /-- Reads all of a script. -/
  whole : Reader Script
  /-- Reads a text with its surroundings. -/
  text : Surrounding → Reader Word

/-- Reads a script between backquotes, behind the first one. -/
def readQuotedScript (r : Readers) (quoted : Bool) : Reader Piece := do
  let text ← readBackquoted quoted
  return .output (← within text 1 r.whole) quoted

/-- Reads the name of a parameter between braces; `none` if there is no name. -/
def readName : Reader (Option Parameter) := do
  match ← peek with
  | some c =>
    if startsName c then return some (.named (String.ofList (← takeAll inName)))
    else if c.isDigit then
      return some (.position (Nat.ofDigitChars 10 (← takeAll Char.isDigit) 0))
    else
      match specialParameter? c with
      | some p => do
        skip
        return some p
      | none => return none
  | none => return none

/-- Reads the use of a parameter between braces, behind its name. -/
def readUse (r : Readers) (s : Surrounding) : Reader Use := do
  match ← peek with
  | some '\x7d' => do
    skip
    return .plain
  | some '%' => do
    skip
    let longest ← skipChar '%'
    return .trim true longest (← r.text .braces)
  | some '#' => do
    skip
    let longest ← skipChar '#'
    return .trim false longest (← r.text .braces)
  | some c => do
    skip
    let ifNull := c == ':'
    let sign ← if ifNull then do
        let sign ← peek
        skip
        pure sign
      else pure (some c)
    match sign with
    | some '-' => return .otherwise ifNull (← r.text s.inner)
    | some '=' => return .assign ifNull (← r.text s.inner)
    | some '?' => return .demand ifNull (← r.text s.inner)
    | some '+' => return .instead ifNull (← r.text s.inner)
    | _ => do
      let _ ← r.text s.inner
      return .invalid
  | none => do
    let _ ← r.text s.inner
    return .invalid

/-- Reads the parameter whose length is asked for, behind the number sign. A number sign that no
parameter follows is a parameter itself. -/
def readLength (r : Readers) (s : Surrounding) : Reader (Parameter × Use) := do
  let before ← get
  match ← readName with
  | some p =>
    if (← peek) = some '\x7d' then do
      skip
      return (p, .length)
    else
      match p with
      | .named _ | .position _ => do
        let _ ← r.text s.inner
        return (p, .invalid)
      | _ => do
        set before
        return (.count, ← readUse r s)
  | none => return (.count, ← readUse r s)

/-- Reads a parameter between braces, behind the first one. -/
def readBraced (r : Readers) (s : Surrounding) : Reader Piece := do
  if (← peek) = some '#' then do
    skip
    let (p, use) ← readLength r s
    return .parameter p use s.isQuoted
  else
    match ← readName with
    | some p => return .parameter p (← readUse r s) s.isQuoted
    | none => do
      let _ ← r.text s.inner
      return .parameter .count .invalid s.isQuoted

/-- Reads what follows a dollar sign. A dollar sign alone stands for itself. -/
def readDollar (r : Readers) (s : Surrounding) : Reader Piece := do
  match ← peek with
  | some '(' => do
    skip
    if ← skipChar '(' then return .value (← r.text .expression) s.isQuoted
    else return .output (← r.enclosed) s.isQuoted
  | some '\x7b' => do
    skip
    readBraced r s
  | some c =>
    if startsName c then
      return .parameter (.named (String.ofList (← takeAll inName))) .plain s.isQuoted
    else
      match specialParameter? c with
      | some p => do
        skip
        return .parameter p .plain s.isQuoted
      | none => return .text ['$'] s.isQuoted
  | none => return .text ['$'] s.isQuoted

def readEscaped (s : Surrounding) : Reader Piece := do
  match ← peekRaw with
  | none => return .text ['\\'] true
  | some c => do
    skip
    return .text (if s.isQuoted && !s.protects c then ['\\', c] else [c]) true

def consPiece (p : Piece) (w : Word) : Word :=
  match p with
  | .text text quoted => w.consText text quoted
  | p => p :: w

/-- The words between double quotes. They are a word even if they are empty, unless they are nothing
but the arguments. -/
def quotedWord (w : Word) : Word :=
  match w with
  | [.parameter .each .plain true] => w
  | w => .text [] true :: w

/-- The error at the end of the script. -/
def endError : Surrounding → Option String
  | .bare | .announcement | .document => none
  | .braces | .quotedBraces true _ => some "Missing '\x7d'"
  | .quotes _ | .quotedBraces false _ => some "Unterminated quoted string"
  | .expression => some "Missing '))'"

/-- Reads a text up to the end of its surroundings. The number counts the parentheses that are open
in an expression. -/
def readText (scripts : Reader Script × Reader Script) : Nat → Nat → Surrounding → Reader Word
  | 0, _, _ => fail "too long"
  | n + 1, depth, s => do
    let r : Readers := ⟨scripts.1, scripts.2, readText scripts n 0⟩
    let andThen (p : Piece) : Reader Word := return consPiece p (← readText scripts n depth s)
    let keep (c : Char) : Reader Word := do
      skip
      andThen (.text [c] s.isQuoted)
    match ← peek with
    | none =>
      match endError s with
      | some message => fail message
      | none => return []
    | some '\\' => do
      skip
      andThen (← readEscaped s)
    | some '$' =>
      if s = .announcement then keep '$'
      else do
        skip
        andThen (← readDollar r s)
    | some '\x60' =>
      if s = .announcement then keep '\x60'
      else do
        skip
        andThen (← readQuotedScript r s.isQuoted)
    | some c =>
      match s with
      | .bare | .announcement | .braces =>
        if c = '\'' then do
          skip
          andThen (.text (← readSingle) true)
        else if c = '"' then do
          skip
          let w ← r.text (.quotes (s = .braces))
          return quotedWord w ++ (← readText scripts n depth s)
        else if s = .braces then
          if c = '\x7d' then do
            skip
            return []
          else keep c
        else if endsWord c then return []
        else keep c
      | .quotes _ =>
        if c = '"' then do
          skip
          return []
        else keep c
      | .quotedBraces inDocument hidden =>
        if c = '"' then do
          skip
          readText scripts n depth (.quotedBraces inDocument (!hidden))
        else if c = '\x7d' && !hidden then do
          skip
          return []
        else keep c
      | .document => keep c
      | .expression =>
        if c = '(' then do
          skip
          return consPiece (.text ['('] true) (← readText scripts n (depth + 1) s)
        else if c = ')' then
          match depth with
          | depth + 1 => do
            skip
            return consPiece (.text [')'] true) (← readText scripts n depth s)
          | 0 => do
            skip
            if ← skipChar ')' then return []
            else return consPiece (.text [')'] true) (← readText scripts n 0 s)
        else keep c

/-! ### Documents -/

/-- Does a line go on behind its end, because an odd number of backslashes stands there? -/
def continues (line : List Char) : Bool := (line.reverse.takeWhile (· == '\\')).length % 2 == 1

/-- Reads a line, however it stands there, and tells whether there was an end of it. -/
def readRawLine : Reader (List Char × Bool) :=
  iterate (fun read => do
    match ← peekRaw with
    | none => return .inr (read.reverse, false)
    | some '\n' => do
      skip
      return .inr (read.reverse, true)
    | some c => do
      skip
      return .inl (c :: read)) []

def readDocumentLines (a : Announcement) : Reader (List Char) :=
  iterate (fun (read, joined) => do
    let (line, ended) ← readRawLine
    let line := if a.dropsTabs && !joined then line.dropWhile (· == '\t') else line
    if !joined && line = a.lastLine then return .inr read
    else if ended then return .inl (read ++ line ++ ['\n'], !a.literal && continues line)
    else return .inr (read ++ line)) ([], false)

/-- Reads the documents that were announced. -/
def readDocuments (text : Surrounding → Reader Word) : Reader Unit := do
  let announced := (← get).announced
  modify fun s => { s with announced := [] }
  for a in announced do
    let line := (← get).line
    let body ← readDocumentLines a
    let w ← if a.literal then pure [Piece.text body true] else within body line (text .document)
    modify fun s => { s with documents := s.documents ++ [(a.number, w)] }

end TileBench.Shell
