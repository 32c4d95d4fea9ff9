import TileBench.Json.Number

/-!
# Reading a JSON text

A text is read from left to right as far as it is JSON. The result is a *draft*: a value in which an
array or an object may lack its end, and in which something may stand that is no value. Whoever
decodes a draft meets its contents and its defects in the order of the text, so the first of the two
is reported.

The reader goes at most as deep as the text is long.
-/

namespace TileBench.Json

/-- A string of a JSON text: what stands between the quotes, and the text that it denotes unless an
escape is wrong or the closing quote is missing. -/
structure Token where
  body : List Char
  text? : Option (List Char)

/-- What can be read of a JSON text. -/
inductive Draft where
  | null
  | bool (b : Bool)
  | number (n : Number)
  | str (token : Token)
  | arr (items : List Draft) (closed : Bool)
  | obj (members : List (Token × Draft)) (closed : Bool)
  /-- No value. -/
  | broken

/-! ### Strings -/

def hexValue? (c : Char) : Option Nat :=
  if c.isDigit then some (c.toNat - '0'.toNat)
  else if 'a' ≤ c ∧ c ≤ 'f' then some (c.toNat - 'a'.toNat + 10)
  else if 'A' ≤ c ∧ c ≤ 'F' then some (c.toNat - 'A'.toNat + 10)
  else none

def hex4? (a b c d : Char) : Option Nat := do
  return (((← hexValue? a) * 16 + (← hexValue? b)) * 16 + (← hexValue? c)) * 16 + (← hexValue? d)

/-- What a backslash and one character stand for. -/
def shortEscape? : Char → Option Char
  | '"' => some '"'
  | '\\' => some '\\'
  | '/' => some '/'
  | 'b' => some '\x08'
  | 'f' => some '\x0c'
  | 'n' => some '\n'
  | 'r' => some '\r'
  | 't' => some '\t'
  | _ => none

/-- The text that the body of a string denotes. A character beyond 65535 is escaped as a pair of
surrogates, and a surrogate alone is wrong. -/
def unescape? : List Char → Option (List Char)
  | [] => some []
  | '\\' :: 'u' :: a :: b :: c :: d :: s => do
    let n ← hex4? a b c d
    if 0xd800 ≤ n ∧ n < 0xdc00 then
      match s with
      | '\\' :: 'u' :: a :: b :: c :: d :: s =>
        let low ← hex4? a b c d
        if 0xdc00 ≤ low ∧ low < 0xe000 then
          (unescape? s).map (Char.ofNat (0x10000 + (n - 0xd800) * 1024 + (low - 0xdc00)) :: ·)
        else none
      | _ => none
    else if 0xdc00 ≤ n ∧ n < 0xe000 then none
    else (unescape? s).map (Char.ofNat n :: ·)
  | '\\' :: c :: s => do
    let c ← shortEscape? c
    (unescape? s).map (c :: ·)
  | c :: s => if c = '\\' ∨ c.toNat < 0x20 then none else (unescape? s).map (c :: ·)

/-- Splits at the closing quote of a string, which is not escaped; `none` if there is none. -/
def closingQuote? : List Char → Option (List Char × List Char)
  | [] => none
  | '"' :: s => some ([], s)
  | '\\' :: c :: s => (closingQuote? s).map fun p => ('\\' :: c :: p.1, p.2)
  | c :: s => (closingQuote? s).map fun p => (c :: p.1, p.2)

/-- Reads a string behind its opening quote. -/
def readToken (s : List Char) : Token × Option (List Char) :=
  match closingQuote? s with
  | some (body, rest) => (⟨body, unescape? body⟩, some rest)
  | none => (⟨s, none⟩, none)

/-! ### Values -/

def skipBlanks (s : List Char) : List Char :=
  s.dropWhile fun c => c = ' ' || c = '\n' || c = '\t' || c = '\r'

/-- Reads a word that stands for a value. -/
def readWord (word : String) (value : Draft) (s : List Char) : Draft × Option (List Char) :=
  if word.toList.isPrefixOf s then (value, some (s.drop word.length)) else (.broken, none)

mutual

/-- Reads a value and gives the rest of the text, unless the text is no JSON from there on. -/
def readValue : Nat → List Char → Draft × Option (List Char)
  | 0, _ => (.broken, none)
  | depth + 1, s =>
    match skipBlanks s with
    | 'n' :: s => readWord "null" .null ('n' :: s)
    | 't' :: s => readWord "true" (.bool true) ('t' :: s)
    | 'f' :: s => readWord "false" (.bool false) ('f' :: s)
    | '"' :: s =>
      let (token, rest) := readToken s
      (.str token, rest)
    | '[' :: s =>
      match skipBlanks s with
      | ']' :: s => (.arr [] true, some s)
      | s =>
        let (items, rest) := readItems depth s
        (.arr items rest.isSome, rest)
    | '\x7b' :: s =>
      match skipBlanks s with
      | '\x7d' :: s => (.obj [] true, some s)
      | s =>
        let (members, rest) := readMembers depth s
        (.obj members rest.isSome, rest)
    | s =>
      match number? s with
      | some (n, rest) => (.number n, some rest)
      | none => (.broken, none)

/-- Reads the items of an array, at least one, and its end. -/
def readItems : Nat → List Char → List Draft × Option (List Char)
  | 0, _ => ([], none)
  | depth + 1, s =>
    let (item, rest) := readValue depth s
    match rest.map skipBlanks with
    | some (']' :: s) => ([item], some s)
    | some (',' :: s) =>
      match skipBlanks s with
      | ']' :: _ => ([item], none)
      | s =>
        let (items, rest) := readItems depth s
        (item :: items, rest)
    | _ => ([item], none)

/-- Reads the members of an object, at least one, and its end. -/
def readMembers : Nat → List Char → List (Token × Draft) × Option (List Char)
  | 0, _ => ([], none)
  | depth + 1, s =>
    match skipBlanks s with
    | '"' :: s =>
      let (key, rest) := readToken s
      match rest.map skipBlanks with
      | some (':' :: s) =>
        let (value, rest) := readValue depth s
        match rest.map skipBlanks with
        | some ('\x7d' :: s) => ([(key, value)], some s)
        | some (',' :: s) =>
          let (members, rest) := readMembers depth s
          ((key, value) :: members, rest)
        | _ => ([(key, value)], none)
      | _ => ([(key, .broken)], none)
    | _ => ([], none)

end

/-- Reads a text, and tells whether nothing but blanks follows its value. -/
def draft (text : String) : Draft × Bool :=
  let (value, rest) := readValue (text.length + 1) text.toList
  (value, rest.map skipBlanks == some [])

end TileBench.Json
