import TileBench.Text.Split

/-!
# Match expressions

A match expression describes texts by characters, sets between brackets, groups between parentheses,
alternatives and repetitions. Here its form is checked, and nothing is matched. There are no classes
that need a table of characters, no references to groups, no edges of words, and no counted
repetitions.
-/

namespace TileBench.Text.MatchExpression

/-! ### Escapes -/

/-- The characters that have a meaning of their own in an expression. -/
def isSign (c : Char) : Bool := "\\.+*?()|[]\x7b\x7d^$#&-~".toList.contains c

/-- The letters that stand for a control character. -/
def controlOf? : Char → Option Char
  | 'a' => some '\x07'
  | 'f' => some '\x0c'
  | 'n' => some '\n'
  | 'r' => some '\r'
  | 't' => some '\t'
  | 'v' => some '\x0b'
  | _ => none

/-- The number of hexadecimal digits behind a letter. -/
def hexWidth? : Char → Option Nat
  | 'x' => some 2
  | 'u' => some 4
  | 'U' => some 8
  | _ => none

def hexValue? (c : Char) : Option Nat :=
  if c.isDigit then some (c.toNat - '0'.toNat)
  else if 'a' ≤ c ∧ c ≤ 'f' then some (c.toNat - 'a'.toNat + 10)
  else if 'A' ≤ c ∧ c ≤ 'F' then some (c.toNat - 'A'.toNat + 10)
  else none

/-- Reads a character given by its hexadecimal number. -/
def readHex? (width : Nat) (s : List Char) : Option (Char × List Char) := do
  let digits := s.take width
  let value ← digits.foldlM (fun n c => (hexValue? c).map fun d => 16 * n + d) 0
  if digits.length = width ∧ value.isValidChar then some (Char.ofNat value, s.drop width) else none

/-- Reads the character that stands behind a backslash. -/
def readEscape? : List Char → Option (Char × List Char)
  | [] => none
  | c :: s =>
    match controlOf? c, hexWidth? c with
    | some control, _ => some (control, s)
    | none, some width => readHex? width s
    | none, none =>
      if isSign c then some (c, s)
      else if c.toNat < 128 && !c.isAlphanum && c ≠ '<' && c ≠ '>' then some (c, s)
      else none

/-! ### Sets -/

/-- The names of the classes of ASCII characters. -/
def classNames : List String :=
  ["alnum", "alpha", "ascii", "blank", "cntrl", "digit", "graph", "lower", "print", "punct",
    "space", "upper", "word", "xdigit"]

def readClass? : List Char → Option (List Char)
  | ':' :: s =>
    let s := if s.head? = some '^' then s.tail else s
    let name := s.takeWhile (· ≠ ':')
    match s.drop name.length with
    | ':' :: ']' :: s => if classNames.contains (String.ofList name) then some s else none
    | _ => none
  | _ => none

/-- Drops what may stand at the front of a set: a sign that turns it round, and dashes or a bracket
that belong to it. -/
def dropSetFront (s : List Char) : List Char :=
  let s := if s.head? = some '^' then s.tail else s
  let dashes := s.takeWhile (· == '-')
  match s.drop dashes.length with
  | ']' :: rest => if dashes.isEmpty then rest else ']' :: rest
  | rest => rest

def readMember? : List Char → Option (Char × List Char)
  | [] => none
  | '\\' :: s => readEscape? s
  | c :: s => some (c, s)

/-- Reads a set behind its front, with sets inside it down to a depth. -/
def readSet? : Nat → Nat → List Char → Option (List Char)
  | 0, _, _ | _, _, [] => none
  | _ + 1, 0, ']' :: s => some s
  | n + 1, depth + 1, ']' :: s => readSet? n depth s
  | n + 1, depth, '[' :: s =>
    match readClass? s with
    | some s => readSet? n depth s
    | none => readSet? n (depth + 1) (dropSetFront s)
  | n + 1, depth, '&' :: '&' :: s | n + 1, depth, '-' :: '-' :: s
  | n + 1, depth, '~' :: '~' :: s => readSet? n depth s
  | n + 1, depth, s => do
    let (low, s) ← readMember? s
    match s with
    | '-' :: ']' :: _ | '-' :: '-' :: _ => readSet? n depth s
    | '-' :: s => do
      let (high, s) ← readMember? s
      if low ≤ high then readSet? n depth s else none
    | s => readSet? n depth s

/-! ### Groups -/

/-- Are these the letters of options: those that are turned on, and behind a dash those that are
turned off? Case is always distinguished. -/
def areOptions (letters : List Char) : Bool :=
  let on := letters.takeWhile (· ≠ '-')
  let off := letters.drop (on.length + 1)
  letters.all "imsUuxR-".toList.contains && letters.Nodup && !on.contains 'i'
    && (on.length = letters.length || !off.isEmpty)

def isGroupName (s : List Char) : Bool :=
  s.head?.any (fun c => c.isAlpha || c == '_')
    && s.all fun c => c.isAlphanum || "_.[]".toList.contains c

/-- Reads what stands behind a parenthesis and a question mark. Tells whether a group is open
then. -/
def readGroupFront? (s : List Char) : Option (Bool × List Char) :=
  let named := if s.head? = some 'P' then s.tail else s
  match named with
  | '<' :: s => do
    let (name, s) ← splitOnce '>' s
    if isGroupName name then some (true, s) else none
  | _ =>
    let letters := s.takeWhile fun c => c ≠ ')' && c ≠ ':'
    match s.drop letters.length with
    | ':' :: s => if areOptions letters then some (true, s) else none
    | ')' :: s => if areOptions letters && !letters.isEmpty then some (false, s) else none
    | _ => none

/-! ### Expressions -/

/-- Is the rest of an expression well formed, inside some groups? The flag tells whether something
that can be repeated stands in front. -/
def isRest : Nat → Nat → Bool → List Char → Bool
  | 0, _, _, _ => false
  | _ + 1, depth, _, [] => depth == 0
  | n + 1, depth, _, '\\' :: s =>
    match s with
    | 'A' :: s | 'z' :: s => isRest n depth true s
    | s =>
      match readEscape? s with
      | some (_, s) => isRest n depth true s
      | none => false
  | n + 1, depth, _, '[' :: s =>
    match readSet? (s.length + 1) 0 (dropSetFront s) with
    | some s => isRest n depth true s
    | none => false
  | n + 1, depth, _, '(' :: '?' :: s =>
    match readGroupFront? s with
    | some (true, s) => isRest n (depth + 1) false s
    | some (false, s) => isRest n depth false s
    | none => false
  | n + 1, depth, _, '(' :: s => isRest n (depth + 1) false s
  | _ + 1, 0, _, ')' :: _ => false
  | n + 1, depth + 1, _, ')' :: s => isRest n depth true s
  | n + 1, depth, _, '|' :: s => isRest n depth false s
  | _ + 1, _, _, '\x7b' :: _ => false
  | n + 1, depth, repeatable, c :: s =>
    if c = '*' || c = '+' || c = '?' then repeatable && isRest n depth true s
    else isRest n depth true s

def isExpression (s : List Char) : Bool := isRest (s.length + 1) 0 false s

end TileBench.Text.MatchExpression
