import TileBench.Text.Utf8

/-!
# Patterns

A pattern is a text in which some characters are active. An active star stands for any text, a
question mark for any byte, and brackets for one byte of a set; an active backslash protects the
character behind it.
-/

namespace TileBench.Shell

open Text

/-- A character, and whether it is active. -/
abbrev Glyph := Char × Bool

/-- A text with active characters. -/
abbrev Glyphs := List Glyph

/-- The characters of a text with active ones. -/
def Glyphs.plain (g : Glyphs) : List Char := g.map (·.1)

/-! ### Sets -/

/-- The classes of characters that a set may name. -/
def characterClasses : List (String × (Char → Bool)) :=
  [("alpha", Char.isAlpha), ("digit", Char.isDigit), ("alnum", Char.isAlphanum),
    ("upper", Char.isUpper), ("lower", Char.isLower),
    ("space", fun c => c == ' ' || ('\t' ≤ c && c ≤ '\x0d')),
    ("blank", fun c => c == ' ' || c == '\t'),
    ("cntrl", fun c => c < ' ' || c == '\x7f'), ("graph", fun c => '!' ≤ c && c ≤ '~'),
    ("print", fun c => ' ' ≤ c && c ≤ '~'),
    ("punct", fun c => '!' ≤ c && c ≤ '~' && !c.isAlphanum),
    ("xdigit", fun c => c.isDigit || ('a' ≤ c && c ≤ 'f') || ('A' ≤ c && c ≤ 'F'))]

/-- Reads the name of a class behind a bracket, and gives its characters. -/
def readClass? (g : Glyphs) : Option ((Char → Bool) × Glyphs) :=
  match g with
  | (':', _) :: rest =>
    let name := rest.takeWhile fun x => x.1 != ':'
    match rest.drop name.length with
    | (':', _) :: (']', _) :: rest =>
      (characterClasses.find? fun entry => entry.1.toList = Glyphs.plain name).map
        fun entry => (entry.2, rest)
    | _ => none
  | _ => none

/-- The character in front, without the backslash that protects it. -/
def protectedHead? : Glyphs → Option (Char × Glyphs)
  | ('\\', true) :: (c, _) :: rest => some (c, rest)
  | (c, _) :: rest => some (c, rest)
  | [] => none

/-- Reads the members of a set up to its bracket: is the character one of them? -/
def readMembers? (c : Char) : Nat → Bool → Bool → Glyphs → Option (Bool × Glyphs)
  | 0, _, _, _ => none
  | n + 1, isFirst, found, g =>
    match g with
    | [] => none
    | (']', true) :: rest => if isFirst then member n found ']' rest else some (found, rest)
    | ('[', true) :: rest =>
      match readClass? rest with
      | some (inClass, rest) => readMembers? c n false (found || inClass c) rest
      | none => member n found '[' rest
    | g =>
      match protectedHead? g with
      | some (d, rest) => member n found d rest
      | none => none
where
  /-- Reads on behind a member, which may begin a range. -/
  member (n : Nat) (found : Bool) (low : Char) (rest : Glyphs) : Option (Bool × Glyphs) :=
    match rest with
    | ('-', true) :: (']', true) :: _ => readMembers? c n false (found || c == low) rest
    | ('-', true) :: range =>
      match protectedHead? range with
      | some (high, rest) => readMembers? c n false (found || (low ≤ c && c ≤ high)) rest
      | none => none
    | rest => readMembers? c n false (found || c == low) rest

/-- Reads a set behind its bracket: does the character belong to it? `none` if there is no end. -/
def readSet? (c : Char) (g : Glyphs) : Option (Bool × Glyphs) :=
  match g with
  | ('!', true) :: rest =>
    (readMembers? c (rest.length + 1) true false rest).map fun r => (!r.1, r.2)
  | g => readMembers? c (g.length + 1) true false g

/-! ### Fitting -/

/-- Has the text the form of the pattern? -/
def fitsFrom : Nat → Glyphs → List Char → Bool
  | 0, _, _ => false
  | _ + 1, [], s => s.isEmpty
  | n + 1, ('*', true) :: p, [] => fitsFrom n p []
  | n + 1, ('*', true) :: p, c :: s => fitsFrom n p (c :: s) || fitsFrom n (('*', true) :: p) s
  | n + 1, ('?', true) :: p, _ :: s => fitsFrom n p s
  | n + 1, ('[', true) :: p, c :: s =>
    match readSet? c p with
    | some (belongs, rest) => belongs && fitsFrom n rest s
    | none => c == '[' && fitsFrom n p s
  | n + 1, ('\\', true) :: (d, _) :: p, c :: s => d == c && fitsFrom n p s
  | n + 1, (d, _) :: p, c :: s => d == c && fitsFrom n p s
  | _ + 1, _ :: _, [] => false

/-- The bytes of a character, each as a character of its own. -/
def byteChars (c : Char) : List Char :=
  if c.toNat < 128 then [c] else (encode [c]).map fun b => Char.ofNat b.toNat

/-- The bytes of a pattern, each as a character of its own. -/
def Glyphs.byBytes (p : Glyphs) : Glyphs := p.flatMap fun x => (byteChars x.1).map fun c => (c, x.2)

/-- Has the text the form of the pattern, byte for byte? -/
def Glyphs.fits (p : Glyphs) (s : List Char) : Bool :=
  let p := p.byBytes
  let s := s.flatMap byteChars
  fitsFrom (p.length + s.length + 1) p s

/-- Is there anything in the pattern that stands for other characters? -/
def Glyphs.isPattern (p : Glyphs) : Bool :=
  p.any fun x => x.2 && (x.1 == '*' || x.1 == '?' || x.1 == '[')

/-- The text of a pattern, without the backslashes that protect a character. -/
def Glyphs.unprotected : Glyphs → List Char
  | ('\\', true) :: (c, _) :: rest => c :: unprotected rest
  | (c, _) :: rest => c :: unprotected rest
  | [] => []

/-! ### Trimming -/

/-- The ways to cut bytes in two, the shortest front first. -/
def cuts (s : Bytes) : List (Bytes × Bytes) :=
  (List.range (s.length + 1)).map fun n => (s.take n, s.drop n)

/-- A text without what fits a pattern at one of its ends. -/
def Glyphs.trim (p : Glyphs) (atEnd longest : Bool) (s : List Char) : List Char :=
  let p := p.byBytes
  let fits (part : Bytes) : Bool :=
    fitsFrom (p.length + part.length + 1) p (part.map fun b => Char.ofNat b.toNat)
  let all := cuts (encode s)
  let kept :=
    if atEnd then
      ((if longest then all else all.reverse).find? fun cut => fits cut.2).map (·.1)
    else
      ((if longest then all.reverse else all).find? fun cut => fits cut.1).map (·.2)
  kept.elim s decodeLossy

end TileBench.Shell
