/-!
# UTF-8

A machine reads a sequence of bytes from left to right. Between characters it is `idle`; inside one
it knows how many bytes are still owed, the bits seen so far, and the range of the next byte, which
excludes overlong forms, surrogates and code points that do not exist.

`decode?` refuses a sequence that is not UTF-8. `decodeLossy` puts U+FFFD for each longest stretch
that starts a character and cannot be completed.
-/

namespace TileBench.Text

/-- A file's contents. -/
abbrev Bytes := List UInt8

namespace Utf8

/-- Where the reader stands between two bytes. -/
inductive State where
  /-- Between characters. -/
  | idle
  /-- Inside a character: bytes owed, bits seen, and the range of the next byte. -/
  | inside (owed bits low high : Nat)
  deriving DecidableEq

/-- What one byte does. -/
inductive Step where
  /-- The byte completes a character. -/
  | done (c : Char)
  /-- The character goes on. -/
  | more (state : State)
  /-- The byte cannot stand here. -/
  | wrong

/-- The first byte of a character. -/
def first (b : Nat) : Step :=
  if b < 0x80 then .done (Char.ofNat b)
  else if b < 0xc2 then .wrong
  else if b < 0xe0 then .more (.inside 1 (b - 0xc0) 0x80 0xbf)
  else if b < 0xf0 then
    .more (.inside 2 (b - 0xe0) (if b = 0xe0 then 0xa0 else 0x80) (if b = 0xed then 0x9f else 0xbf))
  else if b < 0xf5 then
    .more (.inside 3 (b - 0xf0) (if b = 0xf0 then 0x90 else 0x80) (if b = 0xf4 then 0x8f else 0xbf))
  else .wrong

/-- One byte, from any state. -/
def step (b : Nat) : State → Step
  | .idle => first b
  | .inside owed bits low high =>
    if low ≤ b ∧ b ≤ high then
      let bits := bits * 64 + (b - 0x80)
      if owed ≤ 1 then .done (Char.ofNat bits) else .more (.inside (owed - 1) bits 0x80 0xbf)
    else .wrong

/-- Decodes from a state; `none` at a byte that cannot stand where it does, or at an end inside a
character. -/
def decodeFrom? : State → Bytes → Option (List Char)
  | .idle, [] => some []
  | .inside .., [] => none
  | state, b :: bytes =>
    match step b.toNat state with
    | .done c => (decodeFrom? .idle bytes).map (c :: ·)
    | .more state => decodeFrom? state bytes
    | .wrong => none

/-- The character that stands for bytes that are none. -/
def replacement : Char := '\uFFFD'

/-- Decodes from a state, with a replacement for what is not a character. -/
def decodeLossyFrom : State → Bytes → List Char
  | .idle, [] => []
  | .inside .., [] => [replacement]
  | state, b :: bytes =>
    match step b.toNat state with
    | .done c => c :: decodeLossyFrom .idle bytes
    | .more state => decodeLossyFrom state bytes
    | .wrong =>
      match state with
      | .idle => replacement :: decodeLossyFrom .idle bytes
      | .inside .. =>
        -- The byte ends a broken character and may start the next one.
        match first b.toNat with
        | .done c => replacement :: c :: decodeLossyFrom .idle bytes
        | .more state => replacement :: decodeLossyFrom state bytes
        | .wrong => replacement :: replacement :: decodeLossyFrom .idle bytes

def encodeChar (c : Char) : Bytes :=
  let n := c.toNat
  (if n < 0x80 then [n]
  else if n < 0x800 then [0xc0 + n / 64, 0x80 + n % 64]
  else if n < 0x10000 then [0xe0 + n / 4096, 0x80 + n / 64 % 64, 0x80 + n % 64]
  else [0xf0 + n / 262144, 0x80 + n / 4096 % 64, 0x80 + n / 64 % 64, 0x80 + n % 64]).map
    UInt8.ofNat

end Utf8

def encode (s : List Char) : Bytes := s.flatMap Utf8.encodeChar

/-- The text that a sequence of bytes encodes, if it is UTF-8. -/
def decode? (bytes : Bytes) : Option (List Char) := Utf8.decodeFrom? .idle bytes

/-- The text that a sequence of bytes encodes, as far as it is UTF-8. -/
def decodeLossy (bytes : Bytes) : List Char := Utf8.decodeLossyFrom .idle bytes

def bytesOf (s : String) : Bytes := encode s.toList

end TileBench.Text
