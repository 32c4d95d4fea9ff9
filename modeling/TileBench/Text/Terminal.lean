import TileBench.Text.Quoted

/-!
# Texts on a terminal

A message may end up on a terminal, where some control characters are commands. Those are written by
their code points; every other character, line breaks among them, stands for itself.
-/

namespace TileBench.Text

/-- Is the character a command of seven bits? -/
def isCommand (c : Char) : Bool :=
  c == '\x07' || c == '\x08' || c == '\x0c' || c == '\x1b' || c == '\x7f'

/-- Is the character a command of eight bits? -/
def isWideCommand (c : Char) : Bool := 0x80 ≤ c.toNat && c.toNat ≤ 0x9f

/-- A code point below 256 in two hexadecimal digits. -/
def byteCode (c : Char) : List Char :=
  ['\\', 'x'] ++ (Nat.toDigits 16 c.toNat).leftpad 2 '0'

/-- One character of a message. -/
def disarmChar (c : Char) : List Char :=
  if isCommand c then byteCode c else if isWideCommand c then codePoint c else [c]

/-- A message without commands. -/
def disarm (s : String) : String := String.ofList (s.toList.flatMap disarmChar)

end TileBench.Text
