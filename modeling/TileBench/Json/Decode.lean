import TileBench.Fault
import TileBench.Decimal.Shortest
import TileBench.Json.Draft

/-!
# Decoding JSON

A decoder turns a draft into a value of the domain. A value of the wrong kind is reported by what it
is and what was expected; a defect of the text is reported where it is met.
-/

namespace TileBench.Json

open Text

/-- What a number is called in an error. -/
def Number.describe : Number → String
  | .int n => "integer \x60" ++ toString n ++ "\x60"
  | .real x => "floating point \x60" ++ (Decimal.shortestText? x).getD "" ++ "\x60"

/-- What a value is called in an error; `none` for what is no value. -/
def Draft.describe? : Draft → Option String
  | .null => some "null"
  | .bool b => some ("boolean \x60" ++ (if b then "true" else "false") ++ "\x60")
  | .number n => some n.describe
  | .str token => token.text?.map fun text => "string " ++ Text.quote (String.ofList text)
  | .arr .. => some "sequence"
  | .obj .. => some "map"
  | .broken => none

/-- The error for a value of the wrong kind. -/
def Draft.unexpected (d : Draft) (expected : String) : DecodeError :=
  match d.describe? with
  | some found => .content ("invalid type: " ++ found ++ ", expected " ++ expected)
  | none => .malformed

def Token.decode (token : Token) : Except DecodeError String :=
  match token.text? with
  | some text => .ok (String.ofList text)
  | none => .error .malformed

/-- Decodes a text, which errors call `expected`. -/
def Draft.text (expected : String) : Draft → Except DecodeError String
  | .str token => token.decode
  | d => .error (d.unexpected expected)

def Draft.truth : Draft → Except DecodeError Bool
  | .bool b => .ok b
  | d => .error (d.unexpected "a boolean")

/-- Decodes a number below 2 ^ 32. -/
def Number.word32 : Number → Except DecodeError UInt32
  | .int n =>
    if 0 ≤ n ∧ n < UInt32.size then .ok (UInt32.ofNat n.toNat)
    else .error (.content ("invalid value: " ++ (Number.int n).describe ++ ", expected u32"))
  | .real x => .error (.content ("invalid type: " ++ (Number.real x).describe ++ ", expected u32"))

def Draft.word32 : Draft → Except DecodeError UInt32
  | .number n => n.word32
  | d => .error (d.unexpected "u32")

/-- Decodes a key that is a number below 2 ^ 32. The digits stand as they are between the quotes. -/
def Token.word32 (token : Token) : Except DecodeError UInt32 :=
  match number? token.body with
  | none => .error .malformed
  | some (n, rest) => do
    let key ← n.word32
    if rest.isEmpty && token.text?.isSome then .ok key else .error .malformed

/-- Is the text well formed up to here? -/
def wellFormed (closed : Bool) : Except DecodeError Unit :=
  if closed then .ok () else .error .malformed

def Draft.list {α : Type} (decode : Draft → Except DecodeError α) :
    Draft → Except DecodeError (List α)
  | .arr items closed => do
    let values ← items.mapM decode
    wellFormed closed
    return values
  | d => .error (d.unexpected "a sequence")

def Draft.map32 {α : Type} (decode : Draft → Except DecodeError α) :
    Draft → Except DecodeError (List (UInt32 × α))
  | .obj members closed => do
    let entries ← members.mapM fun member => do
      let key ← member.1.word32
      return (key, ← decode member.2)
    wellFormed closed
    return entries
  | d => .error (d.unexpected "a map")

/-- Decodes a text by way of a parser whose fault is the error. -/
def Draft.parsed {α : Type} (parse : String → Except Fault α) (d : Draft) :
    Except DecodeError α := do
  (parse (← d.text "a string")).mapError fun fault => .content fault.message

def decodeText {α : Type} (decode : Draft → Except DecodeError α) (text : String) :
    Except DecodeError α := do
  let (d, whole) := draft text
  let value ← decode d
  wellFormed whole
  return value

end TileBench.Json
