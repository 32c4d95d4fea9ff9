import TileBench.Fault
import TileBench.Text.Split
import TileBench.Text.Numeral

/-!
# Variable types and the list of variables

A variable has a number of components of one scalar type, written `3*float64`. The list of
variables that the write executable is given names them in order, with one type for the even
numbers and one for the odd.
-/

namespace TileBench

open Text

/-- A number of components and the name of their scalar type. -/
structure VarType where
  components : UInt32
  scalar : String
  deriving DecidableEq, Inhabited

namespace VarType

/-- The written form, such as `3*float64`. -/
def text (v : VarType) : String := toString v.components.toNat ++ "*" ++ v.scalar

instance : ToString VarType := ⟨text⟩

/-- The samples that one cell holds. -/
def samplesPerCell (v : VarType) : UInt64 := v.components.toUInt64

/-- Does the written form show a width that only a small domain has memory for? -/
def smallDomainOnly (v : VarType) : Bool :=
  v.text.toList.contains '8' || occursIn ['1', '6'] v.text.toList

/-- Reads a variable type: the first star separates a count from the name of a scalar. -/
def ofChars? (s : List Char) : Option VarType := do
  let (count, scalar) ← splitOnce '*' (trim s)
  let components ← word32? (trim count)
  let scalar := trim scalar
  if components = 0 ∨ scalar.isEmpty ∨ scalar.any isBlank then none
  else some ⟨components, String.ofList scalar⟩

/-- Reads a variable type, or blames the text. -/
def parse (s : String) : Except Fault VarType :=
  match ofChars? s.toList with
  | some v => .ok v
  | none => .error (.invalidVarType s)

end VarType

/-- The entry of one variable, with its line end. -/
def varEntry (even odd : VarType) (i : Nat) : String :=
  "var_" ++ toString i ++ " " ++ (if i % 2 = 0 then even else odd).text ++ " +\n"

/-- The list of `n` variables of alternating types. -/
def varList (n : UInt32) (even odd : VarType) : String :=
  "(fields)\n" ++ String.join ((List.range n.toNat).map (varEntry even odd)) ++ "(end)"

end TileBench
