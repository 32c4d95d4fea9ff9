import TileBench.Json.Basic
import Mathlib.Algebra.GroupWithZero.Nat
import Mathlib.Tactic.Lemma

/-!
# Looking things up in a JSON value

What a reader of a document finds: the member of an object under a key, if it has the right kind,
and the sum of what is counted of the items of an array.
-/

namespace TileBench.Json

def member? (value : Json) (key : String) : Option Json :=
  match value with
  | .obj members => (members.find? fun member => member.1 = key).map (·.2)
  | _ => none

/-- The natural number under a key. -/
def natAt? (value : Json) (key : String) : Option Nat :=
  match value.member? key with
  | some (.int (.ofNat n)) => some n
  | _ => none

def flagAt? (value : Json) (key : String) : Option Bool :=
  match value.member? key with
  | some (.bool b) => some b
  | _ => none

def textAt? (value : Json) (key : String) : Option String :=
  match value.member? key with
  | some (.str s) => some s
  | _ => none

/-- The items of the array under a key. -/
def listAt (value : Json) (key : String) : List Json :=
  match value.member? key with
  | some (.arr items) => items
  | _ => []

/-- The sum of what is counted of some values, if there is a number for each of them. -/
def sum? (count : Json → Option Nat) : List Json → Option Nat
  | [] => some 0
  | value :: rest => do return (← count value) + (← sum? count rest)

lemma sum?_map {α : Type} {json : α → Json} {count : Json → Option Nat} {number : α → Nat}
    {items : List α} (h : ∀ a ∈ items, count (json a) = some (number a)) :
    sum? count (items.map json) = some (items.map number).sum := by
  induction items with
  | nil => rfl
  | cons a rest ih =>
    obtain ⟨ha, hrest⟩ := List.forall_mem_cons.mp h
    simp [sum?, ha, ih hrest]

end TileBench.Json
