import TileBench.Proofs.Json.Numbers
import TileBench.Proofs.Json.Strings
import Mathlib.Data.List.Forall2

/-!
# Spellings of a value

A value is spelled by its text, with or without blanks between the parts. What the program writes,
on one line or over several, spells the value.
-/

namespace TileBench.Json

/-! ### Values as they are read -/

mutual

/-- What is read of a value that was written. -/
def asDraft : Json → Draft
  | .null => .null
  | .bool b => .bool b
  | .int n => .number (.int n)
  | .real x => .number (.real x)
  | .str s => .str (.ofText s.toList)
  | .arr items => .arr (itemDrafts items) true
  | .obj members => .obj (memberDrafts members) true

def itemDrafts : List Json → List Draft
  | [] => []
  | item :: rest => asDraft item :: itemDrafts rest

def memberDrafts : List (String × Json) → List (Token × Draft)
  | [] => []
  | (key, value) :: rest => (.ofText key.toList, asDraft value) :: memberDrafts rest

end

mutual

/-- The numbers in the value are natural numbers that fit in 64 bits. -/
def Whole : Json → Prop
  | .int n => 0 ≤ n ∧ n < UInt64.size
  | .real _ => False
  | .arr items => WholeItems items
  | .obj members => WholeMembers members
  | _ => True

def WholeItems : List Json → Prop
  | [] => True
  | item :: rest => Whole item ∧ WholeItems rest

def WholeMembers : List (String × Json) → Prop
  | [] => True
  | (_, value) :: rest => Whole value ∧ WholeMembers rest

end

lemma wholeItems_iff {items : List Json} : WholeItems items ↔ ∀ item ∈ items, Whole item := by
  induction items with
  | nil => simp [WholeItems]
  | cons item rest ih => simp [WholeItems, ih]

lemma wholeMembers_iff {members : List (String × Json)} :
    WholeMembers members ↔ ∀ member ∈ members, Whole member.2 := by
  induction members with
  | nil => simp [WholeMembers]
  | cons member rest ih => simp [WholeMembers, ih]

lemma whole_str (text : String) : Whole (.str text) := trivial

lemma whole_bool (b : Bool) : Whole (.bool b) := trivial

lemma whole_nat (n : UInt32) : Whole (.nat n.toNat) :=
  ⟨Int.natCast_nonneg _, Int.ofNat_lt.mpr (Nat.lt_trans n.toNat_lt (by decide))⟩

lemma whole_arr_str {α : Type} (text : α → String) (values : List α) :
    Whole (.arr (values.map fun a => .str (text a))) := by
  refine wholeItems_iff.mpr fun item hitem => ?_
  obtain ⟨a, -, rfl⟩ := List.mem_map.mp hitem
  exact whole_str _

/-! ### Spellings -/

/-- A character that may stand between the parts of a value. -/
def isGap (c : Char) : Bool := c = ' ' || c = '\n' || c = '\t' || c = '\r'

def IsGap (s : List Char) : Prop := ∀ c ∈ s, isGap c = true

/-- The text is one of those, with gaps on both sides. -/
def Padded (P : List Char → Prop) (s : List Char) : Prop :=
  ∃ front text back, IsGap front ∧ P text ∧ IsGap back ∧ s = front ++ (text ++ back)

mutual

/-- The text is that of the value, with gaps between its parts. -/
def Spells : Json → List Char → Prop
  | .arr items, s => ∃ inner, SpellsItems items inner ∧ s = '[' :: (inner ++ [']'])
  | .obj members, s => ∃ inner, SpellsMembers members inner ∧ s = '\x7b' :: (inner ++ ['\x7d'])
  | atom, s => s = (atomText atom).toList

/-- The text is that of the items, with gaps and commas between them. -/
def SpellsItems : List Json → List Char → Prop
  | [], s => IsGap s
  | item :: rest, s => ∃ text more, Padded (Spells item) text ∧ s = text ++ more ∧
      if rest.isEmpty then more = [] else ∃ inner, SpellsItems rest inner ∧ more = ',' :: inner

/-- The text is that of the members, with gaps and commas between them. -/
def SpellsMembers : List (String × Json) → List Char → Prop
  | [], s => IsGap s
  | (key, value) :: rest, s => ∃ name text more, Padded (· = (quote key).toList) name ∧
      Padded (Spells value) text ∧ s = name ++ ':' :: (text ++ more) ∧
      if rest.isEmpty then more = [] else ∃ inner, SpellsMembers rest inner ∧ more = ',' :: inner

end

variable {value : Json} {items : List Json} {members : List (String × Json)} {s : List Char}

lemma isGap_nil : IsGap [] := List.forall_mem_nil _

lemma isGap_empty : IsGap "".toList := isGap_nil

lemma isGap_space : IsGap " ".toList := by
  intro c hc
  rw [List.mem_singleton.mp hc]
  rfl

lemma IsGap.append {front back : List Char} (hfront : IsGap front) (hback : IsGap back) :
    IsGap (front ++ back) :=
  List.forall_mem_append.mpr ⟨hfront, hback⟩

lemma Padded.intro {P : List Char → Prop} {front text back : List Char} (hfront : IsGap front)
    (htext : P text) (hback : IsGap back) : Padded P (front ++ (text ++ back)) :=
  ⟨front, text, back, hfront, htext, hback, rfl⟩

/-! ### What is written -/

section Written

variable {gap closing : String} (hgap : IsGap gap.toList) (hclosing : IsGap closing.toList)

include hgap hclosing

/-- The items of an array are spelled by their texts, with a gap behind each comma. -/
lemma spellsItems_intercalate {texts : List String}
    (h : List.Forall₂ (fun item text => Spells item text.toList) items texts) :
    SpellsItems items (gap ++ ("," ++ gap).intercalate texts ++ closing).toList := by
  induction h with
  | nil => simpa [SpellsItems] using hgap.append hclosing
  | @cons item text items texts hitem hrest ih =>
    unfold SpellsItems
    cases hrest with
    | nil =>
      refine ⟨_, [], .intro hgap hitem hclosing, ?_, by simp⟩
      simp
    | cons hnext hothers =>
      refine ⟨_, _, .intro hgap hitem isGap_nil, ?_, by rw [if_neg (by simp)]; exact ⟨_, ih, rfl⟩⟩
      simp [String.intercalate_cons_cons]

/-- The members of an object are spelled by their keys and texts, with a gap behind each comma. -/
lemma spellsMembers_intercalate {colon : String} (hcolon : IsGap colon.toList)
    {texts : List String}
    (h : List.Forall₂ (fun (member : String × Json) text => ∃ value : String,
      text = quote member.1 ++ (":" ++ colon) ++ value ∧ Spells member.2 value.toList)
      members texts) :
    SpellsMembers members (gap ++ ("," ++ gap).intercalate texts ++ closing).toList := by
  induction h with
  | nil => simpa [SpellsMembers] using hgap.append hclosing
  | @cons member text members texts hmember hrest ih =>
    obtain ⟨key, value⟩ := member
    obtain ⟨valueText, rfl, hvalue⟩ := hmember
    unfold SpellsMembers
    cases hrest with
    | nil =>
      refine ⟨_, _, [], .intro hgap rfl isGap_nil, .intro hcolon hvalue hclosing, ?_, by simp⟩
      simp
    | cons hnext hothers =>
      refine ⟨_, _, _, .intro hgap rfl isGap_nil, .intro hcolon hvalue isGap_nil, ?_,
        by rw [if_neg (by simp)]; exact ⟨_, ih, rfl⟩⟩
      simp [String.intercalate_cons_cons]

end Written

mutual

lemma spells_compact : ∀ value : Json, Spells value value.compact.toList
  | .arr items => by
    refine ⟨_, spellsItems_intercalate isGap_empty isGap_empty (forall₂_compactItems items), ?_⟩
    simp [compact]
  | .obj members => by
    refine ⟨_, spellsMembers_intercalate isGap_empty isGap_empty isGap_empty
      (forall₂_compactMembers members), ?_⟩
    simp [compact]
  | .null | .bool _ | .int _ | .real _ | .str _ => by
    rw [Spells, compact] <;> nofun

lemma forall₂_compactItems : ∀ items : List Json,
    List.Forall₂ (fun item text => Spells item text.toList) items (compactItems items)
  | [] => .nil
  | item :: rest => .cons (spells_compact item) (forall₂_compactItems rest)

lemma forall₂_compactMembers : ∀ members : List (String × Json),
    List.Forall₂ (fun (member : String × Json) text => ∃ value : String,
      text = quote member.1 ++ (":" ++ "") ++ value ∧ Spells member.2 value.toList)
      members (compactMembers members)
  | [] => .nil
  | (key, value) :: rest =>
    .cons ⟨_, by simp, spells_compact value⟩ (forall₂_compactMembers rest)

end

lemma isGap_newLine (level : Nat) : IsGap (newLine level).toList := by
  intro c hc
  simp only [newLine, String.toList_append, String.toList_ofList, List.mem_append,
    List.mem_replicate] at hc
  obtain hc | ⟨-, rfl⟩ := hc
  · rw [show "\n".toList = ['\n'] from rfl, List.mem_singleton] at hc
    rw [hc]
    rfl
  · rfl

mutual

lemma spells_prettyAt : ∀ (level : Nat) (value : Json), Spells value (prettyAt level value).toList
  | level, .arr [] => ⟨[], isGap_nil, by simp [prettyAt, prettyItems, block]⟩
  | level, .arr (item :: rest) => by
    refine ⟨_, spellsItems_intercalate (isGap_newLine (level + 1)) (isGap_newLine level)
      (forall₂_prettyItems (level + 1) (item :: rest)), ?_⟩
    simp [prettyAt, prettyItems, block]
  | level, .obj [] => ⟨[], isGap_nil, by simp [prettyAt, prettyMembers, block]⟩
  | level, .obj ((key, value) :: rest) => by
    refine ⟨_, spellsMembers_intercalate (isGap_newLine (level + 1)) (isGap_newLine level)
      isGap_space (forall₂_prettyMembers (level + 1) ((key, value) :: rest)), ?_⟩
    simp [prettyAt, prettyMembers, block]
  | level, .null | level, .bool _ | level, .int _ | level, .real _ | level, .str _ => by
    rw [Spells, prettyAt] <;> nofun

lemma forall₂_prettyItems : ∀ (level : Nat) (items : List Json),
    List.Forall₂ (fun item text => Spells item text.toList) items (prettyItems level items)
  | _, [] => .nil
  | level, item :: rest => .cons (spells_prettyAt level item) (forall₂_prettyItems level rest)

lemma forall₂_prettyMembers : ∀ (level : Nat) (members : List (String × Json)),
    List.Forall₂ (fun (member : String × Json) text => ∃ value : String,
      text = quote member.1 ++ (":" ++ " ") ++ value ∧ Spells member.2 value.toList)
      members (prettyMembers level members)
  | _, [] => .nil
  | level, (_, value) :: rest =>
    .cons ⟨_, rfl, spells_prettyAt level value⟩ (forall₂_prettyMembers level rest)

end

/-- A value over several lines is spelled by its text. -/
lemma spells_pretty (value : Json) : Spells value value.pretty.toList := spells_prettyAt 0 value

end TileBench.Json
