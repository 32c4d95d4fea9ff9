import TileBench.Json.Decode
import TileBench.Proofs.Except
import TileBench.Proofs.Json.ReadingBack

/-!
# Decoding values

What is decoded out of a list or an object has been decoded piece by piece. A value that was written
for a text, a number, a list or an object is decoded to it again, if the pieces are.
-/

namespace TileBench.Json

open Text

variable {α : Type} {P : α → Prop} {d : Draft}

/-! ### What is decoded -/

lemma Draft.exists_of_parsed {parse : String → Except Fault α} {a : α}
    (h : d.parsed parse = .ok a) : ∃ text, parse text = .ok a := by
  obtain ⟨text, -, hparse⟩ := bind_eq_ok_iff.mp h
  exact ⟨text, mapError_eq_ok_iff.mp hparse⟩

lemma Draft.forall_of_list {decode : Draft → Except DecodeError α} {values : List α}
    (h : d.list decode = .ok values) (hdecode : ∀ d a, decode d = .ok a → P a) :
    ∀ a ∈ values, P a := by
  unfold Draft.list at h
  split at h
  · obtain ⟨found, hfound, h⟩ := bind_eq_ok_iff.mp h
    obtain ⟨-, -, ⟨⟩⟩ := bind_eq_ok_iff.mp h
    exact forall_of_mapM_eq_ok hfound fun item _ a ha => hdecode item a ha
  · cases h

lemma Draft.forall_of_map32 {decode : Draft → Except DecodeError α}
    {entries : List (UInt32 × α)} (h : d.map32 decode = .ok entries)
    (hdecode : ∀ d a, decode d = .ok a → P a) : ∀ entry ∈ entries, P entry.2 := by
  unfold Draft.map32 at h
  split at h
  · obtain ⟨found, hfound, h⟩ := bind_eq_ok_iff.mp h
    obtain ⟨-, -, ⟨⟩⟩ := bind_eq_ok_iff.mp h
    refine forall_of_mapM_eq_ok hfound fun member _ entry hentry => ?_
    obtain ⟨key, -, hentry⟩ := bind_eq_ok_iff.mp hentry
    obtain ⟨value, hvalue, ⟨⟩⟩ := bind_eq_ok_iff.mp hentry
    exact hdecode _ value hvalue
  · cases h

/-! ### Values that were written -/

section Written

variable {decode : Draft → Except DecodeError α}

lemma itemDrafts_eq (items : List Json) : itemDrafts items = items.map asDraft := by
  induction items with
  | nil => rfl
  | cons item rest ih => rw [itemDrafts, ih, List.map_cons]

lemma memberDrafts_eq (members : List (String × Json)) :
    memberDrafts members = members.map fun m => (.ofText m.1.toList, asDraft m.2) := by
  induction members with
  | nil => rfl
  | cons member rest ih => rw [memberDrafts, ih, List.map_cons]

lemma Token.decode_ofText (text : String) : (Token.ofText text.toList).decode = .ok text := by
  rw [Token.decode, Token.ofText]
  exact congrArg _ String.ofList_toList

lemma text_asDraft (expected text : String) : (asDraft (.str text)).text expected = .ok text :=
  Token.decode_ofText text

lemma truth_asDraft (b : Bool) : (asDraft (.bool b)).truth = .ok b := rfl

lemma Number.word32_natCast (n : UInt32) : (Number.int n.toNat).word32 = .ok n := by
  have hfits : (0 : Int) ≤ n.toNat ∧ (n.toNat : Int) < UInt32.size :=
    ⟨Int.natCast_nonneg _, Int.ofNat_lt.mpr n.toNat_lt⟩
  rw [Number.word32, if_pos hfits, Int.toNat_natCast, UInt32.ofNat_toNat]

lemma word32_asDraft (n : UInt32) : (asDraft (.nat n.toNat)).word32 = .ok n :=
  Number.word32_natCast n

/-- A number that was written as a key is decoded to itself. -/
lemma Token.word32_ofText (n : UInt32) :
    (Token.ofText (toString n.toNat).toList).word32 = .ok n := by
  have hnumber : number? (Nat.toDigits 10 n.toNat) = some (.int n.toNat, []) := by
    have hends : EndsNumber [] := nofun
    have hread := number?_toDigits (Nat.lt_trans n.toNat_lt (by decide)) hends
    rwa [List.append_nil] at hread
  have hbody : (Token.ofText (toString n.toNat).toList).body = Nat.toDigits 10 n.toNat := by
    rw [show (toString n.toNat).toList = Nat.toDigits 10 n.toNat from Nat.toList_repr]
    exact flatMap_escape_of_isDigit fun c => isDigit_of_mem_toDigits
  rw [Token.word32, hbody, hnumber]
  simp only [Number.word32_natCast]
  rfl

/-- A text is parsed as it stands, and a fault is reported by its message. -/
lemma parsed_str (parse : String → Except Fault α) (text : String) :
    (asDraft (.str text)).parsed parse =
      (parse text).mapError fun fault => .content fault.message := by
  rw [Draft.parsed, text_asDraft]
  rfl

lemma parsed_asDraft {parse : String → Except Fault α} {text : String} {a : α}
    (h : parse text = .ok a) : (asDraft (.str text)).parsed parse = .ok a := by
  rw [parsed_str]
  exact mapError_eq_ok_iff.mpr h

lemma decodeText_parsed (parse : String → Except Fault α) (text : String) :
    decodeText (fun d => d.parsed parse) (Json.str text).compact =
      (parse text).mapError fun fault => .content fault.message := by
  rw [decodeText_of_spells (whole_str text) (spells_compact _), parsed_str]

lemma list_asDraft {json : α → Json} {values : List α}
    (h : ∀ a ∈ values, decode (asDraft (json a)) = .ok a) :
    (asDraft (.arr (values.map json))).list decode = .ok values := by
  have hitems : (itemDrafts (values.map json)).mapM decode = .ok values := by
    rw [itemDrafts_eq, List.map_map, List.mapM_map]
    exact mapM_eq_ok_of_forall h
  rw [asDraft, Draft.list, hitems]
  rfl

lemma map32_asDraft {json : UInt32 × α → Json} {entries : List (UInt32 × α)}
    (h : ∀ entry ∈ entries, decode (asDraft (json entry)) = .ok entry.2) :
    (asDraft (.obj (entries.map fun entry => (toString entry.1.toNat, json entry)))).map32 decode =
      .ok entries := by
  rw [asDraft, Draft.map32, memberDrafts_eq, List.map_map, List.mapM_map, mapM_eq_ok_of_forall]
  · rfl
  · intro entry hentry
    simp only [Function.comp_apply, Token.word32_ofText, h entry hentry]
    rfl

end Written

end TileBench.Json
