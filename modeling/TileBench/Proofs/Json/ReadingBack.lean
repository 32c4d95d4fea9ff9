import TileBench.Proofs.Json.Spelling
import TileBench.Json.Decode
import Mathlib.Data.List.DropRight

/-!
# Reading a value back

However a value without fractions is spelled, it is read back from the front of a text. The reader
goes no deeper than the text is long, so it comes to the end of the value.
-/

namespace TileBench.Json

open Text

variable {value : Json} {item : Draft} {key : Token} {c : Char} {s t u v w rest gap : List Char}
  {depth : Nat}

/-! ### Gaps -/

lemma skipBlanks_append (hgap : IsGap gap) (s : List Char) : skipBlanks (gap ++ s) = skipBlanks s :=
  List.dropWhile_append_of_pos hgap

lemma skipBlanks_cons (hc : isGap c = false) (s : List Char) : skipBlanks (c :: s) = c :: s :=
  List.dropWhile_cons_of_neg (by simpa [isGap] using hc)

lemma skipBlanks_append_cons (hgap : IsGap gap) (hc : isGap c = false) (s : List Char) :
    skipBlanks (gap ++ c :: s) = c :: s :=
  (skipBlanks_append hgap _).trans (skipBlanks_cons hc s)

lemma skipBlanks_skipBlanks (s : List Char) : skipBlanks (skipBlanks s) = skipBlanks s :=
  List.dropWhile_idempotent ..

lemma readValue_skipBlanks (depth : Nat) (s : List Char) :
    readValue depth (skipBlanks s) = readValue depth s := by
  cases depth with
  | zero => rfl
  | succ depth => rw [readValue, readValue, skipBlanks_skipBlanks]

lemma readItems_skipBlanks (depth : Nat) (s : List Char) :
    readItems depth (skipBlanks s) = readItems depth s := by
  cases depth with
  | zero => rfl
  | succ depth => rw [readItems, readItems, readValue_skipBlanks]

lemma readMembers_skipBlanks (depth : Nat) (s : List Char) :
    readMembers depth (skipBlanks s) = readMembers depth s := by
  cases depth with
  | zero => rfl
  | succ depth => rw [readMembers, readMembers, skipBlanks_skipBlanks]

/-! ### One step of the reader -/

lemma readValue_emptyArray (hend : skipBlanks s = ']' :: rest) :
    readValue (depth + 1) ('[' :: s) = (.arr [] true, some rest) := by
  rw [readValue, skipBlanks_cons (by decide)]
  simp only [hend]

lemma readValue_array (hitem : skipBlanks s = c :: t) (hc : c ≠ ']') :
    readValue (depth + 1) ('[' :: s) =
      (.arr (readItems depth s).1 (readItems depth s).2.isSome, (readItems depth s).2) := by
  rw [readValue, skipBlanks_cons (by decide), ← readItems_skipBlanks depth s]
  simp only [hitem]
  split
  · rename_i heq
    exact absurd (List.cons.inj heq).1 hc
  · rfl

lemma readValue_emptyObject (hend : skipBlanks s = '\x7d' :: rest) :
    readValue (depth + 1) ('\x7b' :: s) = (.obj [] true, some rest) := by
  rw [readValue, skipBlanks_cons (by decide)]
  simp only [hend]

lemma readValue_object (hmember : skipBlanks s = c :: t) (hc : c ≠ '\x7d') :
    readValue (depth + 1) ('\x7b' :: s) =
      (.obj (readMembers depth s).1 (readMembers depth s).2.isSome, (readMembers depth s).2) := by
  rw [readValue, skipBlanks_cons (by decide), ← readMembers_skipBlanks depth s]
  simp only [hmember]
  split
  · rename_i heq
    exact absurd (List.cons.inj heq).1 hc
  · rfl

lemma readItems_last (hitem : readValue depth s = (item, some u))
    (hend : skipBlanks u = ']' :: rest) :
    readItems (depth + 1) s = ([item], some rest) := by
  rw [readItems, hitem]
  simp only [Option.map_some, hend]

lemma readItems_comma (hitem : readValue depth s = (item, some u))
    (hcomma : skipBlanks u = ',' :: t) (hnext : skipBlanks t = c :: rest) (hc : c ≠ ']') :
    readItems (depth + 1) s = (item :: (readItems depth t).1, (readItems depth t).2) := by
  rw [readItems, hitem, ← readItems_skipBlanks depth t]
  simp only [Option.map_some, hcomma, hnext]
  split
  · rename_i heq
    exact absurd (List.cons.inj heq).1 hc
  · rfl

section Members

variable (hquote : skipBlanks s = '"' :: t) (hkey : readToken t = (key, some u))
  (hcolon : skipBlanks u = ':' :: v) (hvalue : readValue depth v = (item, some w))

include hquote hkey hcolon hvalue

lemma readMembers_last (hend : skipBlanks w = '\x7d' :: rest) :
    readMembers (depth + 1) s = ([(key, item)], some rest) := by
  rw [readMembers]
  simp only [hquote, hkey, hcolon, hvalue, Option.map_some, hend]

lemma readMembers_comma (hcomma : skipBlanks w = ',' :: rest) :
    readMembers (depth + 1) s =
      ((key, item) :: (readMembers depth rest).1, (readMembers depth rest).2) := by
  rw [readMembers]
  simp only [hquote, hkey, hcolon, hvalue, Option.map_some, hcomma]

end Members

/-! ### Atoms -/

lemma readValue_str (text rest : List Char) :
    readValue (depth + 1) ('"' :: (text.flatMap escape ++ '"' :: rest)) =
      (.str (.ofText text), some rest) := by
  rw [readValue, skipBlanks_cons (by decide)]
  simp only [readToken_flatMap_escape]

lemma isGap_eq_false_of_isDigit (h : c.isDigit = true) : isGap c = false := by
  rw [← Bool.not_eq_true]
  simp only [isGap, Bool.or_eq_true, decide_eq_true_eq]
  rintro (((rfl | rfl) | rfl) | rfl) <;> cases h

lemma readValue_nat {n : Nat} (hn : n < UInt64.size) (hrest : EndsNumber rest) :
    readValue (depth + 1) (Nat.toDigits 10 n ++ rest) = (.number (.int n), some rest) := by
  obtain ⟨d, digits, hdigits, hdigit⟩ := exists_toDigits_cons n
  have hnumber := number?_toDigits hn hrest
  rw [hdigits, List.cons_append] at hnumber ⊢
  rw [readValue, skipBlanks_cons (isGap_eq_false_of_isDigit hdigit)]
  split
  case h_7 => rw [hnumber]
  -- Nothing else starts with a digit.
  all_goals
    rename_i heq
    cases heq
    cases hdigit

lemma readValue_null (rest : List Char) :
    readValue (depth + 1) ("null".toList ++ rest) = (.null, some rest) := rfl

lemma readValue_bool (b : Bool) (rest : List Char) :
    readValue (depth + 1) ((if b then "true" else "false").toList ++ rest) =
      (.bool b, some rest) := by
  cases b <;> rfl

lemma toList_toString_natCast (n : Nat) : (toString (n : Int)).toList = Nat.toDigits 10 n := by
  exact Nat.toList_repr

/-! ### Values -/

lemma exists_cons_of_spells (hwhole : Whole value) (h : Spells value s) :
    ∃ c t, s = c :: t ∧ isGap c = false ∧ c ≠ ']' := by
  cases value with
  | null => exact ⟨'n', _, h, by decide⟩
  | bool b => cases b <;> exact ⟨_, _, h, by decide⟩
  | int n =>
    obtain ⟨n, rfl⟩ := Int.eq_ofNat_of_zero_le hwhole.1
    obtain ⟨c, digits, hdigits, hdigit⟩ := exists_toDigits_cons n
    refine ⟨c, digits, (h.trans (toList_toString_natCast n)).trans hdigits,
      isGap_eq_false_of_isDigit hdigit, ?_⟩
    rintro rfl
    cases hdigit
  | real x => exact hwhole.elim
  | str text => exact ⟨_, _, h.trans (toList_quote text), by decide⟩
  | arr items =>
    obtain ⟨inner, -, hs⟩ := h
    exact ⟨_, _, hs, by decide⟩
  | obj members =>
    obtain ⟨inner, -, hs⟩ := h
    exact ⟨_, _, hs, by decide⟩

lemma endsNumber_append (hgap : IsGap gap) (hc : c ∈ [',', ']', '\x7d']) (rest : List Char) :
    EndsNumber (gap ++ c :: rest) := by
  have hends : ∀ d ∈ [' ', '\n', '\t', '\r', ',', ']', '\x7d'],
      d.isDigit = false ∧ d ≠ '.' ∧ d ≠ 'e' ∧ d ≠ 'E' := by simp [Char.isDigit]
  intro d hd
  refine hends d ?_
  cases gap with
  | nil =>
    obtain rfl : c = d := by simpa using hd
    exact List.mem_append_right [' ', '\n', '\t', '\r'] hc
  | cons e gap =>
    obtain rfl : e = d := by simpa using hd
    have he := hgap e List.mem_cons_self
    simp only [isGap, Bool.or_eq_true, decide_eq_true_eq] at he
    obtain ((rfl | rfl) | rfl) | rfl := he <;> decide

lemma readValue_append (hgap : IsGap gap) (depth : Nat) (s : List Char) :
    readValue depth (gap ++ s) = readValue depth s := by
  rw [← readValue_skipBlanks, skipBlanks_append hgap, readValue_skipBlanks]

/-- A text that is read with anything behind it is read between gaps, up to a mark of the JSON. -/
lemma readValue_between {front text back : List Char} (hfront : IsGap front) (hback : IsGap back)
    (hread : ∀ rest, EndsNumber rest → readValue depth (text ++ rest) = (item, some rest))
    (hc : c ∈ [',', ']', '\x7d']) (u : List Char) :
    readValue depth (front ++ (text ++ (back ++ c :: u))) = (item, some (back ++ c :: u)) := by
  rw [readValue_append hfront]
  exact hread _ (endsNumber_append hback hc u)

lemma length_pos_of_spells (hwhole : Whole value) (h : Spells value s) : 0 < s.length := by
  obtain ⟨c, t, rfl, -⟩ := exists_cons_of_spells hwhole h
  exact Nat.succ_pos _

/-- The first item stands behind a gap. -/
lemma exists_skipBlanks_of_spellsItems {items : List Json} (hwhole : WholeItems items)
    (hne : items ≠ []) (h : SpellsItems items s) (rest : List Char) :
    ∃ c t, skipBlanks (s ++ rest) = c :: t ∧ c ≠ ']' := by
  cases items with
  | nil => exact absurd rfl hne
  | cons item items =>
    obtain ⟨_, more, ⟨front, text, back, hfront, htext, hback, rfl⟩, rfl, -⟩ := h
    obtain ⟨c, t, rfl, hgap, hc⟩ := exists_cons_of_spells hwhole.1 htext
    refine ⟨c, t ++ (back ++ (more ++ rest)), ?_, hc⟩
    simp only [List.append_assoc, skipBlanks_append hfront, List.cons_append, skipBlanks_cons hgap]

/-- The first key stands behind a gap. -/
lemma exists_skipBlanks_of_spellsMembers {members : List (String × Json)} (hne : members ≠ [])
    (h : SpellsMembers members s) (rest : List Char) :
    ∃ t, skipBlanks (s ++ rest) = '"' :: t := by
  cases members with
  | nil => exact absurd rfl hne
  | cons member members =>
    obtain ⟨_, text, more, ⟨front, _, back, hfront, rfl, hback, rfl⟩, -, rfl, -⟩ := h
    refine ⟨member.1.toList.flatMap escape ++
      '"' :: (back ++ ':' :: (text ++ (more ++ rest))), ?_⟩
    simp only [List.append_assoc, skipBlanks_append hfront, toList_quote, List.cons_append,
      List.nil_append]
    exact skipBlanks_cons (by decide) _

mutual

lemma readValue_of_spells : ∀ (value : Json) {s rest : List Char} {depth : Nat}, Whole value →
    Spells value s → EndsNumber rest → s.length < depth →
    readValue depth (s ++ rest) = (asDraft value, some rest)
  | .null, _, rest, depth + 1, _, rfl, _, _ => readValue_null rest
  | .bool b, _, rest, depth + 1, _, rfl, _, _ => readValue_bool b rest
  | .int n, _, rest, depth + 1, hwhole, rfl, hrest, _ => by
    obtain ⟨n, rfl⟩ := Int.eq_ofNat_of_zero_le hwhole.1
    rw [atomText, toList_toString_natCast]
    exact readValue_nat (by exact_mod_cast hwhole.2) hrest
  | .real _, _, _, _, hwhole, _, _, _ => hwhole.elim
  | .str text, _, rest, depth + 1, _, rfl, _, _ => by
    rw [atomText, toList_quote, List.cons_append, List.append_assoc, List.singleton_append]
    exact readValue_str text.toList rest
  | .arr items, _, rest, depth + 1, hwhole, ⟨inner, hinner, hs⟩, hrest, hdepth => by
    rw [hs, List.length_cons, List.length_append, List.length_singleton] at hdepth
    rw [hs, List.cons_append, List.append_assoc, List.singleton_append]
    by_cases hne : items = []
    · subst hne
      exact readValue_emptyArray (skipBlanks_append_cons hinner (by decide) rest)
    · obtain ⟨c, t, hhead, hc⟩ := exists_skipBlanks_of_spellsItems hwhole hne hinner (']' :: rest)
      rw [readValue_array hhead hc, readItems_of_spells items rest hne hwhole hinner (by omega)]
      rfl
  | .obj members, _, rest, depth + 1, hwhole, ⟨inner, hinner, hs⟩, hrest, hdepth => by
    rw [hs, List.length_cons, List.length_append, List.length_singleton] at hdepth
    rw [hs, List.cons_append, List.append_assoc, List.singleton_append]
    by_cases hne : members = []
    · subst hne
      exact readValue_emptyObject (skipBlanks_append_cons hinner (by decide) rest)
    · obtain ⟨t, hhead⟩ := exists_skipBlanks_of_spellsMembers hne hinner ('\x7d' :: rest)
      rw [readValue_object hhead (by decide),
        readMembers_of_spells members rest hne hwhole hinner (by omega)]
      rfl

lemma readItems_of_spells : ∀ (items : List Json) {s : List Char} (rest : List Char) {depth : Nat},
    items ≠ [] → WholeItems items → SpellsItems items s → s.length + 1 < depth →
    readItems depth (s ++ ']' :: rest) = (itemDrafts items, some rest)
  | [], _, _, _, hne, _, _, _ => absurd rfl hne
  | item :: items, s, rest, depth + 1, _, hwhole, h, hdepth => by
    obtain ⟨_, more, ⟨front, text, back, hfront, htext, hback, rfl⟩, rfl, hmore⟩ := h
    simp only [List.length_append] at hdepth
    have hread : ∀ rest, EndsNumber rest →
        readValue depth (text ++ rest) = (asDraft item, some rest) :=
      fun rest hrest => readValue_of_spells item hwhole.1 htext hrest (by omega)
    split at hmore
    · rename_i hempty
      obtain rfl : items = [] := List.isEmpty_iff.mp hempty
      subst hmore
      simp only [List.append_assoc, List.nil_append]
      exact readItems_last (readValue_between hfront hback hread (by decide) rest)
        (skipBlanks_append_cons hback (by decide) rest)
    · rename_i hempty
      obtain ⟨inner, hinner, rfl⟩ := hmore
      have hne : items ≠ [] := fun hnil => hempty (by rw [hnil]; rfl)
      have hcomma := skipBlanks_append_cons (c := ',') hback (by decide) (inner ++ ']' :: rest)
      obtain ⟨c, t, hhead, hc⟩ := exists_skipBlanks_of_spellsItems hwhole.2 hne hinner (']' :: rest)
      have hlength := length_pos_of_spells hwhole.1 htext
      rw [List.length_cons] at hdepth
      have hothers : readItems depth (inner ++ ']' :: rest) = (itemDrafts items, some rest) :=
        readItems_of_spells items rest hne hwhole.2 hinner (by omega)
      simp only [List.append_assoc, List.cons_append]
      rw [readItems_comma (readValue_between hfront hback hread (by decide) _) hcomma hhead hc,
        hothers]
      rfl

lemma readMembers_of_spells : ∀ (members : List (String × Json)) {s : List Char}
    (rest : List Char) {depth : Nat}, members ≠ [] → WholeMembers members →
    SpellsMembers members s → s.length + 1 < depth →
    readMembers depth (s ++ '\x7d' :: rest) = (memberDrafts members, some rest)
  | [], _, _, _, hne, _, _, _ => absurd rfl hne
  | (key, value) :: members, s, rest, depth + 1, _, hwhole, h, hdepth => by
    obtain ⟨_, _, more, ⟨left, _, right, hleft, rfl, hright, rfl⟩,
      ⟨front, text, back, hfront, htext, hback, rfl⟩, rfl, hmore⟩ := h
    simp only [List.length_append, List.length_cons] at hdepth
    have hquote : ∀ u, skipBlanks (left ++ ((quote key).toList ++ u)) =
        '"' :: (key.toList.flatMap escape ++ '"' :: u) := by
      intro u
      rw [skipBlanks_append hleft, toList_quote, List.cons_append, List.append_assoc]
      exact skipBlanks_cons (by decide) _
    have hkey := readToken_flatMap_escape key.toList
    have hcolon : ∀ u, skipBlanks (right ++ ':' :: u) = ':' :: u :=
      skipBlanks_append_cons hright (by decide)
    have hread : ∀ rest, EndsNumber rest →
        readValue depth (text ++ rest) = (asDraft value, some rest) :=
      fun rest hrest => readValue_of_spells value hwhole.1 htext hrest (by omega)
    split at hmore
    · rename_i hempty
      obtain rfl : members = [] := List.isEmpty_iff.mp hempty
      subst hmore
      simp only [List.append_assoc, List.nil_append, List.cons_append]
      exact readMembers_last (hquote _) (hkey _) (hcolon _)
        (readValue_between hfront hback hread (by decide) rest)
        (skipBlanks_append_cons hback (by decide) rest)
    · rename_i hempty
      obtain ⟨inner, hinner, rfl⟩ := hmore
      have hne : members ≠ [] := fun hnil => hempty (by rw [hnil]; rfl)
      have hcomma := skipBlanks_append_cons (c := ',') hback (by decide) (inner ++ '\x7d' :: rest)
      have hlength := length_pos_of_spells hwhole.1 htext
      rw [List.length_cons] at hdepth
      have hothers : readMembers depth (inner ++ '\x7d' :: rest) =
          (memberDrafts members, some rest) :=
        readMembers_of_spells members rest hne hwhole.2 hinner (by omega)
      simp only [List.append_assoc, List.cons_append]
      rw [readMembers_comma (hquote _) (hkey _) (hcolon _)
        (readValue_between hfront hback hread (by decide) _) hcomma, hothers]
      rfl

end

/-- A text that spells a value is read as the value, to its end. -/
theorem draft_of_spells {text : String} (hwhole : Whole value) (h : Spells value text.toList) :
    draft text = (asDraft value, true) := by
  have hends : EndsNumber [] := nofun
  have hdepth : text.toList.length < text.length + 1 := by
    rw [String.length_toList]
    exact Nat.lt_succ_self _
  have hread := readValue_of_spells value hwhole h hends hdepth
  rw [List.append_nil] at hread
  rw [draft, hread]
  rfl

/-- However a value is spelled, it is decoded alike. -/
lemma decodeText_of_spells {α : Type} {decode : Draft → Except DecodeError α} {text : String}
    (hwhole : Whole value) (h : Spells value text.toList) :
    decodeText decode text = decode (asDraft value) := by
  rw [decodeText, draft_of_spells hwhole h]
  dsimp only
  cases decode (asDraft value) <;> rfl

end TileBench.Json
