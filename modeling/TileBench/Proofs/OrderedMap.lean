import TileBench.OrderedMap
import Mathlib.Data.List.Nodup
import Mathlib.Tactic.Lemma

/-!
# Bindings inserted in turn

A map that is made by inserting bindings in turn binds each key to the value that came last. So its
entries are the *last bindings* of the list, put in order, and they are all of the list exactly if
no key stands there twice.
-/

namespace TileBench

/-! ### Lists of bindings -/

section Lists

variable {κ α : Type} [DecidableEq κ] {key : κ} {value : α} {entries : List (κ × α)}

lemma valueAt?_append (key : κ) (front back : List (κ × α)) :
    valueAt? key (front ++ back) = (valueAt? key front).or (valueAt? key back) := by
  simp [valueAt?, List.find?_append, Option.map_or]

lemma valueAt?_cons (key : κ) (entry : κ × α) (rest : List (κ × α)) : valueAt? key (entry :: rest) =
    if key = entry.1 then some entry.2 else valueAt? key rest := by
  by_cases hkey : key = entry.1
  · simp [valueAt?, hkey]
  · simp [valueAt?, hkey, Ne.symm hkey]

lemma valueAt?_eq_none_iff : valueAt? key entries = none ↔ ∀ entry ∈ entries, entry.1 ≠ key := by
  simp [valueAt?]

lemma mem_of_valueAt? (h : valueAt? key entries = some value) : (key, value) ∈ entries := by
  obtain ⟨entry, hfound, rfl⟩ := Option.map_eq_some_iff.mp h
  have hkey : entry.1 = key := by simpa using List.find?_some hfound
  rw [← hkey]
  exact List.mem_of_find?_eq_some hfound

/-- Where no key stands twice, a key has the value that stands with it. -/
lemma valueAt?_eq_some_iff (h : (entries.map Prod.fst).Nodup) :
    valueAt? key entries = some value ↔ (key, value) ∈ entries := by
  refine ⟨mem_of_valueAt?, fun hmem => ?_⟩
  cases hfound : valueAt? key entries with
  | none => exact absurd rfl (valueAt?_eq_none_iff.mp hfound _ hmem)
  | some other =>
    have hsame := List.inj_on_of_nodup_map h (mem_of_valueAt? hfound) hmem rfl
    cases hsame
    rfl

/-- The list binds the key to the value, and does not bind it again behind that. -/
def BindsLast (entries : List (κ × α)) (key : κ) (value : α) : Prop :=
  ∃ front back, entries = front ++ (key, value) :: back ∧ ∀ later ∈ back, later.1 ≠ key

/-- From behind, the first value of a key is the one that no other follows. -/
lemma valueAt?_reverse_eq_some_iff :
    valueAt? key entries.reverse = some value ↔ BindsLast entries key value := by
  rw [valueAt?, Option.map_eq_some_iff]
  constructor
  · rintro ⟨entry, hfound, rfl⟩
    obtain ⟨hkey, back, front, hentries, hback⟩ := List.find?_eq_some_iff_append.mp hfound
    obtain rfl : entry.1 = key := of_decide_eq_true hkey
    refine ⟨front.reverse, back.reverse, ?_, fun later hlater hsame => ?_⟩
    · rw [List.reverse_eq_append_iff.mp hentries, List.reverse_cons, List.append_assoc]
      rfl
    · simpa [hsame] using hback later (List.mem_reverse.mp hlater)
  · rintro ⟨front, back, rfl, hback⟩
    refine ⟨(key, value), List.find?_eq_some_iff_append.mpr ⟨decide_eq_true rfl, back.reverse,
      front.reverse, by simp, fun later hlater => ?_⟩, rfl⟩
    simpa using hback later (List.mem_reverse.mp hlater)

def lastBindings : List (κ × α) → List (κ × α)
  | [] => []
  | entry :: rest =>
    if rest.any fun later => later.1 = entry.1 then lastBindings rest
    else entry :: lastBindings rest

lemma lastBindings_sublist (entries : List (κ × α)) : (lastBindings entries).Sublist entries := by
  induction entries with
  | nil => exact .slnil
  | cons entry rest ih =>
    rw [lastBindings]
    split
    · exact ih.cons _
    · exact ih.cons_cons _

lemma nodup_lastBindings (entries : List (κ × α)) :
    ((lastBindings entries).map Prod.fst).Nodup := by
  induction entries with
  | nil => exact .nil
  | cons entry rest ih =>
    rw [lastBindings]
    split
    · exact ih
    · rename_i hnew
      refine List.nodup_cons.mpr ⟨fun hmem => hnew ?_, ih⟩
      obtain ⟨later, hlater, hkey⟩ := List.mem_map.mp hmem
      exact List.any_eq_true.mpr
        ⟨later, (lastBindings_sublist rest).subset hlater, decide_eq_true hkey⟩

/-- The last binding of a key is the first one from behind. -/
lemma mem_lastBindings_iff :
    (key, value) ∈ lastBindings entries ↔ valueAt? key entries.reverse = some value := by
  rw [← valueAt?_eq_some_iff (nodup_lastBindings entries)]
  suffices hsame : valueAt? key (lastBindings entries) = valueAt? key entries.reverse by rw [hsame]
  induction entries with
  | nil => rfl
  | cons entry rest ih =>
    rw [List.reverse_cons, valueAt?_append, ← ih, lastBindings]
    split
    · rename_i hagain
      by_cases hkey : entry.1 = key
      · -- The key stands in the rest, so what stands here does not count.
        obtain ⟨later, hlater, hsame⟩ := List.any_eq_true.mp hagain
        cases hrest : valueAt? key (lastBindings rest) with
        | some found => rfl
        | none =>
          rw [ih] at hrest
          refine absurd ((of_decide_eq_true hsame).trans hkey) ?_
          exact valueAt?_eq_none_iff.mp hrest later (List.mem_reverse.mpr hlater)
      · have hnone : valueAt? key [entry] = none :=
          valueAt?_eq_none_iff.mpr (List.forall_mem_singleton.mpr hkey)
        rw [hnone, Option.or_none]
    · rename_i hlast
      by_cases hkey : entry.1 = key
      · have hnone : valueAt? key (lastBindings rest) = none := by
          refine valueAt?_eq_none_iff.mpr fun later hlater hsame => hlast ?_
          exact List.any_eq_true.mpr ⟨later, (lastBindings_sublist rest).subset hlater,
            decide_eq_true (hsame.trans hkey.symm)⟩
        rw [hnone, Option.none_or]
        simp [valueAt?, hkey]
      · simp [valueAt?, hkey]

/-- All bindings of a list are last ones exactly if no key stands twice. -/
lemma lastBindings_eq_self_iff : lastBindings entries = entries ↔ (entries.map Prod.fst).Nodup := by
  constructor
  · intro h
    rw [← h]
    exact nodup_lastBindings entries
  · intro h
    induction entries with
    | nil => rfl
    | cons entry rest ih =>
      obtain ⟨hnew, hrest⟩ := List.nodup_cons.mp h
      rw [lastBindings, if_neg, ih hrest]
      intro hagain
      obtain ⟨later, hlater, hsame⟩ := List.any_eq_true.mp hagain
      exact hnew (List.mem_map.mpr ⟨later, hlater, of_decide_eq_true hsame⟩)

end Lists

/-! ### Maps -/

section Maps

variable {κ α : Type} [LT κ] [LE κ] [Std.LawfulOrderLT κ]

lemma OrderedMap.nodup_keys (m : OrderedMap κ α) : (m.entries.map Prod.fst).Nodup :=
  List.pairwise_map.mpr (m.sorted.imp Std.ne_of_lt)

lemma OrderedMap.mem_entries_iff [DecidableEq κ] {m : OrderedMap κ α} {key : κ} {value : α} :
    (key, value) ∈ m.entries ↔ m.get? key = some value :=
  (valueAt?_eq_some_iff m.nodup_keys).symm

/-- A map is told by what it binds the keys to. -/
lemma OrderedMap.ext_get? [DecidableEq κ] {m n : OrderedMap κ α}
    (h : ∀ key, m.get? key = n.get? key) : m = n := by
  have hmem : ∀ entry, entry ∈ m.entries ↔ entry ∈ n.entries := by
    rintro ⟨key, value⟩
    rw [mem_entries_iff, mem_entries_iff, h]
  have hperm : m.entries.Perm n.entries :=
    (List.perm_ext_iff_of_nodup m.nodup_keys.of_map n.nodup_keys.of_map).mpr hmem
  apply OrderedMap.ext
  exact hperm.eq_of_pairwise (fun p q _ _ hpq hqp => absurd hqp (Std.not_gt_of_lt hpq)) m.sorted
    n.sorted

variable [DecidableLT κ] [DecidableEq κ] [Std.IsLinearOrder κ] {key : κ} {value : α}
  {entries : List (κ × α)}

/-- Behind smaller keys a binding is inserted at the end. -/
lemma insertEntry_eq_concat (h : ∀ entry ∈ entries, entry.1 < key) :
    insertEntry key value entries = entries ++ [(key, value)] := by
  induction entries with
  | nil => rfl
  | cons entry rest ih =>
    obtain ⟨hentry, hrest⟩ := List.forall_mem_cons.mp h
    rw [insertEntry, if_neg (Std.not_lt.mpr (Std.le_of_lt hentry)),
      if_neg (Std.ne_of_lt hentry).symm, ih hrest, List.cons_append]

namespace OrderedMap

lemma get?_foldl_insert (m : OrderedMap κ α) (entries : List (κ × α)) (key : κ) :
    (entries.foldl (fun m entry => m.insert entry.1 entry.2) m).get? key =
      (valueAt? key entries.reverse).or (m.get? key) := by
  induction entries generalizing m with
  | nil => rfl
  | cons entry rest ih =>
    rw [List.foldl_cons, ih, get?_insert, List.reverse_cons, valueAt?_append, Option.or_assoc,
      valueAt?_cons]
    congr 1
    split <;> rfl

/-- A map that is made of a list binds each key as the list does last. -/
lemma get?_ofList (entries : List (κ × α)) (key : κ) :
    (ofList entries).get? key = valueAt? key entries.reverse := by
  rw [ofList, get?_foldl_insert, get?_empty, Option.or_none]

lemma mem_of_get?_ofList (h : (ofList entries).get? key = some value) : (key, value) ∈ entries := by
  rw [get?_ofList] at h
  exact List.mem_reverse.mp (mem_of_valueAt? h)

/-- The entries of a map that is made of a list are the last bindings of the list. -/
lemma entries_ofList_perm (entries : List (κ × α)) :
    (ofList entries).entries.Perm (lastBindings entries) := by
  have hlast := (nodup_lastBindings entries).of_map
  refine (List.perm_ext_iff_of_nodup (nodup_keys _).of_map hlast).mpr ?_
  rintro ⟨key, value⟩
  rw [mem_entries_iff, get?_ofList, mem_lastBindings_iff]

/-- Keys that differ may be bound in either order. -/
lemma insert_comm (m : OrderedMap κ α) {key other : κ} (hne : key ≠ other) (a b : α) :
    (m.insert key a).insert other b = (m.insert other b).insert key a := by
  apply ext_get?
  intro k
  simp only [get?_insert]
  by_cases hkey : k = key
  · rw [if_neg (hkey ▸ hne), if_pos hkey, if_pos hkey]
  · rw [if_neg hkey, if_neg hkey]

/-- A map is made of its own entries. -/
lemma ofList_entries (m : OrderedMap κ α) : ofList m.entries = m := by
  suffices hfold : ∀ (entries : List (κ × α)) (front : OrderedMap κ α),
      (front.entries ++ entries).Pairwise (fun p q => p.1 < q.1) →
      (entries.foldl (fun m entry => m.insert entry.1 entry.2) front).entries =
        front.entries ++ entries from
    OrderedMap.ext (hfold m.entries .empty m.sorted)
  intro entries
  -- Each binding comes behind those that are in the map already.
  induction entries with
  | nil => exact fun front _ => (List.append_nil _).symm
  | cons entry rest ih =>
    intro front hsorted
    have hinsert : (front.insert entry.1 entry.2).entries = front.entries ++ [entry] :=
      insertEntry_eq_concat fun p hp =>
        (List.pairwise_append.mp hsorted).2.2 p hp entry List.mem_cons_self
    rw [List.append_cons, ← hinsert] at hsorted ⊢
    exact ih _ hsorted

end OrderedMap

end Maps

end TileBench
