/-!
# Maps in key order

A map is the list of its entries in strictly ascending order of the keys, so two maps with the same
bindings are equal. Inserting a bound key replaces its value.
-/

namespace TileBench

/-- Finitely many bindings, in ascending order of the keys. -/
structure OrderedMap (κ α : Type) [LT κ] where
  /-- The bindings in order. -/
  entries : List (κ × α)
  sorted : entries.Pairwise fun p q => p.1 < q.1

variable {κ α : Type} [LT κ]

/-- Equal bindings make equal maps. -/
@[ext] theorem OrderedMap.ext {m n : OrderedMap κ α} (h : m.entries = n.entries) : m = n := by
  cases m; cases n; simp_all

instance [DecidableEq κ] [DecidableEq α] : DecidableEq (OrderedMap κ α) := fun m n =>
  if h : m.entries = n.entries then isTrue (OrderedMap.ext h) else isFalse fun e => h (e ▸ rfl)

def OrderedMap.empty : OrderedMap κ α := ⟨[], .nil⟩

/-- The value that stands with a key. -/
def valueAt? [DecidableEq κ] (key : κ) (entries : List (κ × α)) : Option α :=
  (entries.find? fun entry => entry.1 = key).map (·.2)

def OrderedMap.get? [DecidableEq κ] (m : OrderedMap κ α) (key : κ) : Option α :=
  valueAt? key m.entries

@[simp] theorem OrderedMap.get?_empty [DecidableEq κ] (key : κ) :
    (empty : OrderedMap κ α).get? key = none := rfl

/-! ### Insertion -/

variable [DecidableLT κ] [DecidableEq κ]

/-- Puts a binding at its place among ordered ones. -/
def insertEntry (key : κ) (value : α) : List (κ × α) → List (κ × α)
  | [] => [(key, value)]
  | entry :: rest =>
    if key < entry.1 then (key, value) :: entry :: rest
    else if key = entry.1 then (key, value) :: rest
    else entry :: insertEntry key value rest

private theorem fst_mem_insertEntry {key : κ} {value : α} {entries : List (κ × α)} {p : κ × α}
    (h : p ∈ insertEntry key value entries) : p.1 = key ∨ p ∈ entries := by
  induction entries with
  | nil => simp_all [insertEntry]
  | cons entry rest ih =>
    simp only [insertEntry] at h
    split at h
    · simp only [List.mem_cons] at h ⊢
      rcases h with rfl | h
      · exact .inl rfl
      · exact .inr h
    · split at h
      · rcases List.mem_cons.1 h with rfl | h
        · exact .inl rfl
        · exact .inr (List.mem_cons_of_mem _ h)
      · rcases List.mem_cons.1 h with rfl | h
        · exact .inr List.mem_cons_self
        · exact (ih h).imp id (List.mem_cons_of_mem _)

theorem valueAt?_insertEntry (key other : κ) (value : α) (entries : List (κ × α)) :
    valueAt? other (insertEntry key value entries) =
      if other = key then some value else valueAt? other entries := by
  induction entries with
  | nil =>
    by_cases h : other = key
    · simp [insertEntry, valueAt?, h]
    · simp [insertEntry, valueAt?, h, Ne.symm h]
  | cons entry rest ih =>
    simp only [insertEntry]
    split
    · by_cases h : other = key
      · simp [valueAt?, h]
      · simp [valueAt?, h, Ne.symm h]
    · split
      · rename_i heq
        subst heq
        by_cases h : other = entry.1
        · simp [valueAt?, h]
        · simp [valueAt?, h, Ne.symm h]
      · rename_i hne
        by_cases h : entry.1 = other
        · have hk : other ≠ key := fun e => hne (by rw [h, e])
          simp [valueAt?, h, hk]
        · simpa [valueAt?, h] using ih

variable [LE κ] [Std.IsLinearOrder κ] [Std.LawfulOrderLT κ]

theorem insertEntry_sorted (key : κ) (value : α) {entries : List (κ × α)}
    (h : entries.Pairwise fun p q => p.1 < q.1) :
    (insertEntry key value entries).Pairwise fun p q => p.1 < q.1 := by
  induction entries with
  | nil => simp [insertEntry]
  | cons entry rest ih =>
    have hrest := List.pairwise_cons.1 h
    simp only [insertEntry]
    split
    · rename_i hlt
      refine List.pairwise_cons.2 ⟨fun p hp => ?_, h⟩
      rcases List.mem_cons.1 hp with rfl | hp
      · exact hlt
      · exact Std.lt_trans hlt (hrest.1 p hp)
    · split
      · rename_i _ heq
        exact List.pairwise_cons.2 ⟨fun p hp => heq ▸ hrest.1 p hp, hrest.2⟩
      · rename_i hlt hne
        refine List.pairwise_cons.2 ⟨fun p hp => ?_, ih hrest.2⟩
        rcases fst_mem_insertEntry hp with hp | hp
        · exact hp ▸ Std.lt_of_le_of_ne (Std.not_lt.1 hlt) fun e => hne e.symm
        · exact hrest.1 p hp

namespace OrderedMap

/-- Binds a key, in place of what it was bound to. -/
def insert (m : OrderedMap κ α) (key : κ) (value : α) : OrderedMap κ α :=
  ⟨insertEntry key value m.entries, insertEntry_sorted key value m.sorted⟩

/-- The map of a list of bindings, of which the last one for a key counts. -/
def ofList (entries : List (κ × α)) : OrderedMap κ α :=
  entries.foldl (fun m entry => m.insert entry.1 entry.2) empty

theorem get?_insert (m : OrderedMap κ α) (key other : κ) (value : α) :
    (m.insert key value).get? other = if other = key then some value else m.get? other :=
  valueAt?_insertEntry key other value m.entries

end OrderedMap

end TileBench
