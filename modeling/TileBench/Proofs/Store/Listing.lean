import TileBench.Proofs.Store.Deletion

/-!
# What a directory lists

A directory lists the names of what stands in it, in the order of the entries of the store. Nothing
else depends on that order: stores with the same entries are walked and read alike.
-/

namespace TileBench.Store

open Text

variable {s t : Store} {place here : Place} {path name : String} {listed : List String}

/-! ### Entries in another order -/

section Reordered

variable (hperm : s.entries.Perm t.entries) (hcwd : s.cwd = t.cwd)

include hperm

/-- The order of the entries makes no difference to what stands where. -/
lemma entryAt?_perm : s.entryAt? = t.entryAt? := by
  funext place
  by_cases hroot : place = []
  · rw [entryAt?, entryAt?, if_pos hroot, if_pos hroot]
  · refine Option.ext fun entry => ?_
    rw [entryAt?_eq_some_iff hroot, entryAt?_eq_some_iff hroot, hperm.mem_iff]

lemma walk_perm (links : Nat) (here : Place) (steps : List String) :
    s.walk links here steps = t.walk links here steps := by
  have hentry := entryAt?_perm hperm
  fun_induction s.walk links here steps <;> rw [walk.eq_def t] <;>
    simp_all +zetaDelta [Nat.not_lt_of_ge]

include hcwd

lemma find_perm (path : String) : s.find path = t.find path := by
  unfold find follow
  rw [walk_perm hperm, hcwd]

lemma read_perm (path : String) : s.read path = t.read path := by
  unfold read
  rw [find_perm hperm hcwd]

lemma isFile_perm (path : String) : s.isFile path = t.isFile path := by
  unfold isFile
  rw [find_perm hperm hcwd]

end Reordered

/-! ### Names in a directory -/

def namesIn (s : Store) (here : Place) : List String :=
  s.entries.filterMap fun entry => if entry.1.dropLast = here then entry.1.getLast? else none

lemma landing?_eq_directory_iff {spot : Except FileError Spot} :
    landing? spot = some (.directory here) ↔ spot = .ok (.taken here .directory) := by
  rcases spot with _ | ⟨_, _ | _ | _ | _⟩ | _ <;> simp [landing?]

lemma list_eq_ok_iff : s.list path = .ok listed ↔
    ∃ here, s.find path = .ok (.taken here .directory) ∧ s.namesIn here = listed := by
  unfold list
  rw [bind_eq_ok_iff]
  constructor
  · rintro ⟨spot, hspot, hlisted⟩
    rcases spot with ⟨here, _ | _ | _ | _⟩ | _ <;> cases hlisted
    exact ⟨here, hspot, rfl⟩
  · rintro ⟨here, hspot, rfl⟩
    exact ⟨_, hspot, rfl⟩

/-- The directory is the one in front of the last name of a place. -/
lemma dropLast_eq_and_getLast?_iff :
    place.dropLast = here ∧ place.getLast? = some name ↔ place = here ++ [name] := by
  rw [List.getLast?_eq_some_iff]
  constructor
  · rintro ⟨rfl, front, rfl⟩
    rw [List.dropLast_concat]
  · rintro rfl
    exact ⟨List.dropLast_concat, here, rfl⟩

lemma namesIn_eq (here : Place) : s.namesIn here =
    (s.entries.map Prod.fst).filterMap fun place =>
      if place.dropLast = here then place.getLast? else none := by
  rw [List.filterMap_map]
  rfl

/-- A directory lists a name if something stands there. -/
lemma mem_namesIn :
    name ∈ s.namesIn here ↔ ∃ entry, s.entryAt? (here ++ [name]) = some entry := by
  simp only [entryAt?_eq_some_iff (List.concat_ne_nil _ _), namesIn, List.mem_filterMap,
    Option.ite_none_right_eq_some, dropLast_eq_and_getLast?_iff]
  constructor
  · rintro ⟨⟨_, entry⟩, hmem, rfl⟩
    exact ⟨entry, hmem⟩
  · rintro ⟨entry, hmem⟩
    exact ⟨_, hmem, rfl⟩

lemma nodup_namesIn (s : Store) (here : Place) : (s.namesIn here).Nodup := by
  rw [namesIn_eq]
  refine s.distinct.filterMap fun place place' name hname hname' => ?_
  simp only [Option.mem_def, Option.ite_none_right_eq_some, dropLast_eq_and_getLast?_iff]
    at hname hname'
  rw [hname, hname']

/-- A directory that can be listed lists the same names, whatever the order of the entries. -/
lemma exists_list_perm (hperm : s.entries.Perm t.entries) (hcwd : s.cwd = t.cwd)
    (hlist : s.list path = .ok listed) :
    ∃ listed', t.list path = .ok listed' ∧ listed.Perm listed' := by
  obtain ⟨here, hfind, rfl⟩ := list_eq_ok_iff.mp hlist
  rw [find_perm hperm hcwd] at hfind
  exact ⟨_, list_eq_ok_iff.mpr ⟨here, hfind, rfl⟩, hperm.filterMap _⟩

end TileBench.Store
