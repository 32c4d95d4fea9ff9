import TileBench.Proofs.Except
import TileBench.Proofs.Text.Encoding
import TileBench.Store
import Mathlib.Data.List.Nodup

/-!
# Entries and files of the working directory

No place has two entries, so what stands at a place is its entry. The way to the working directory
does not change. A *plain* name is walked in one step, so it leads to the entry of that name in the
working directory.
-/

namespace TileBench.Store

variable (s : Store) {place other : Place} {entry : Entry} {name : String}

/-! ### Entries -/

section Entries

variable {s}

/-- What stands at a place other than the root is its entry. -/
lemma entryAt?_eq_some_iff (hroot : place ≠ []) :
    s.entryAt? place = some entry ↔ (place, entry) ∈ s.entries := by
  simp only [entryAt?, if_neg hroot, Option.map_eq_some_iff]
  constructor
  · rintro ⟨⟨there, found⟩, hfind, rfl⟩
    obtain rfl : there = place := by simpa using List.find?_some hfind
    exact List.mem_of_find?_eq_some hfind
  · intro hmem
    obtain ⟨found, hfind⟩ : ∃ found, s.entries.find? (fun old => old.1 = place) = some found :=
      Option.isSome_iff_exists.mp (List.find?_isSome.mpr ⟨_, hmem, by simp⟩)
    have hplace : found.1 = place := by simpa using List.find?_some hfind
    have hfound : found = (place, entry) :=
      List.inj_on_of_nodup_map s.distinct (List.mem_of_find?_eq_some hfind) hmem hplace
    exact ⟨found, hfind, by rw [hfound]⟩

lemma entryAt?_eq_none (hroot : place ≠ []) (h : place ∉ s.entries.map Prod.fst) :
    s.entryAt? place = none := by
  rw [Option.eq_none_iff_forall_ne_some]
  exact fun entry hentry => h (List.mem_map.mpr ⟨_, (entryAt?_eq_some_iff hroot).mp hentry, rfl⟩)

/-- There are directories on the way to the working directory. -/
lemma entryAt?_of_onWay (h : place <+: s.cwd) : s.entryAt? place = some .directory := by
  by_cases hroot : place = []
  · rw [entryAt?, if_pos hroot]
  · exact (entryAt?_eq_some_iff hroot).mpr (s.reached place (Place.mem_steps_iff.mpr ⟨hroot, h⟩))

lemma ne_nil_of_offWay (h : ¬ place <+: s.cwd) : place ≠ [] := by
  rintro rfl
  exact h List.nil_prefix

end Entries

/-! ### Changes of an entry -/

@[simp] lemma cwd_put (place : Place) (entry : Entry) : (s.put place entry).cwd = s.cwd := by
  unfold put
  split <;> rfl

@[simp] lemma cwd_remove (place : Place) : (s.remove place).cwd = s.cwd := by
  unfold remove
  split <;> rfl

lemma entries_put (entry : Entry) (h : ¬ place <+: s.cwd) :
    (s.put place entry).entries = putEntry place entry s.entries := by
  rw [put, dif_neg h]

lemma entryAt?_put_self (entry : Entry) (h : ¬ place <+: s.cwd) :
    (s.put place entry).entryAt? place = some entry := by
  rw [entryAt?_eq_some_iff (ne_nil_of_offWay h), entries_put s entry h]
  unfold putEntry
  split
  · rename_i hany
    obtain ⟨old, hmem, hold⟩ := List.any_eq_true.mp hany
    exact List.mem_map.mpr ⟨old, hmem, if_pos (of_decide_eq_true hold)⟩
  · exact List.mem_append_right _ List.mem_cons_self

variable {s} in
lemma entryAt?_put_of_ne (entry : Entry) (hne : other ≠ place) :
    (s.put place entry).entryAt? other = s.entryAt? other := by
  by_cases hroot : other = []
  · rw [entryAt?, entryAt?, if_pos hroot, if_pos hroot]
  · refine Option.ext fun found => ?_
    rw [entryAt?_eq_some_iff hroot, entryAt?_eq_some_iff hroot]
    by_cases hway : place <+: s.cwd
    · rw [put, dif_pos hway]
    · rw [entries_put s entry hway]
      refine ⟨fun hmem => ?_, mem_putEntry hne⟩
      unfold putEntry at hmem
      split at hmem
      · obtain ⟨old, hold, hfound⟩ := List.mem_map.mp hmem
        split at hfound
        · cases hfound
          exact absurd rfl hne
        · exact hfound ▸ hold
      · simpa [hne] using hmem

/-! ### Plain names -/

/-- A plain name is the name of an entry of the working directory. -/
structure IsPlain (name : String) : Prop where
  ne_nil : name.toList ≠ []
  no_slash : '/' ∉ name.toList
  no_nul : '\x00' ∉ name.toList
  ne_dot : name ≠ "."
  ne_dots : name ≠ ".."
  short : name.utf8ByteSize ≤ maxNameBytes

/-- A name in the working directory is that of a file, or there is none. -/
def Writable (name : String) : Prop :=
  s.entryAt? (s.cwd ++ [name]) = none ∨
    ∃ contents executable, s.entryAt? (s.cwd ++ [name]) = some (.file contents executable)

/-- Without entries every name can be written. -/
lemma writable_empty (name : String) : empty.Writable name := .inl rfl

/-- The store with one file, which holds a text. -/
def ofText (name text : String) : Store where
  entries := [([name], .file (Text.bytesOf text) false)]
  distinct := List.nodup_singleton _
  reached := List.forall_mem_nil _

lemma names_of_no_slash (hne : name.toList ≠ []) (hslash : '/' ∉ name.toList) :
    names name = [name] := by
  have hsplit : name.toList.splitOn '/' = [name.toList] := List.splitOn_eq_singleton hslash
  simp only [names, hsplit, List.getLast?_singleton, Option.some.injEq, if_neg hne]
  simp [hne]

namespace IsPlain

variable (h : IsPlain name)

include h

lemma names_eq : names name = [name] := names_of_no_slash h.ne_nil h.no_slash

lemma isAbsolute_eq : isAbsolute name = false := by
  rw [isAbsolute, decide_eq_false_iff_not]
  exact fun hhead => h.no_slash (List.mem_of_head? hhead)

lemma endsInSlash_eq : endsInSlash name = false := by
  rw [endsInSlash, decide_eq_false_iff_not]
  exact fun hlast => h.no_slash (List.mem_of_getLast? hlast)

lemma follow_eq (steps : List String) :
    s.follow name steps = s.walk maxLinks s.cwd steps := by
  have hnul : name.toList.contains '\x00' = false := by simpa using h.no_nul
  have hempty : name.isEmpty = false := by
    rw [← Bool.not_eq_true, String.isEmpty_iff]
    rintro rfl
    exact h.ne_nil rfl
  have hshort : ¬ name.utf8ByteSize > maxPathBytes := by
    have hle := h.short
    simp only [maxNameBytes, maxPathBytes] at hle ⊢
    omega
  simp only [follow, hnul, hempty, hshort, startOf, h.isAbsolute_eq, Bool.false_eq_true, if_false]

lemma find_eq : s.find name = s.walk maxLinks s.cwd [name] := by
  rw [find, h.follow_eq, h.names_eq]

section Walk

variable {here : Place} (links : Nat) (rest : List String)

lemma walk_none (hentry : s.entryAt? (here ++ [name]) = none) :
    s.walk links here [name] = .ok (.free (here ++ [name])) := by
  have hlong : ¬ name.utf8ByteSize > maxNameBytes := Nat.not_lt.mpr h.short
  rw [walk.eq_def]
  simp [h.ne_dot, h.ne_dots, hlong, hentry]

/-- The plain name of a file leads to it. -/
lemma walk_file {contents : Text.Bytes} {executable : Bool}
    (hentry : s.entryAt? (here ++ [name]) = some (.file contents executable)) :
    s.walk links here [name] = .ok (.taken (here ++ [name]) (.file contents executable)) := by
  have hlong : ¬ name.utf8ByteSize > maxNameBytes := Nat.not_lt.mpr h.short
  rw [walk.eq_def]
  simp [h.ne_dot, h.ne_dots, hlong, hentry]

lemma walk_sealed {regular : Bool}
    (hentry : s.entryAt? (here ++ [name]) = some (.sealed regular)) :
    s.walk links here [name] = .ok (.taken (here ++ [name]) (.sealed regular)) := by
  have hlong : ¬ name.utf8ByteSize > maxNameBytes := Nat.not_lt.mpr h.short
  rw [walk.eq_def]
  simp [h.ne_dot, h.ne_dots, hlong, hentry]

lemma walk_directory (hentry : s.entryAt? (here ++ [name]) = some .directory) :
    s.walk links here (name :: rest) = s.walk links (here ++ [name]) rest := by
  have hlong : ¬ name.utf8ByteSize > maxNameBytes := Nat.not_lt.mpr h.short
  rw [walk.eq_def]
  simp [h.ne_dot, h.ne_dots, hlong, hentry]

/-- A link is followed from the directory in which it stands. -/
lemma walk_link {target : String} (hentry : s.entryAt? (here ++ [name]) = some (.link target)) :
    s.walk (links + 1) here (name :: rest) =
      s.walk links (startOf here target) (names target ++ rest) := by
  have hlong : ¬ name.utf8ByteSize > maxNameBytes := Nat.not_lt.mpr h.short
  rw [walk.eq_def]
  simp [h.ne_dot, h.ne_dots, hlong, hentry]

end Walk

/-- The text of a file with a plain name. -/
lemma readText_ofText (text : String) : (ofText name text).readText name = .ok text := by
  have hentry : (ofText name text).entryAt? ([] ++ [name]) =
      some (.file (Text.bytesOf text) false) :=
    (entryAt?_eq_some_iff (List.concat_ne_nil _ _)).mpr List.mem_cons_self
  have hread : (ofText name text).read name = .ok (Text.bytesOf text) := by
    rw [read, h.find_eq]
    exact congrArg (· >>= _) (h.walk_file _ maxLinks hentry)
  have htext : Text.decode? (Text.bytesOf text) = some text.toList := Text.decode?_encode _
  exact bind_eq_ok_iff.mpr ⟨_, hread, by simp only [htext, String.ofList_toList]⟩

end IsPlain

end TileBench.Store
