import TileBench.Proofs.Store.Listing
import TileBench.Proofs.Text.Utf8

/-!
# Writing files again

Of two contents that are written to a file, the second ones stay. A file that is written anew adds
its name to the directory that it stands in, and no other name to any directory.
-/

namespace TileBench.Store

open Text

variable {s t : Store} {place here : Place} {path name : String} {entry : Entry}
  {listed : List String} {links : Nat} {steps : List String}

/-! ### Writing twice -/

lemma putEntry_putEntry (place : Place) (entry entry' : Entry) (entries : List (Place × Entry)) :
    putEntry place entry' (putEntry place entry entries) = putEntry place entry' entries := by
  have hfilled : ∀ entry : Entry, ∀ entries : List (Place × Entry),
      entries.any (fun old => old.1 = place) = true →
      putEntry place entry entries =
        entries.map fun old => if old.1 = place then (place, entry) else old :=
    fun entry entries hany => if_pos hany
  by_cases hany : entries.any (fun old => old.1 = place) = true
  · have hthere : (entries.map fun old => if old.1 = place then (place, entry) else old).any
        (fun old => old.1 = place) = true := by
      obtain ⟨old, hmem, hold⟩ := List.any_eq_true.mp hany
      refine List.any_eq_true.mpr ⟨_, List.mem_map_of_mem hmem, ?_⟩
      rw [if_pos (of_decide_eq_true hold)]
      exact decide_eq_true rfl
    rw [hfilled entry entries hany, hfilled _ _ hthere, hfilled _ _ hany, List.map_map]
    refine List.map_congr_left fun old _ => ?_
    by_cases hold : old.1 = place <;> simp [hold]
  · have hold : ∀ old ∈ entries, old.1 ≠ place :=
      fun old hmem hold => hany (List.any_eq_true.mpr ⟨old, hmem, decide_eq_true hold⟩)
    have hmap : (entries.map fun old => if old.1 = place then (place, entry') else old) =
        entries :=
      (List.map_congr_left fun old hmem => if_neg (hold old hmem)).trans (List.map_id _)
    simp [putEntry, hany, hmap]

lemma put_put (s : Store) (place : Place) (entry entry' : Entry) :
    (s.put place entry).put place entry' = s.put place entry' := by
  by_cases hway : place <+: s.cwd
  · simp [put, hway]
  · simp [put, hway, putEntry_putEntry]

lemma endsInSlash_of_modify {change : Bytes → Bytes} (h : s.modify path change = .ok t) :
    endsInSlash path = false := by
  obtain ⟨spot, hspot, -⟩ := bind_eq_ok_iff.mp h
  by_contra hslash
  rw [findFile, if_pos (by simpa using hslash)] at hspot
  obtain ⟨_, -, ⟨⟩⟩ := bind_eq_ok_iff.mp hspot

/-- A file that was written and is changed gets what is made of the contents that were written. -/
lemma modify_write {contents : Bytes} (h : s.write path contents = .ok t)
    (change : Bytes → Bytes) : t.modify path change = s.write path (change contents) := by
  obtain ⟨spot, hspot, hput⟩ := bind_eq_ok_iff.mp h
  have hfindFile : ∀ s : Store, s.findFile path = s.find path := fun s => by
    simp [findFile, endsInSlash_of_modify h]
  rw [hfindFile] at hspot
  -- The file stands where it was put, with the executable bit that it was given.
  have hagain : ∀ place executable, t = s.put place (.file contents executable) →
      s.target? path = some place →
      t.modify path change = .ok (s.put place (.file (change contents) executable)) := by
    rintro place executable rfl htarget
    have hentry := s.entryAt?_put_self (.file contents executable)
      (isOpen_of_target? htarget).offWay
    rw [← target?_of_modify h] at htarget
    obtain ⟨-, hnone⟩ | ⟨old, bit, hfind, hfile⟩ := find_of_target? htarget
    · cases hnone.symm.trans hentry
    · cases hfile.symm.trans hentry
      rw [modify, hfindFile, hfind]
      exact congrArg _ (put_put _ _ _ _)
  rcases spot with ⟨place, ⟨old, executable⟩ | _ | _ | _⟩ | place <;> cases hput
  · rw [hagain place executable rfl (by rw [target?, hspot]; rfl), write, modify, hfindFile, hspot]
    rfl
  · rw [hagain place false rfl (by rw [target?, hspot]; rfl), write, modify, hfindFile, hspot]
    rfl

/-- Of two contents that are written one after the other, the second ones stay. -/
lemma write_write {contents : Bytes} (h : s.write path contents = .ok t) (contents' : Bytes) :
    t.write path contents' = s.write path contents' :=
  modify_write h _

/-- A file that was written can be written again. -/
lemma exists_write_again {contents : Bytes} (h : s.write path contents = .ok t)
    (contents' : Bytes) : ∃ u, t.write path contents' = .ok u := by
  obtain ⟨place, -, htarget, -⟩ := modify_eq_ok h
  rw [← target?_of_modify h] at htarget
  exact exists_modify _ (endsInSlash_of_modify h) htarget

/-! ### New files -/

lemma names_eq_parts (path : String) : names path = parts path.toList ∨
    names path = parts path.toList ++ ["."] := by
  unfold names
  dsimp only
  split
  · exact .inr rfl
  · exact .inl rfl

lemma isEnding_of_mem_names (h : name ∈ names path) : IsEnding name := by
  have hparts : ∀ name ∈ parts path.toList, IsEnding name := by
    intro name hname
    obtain ⟨part, hpart, rfl⟩ := List.mem_map.mp hname
    obtain ⟨hpiece, hne⟩ := List.mem_filter.mp hpart
    refine ⟨by simpa using hne, fun hslash => ?_⟩
    rw [String.toList_ofList] at hslash
    have hnot : ('/' == '/') = false := forall_mem_of_mem_splitOnP hpiece '/' hslash
    cases hnot
  obtain hnames | hnames := names_eq_parts path
  · exact hparts name (hnames ▸ h)
  · rw [hnames] at h
    obtain h | h := List.mem_append.mp h
    · exact hparts name h
    · rw [List.mem_singleton.mp h]
      exact ⟨by decide, by decide⟩

/-- A new file has a name of its own. -/
lemma exists_concat_of_walk_free (hsteps : ∀ step ∈ steps, IsEnding step)
    (h : s.walk links here steps = .ok (.free place)) :
    ∃ there name, place = there ++ [name] ∧ IsEnding name := by
  fun_induction s.walk links here steps with
  | case1 | case4 | case6 | case8 | case9 | case10 | case11 | case12 => cases h
  | case2 links here rest ih => exact ih (List.forall_mem_cons.mp hsteps).2 h
  | case3 links here rest ih => exact ih (List.forall_mem_cons.mp hsteps).2 h
  | case5 links here name rest hdot hdots hshort there hentry hend =>
    have hplace : there = place := Spot.free.inj (Except.ok.inj h)
    exact ⟨here, name, hplace.symm, (List.forall_mem_cons.mp hsteps).1⟩
  | case7 links here name rest hdot hdots hshort there hentry ih =>
    exact ih (List.forall_mem_cons.mp hsteps).2 h
  | case13 here name rest hdot hdots hshort there target hentry links ih =>
    refine ih (List.forall_mem_append.mpr ⟨fun _ => isEnding_of_mem_names, ?_⟩) h
    exact (List.forall_mem_cons.mp hsteps).2

lemma exists_concat_of_find_free (h : s.find path = .ok (.free place)) :
    ∃ there name, place = there ++ [name] ∧ IsEnding name := by
  unfold find follow at h
  split_ifs at h
  exact exists_concat_of_walk_free (fun _ => isEnding_of_mem_names) h

/-- Writing a file adds a name to a directory only if the file is new and stands there. -/
lemma namesIn_of_write {contents : Bytes} (h : s.write path contents = .ok t) (here : Place) :
    t.namesIn here = s.namesIn here ∨ ∃ name, s.find path = .ok (.free (here ++ [name])) ∧
      IsEnding name ∧ t.namesIn here = s.namesIn here ++ [name] := by
  obtain ⟨place, executable, htarget, rfl⟩ := modify_eq_ok h
  have hway := (isOpen_of_target? htarget).offWay
  rw [namesIn_eq, namesIn_eq, entries_put s _ hway, map_fst_putEntry]
  split
  · exact .inl rfl
  · rename_i hnew
    have hnone := entryAt?_eq_none (ne_nil_of_offWay hway) hnew
    obtain ⟨hfree, -⟩ | ⟨_, _, -, hfile⟩ := find_of_target? htarget
    · obtain ⟨there, name, rfl, hname⟩ := exists_concat_of_find_free hfree
      by_cases hthere : there = here
      · subst hthere
        exact .inr ⟨name, hfree, hname, by simp⟩
      · exact .inl (by simp [hthere])
    · cases hnone.symm.trans hfile

/-! ### Limited room -/

variable {device : Device} {contents : Bytes}

/-- A file is overwritten if it can be opened and there is room for the contents. -/
lemma overwrite_eq_ok_iff : s.overwrite device path contents = (.ok (), t) ↔
    s.write path contents = .ok t ∧ ∃ opened, s.write path [] = .ok opened ∧
      contents.length ≤ (device.room opened path).getD contents.length := by
  unfold overwrite
  cases hopen : s.write path [] with
  | error cause => simp
  | ok opened =>
    have happend : ∀ kept, opened.append path kept = s.write path kept := fun kept =>
      modify_write hopen _
    simp only [happend, Except.ok.injEq, exists_eq_left']
    split
    · rename_i cause hfault
      obtain ⟨u, hu⟩ := exists_write_again hopen (contents.take
        ((device.room opened path).getD contents.length))
      rw [write_write hopen, hfault] at hu
      cases hu
    · rename_i written hwritten
      split
      · rename_i hroom
        rw [List.take_of_length_le hroom] at hwritten
        simp [hwritten, hroom]
      · rename_i hroom
        simp [hroom]

/-- What was overwritten can be overwritten with contents that are not longer. -/
lemma overwrite_again (h : s.overwrite device path contents = (.ok (), t)) {contents' : Bytes}
    (hlength : contents'.length ≤ contents.length) :
    ∃ u, t.overwrite device path contents' = (.ok (), u) ∧ t.write path contents' = .ok u := by
  obtain ⟨hwrite, opened, hopen, hroom⟩ := overwrite_eq_ok_iff.mp h
  obtain ⟨u, hagain⟩ := exists_write_again hwrite contents'
  refine ⟨u, overwrite_eq_ok_iff.mpr ⟨hagain, opened, ?_, ?_⟩, hagain⟩
  · rw [write_write hwrite, hopen]
  · cases hlimit : device.room opened path with
    | none => exact Nat.le_refl _
    | some limit =>
      rw [hlimit] at hroom
      exact Nat.le_trans hlength hroom

end TileBench.Store
