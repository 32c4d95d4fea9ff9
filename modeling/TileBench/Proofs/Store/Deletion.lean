import TileBench.Proofs.Store.Destinations

/-!
# Removing files

A path is *vacant* if nothing stands at its end, not even a link. A file that was removed leaves its
path vacant, and a vacant path stays so when other files are removed.
-/

namespace TileBench.Store

variable {s t : Store} {place other : Place} {path : String} {links : Nat} {here : Place}
  {steps : List String} {entry : Entry} {spot : Spot}

/-! ### Places -/

lemma entryAt?_remove_self (h : ¬ place <+: s.cwd) : (s.remove place).entryAt? place = none := by
  refine entryAt?_eq_none (ne_nil_of_offWay h) ?_
  rw [remove, dif_neg h]
  simp

/-- What stands somewhere after an entry was removed stood there before. -/
lemma entryAt?_of_remove (h : (s.remove place).entryAt? other = some entry) :
    s.entryAt? other = some entry := by
  by_cases hroot : other = []
  · rwa [entryAt?, if_pos hroot] at h ⊢
  · rw [entryAt?_eq_some_iff hroot] at h ⊢
    unfold remove at h
    split at h
    · exact h
    · exact List.mem_of_mem_filter h

/-! ### Walking -/

/-- A walk to a name goes through the directory in front of it, or fails. -/
lemma walk_concat (last : String) :
    (∃ left there, s.walk links here steps = .ok (.taken there .directory) ∧
      s.walk links here (steps ++ [last]) = s.walk left there [last]) ∨
    ∃ cause, s.walk links here (steps ++ [last]) = .error cause := by
  fun_induction s.walk links here steps with
  | case1 links here => exact .inl ⟨links, here, rfl, rfl⟩
  | case2 links here rest ih => rwa [List.cons_append, walk]
  | case3 links here rest ih => rwa [List.cons_append, walk]
  | case4 links here name rest hdot hdots hlong =>
    refine .inr ⟨.nameTooLong, ?_⟩
    rw [List.cons_append, walk, if_pos hlong] <;> assumption
  -- There is no way on from a name at which there is no directory and no link.
  | case5 links here name rest hdot hdots hshort there hentry hend
  | case6 links here name rest hdot hdots hshort there hentry hend
  | case8 links here name rest hdot hdots hshort there _ _ hentry hend
  | case9 links here name rest hdot hdots hshort there _ _ hentry hend
  | case10 links here name rest hdot hdots hshort there _ hentry hend
  | case11 links here name rest hdot hdots hshort there _ hentry hend
  | case12 here name rest hdot hdots hshort there target hentry =>
    refine .inr ?_
    rw [List.cons_append, walk.eq_def]
    simp [hshort, hentry, there]
  | case7 links here name rest hdot hdots hshort there hentry ih =>
    have hstep : s.walk links here (name :: (rest ++ [last])) =
        s.walk links there (rest ++ [last]) := by
      rw [walk.eq_def]
      simp [hshort, hentry, there]
    rwa [List.cons_append, hstep]
  | case13 here name rest hdot hdots hshort there target hentry links ih =>
    have hstep : s.walk (links + 1) here (name :: (rest ++ [last])) =
        s.walk links (startOf here target) (names target ++ rest ++ [last]) := by
      rw [walk.eq_def]
      simp [hshort, hentry, there]
    rwa [List.cons_append, hstep]

/-- In a directory, a name at which nothing stands leads to a new file of that name, or to no file. -/
lemma landing?_walk_of_none (links : Nat) {name : String} (hnone : s.entryAt? (here ++ [name]) = none) :
    landing? (s.walk links here [name]) = some (.file (here ++ [name])) ∨
    landing? (s.walk links here [name]) = none ∨
    ∃ there, landing? (s.walk links here [name]) = some (.directory there) := by
  by_cases hdot : name = "."
  · refine .inr (.inr ⟨here, ?_⟩)
    rw [hdot, walk, walk]
    rfl
  · by_cases hdots : name = ".."
    · refine .inr (.inr ⟨here.dropLast, ?_⟩)
      rw [hdots, walk, walk]
      rfl
    · by_cases hlong : name.utf8ByteSize > maxNameBytes
      · refine .inr (.inl ?_)
        rw [walk, if_pos hlong] <;> first | rfl | assumption
      · exact .inl (landing?_walk_of_isOpen hdots hdot hlong (.inl hnone))

/-- A walk that leads to something after an entry was removed led there before. -/
lemma walk_of_remove (h : (s.remove place).walk links here steps = .ok (.taken other entry)) :
    s.walk links here steps = .ok (.taken other entry) := by
  fun_induction (s.remove place).walk links here steps with
  | case1 links here => rw [walk]; exact h
  | case2 links here rest ih => rw [walk]; exact ih h
  | case3 links here rest ih => rw [walk]; exact ih h
  | case4 | case5 | case6 | case9 | case11 | case12 => cases h
  | case7 links here name rest hdot hdots hshort there hentry ih =>
    rw [walk.eq_def]
    simpa [hshort, entryAt?_of_remove hentry, there] using ih h
  | case8 links here name rest hdot hdots hshort there _ _ hentry hend
  | case10 links here name rest hdot hdots hshort there _ hentry hend =>
    rw [walk.eq_def]
    simpa [hshort, entryAt?_of_remove hentry, there, hend] using h
  | case13 here name rest hdot hdots hshort there target hentry links ih =>
    rw [walk.eq_def]
    simpa [hshort, entryAt?_of_remove hentry, there] using ih h

/-! ### Paths -/

def lastName (path : String) : String := (names path).getLastD "."

lemma names_ne_nil (path : String) : names path ≠ [] := by
  unfold names
  dsimp only
  split
  · simp
  · rename_i hlast
    have hsome := List.getLast?_eq_some_getLast (List.splitOn_ne_nil '/' path.toList)
    intro hnil
    simp only [List.map_eq_nil_iff, List.filter_eq_nil_iff] at hnil
    have hempty := hnil _ (List.getLast_mem (List.splitOn_ne_nil '/' path.toList))
    simp_all

lemma names_eq_concat (path : String) : names path = (names path).dropLast ++ [lastName path] := by
  rw [lastName, List.getLastD_eq_getLast?, List.getLast?_eq_some_getLast (names_ne_nil path)]
  exact (List.dropLast_concat_getLast (names_ne_nil path)).symm

/-- Nothing stands at the end of the path, not even a link. -/
def Vacant (s : Store) (path : String) : Prop :=
  ∀ here, s.follow path (names path).dropLast = .ok (.taken here .directory) →
    s.entryAt? (here ++ [lastName path]) = none

lemma follow_concat (s : Store) (path : String) (steps : List String) (last : String) :
    (∃ left there, s.follow path steps = .ok (.taken there .directory) ∧
      s.follow path (steps ++ [last]) = s.walk left there [last]) ∨
    ∃ cause, s.follow path (steps ++ [last]) = .error cause := by
  unfold follow
  split_ifs
  · exact .inr ⟨_, rfl⟩
  · exact .inr ⟨_, rfl⟩
  · exact .inr ⟨_, rfl⟩
  · exact walk_concat last

/-- A vacant path may lead to a new file in the directory in front of it, and to no other file. -/
lemma Vacant.landing? (hvacant : s.Vacant path) :
    (∃ here, s.follow path (names path).dropLast = .ok (.taken here .directory) ∧
      s.entryAt? (here ++ [lastName path]) = none ∧
      Store.landing? (s.find path) = some (.file (here ++ [lastName path]))) ∨
    Store.landing? (s.find path) = none ∨
    ∃ there, Store.landing? (s.find path) = some (.directory there) := by
  rw [find, names_eq_concat path, List.dropLast_concat]
  obtain ⟨left, here, hfollow, hlast⟩ | ⟨cause, hfault⟩ :=
    s.follow_concat path (names path).dropLast (lastName path)
  · have hnone := hvacant here hfollow
    rw [hlast]
    obtain hnew | hother := landing?_walk_of_none left hnone
    · exact .inl ⟨here, hfollow, hnone, hnew⟩
    · exact .inr hother
  · rw [hfault]
    exact .inr (.inl rfl)

lemma Vacant.target? (hvacant : s.Vacant path) (h : s.target? path = some place) :
    s.entryAt? place = none ∧ ∃ here, s.follow path (names path).dropLast =
      .ok (.taken here .directory) ∧ place = here ++ [lastName path] := by
  rw [Store.target?, filePlace?_eq_some_iff] at h
  obtain ⟨here, hfollow, hnone, hnew⟩ | hnew | ⟨there, hnew⟩ := hvacant.landing? <;>
    cases h.symm.trans hnew
  exact ⟨hnone, here, hfollow, rfl⟩

/-- A vacant path leads to no file that may not be opened. -/
lemma Vacant.not_isSealed (hvacant : s.Vacant path) : ¬ s.IsSealed path := by
  intro h
  obtain ⟨here, -, -, hnew⟩ | hnew | ⟨there, hnew⟩ := hvacant.landing? <;>
    cases h.symm.trans hnew

lemma Vacant.contents?_eq (hvacant : s.Vacant path) : s.contents? path = none := by
  rw [Store.contents?_eq]
  cases htarget : s.target? path with
  | none => rfl
  | some place => simp [contentsAt?, (hvacant.target? htarget).1]

/-! ### Removing -/

lemma delete_eq_ok (h : s.delete path = .ok t) :
    ∃ here, s.follow path (names path).dropLast = .ok (.taken here .directory) ∧
      ¬ here ++ [lastName path] <+: s.cwd ∧ t = s.remove (here ++ [lastName path]) := by
  obtain ⟨spot, hfollow, hremoved⟩ := bind_eq_ok_iff.mp h
  rcases spot with ⟨here, _ | _ | _ | _⟩ | _ <;> try cases hremoved
  refine ⟨here, hfollow, ?_⟩
  dsimp only at hremoved
  split_ifs at hremoved
  split at hremoved <;> cases hremoved
  rename_i hdirectory hentry
  refine ⟨fun hprefix => hdirectory ?_, rfl⟩
  exact Option.some.inj (hentry.symm.trans (entryAt?_of_onWay hprefix))

lemma follow_of_remove (h : (s.remove place).follow path steps = .ok (.taken other entry)) :
    s.follow path steps = .ok (.taken other entry) := by
  unfold follow at h ⊢
  split_ifs at h ⊢
  rw [cwd_remove] at h
  exact walk_of_remove h

/-- A path stays vacant if another file is removed. -/
lemma Vacant.of_delete {other : String} (hvacant : s.Vacant path) (h : s.delete other = .ok t) :
    t.Vacant path := by
  obtain ⟨there, -, -, rfl⟩ := delete_eq_ok h
  intro here hhere
  have hnone := hvacant here (follow_of_remove hhere)
  rw [Option.eq_none_iff_forall_ne_some] at hnone ⊢
  exact fun entry hentry => hnone entry (entryAt?_of_remove hentry)

/-- The path of a file that was removed is vacant. -/
lemma vacant_of_delete (h : s.delete path = .ok t) : t.Vacant path := by
  obtain ⟨there, hthere, hway, rfl⟩ := delete_eq_ok h
  intro here hhere
  rw [follow_of_remove hhere] at hthere
  cases hthere
  exact entryAt?_remove_self hway

/-- A path is vacant if no file was there to be removed. -/
lemma vacant_of_not_found (h : s.delete path = .error .notFound) : s.Vacant path := by
  intro here hhere
  unfold delete at h
  rw [hhere] at h
  dsimp only [bind, Except.bind] at h
  split_ifs at h
  · cases h
  · cases h
  · split at h
    · assumption
    · cases h
    · cases h

lemma IsPlain.delete_of_missing {name : String} (h : IsPlain name)
    (hnone : s.entryAt? (s.cwd ++ [name]) = none) : s.delete name = .error .notFound := by
  have hlong : ¬ name.utf8ByteSize > maxNameBytes := Nat.not_lt.mpr h.short
  unfold delete
  rw [h.follow_eq, h.names_eq, List.dropLast_singleton, walk]
  simp [bind, Except.bind, h.ne_dot, h.ne_dots, hlong, hnone]

/-! ### Names that differ at the end -/

/-- What can be added to a path without making a directory of it. -/
structure IsEnding (ending : String) : Prop where
  ne_nil : ending.toList ≠ []
  no_slash : '/' ∉ ending.toList

/-- The names in a text between slashes. -/
def parts (text : List Char) : List String :=
  ((text.splitOn '/').filter fun part => !part.isEmpty).map String.ofList

lemma parts_slash {front back : List Char} (hne : back ≠ []) (hslash : '/' ∉ back) :
    parts (front ++ '/' :: back) = parts front ++ [String.ofList back] := by
  rw [parts, List.splitOn_append_cons_self, List.splitOn_eq_singleton hslash]
  simp [parts, hne]

/-- The last name of a path stands behind its last slash. -/
lemma names_eq_of_slash {front back : List Char} (hpath : path.toList = front ++ '/' :: back)
    (hne : back ≠ []) (hslash : '/' ∉ back) : names path = parts front ++ [String.ofList back] := by
  have hlast : (path.toList.splitOn '/').getLast? = some back := by
    rw [hpath, List.splitOn_append_cons_self, List.splitOn_eq_singleton hslash,
      List.getLast?_concat]
  rw [← parts_slash hne hslash, ← hpath, names]
  simp [hlast, hne, parts]

/-- Paths that differ in their endings differ in their last names only. -/
lemma exists_names_append (stem : String) :
    ∃ front last, ∀ ending, IsEnding ending → names (stem ++ ending) = front ++ [last ++ ending] := by
  by_cases hslash : '/' ∈ stem.toList
  · obtain ⟨last, front, hreverse, hlast⟩ :=
      List.eq_append_cons_of_mem (List.mem_reverse.mpr hslash)
    have hstem : stem.toList = front.reverse ++ '/' :: last.reverse := by
      rw [← List.reverse_reverse stem.toList, hreverse]
      simp
    refine ⟨parts front.reverse, String.ofList last.reverse, fun ending hending => ?_⟩
    have hpath : (stem ++ ending).toList =
        front.reverse ++ '/' :: (last.reverse ++ ending.toList) := by
      rw [String.toList_append, hstem, List.append_assoc, List.cons_append]
    rw [names_eq_of_slash hpath (by simp [hending.ne_nil]) (by simp [hlast, hending.no_slash]),
      String.ofList_append, String.ofList_toList]
  · refine ⟨[], stem, fun ending hending => ?_⟩
    rw [names_of_no_slash] <;> simp [hending.ne_nil, hending.no_slash, hslash]

lemma IsEnding.isAbsolute_append {ending : String} (h : IsEnding ending) (stem : String) :
    isAbsolute (stem ++ ending) = isAbsolute stem := by
  unfold isAbsolute
  rw [String.toList_append, List.head?_append, decide_eq_decide]
  cases hstem : stem.toList.head? with
  | some c => rfl
  | none => simpa using fun hhead => h.no_slash (List.mem_of_head? hhead)

/-- Paths that start alike are followed to one directory, if they are followed. -/
lemma eq_of_follow {path₁ path₂ : String} (hstart : isAbsolute path₁ = isAbsolute path₂)
    {spot₁ spot₂ : Spot} (hfollow₁ : s.follow path₁ steps = .ok spot₁)
    (hfollow₂ : s.follow path₂ steps = .ok spot₂) : spot₁ = spot₂ := by
  unfold follow startOf at hfollow₁ hfollow₂
  rw [hstart] at hfollow₁
  split_ifs at hfollow₁ hfollow₂ <;> exact Except.ok.inj (hfollow₁.symm.trans hfollow₂)

/-- Vacant paths that differ in their endings lead to different files. -/
lemma apart_of_vacant {stem ending₁ ending₂ : String} (h₁ : IsEnding ending₁) (h₂ : IsEnding ending₂)
    (hne : ending₁ ≠ ending₂) (hvacant₁ : s.Vacant (stem ++ ending₁))
    (hvacant₂ : s.Vacant (stem ++ ending₂)) : s.Apart (stem ++ ending₁) (stem ++ ending₂) := by
  intro place htarget₁ htarget₂
  obtain ⟨-, here₁, hfollow₁, hplace₁⟩ := hvacant₁.target? htarget₁
  obtain ⟨-, here₂, hfollow₂, hplace₂⟩ := hvacant₂.target? htarget₂
  obtain ⟨front, last, hnames⟩ := exists_names_append stem
  rw [hnames _ h₁, List.dropLast_concat] at hfollow₁
  rw [hnames _ h₂, List.dropLast_concat] at hfollow₂
  have hstart : isAbsolute (stem ++ ending₁) = isAbsolute (stem ++ ending₂) :=
    (h₁.isAbsolute_append stem).trans (h₂.isAbsolute_append stem).symm
  cases eq_of_follow hstart hfollow₁ hfollow₂
  rw [lastName, hnames _ h₁, List.getLastD_concat] at hplace₁
  rw [hplace₁, lastName, hnames _ h₂, List.getLastD_concat] at hplace₂
  have hlast : last ++ ending₁ = last ++ ending₂ := by simpa using hplace₂
  exact hne (by simpa using hlast)

end TileBench.Store
