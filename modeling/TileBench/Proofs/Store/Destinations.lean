import TileBench.Proofs.Store.Files
import Mathlib.Tactic.SplitIfs

/-!
# Where paths lead

A path leads to the place of a file if a file stands there, or if one can be made there. Writing the
file does not change where any path leads, so two paths that lead to different places name different
files for good, and writing to one of them leaves the other alone.
-/

namespace TileBench.Store

open Text

variable {s : Store} {place other : Place} {path : String} {links : Nat} {here : Place}
  {steps : List String} {contents : Bytes} {executable : Bool}

/-! ### Places -/

/-- A file stands at the place, or nothing. -/
def IsOpen (s : Store) (place : Place) : Prop :=
  s.entryAt? place = none ∨ ∃ contents executable, s.entryAt? place = some (.file contents executable)

/-- A place on the way to the working directory is not open. -/
lemma IsOpen.offWay (h : s.IsOpen place) : ¬ place <+: s.cwd := by
  intro hprefix
  have hdirectory := entryAt?_of_onWay hprefix
  obtain h | ⟨contents, executable, h⟩ := h <;> simp [h] at hdirectory

lemma IsOpen.ne_of_directory (h : s.IsOpen place) (hother : s.entryAt? other = some .directory) :
    other ≠ place := by
  rintro rfl
  obtain h | ⟨contents, executable, h⟩ := h <;> simp [h] at hother

lemma IsOpen.ne_of_link {target : String} (h : s.IsOpen place)
    (hother : s.entryAt? other = some (.link target)) : other ≠ place := by
  rintro rfl
  obtain h | ⟨contents, executable, h⟩ := h <;> simp [h] at hother

lemma IsOpen.ne_of_sealed {regular : Bool} (h : s.IsOpen place)
    (hother : s.entryAt? other = some (.sealed regular)) : other ≠ place := by
  rintro rfl
  obtain h | ⟨contents, executable, h⟩ := h <;> simp [h] at hother

/-- A place stays open if a file is written to an open place. -/
lemma IsOpen.put (h : s.IsOpen place) (hother : s.IsOpen other) :
    (s.put place (.file contents executable)).IsOpen other := by
  by_cases hsame : other = place
  · rw [hsame]
    exact .inr ⟨_, _, s.entryAt?_put_self _ h.offWay⟩
  · rw [IsOpen, entryAt?_put_of_ne _ hsame]
    exact hother

/-! ### Walking -/

/-- What a walk leads to, whatever files contain: the place of a file, which may be new, a directory,
or what may not be opened. -/
inductive Landing where
  | file (place : Place)
  | directory (here : Place)
  | sealed (regular : Bool)
  deriving DecidableEq

/-- Where a walk ends. -/
def landing? : Except FileError Spot → Option Landing
  | .ok (.free place) => some (.file place)
  | .ok (.taken place (.file ..)) => some (.file place)
  | .ok (.taken place .directory) => some (.directory place)
  | .ok (.taken _ (.sealed regular)) => some (.sealed regular)
  | _ => none

/-- The place of the file that a walk leads to. -/
def filePlace? : Except FileError Spot → Option Place
  | .ok (.free place) => some place
  | .ok (.taken place (.file ..)) => some place
  | _ => none

lemma filePlace?_eq_some_iff {spot : Except FileError Spot} :
    filePlace? spot = some place ↔ landing? spot = some (.file place) := by
  rcases spot with _ | ⟨_, _ | _ | _ | _⟩ | _ <;> simp [filePlace?, landing?]

lemma filePlace?_congr {spot spot' : Except FileError Spot} (h : landing? spot = landing? spot') :
    filePlace? spot = filePlace? spot' := by
  refine Option.ext fun place => ?_
  rw [filePlace?_eq_some_iff, filePlace?_eq_some_iff, h]

lemma walk_free (h : s.walk links here steps = .ok (.free place)) : s.entryAt? place = none := by
  fun_induction s.walk links here steps <;> simp_all

lemma walk_file (h : s.walk links here steps = .ok (.taken place (.file contents executable))) :
    s.entryAt? place = some (.file contents executable) := by
  fun_induction s.walk links here steps <;> simp_all

/-- A walk that comes to an open place ends there, or fails. -/
lemma landing?_walk_of_isOpen {name : String} (hdots : name ≠ "..") (hdot : name ≠ ".")
    (hshort : ¬ name.utf8ByteSize > maxNameBytes) (hopen : s.IsOpen (here ++ [name])) :
    landing? (s.walk links here (name :: steps)) =
      if steps.isEmpty then some (.file (here ++ [name])) else none := by
  rw [walk.eq_def]
  obtain hnone | ⟨contents, executable, hfile⟩ := hopen
  · cases steps <;> simp [hshort, hnone, landing?]
  · cases steps <;> simp [hshort, hfile, landing?]

/-- A walk leads to the same file or directory after a file was written. -/
lemma landing?_walk_put (hopen : s.IsOpen place) :
    landing? ((s.put place (.file contents executable)).walk links here steps) =
      landing? (s.walk links here steps) := by
  have hother : ∀ other, other ≠ place →
      (s.put place (.file contents executable)).entryAt? other = s.entryAt? other :=
    fun other hne => entryAt?_put_of_ne _ hne
  fun_induction s.walk links here steps with
  | case1 => rw [walk]
  | case2 links here rest ih => rw [walk, ih]
  | case3 links here rest ih => rw [walk, ih]
  | case4 links here name rest hdot hdots hlong => rw [walk, if_pos hlong] <;> assumption
  -- The walk comes to a name at which there was nothing or a file, and now may be the new file.
  | case5 links here name rest hdot hdots hshort there hentry hend
  | case6 links here name rest hdot hdots hshort there hentry hend =>
    rw [landing?_walk_of_isOpen hdots hdot hshort (hopen.put (.inl hentry))]
    simp [hend, landing?, there]
  | case8 links here name rest hdot hdots hshort there _ _ hentry hend
  | case9 links here name rest hdot hdots hshort there _ _ hentry hend =>
    rw [landing?_walk_of_isOpen hdots hdot hshort (hopen.put (.inr ⟨_, _, hentry⟩))]
    simp [hend, landing?, there]
  -- It comes to something else, where nothing was written.
  | case7 links here name rest hdot hdots hshort there hentry ih =>
    rw [← ih, walk.eq_def]
    simp [hshort, hother _ (hopen.ne_of_directory hentry), hentry, there]
  | case10 links here name rest hdot hdots hshort there _ hentry hend
  | case11 links here name rest hdot hdots hshort there _ hentry hend =>
    rw [walk.eq_def]
    simp [hshort, hother _ (hopen.ne_of_sealed hentry), hentry, hend, there]
  | case12 here name rest hdot hdots hshort there target hentry =>
    rw [walk.eq_def]
    simp [hshort, hother _ (hopen.ne_of_link hentry), hentry, there]
  | case13 here name rest hdot hdots hshort there target hentry links ih =>
    refine Eq.trans ?_ ih
    rw [walk.eq_def]
    simp [hshort, hother _ (hopen.ne_of_link hentry), hentry, there]

/-! ### Paths -/

/-- The place of the file that a path leads to. -/
def target? (s : Store) (path : String) : Option Place := filePlace? (s.find path)

/-- The contents of the file that a path leads to, if there is one already. -/
def contents? (s : Store) (path : String) : Option Bytes := (s.read path).toOption

/-- The paths lead to no common file. -/
def Apart (s : Store) (path₁ path₂ : String) : Prop :=
  ∀ place, s.target? path₁ = some place → s.target? path₂ ≠ some place

def contentsAt? (s : Store) (place : Place) : Option Bytes :=
  match s.entryAt? place with
  | some (.file contents _) => some contents
  | _ => none

lemma contentsAt?_put_self (contents : Bytes) (executable : Bool) (h : ¬ place <+: s.cwd) :
    (s.put place (.file contents executable)).contentsAt? place = some contents := by
  simp only [contentsAt?, s.entryAt?_put_self _ h]

lemma contentsAt?_put_of_ne (entry : Entry) (hne : other ≠ place) :
    (s.put place entry).contentsAt? other = s.contentsAt? other := by
  simp only [contentsAt?, entryAt?_put_of_ne entry hne]

lemma exists_walk_of_find {spot : Spot} (h : s.find path = .ok spot) :
    ∃ links here steps, s.walk links here steps = .ok spot := by
  unfold find follow at h
  split_ifs at h
  exact ⟨_, _, _, h⟩

lemma find_free (h : s.find path = .ok (.free place)) : s.entryAt? place = none := by
  obtain ⟨links, here, steps, hwalk⟩ := exists_walk_of_find h
  exact walk_free hwalk

lemma find_file (h : s.find path = .ok (.taken place (.file contents executable))) :
    s.entryAt? place = some (.file contents executable) := by
  obtain ⟨links, here, steps, hwalk⟩ := exists_walk_of_find h
  exact walk_file hwalk

/-- A path leads to a place where a file can be made, or to a file. -/
lemma find_of_target? (h : s.target? path = some place) :
    (s.find path = .ok (.free place) ∧ s.entryAt? place = none) ∨
      ∃ contents executable, s.find path = .ok (.taken place (.file contents executable)) ∧
        s.entryAt? place = some (.file contents executable) := by
  unfold target? filePlace? at h
  split at h
  · cases h
    exact .inl ⟨‹_›, find_free ‹_›⟩
  · cases h
    exact .inr ⟨_, _, ‹_›, find_file ‹_›⟩
  · cases h

lemma isOpen_of_target? (h : s.target? path = some place) : s.IsOpen place := by
  obtain ⟨-, hnone⟩ | ⟨contents, executable, -, hfile⟩ := find_of_target? h
  · exact .inl hnone
  · exact .inr ⟨contents, executable, hfile⟩

lemma contents?_eq : s.contents? path = (s.target? path).bind s.contentsAt? := by
  cases htarget : s.target? path with
  | some place =>
    obtain ⟨hfind, hentry⟩ | ⟨contents, executable, hfind, hentry⟩ := find_of_target? htarget <;>
      simp [contents?, read, hfind, contentsAt?, hentry, Except.toOption, bind, Except.bind]
  | none =>
    unfold target? at htarget
    unfold contents? read
    rcases hfind : s.find path with cause | ⟨there, _ | _ | _ | _⟩ | there <;>
      simp_all [filePlace?, bind, Except.bind, Except.toOption]

lemma read_eq_ok_iff : s.read path = .ok contents ↔ s.contents? path = some contents := by
  unfold contents?
  cases s.read path <;> simp [Except.toOption]

/-- The path leads to a file that may not be opened. -/
def IsSealed (s : Store) (path : String) : Prop := landing? (s.find path) = some (.sealed true)

/-- A file is there if it can be read, or if it may not be opened. -/
lemma isFile_iff : s.isFile path = true ↔
    (∃ contents, s.contents? path = some contents) ∨ s.IsSealed path := by
  unfold isFile contents? read IsSealed
  rcases s.find path with cause | ⟨there, _ | _ | _ | _⟩ | there <;>
    simp [bind, Except.bind, Except.toOption, landing?]

/-! ### Writing -/

section Modify

variable {change : Bytes → Bytes} {t : Store}

/-- A file is changed where its path leads to. -/
lemma modify_eq_ok (h : s.modify path change = .ok t) :
    ∃ place executable, s.target? path = some place ∧
      t = s.put place (.file (change ((s.contentsAt? place).getD [])) executable) := by
  obtain ⟨spot, hspot, hput⟩ := bind_eq_ok_iff.mp h
  have hfind : s.find path = .ok spot := by
    unfold findFile at hspot
    split_ifs at hspot
    · obtain ⟨_, -, ⟨⟩⟩ := bind_eq_ok_iff.mp hspot
    · exact hspot
  rcases spot with ⟨place, ⟨old, executable⟩ | _ | _ | _⟩ | place <;> cases hput
  · refine ⟨place, executable, by rw [target?, hfind]; rfl, ?_⟩
    simp [contentsAt?, find_file hfind]
  · refine ⟨place, false, by rw [target?, hfind]; rfl, ?_⟩
    simp [contentsAt?, find_free hfind]

/-- Paths lead where they led before a file was changed, to directories as well. -/
lemma landing?_of_modify (h : s.modify path change = .ok t) (other : String) :
    landing? (t.find other) = landing? (s.find other) := by
  obtain ⟨place, executable, htarget, rfl⟩ := modify_eq_ok h
  unfold find follow
  split_ifs
  · rfl
  · rfl
  · rfl
  · rw [cwd_put]
    exact landing?_walk_put (isOpen_of_target? htarget)

lemma target?_of_modify (h : s.modify path change = .ok t) (other : String) :
    t.target? other = s.target? other :=
  filePlace?_congr (landing?_of_modify h other)

lemma isSealed_of_modify (h : s.modify path change = .ok t) (other : String) :
    t.IsSealed other ↔ s.IsSealed other := by
  rw [IsSealed, IsSealed, landing?_of_modify h]

lemma apart_of_modify (h : s.modify path change = .ok t) {path₁ path₂ : String} :
    t.Apart path₁ path₂ ↔ s.Apart path₁ path₂ := by
  simp only [Apart, target?_of_modify h]

lemma contents?_of_modify (h : s.modify path change = .ok t) :
    t.contents? path = some (change ((s.contents? path).getD [])) := by
  have htargets := target?_of_modify h path
  obtain ⟨place, executable, htarget, rfl⟩ := modify_eq_ok h
  rw [contents?_eq, contents?_eq, htargets, htarget, Option.bind_some, Option.bind_some,
    contentsAt?_put_self _ _ (isOpen_of_target? htarget).offWay]

lemma contents?_of_modify_of_apart (h : s.modify path change = .ok t) {other : String}
    (hapart : s.Apart other path) : t.contents? other = s.contents? other := by
  have htargets := target?_of_modify h other
  obtain ⟨place, executable, htarget, rfl⟩ := modify_eq_ok h
  rw [contents?_eq, contents?_eq, htargets]
  cases hother : s.target? other with
  | none => rfl
  | some there =>
    have hne : there ≠ place := fun heq => hapart there hother (heq ▸ htarget)
    rw [Option.bind_some, Option.bind_some, contentsAt?_put_of_ne _ hne]

/-- A file can be changed if a path without a slash at its end leads to it. -/
lemma exists_modify (change : Bytes → Bytes) (hslash : endsInSlash path = false)
    (h : s.target? path = some place) : ∃ t, s.modify path change = .ok t := by
  have hfind : s.findFile path = s.find path := by simp [findFile, hslash]
  obtain ⟨hfree, -⟩ | ⟨old, executable, htaken, -⟩ := find_of_target? h
  · exact ⟨_, bind_eq_ok_iff.mpr ⟨_, hfind.trans hfree, rfl⟩⟩
  · exact ⟨_, bind_eq_ok_iff.mpr ⟨_, hfind.trans htaken, rfl⟩⟩

lemma IsPlain.target?_eq {name : String} (h : IsPlain name) (hwritable : s.Writable name) :
    s.target? name = some (s.cwd ++ [name]) := by
  rw [target?, h.find_eq, filePlace?_eq_some_iff]
  exact landing?_walk_of_isOpen h.ne_dots h.ne_dot (Nat.not_lt.mpr h.short) hwritable

lemma IsPlain.contents?_empty {name : String} (h : IsPlain name) :
    empty.contents? name = none := by
  rw [contents?_eq, h.target?_eq (writable_empty name)]
  rfl

/-- Plain names lead to different files. -/
lemma IsPlain.apart {name₁ name₂ : String} (h₁ : IsPlain name₁) (h₂ : IsPlain name₂)
    (hwritable₁ : s.Writable name₁) (hwritable₂ : s.Writable name₂) (hne : name₁ ≠ name₂) :
    s.Apart name₁ name₂ := by
  intro place
  rw [h₁.target?_eq hwritable₁, h₂.target?_eq hwritable₂]
  rintro ⟨⟩ heq
  exact hne (by simpa using heq.symm)

/-- A writable plain name can be changed, and every name that was writable is so still. -/
lemma IsPlain.exists_modify {name : String} (h : IsPlain name) (hwritable : s.Writable name)
    (change : Bytes → Bytes) :
    ∃ t, s.modify name change = .ok t ∧ ∀ other, s.Writable other → t.Writable other := by
  obtain ⟨t, hmodify⟩ := Store.exists_modify change h.endsInSlash_eq (h.target?_eq hwritable)
  refine ⟨t, hmodify, fun other hother => ?_⟩
  obtain ⟨place, executable, htarget, rfl⟩ := modify_eq_ok hmodify
  rw [Writable, cwd_put]
  exact (isOpen_of_target? htarget).put hother

end Modify

end TileBench.Store
