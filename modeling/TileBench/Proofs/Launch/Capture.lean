import TileBench.Launch.Launcher
import TileBench.Profile
import TileBench.Proofs.Store.Deletion
import TileBench.Proofs.Text.Utf8
import Mathlib.Data.List.Infix

/-!
# Files of profiling data

The tagged lines of an output are added to the file of its phase. A reset removes both files, and
leaves two paths that lead to different places, so that what is added to one of the files never gets
into the other one.
-/

namespace TileBench

open Text

/-! ### Tagged lines -/

/-- The lines of an output that are tagged as profiling data. -/
def Output.profileLines (output : Output) : List (List Char) :=
  (lines output.text.toList).filter fun line => "IRPIWCCHHAI".toList <:+: line

/-- What an output of one phase brings to the file of another. -/
def Output.brings (output : Output) (phase other : Phase) : List (List Char) :=
  if other = phase then output.profileLines else []

/-- The profiling data in the answers to the launches of a phase. -/
def profileLines (phase : Phase) (made : List Launch) : List (List Char) :=
  (made.filterMap fun l => if l.phase = phase then l.outcome.toOption else none).flatMap
    Output.profileLines

lemma newline_not_mem_of_mem_profileLines {phase : Phase} {made : List Launch} {line : List Char}
    (h : line ∈ profileLines phase made) : '\n' ∉ line := by
  obtain ⟨output, -, hline⟩ := List.mem_flatMap.mp h
  exact newline_not_mem_of_mem_lines (List.mem_filter.mp hline).1

lemma profileLines_append (phase : Phase) (made more : List Launch) :
    profileLines phase (made ++ more) = profileLines phase made ++ profileLines phase more := by
  rw [profileLines, List.filterMap_append, List.flatMap_append, profileLines, profileLines]

lemma profileLines_of_ok (phase other : Phase) (command : Command) (output : Output) :
    profileLines other [⟨phase, command, .ok output⟩] = output.brings phase other := by
  cases phase <;> cases other <;> simp [profileLines, Output.brings, Except.toOption]

lemma profileLines_of_error (phase other : Phase) (command : Command) (fault : Fault) :
    profileLines other [⟨phase, command, .error fault⟩] = [] := by
  cases phase <;> cases other <;> rfl

/-- What a file holds when some lines were added to it. Without a line there may be no file. -/
def linesAdded (old : Option Bytes) (added : List (List Char)) : Option Bytes :=
  if added = [] then old
  else some (old.getD [] ++ encode (added.flatMap fun line => line ++ ['\n']))

lemma linesAdded_nil (old : Option Bytes) : linesAdded old [] = old := rfl

lemma linesAdded_append (old : Option Bytes) (added more : List (List Char)) :
    linesAdded old (added ++ more) = linesAdded (linesAdded old added) more := by
  by_cases hadded : added = []
  · rw [hadded, List.nil_append, linesAdded_nil]
  · by_cases hmore : more = []
    · rw [hmore, List.append_nil, linesAdded_nil]
    · simp [linesAdded, hadded, hmore, encode, List.flatMap_append]

namespace Profile

variable {p : Profile} {others : List String} {s t : Store} {path : String} {phase : Phase}
  {change : Bytes → Bytes} {output : Output}

lemma taggedLines_eq (output : Output) : taggedLines output.text = output.profileLines := by
  unfold taggedLines marker Output.profileLines
  refine List.filter_congr fun line _ => ?_
  rw [Bool.eq_iff_iff, occursIn_iff, decide_eq_true_iff]

/-- The tagged lines of an output are added to the file, and other files stay as they are. -/
lemma exists_modify_of_capture (h : capture s path output.text = .ok t) :
    (output.profileLines = [] ∧ t = s) ∨
      (output.profileLines ≠ [] ∧
        s.append path (encode (output.profileLines.flatMap fun line => line ++ ['\n'])) = .ok t) := by
  unfold capture excerpt at h
  rw [taggedLines_eq] at h
  split at h
  · rename_i hempty
    cases h
    exact .inl ⟨List.isEmpty_iff.mp hempty, rfl⟩
  · rename_i hsome
    exact .inr ⟨by simpa using hsome, mapError_eq_ok_iff.mp h⟩

/-! ### Files that are kept apart -/

/-- The two files of a profile are different, none of them is one of some others, and they may be
opened. -/
structure Separate (p : Profile) (others : List String) (s : Store) : Prop where
  phases : s.Apart p.writePath p.readPath
  others : ∀ phase, ∀ path ∈ others, s.Apart (p.path phase) path
  unsealed : ∀ phase, ¬ s.IsSealed (p.path phase)

lemma Separate.of_modify (hs : p.Separate others s) (h : s.modify path change = .ok t) :
    p.Separate others t where
  phases := (Store.apart_of_modify h).mpr hs.phases
  others phase path hpath := (Store.apart_of_modify h).mpr (hs.others phase path hpath)
  unsealed phase := (Store.isSealed_of_modify h _).not.mpr (hs.unsealed phase)

lemma Separate.of_ne (hs : p.Separate others s) {phase other : Phase} (hne : other ≠ phase) :
    s.Apart (p.path other) (p.path phase) := by
  cases other <;> cases phase
  · cases hne rfl
  · exact hs.phases
  · exact fun place hread hwrite => hs.phases place hwrite hread
  · cases hne rfl

/-- A file that is not one of the profile can be changed. -/
lemma Separate.contents?_eq (hs : p.Separate others s) (hpath : path ∈ others)
    (h : s.modify path change = .ok t) (phase : Phase) :
    t.contents? (p.path phase) = s.contents? (p.path phase) :=
  Store.contents?_of_modify_of_apart h (hs.others phase path hpath)

/-- What is collected is added to the file of its phase. -/
lemma Separate.of_capture (hs : p.Separate others s)
    (h : capture s (p.path phase) output.text = .ok t) :
    p.Separate others t ∧ ∀ other, t.contents? (p.path other) =
      linesAdded (s.contents? (p.path other)) (output.brings phase other) := by
  obtain ⟨hnone, rfl⟩ | ⟨hsome, happend⟩ := exists_modify_of_capture h
  · refine ⟨hs, fun other => ?_⟩
    simp [Output.brings, hnone, linesAdded_nil]
  · refine ⟨hs.of_modify happend, fun other => ?_⟩
    unfold Output.brings
    split_ifs with hother
    · rw [hother, Store.contents?_of_modify happend, linesAdded, if_neg hsome]
    · exact Store.contents?_of_modify_of_apart happend (hs.of_ne hother)

/-! ### Resetting -/

lemma vacant_of_discard (h : discard s path = .ok t) :
    t.Vacant path ∧ ∀ other, s.Vacant other → t.Vacant other := by
  unfold discard at h
  split at h <;> cases h
  · rename_i hdelete
    exact ⟨Store.vacant_of_delete hdelete, fun other hother => hother.of_delete hdelete⟩
  · rename_i hmissing
    exact ⟨Store.vacant_of_not_found hmissing, fun _ h => h⟩

/-- After a reset there are no files, and those that come will be two. -/
lemma of_reset {stem : String} (h : (ofPrefix stem).reset s = (.ok (), t)) :
    t.Apart (ofPrefix stem).writePath (ofPrefix stem).readPath ∧
      ∀ phase, t.contents? ((ofPrefix stem).path phase) = none ∧
        ¬ t.IsSealed ((ofPrefix stem).path phase) := by
  unfold reset at h
  split at h
  · cases h
  · rename_i hwrite
    split at h <;> cases h
    rename_i hread
    have hvacant := (vacant_of_discard hread).2 _ (vacant_of_discard hwrite).1
    have hvacant' := (vacant_of_discard hread).1
    refine ⟨Store.apart_of_vacant ⟨by decide, by decide⟩ ⟨by decide, by decide⟩ (by decide) hvacant
      hvacant', fun phase => ?_⟩
    cases phase
    · exact ⟨hvacant.contents?_eq, hvacant.not_isSealed⟩
    · exact ⟨hvacant'.contents?_eq, hvacant'.not_isSealed⟩

end Profile

/-! ### Launchers that leave the files alone -/

/-- The launcher keeps some files apart from those of the profile, and leaves the latter alone. -/
def Launcher.Spares (launcher : Launcher) (p : Profile) (others : List String) : Prop :=
  ∀ history phase command s, p.Separate others s →
    p.Separate others (launcher.answer history phase command s).store ∧
    ∀ other : Phase, (launcher.answer history phase command s).store.contents? (p.path other) =
      s.contents? (p.path other)

namespace Launcher

variable {p : Profile} {others : List String}

lemma recording_spares {script : String} (hscript : script ∈ others) :
    (recording script).Spares p others := by
  intro history phase command s hs
  simp only [recording]
  cases happend : s.append script (bytesOf (command.text ++ "\n")) with
  | error cause => exact ⟨hs, fun _ => rfl⟩
  | ok t => exact ⟨hs.of_modify happend, hs.contents?_eq hscript happend⟩

/-- The programs keep some files apart from those of the profile, and leave the latter alone. -/
def Programs.Spare (programs : Programs) (p : Profile) (others : List String) : Prop :=
  ∀ name args s ending, p.Separate others s → programs name args s = .ok ending →
    p.Separate others ending.store ∧
    ∀ phase, ending.store.contents? (p.path phase) = s.contents? (p.path phase)

/-- Processes spare a profile if the programs do so. -/
lemma process_spares {programs : Programs} {log : Phase → String} (hlog : ∀ phase, log phase ∈ others)
    (hprograms : programs.Spare p others) : (process programs log).Spares p others := by
  intro history phase command s hs
  simp only [process]
  cases hending : programs command.launcher command.argv s with
  | error cause => exact ⟨hs, fun _ => rfl⟩
  | ok ending =>
    obtain ⟨hleft, hcontents⟩ := hprograms _ _ _ _ hs hending
    dsimp only
    cases happend : ending.store.append (log phase) (bytesOf ending.text) with
    | error cause => exact ⟨hleft, hcontents⟩
    | ok t =>
      exact ⟨hleft.of_modify happend, fun other =>
        (hleft.contents?_eq (hlog phase) happend other).trans (hcontents other)⟩

lemma rehearsed_spares (name : String) (executes : Bool) (replies : Phase → List Reply) :
    (rehearsed name executes replies).Spares p others :=
  fun _ _ _ _ hs => ⟨hs, fun _ => rfl⟩

end Launcher

end TileBench
