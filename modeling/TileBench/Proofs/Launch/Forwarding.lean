import TileBench.Launch.Options
import TileBench.Proofs.OrderedMap

/-!
# Options on their way to the launcher

Every launcher option that is taken out of a command line is set under its key, and the launcher is
handed the options that are set. A key has one value, so of several occurrences of a key only the
last one reaches the launcher.
-/

namespace TileBench.LaunchOptions

/-! ### Occurrences -/

def Segment.option? : Segment → Option (String × OptionValue)
  | .kept _ => none
  | .option key value => some (key, value)

/-- The options of a command line, in the order in which they stand there. -/
def occurrences (args : List String) : List (String × OptionValue) :=
  (segments args).filterMap Segment.option?

def setAll (options : LaunchOptions) (settings : List (String × OptionValue)) : LaunchOptions :=
  settings.foldl (fun options setting => options.insert setting.1 setting.2) options

lemma bindings_setAll_empty (settings : List (String × OptionValue)) :
    (empty.setAll settings).bindings = .ofList settings :=
  (List.foldl_hom LaunchOptions.bindings fun _ _ => rfl).symm

lemma foldl_apply_eq_setAll (options : LaunchOptions) (found : List Segment) :
    found.foldl Segment.apply options = options.setAll (found.filterMap Segment.option?) := by
  induction found generalizing options with
  | nil => rfl
  | cons segment rest ih =>
    rw [List.foldl_cons, ih]
    cases segment <;> rfl

/-- The options that are taken out of a command line are its occurrences, set in turn. -/
lemma extract_snd (args : List String) : (extract args).2 = empty.setAll (occurrences args) :=
  foldl_apply_eq_setAll empty (segments args)

/-- An option has the value that it is set to last. -/
lemma get?_setAll_empty_iff {settings : List (String × OptionValue)} {key : String}
    {value : OptionValue} :
    (empty.setAll settings).get? key = some value ↔ BindsLast settings key value := by
  rw [get?, bindings_setAll_empty, OrderedMap.get?_ofList, valueAt?_reverse_eq_some_iff]

/-! ### What is forwarded -/

/-- An option with its key as the launcher reads it. -/
def withDashes (option : String × OptionValue) : String × OptionValue :=
  (dashed option.1, option.2)

/-- The options that stand among the arguments for the launcher. -/
def forwarded (options : LaunchOptions) : List (String × OptionValue) :=
  options.toList.map withDashes

lemma launcherArgs_eq (options : LaunchOptions) :
    options.launcherArgs = options.forwarded.flatMap fun option => option.1 :: option.2.toList := by
  rw [launcherArgs, forwarded, List.flatMap_map]
  rfl

/-- What is forwarded are the last occurrences of the keys. -/
lemma forwarded_extract_perm (args : List String) :
    (extract args).2.forwarded.Perm ((lastBindings (occurrences args)).map withDashes) := by
  rw [forwarded, toList, extract_snd, bindings_setAll_empty]
  exact (OrderedMap.entries_ofList_perm (occurrences args)).map withDashes

/-- All occurrences are forwarded exactly if no key occurs twice. -/
lemma forwarded_extract_perm_iff (args : List String) :
    (extract args).2.forwarded.Perm ((occurrences args).map withDashes) ↔
      ((occurrences args).map Prod.fst).Nodup := by
  rw [← lastBindings_eq_self_iff]
  constructor
  · intro h
    refine (lastBindings_sublist _).eq_of_length ?_
    simpa using ((forwarded_extract_perm args).symm.trans h).length_eq
  · intro h
    have hlast := forwarded_extract_perm args
    rwa [h] at hlast

/-- The arguments for the launcher are the options of the command line, each with the value of its
last occurrence. So every occurrence is forwarded if no key occurs twice, and only then. -/
theorem last_occurrences_forwarded (args : List String) :
    (extract args).2.launcherArgs =
      (extract args).2.forwarded.flatMap (fun option => option.1 :: option.2.toList) ∧
    (extract args).2.forwarded.Perm ((lastBindings (occurrences args)).map withDashes) ∧
    ((extract args).2.forwarded.Perm ((occurrences args).map withDashes) ↔
      ((occurrences args).map Prod.fst).Nodup) :=
  ⟨launcherArgs_eq _, forwarded_extract_perm args, forwarded_extract_perm_iff args⟩

/-- An option that is given twice. -/
def repeatedOption : List String := ["--mpirun.x=A", "--mpirun.x=B"]

/-- Only its last occurrence reaches the launcher. -/
theorem repeatedOption_forwarded_once :
    occurrences repeatedOption = [("x", some "A"), ("x", some "B")] ∧
      (extract repeatedOption).2.launcherArgs = ["-x", "B"] ∧
      ¬ (extract repeatedOption).2.forwarded.Perm
        ((occurrences repeatedOption).map withDashes) := by
  have hfound : occurrences repeatedOption = [("x", some "A"), ("x", some "B")] := by decide
  refine ⟨hfound, by decide, ?_⟩
  rw [forwarded_extract_perm_iff, hfound]
  decide

end TileBench.LaunchOptions
