import TileBench.Proofs.Launch.Forwarding
import TileBench.Proofs.Text.ByteOrder

/-!
# Options in another order

Options with different keys do not disturb each other: in which order they are set shows neither in
their values nor in the arguments for the launcher, where they stand in the order of the bytes of their
keys. Only the settings of one key override each other, so it matters which of them is the last one.
-/

namespace TileBench.LaunchOptions

variable {options : LaunchOptions} {a b : List (String × OptionValue)} {key other : String}
  {value : OptionValue}

/-! ### Settings in turn -/

/-- The same settings in another order, where those of one key stand in the same order: neighbours with
different keys may change places, as often as one likes. -/
inductive Reordered : List (String × OptionValue) → List (String × OptionValue) → Prop
  | refl (settings : List (String × OptionValue)) : Reordered settings settings
  | swap (front back : List (String × OptionValue)) {first second : String × OptionValue}
      (hne : first.1 ≠ second.1) :
      Reordered (front ++ first :: second :: back) (front ++ second :: first :: back)
  | trans {a b c : List (String × OptionValue)} (hab : Reordered a b) (hbc : Reordered b c) :
      Reordered a c

lemma insert_comm (options : LaunchOptions) (hne : key ≠ other) (v w : OptionValue) :
    (options.insert key v).insert other w = (options.insert other w).insert key v :=
  congrArg LaunchOptions.mk (options.bindings.insert_comm hne v w)

/-- A swap of neighbours with different keys makes no difference, so no number of them does. -/
lemma Reordered.setAll_eq (h : Reordered a b) (options : LaunchOptions) :
    options.setAll a = options.setAll b := by
  induction h with
  | refl => rfl
  | swap front back hne =>
    simp only [setAll, List.foldl_append, List.foldl_cons]
    rw [insert_comm _ hne]
  | trans _ _ ihab ihbc => exact ihab.trans ihbc

/-! ### What is set -/

lemma mem_toList_iff : (key, value) ∈ options.toList ↔ options.get? key = some value :=
  OrderedMap.mem_entries_iff

lemma nodup_toList (options : LaunchOptions) : (options.toList.map Prod.fst).Nodup :=
  options.bindings.nodup_keys

/-- Keys that are in order have bytes that are in order. -/
lemma toList_ascending (options : LaunchOptions) :
    options.toList.Pairwise fun p q => Text.bytesOf p.1 < Text.bytesOf q.1 :=
  options.bindings.sorted.imp fun h => Text.encode_lt_encode h

/-! ### What is handed over -/

/-- A key with its dashes: one for a key of one character, and two for every other key. -/
inductive WithDashes : String → String → Prop
  | short (c : Char) : WithDashes (String.singleton c) ("-" ++ String.singleton c)
  | long {key : String} (hkey : ∀ c, key ≠ String.singleton c) : WithDashes key ("--" ++ key)

/-- The arguments of an option: its key with dashes, and the value unless it is a flag. -/
inductive HandedAs : String × OptionValue → List String → Prop
  | flag {key text : String} (hkey : WithDashes key text) : HandedAs (key, none) [text]
  | value {key text : String} (hkey : WithDashes key text) (value : String) :
      HandedAs (key, some value) [text, value]

lemma length_eq_one_iff : key.length = 1 ↔ ∃ c, key = String.singleton c := by
  rw [← String.length_toList, List.length_eq_one_iff]
  simp only [← String.toList_inj, String.toList_singleton]

lemma withDashes_dashed (key : String) : WithDashes key (dashed key) := by
  unfold dashed
  split
  · rename_i hlength
    obtain ⟨c, rfl⟩ := length_eq_one_iff.mp hlength
    exact .short c
  · rename_i hlength
    exact .long fun c hkey => hlength (length_eq_one_iff.mpr ⟨c, hkey⟩)

lemma handedAs_dashed (option : String × OptionValue) :
    HandedAs option (dashed option.1 :: option.2.toList) := by
  obtain ⟨key, value⟩ := option
  cases value with
  | none => exact .flag (withDashes_dashed key)
  | some value => exact .value (withDashes_dashed key) value

/-- The arguments for the launcher are those of the options, one behind the other. -/
lemma exists_handedAs (options : LaunchOptions) : ∃ groups : List (List String),
    options.launcherArgs = groups.flatten ∧ List.Forall₂ HandedAs options.toList groups := by
  refine ⟨options.toList.map fun option => dashed option.1 :: option.2.toList, ?_, ?_⟩
  · rw [launcherArgs, List.flatMap_def]
  · rw [List.forall₂_map_right_iff, List.forall₂_same]
    exact fun option _ => handedAs_dashed option

/-- Settings that are reordered so that those of one key keep their order set the same options, and the
launcher is handed the same arguments. These are the arguments of the options one behind the other,
where each key has the value that it was given last, and the keys stand in the order of their bytes. -/
theorem independent_settings_commute :
    (∀ (options : LaunchOptions) (a b : List (String × OptionValue)), Reordered a b →
      (∀ key, (options.setAll a).get? key = (options.setAll b).get? key) ∧
      (options.setAll a).toList = (options.setAll b).toList ∧
      (options.setAll a).launcherArgs = (options.setAll b).launcherArgs) ∧
    ∀ settings : List (String × OptionValue),
      ((empty.setAll settings).toList.map Prod.fst).Nodup ∧
      ((empty.setAll settings).toList.Pairwise fun p q =>
        Text.bytesOf p.1 < Text.bytesOf q.1) ∧
      (∀ key value, (key, value) ∈ (empty.setAll settings).toList ↔
        BindsLast settings key value) ∧
      (∀ key value, (empty.setAll settings).get? key = some value ↔
        BindsLast settings key value) ∧
      ∃ groups : List (List String), (empty.setAll settings).launcherArgs = groups.flatten ∧
        List.Forall₂ HandedAs (empty.setAll settings).toList groups := by
  refine ⟨fun options a b h => ?_, fun settings => ⟨nodup_toList _, toList_ascending _,
    fun key value => ?_, fun key value => get?_setAll_empty_iff, exists_handedAs _⟩⟩
  · rw [h.setAll_eq options]
    exact ⟨fun _ => rfl, rfl, rfl⟩
  · rw [mem_toList_iff, get?_setAll_empty_iff]

/-- Settings of three keys, one of which is a single character with two bytes. -/
def someSettings : List (String × OptionValue) :=
  [("H", some "n1"), ("é", none), ("H", some "n2,n3"), ("bind-to", some "core")]

/-- The same settings, of which neighbours with different keys have changed places twice. -/
def swappedSettings : List (String × OptionValue) :=
  [("é", none), ("H", some "n1"), ("bind-to", some "core"), ("H", some "n2,n3")]

theorem someSettings_commute :
    Reordered someSettings swappedSettings ∧
    (empty.setAll someSettings).launcherArgs = (empty.setAll swappedSettings).launcherArgs ∧
    (empty.setAll swappedSettings).launcherArgs =
      ["-H", "n2,n3", "--bind-to", "core", "-é"] := by
  have hfront : Reordered someSettings
      [("é", none), ("H", some "n1"), ("H", some "n2,n3"), ("bind-to", some "core")] :=
    .swap [] _ (by decide)
  have hback : Reordered
      [("é", none), ("H", some "n1"), ("H", some "n2,n3"), ("bind-to", some "core")]
      swappedSettings :=
    .swap [("é", none), ("H", some "n1")] [] (by decide)
  have hreordered := hfront.trans hback
  obtain ⟨-, -, hargs⟩ := independent_settings_commute.1 empty _ _ hreordered
  exact ⟨hreordered, hargs, by decide⟩

end TileBench.LaunchOptions
