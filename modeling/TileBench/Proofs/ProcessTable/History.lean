import TileBench.ProcessTable.Json
import TileBench.Proofs.Config.Tables
import TileBench.Proofs.Except
import Mathlib.Tactic.TFAE

/-!
# Tables and what was given to them

A table is the empty one, the built-in one or one that is decoded from a document, after any lists of
grids have been inserted. What it answers for a count is told by the list that was given last for this
count. A count whose last list is empty is as unknown as one for which no list was given, and all views
of the table agree on which counts these are.
-/

namespace TileBench.ProcessTable

variable {table : ProcessTable} {count other : UInt32} {grids : List Extent} {grid : Extent}
  {fault : Fault} {given : List (UInt32 × List Extent)}

/-! ### Views -/

lemma mem_counts_iff : count ∈ table.counts ↔ table.contains count = true := by
  simp only [contains_iff, grids_eq_ok_iff, ← OrderedMap.mem_entries_iff]
  simp [counts, and_comm]

lemma counts_ascending (table : ProcessTable) : table.counts.Pairwise (· < ·) :=
  List.pairwise_map.mpr (table.bindings.sorted.filter _)

lemma grids_eq_error_iff : table.grids count = .error fault ↔
    table.contains count = false ∧ fault = .unknownProcessCount count table.counts := by
  unfold ProcessTable.grids gridsOf contains
  cases table.bindings.get? count with
  | none => simp [Except.map, eq_comm]
  | some grids => cases grids <;> simp [Except.map, eq_comm]

lemma exists_defaultGrid_iff :
    (∃ grid, table.defaultGrid count = .ok grid) ↔ ∃ grids, table.grids count = .ok grids := by
  simp only [defaultGrid_eq_ok_iff]
  constructor
  · rintro ⟨grid, others, h⟩
    exact ⟨grid :: others, h⟩
  · rintro ⟨grids, h⟩
    obtain ⟨grid, others, rfl⟩ := exists_cons_of_grids h
    exact ⟨grid, others, h⟩

/-- A count that is known to one view of a table is known to all of them. -/
lemma known_tfae (table : ProcessTable) (count : UInt32) : List.TFAE [
    table.contains count = true, ∃ grids, table.grids count = .ok grids,
    ∃ grid, table.defaultGrid count = .ok grid, count ∈ table.counts] := by
  tfae_have 1 ↔ 2 := contains_iff
  tfae_have 3 ↔ 2 := exists_defaultGrid_iff
  tfae_have 4 ↔ 1 := mem_counts_iff
  tfae_finish

/-- No view of the table knows the count. Both faults name it and the counts that the table knows. -/
structure Unknown (table : ProcessTable) (count : UInt32) : Prop where
  contains : table.contains count = false
  grids : table.grids count = .error (.unknownProcessCount count table.counts)
  defaultGrid : table.defaultGrid count = .error (.unknownProcessCount count table.counts)
  counts : count ∉ table.counts

lemma unknown_of_contains (h : table.contains count = false) : table.Unknown count := by
  have hgrids : table.grids count = .error (.unknownProcessCount count table.counts) :=
    grids_eq_error_iff.mpr ⟨h, rfl⟩
  refine ⟨h, hgrids, defaultGrid_of_grids hgrids, ?_⟩
  rw [mem_counts_iff, h]
  exact Bool.false_ne_true

lemma unknown_of_defaultGrid (h : table.defaultGrid count = .error fault) :
    table.Unknown count := by
  apply unknown_of_contains
  rw [← Bool.not_eq_true, contains_iff, ← exists_defaultGrid_iff, ← exists_error_iff]
  exact ⟨fault, h⟩

/-- The default grid is the first of the grids, of which there is one. -/
lemma defaultGrid_of_grids_eq_ok (h : table.grids count = .ok grids) :
    ∃ hpos : 0 < grids.length, table.defaultGrid count = .ok grids[0] := by
  obtain ⟨grid, others, rfl⟩ := exists_cons_of_grids h
  exact ⟨Nat.succ_pos _, defaultGrid_eq_ok_iff.mpr ⟨others, h⟩⟩

/-! ### Insertions -/

/-- Two tables answer alike for a count. A fault names all counts that its table knows, so it is not
compared. -/
structure AnswersAlike (a b : ProcessTable) (count : UInt32) : Prop where
  contains : a.contains count = b.contains count
  grids : ∀ grids, a.grids count = .ok grids ↔ b.grids count = .ok grids
  defaultGrid : ∀ grid, a.defaultGrid count = .ok grid ↔ b.defaultGrid count = .ok grid
  counts : count ∈ a.counts ↔ count ∈ b.counts

/-- A table answers by the list that is bound to the count. -/
lemma answersAlike_of_get? {a b : ProcessTable}
    (h : a.bindings.get? count = b.bindings.get? count) : AnswersAlike a b count := by
  have hcontains : a.contains count = b.contains count := by rw [contains, contains, h]
  have hgrids : ∀ grids, a.grids count = .ok grids ↔ b.grids count = .ok grids := by
    intro grids
    rw [grids_eq_ok_iff, grids_eq_ok_iff, h]
  refine ⟨hcontains, hgrids, fun grid => ?_, ?_⟩
  · simp only [defaultGrid_eq_ok_iff, hgrids]
  · rw [mem_counts_iff, mem_counts_iff, hcontains]

lemma get?_insert (table : ProcessTable) (count other : UInt32) (grids : List Extent) :
    (table.insert count grids).bindings.get? other =
      if other = count then some grids else table.bindings.get? other :=
  table.bindings.get?_insert count other grids

/-- An empty list makes a count unknown. -/
lemma unknown_insert_nil (table : ProcessTable) (count : UInt32) :
    (table.insert count []).Unknown count := by
  apply unknown_of_contains
  rw [contains, get?_insert, if_pos rfl]
  rfl

/-- What is inserted for another count does not matter. -/
lemma answersAlike_insert (h : other ≠ count) (table : ProcessTable) (grids : List Extent) :
    AnswersAlike (table.insert other grids) table count := by
  apply answersAlike_of_get?
  rw [get?_insert, if_neg h.symm]

/-! ### Histories -/

/-- The counts of a document with their lists, in the order in which they stand there. -/
def members (d : Json.Draft) : Except DecodeError (List (UInt32 × List Extent)) :=
  d.map32 fun grids => grids.list fun grid => grid.parsed Extent.parse

lemma decode_eq_ok_iff {d : Json.Draft} :
    decode d = .ok table ↔ ∃ given, members d = .ok given ∧ table = ofList given := by
  constructor
  · intro h
    obtain ⟨given, hgiven, ⟨⟩⟩ := bind_eq_ok_iff.mp h
    exact ⟨given, hgiven, rfl⟩
  · rintro ⟨given, hgiven, rfl⟩
    exact bind_eq_ok_iff.mpr ⟨given, hgiven, rfl⟩

/-- A table comes from giving lists for counts: those of the table that it started from, and then those
that were inserted. -/
inductive Reached : ProcessTable → List (UInt32 × List Extent) → Prop
  | empty : Reached .empty []
  | standard : Reached .standard standard.bindings.entries
  | decoded {d : Json.Draft} {table : ProcessTable} {given : List (UInt32 × List Extent)}
      (htable : decode d = .ok table) (hgiven : members d = .ok given) : Reached table given
  | insert {table : ProcessTable} {given : List (UInt32 × List Extent)} (h : Reached table given)
      (count : UInt32) (grids : List Extent) :
      Reached (table.insert count grids) (given ++ [(count, grids)])

lemma exists_reached_of_decode {d : Json.Draft} (h : decode d = .ok table) :
    ∃ given, Reached table given := by
  obtain ⟨given, hgiven, -⟩ := decode_eq_ok_iff.mp h
  exact ⟨given, .decoded h hgiven⟩

/-- A table binds each count to the list that was given last for it. -/
lemma Reached.get?_eq (h : Reached table given) (count : UInt32) :
    table.bindings.get? count = valueAt? count given.reverse := by
  induction h with
  | empty => rfl
  | standard => rw [← OrderedMap.get?_ofList, OrderedMap.ofList_entries]
  | @decoded d table given htable hgiven =>
    obtain ⟨_, hmembers, rfl⟩ := decode_eq_ok_iff.mp htable
    obtain rfl := Except.ok.inj (hgiven.symm.trans hmembers)
    exact OrderedMap.get?_ofList given count
  | @insert table given h other grids ih =>
    rw [get?_insert, ih, List.reverse_append, List.reverse_singleton, List.singleton_append,
      valueAt?_cons]

lemma Reached.grids_eq_ok_iff (h : Reached table given) :
    table.grids count = .ok grids ↔ grids ≠ [] ∧ BindsLast given count grids := by
  rw [ProcessTable.grids_eq_ok_iff, h.get?_eq, valueAt?_reverse_eq_some_iff]

/-- Every table that a document is decoded to is reached. Whatever the history of a table, its views
know the same counts, which are listed in ascending order. The grids of a known count are those of the
list that was given last for it, and the first of them is the default one. For every other count there
is a fault with the count and with all counts that are known. An empty list makes a count unknown, and
lists for other counts do not change what is answered for it. -/
theorem views_agree :
    (∀ (d : Json.Draft) (table : ProcessTable), decode d = .ok table →
      ∃ given, Reached table given) ∧
    ∀ (table : ProcessTable) (given : List (UInt32 × List Extent)), Reached table given →
      table.counts.Pairwise (· < ·) ∧ table.counts.Nodup ∧
      ∀ count,
        List.TFAE [table.contains count = true, ∃ grids, table.grids count = .ok grids,
          ∃ grid, table.defaultGrid count = .ok grid, count ∈ table.counts] ∧
        (∀ grids, table.grids count = .ok grids ↔ grids ≠ [] ∧ BindsLast given count grids) ∧
        (∀ grids, table.grids count = .ok grids →
          ∃ hpos : 0 < grids.length, table.defaultGrid count = .ok grids[0]) ∧
        (∀ fault, table.grids count = .error fault →
          fault = .unknownProcessCount count table.counts) ∧
        (∀ fault, table.defaultGrid count = .error fault →
          fault = .unknownProcessCount count table.counts) ∧
        (table.insert count []).Unknown count ∧
        ∀ other grids, other ≠ count → AnswersAlike (table.insert other grids) table count := by
  refine ⟨fun d table => exists_reached_of_decode, fun table given h => ⟨counts_ascending table,
    (counts_ascending table).imp Std.ne_of_lt, fun count => ⟨known_tfae table count,
    fun grids => h.grids_eq_ok_iff, fun grids => defaultGrid_of_grids_eq_ok, fun fault hfault => ?_,
    fun fault hfault => ?_, unknown_insert_nil table count,
    fun other grids hne => answersAlike_insert hne table grids⟩⟩⟩
  · exact (grids_eq_error_iff.mp hfault).2
  · have hunknown := (unknown_of_defaultGrid hfault).defaultGrid
    rw [hfault] at hunknown
    exact Except.error.inj hunknown

/-- A document with two members for a count. -/
def overwritten : Json.Draft :=
  (Json.draft "\x7b\"2\": [\"2x1x1\"], \"8\": [\"4x2x1\"], \"2\": [\"1x2x1\", \"2x1x1\"]\x7d").1

/-- What the document gives. -/
def overwrittenLists : List (UInt32 × List Extent) :=
  [(2, [⟨2, 1, 1⟩]), (8, [⟨4, 2, 1⟩]), (2, [⟨1, 2, 1⟩, ⟨2, 1, 1⟩])]

/-- Its table, with one count made unknown and another one made known. -/
def remade : ProcessTable := ((ofList overwrittenLists).insert 8 []).insert 6 [⟨3, 2, 1⟩]

theorem views_agree_after_overwriting :
    Reached remade (overwrittenLists ++ [(8, [])] ++ [(6, [⟨3, 2, 1⟩])]) ∧
    remade.counts = [2, 6] ∧ remade.grids 2 = .ok [⟨1, 2, 1⟩, ⟨2, 1, 1⟩] ∧
    remade.defaultGrid 2 = .ok ⟨1, 2, 1⟩ ∧ (remade.insert 2 []).Unknown 2 ∧
    AnswersAlike (remade.insert 2 []) remade 6 := by
  have hmembers : members overwritten = .ok overwrittenLists := by decide +kernel
  have hdecoded : Reached (ofList overwrittenLists) overwrittenLists :=
    .decoded (decode_eq_ok_iff.mpr ⟨_, hmembers, rfl⟩) hmembers
  have hreached : Reached remade (overwrittenLists ++ [(8, [])] ++ [(6, [⟨3, 2, 1⟩])]) :=
    (hdecoded.insert 8 []).insert 6 [⟨3, 2, 1⟩]
  obtain ⟨-, -, hviews⟩ := views_agree.2 _ _ hreached
  obtain ⟨-, hgrids, hdefault, -, -, hunknown, -⟩ := hviews 2
  obtain ⟨-, -, -, -, -, -, halike⟩ := hviews 6
  have hlast : BindsLast (overwrittenLists ++ [(8, [])] ++ [(6, [⟨3, 2, 1⟩])]) 2
      [⟨1, 2, 1⟩, ⟨2, 1, 1⟩] :=
    ⟨overwrittenLists.take 2, [(8, []), (6, [⟨3, 2, 1⟩])], rfl, by decide⟩
  have htwo := (hgrids _).mpr ⟨List.cons_ne_nil _ _, hlast⟩
  obtain ⟨_, hfirst⟩ := hdefault _ htwo
  exact ⟨hreached, by decide, htwo, hfirst, hunknown, halike 2 [] (by decide)⟩

end TileBench.ProcessTable
