import TileBench.Proofs.Except
import TileBench.Proofs.Text.Encoding
import TileBench.SampleCount

/-!
# Three ways to find the last report

A report is looked for in the text of an output, on a stream of bytes, and in a file. The text is
cut into lines after it was decoded, and a stream before. Both ways find the same report, because a
newline is one byte that stands for nothing else, and keeping the latest report row by row is taking
the last one of all rows.
-/

namespace TileBench.SampleCounts

open Text

variable {counts : SampleCounts} {bytes : Bytes} {text : List Char}

/-- Keeping the latest report is taking the last one of all. -/
lemma foldl_ofLine? (lines : List (List Char)) (counts : SampleCounts) :
    lines.foldl (fun counts line => (ofLine? line).getD counts) counts =
      (lines.filterMap ofLine?).getLastD counts := by
  induction lines generalizing counts with
  | nil => rfl
  | cons line lines ih =>
    rw [List.foldl_cons, ih]
    cases hline : ofLine? line with
    | none => rw [List.filterMap_cons_none hline, Option.getD_none]
    | some report => rw [List.filterMap_cons_some hline, Option.getD_some, List.getLastD_cons]

/-! ### Rows -/

/-- Rows that are UTF-8 are read like the lines that they encode. -/
lemma foldlM_scanRow {rows : List Bytes} {texts : List (List Char)}
    (h : rows.map decode? = texts.map some) :
    rows.foldlM scanRow counts =
      .ok (((texts.map dropReturn).filterMap ofLine?).getLastD counts) := by
  rw [← foldl_ofLine?]
  induction rows generalizing texts counts with
  | nil =>
    obtain rfl := List.map_eq_nil_iff.mp h.symm
    rfl
  | cons row rows ih =>
    obtain ⟨s, rest, rfl, hrow, hrows⟩ := List.map_eq_cons_iff.mp h.symm
    rw [List.foldlM_cons, scanRow, ← hrow]
    exact ih hrows.symm

/-- The only rows that cannot be read are those that are not UTF-8. -/
lemma foldlM_scanRow_cases (rows : List Bytes) (counts : SampleCounts) :
    rows.foldlM scanRow counts = .error .notUtf8 ∨
      ∃ found, rows.foldlM scanRow counts = .ok found ∧
        ∀ row ∈ rows, ∃ s, decode? row = some s := by
  induction rows generalizing counts with
  | nil => exact .inr ⟨counts, rfl, List.forall_mem_nil _⟩
  | cons row rows ih =>
    rw [List.foldlM_cons, scanRow]
    cases hrow : decode? row with
    | none => exact .inl rfl
    | some s =>
      obtain herror | ⟨found, hfound, hrows⟩ := ih ((ofLine? (dropReturn s)).getD counts)
      · exact .inl herror
      · exact .inr ⟨found, hfound, List.forall_mem_cons.mpr ⟨⟨s, hrow⟩, hrows⟩⟩

/-! ### Streams -/

lemma scanBytes_of_decode? (h : decode? bytes = some text) :
    scanBytes bytes = .ok (ofLines (lines text)) := by
  obtain ⟨hended, hrest⟩ := rows_of_decode? h
  have hempty : (rows 10 bytes).2 = [] ↔ (rows '\n' text).2 = [] := by
    rw [← decode?_eq_some_nil_iff, hrest, Option.some.injEq]
  simp only [scanBytes, foldlM_scanRow hended, bind, Except.bind, hrest, ofLines, lines,
    List.isEmpty_iff, hempty, ← foldl_ofLine?, List.foldl_append]
  split_ifs <;> rfl

lemma scanBytes_of_not_utf8 (h : decode? bytes = none) : scanBytes bytes = .error .notUtf8 := by
  obtain herror | ⟨found, hfound, hended⟩ := foldlM_scanRow_cases (rows 10 bytes).1 unreported
  · simp only [scanBytes, herror]
    rfl
  · -- All rows in front of the last newline are UTF-8, so what stands behind it is not.
    have hrest : decode? (rows 10 bytes).2 = none := by
      cases hlast : decode? (rows 10 bytes).2 with
      | none => rfl
      | some s =>
        obtain ⟨text, htext⟩ := exists_decode?_of_rows hended ⟨s, hlast⟩
        rw [h] at htext
        cases htext
    have hne : (rows 10 bytes).2 ≠ [] := by
      intro hnil
      rw [hnil] at hrest
      cases hrest
    simp only [scanBytes, hfound, bind, Except.bind, hrest, List.isEmpty_iff, if_neg hne]

lemma scanBytes_toUTF8 (output : String) :
    scanBytes output.toUTF8.data.toList = .ok (ofOutput output) :=
  scanBytes_of_decode? (decode?_eq_some_iff_toUTF8.mpr rfl)

lemma decode?_eq_none_of_not_toUTF8 (h : ∀ s : String, bytes ≠ s.toUTF8.data.toList) :
    decode? bytes = none := by
  cases hdecode : decode? bytes with
  | none => rfl
  | some text =>
    refine absurd (decode?_eq_some_iff_toUTF8.mp ?_) (h (String.ofList text))
    rw [hdecode, String.toList_ofList]

lemma ofFile_of_read {store : Store} {path : String} (h : store.read path = .ok bytes) :
    ofFile store path = (scanBytes bytes).mapError (.file path) := by
  rw [ofFile, h]
  rfl

/-- The bytes of a text hold the report that the text holds, on a stream and in a file that can be
read. If the bytes are not UTF-8, wherever that shows, both fail, and the file is blamed by its
path. So a stream can be scanned exactly if it is UTF-8. -/
theorem scanners_agree (bytes : Bytes) :
    (∀ output : String, bytes = output.toUTF8.data.toList →
      ofStream bytes = .ok (ofOutput output) ∧
      ∀ (store : Store) (path : String), store.read path = .ok bytes →
        ofFile store path = .ok (ofOutput output)) ∧
    ((∀ output : String, bytes ≠ output.toUTF8.data.toList) →
      ofStream bytes = .error (.stream .notUtf8) ∧
      ∀ (store : Store) (path : String), store.read path = .ok bytes →
        ofFile store path = .error (.file path .notUtf8)) ∧
    ((∃ fault, ofStream bytes = .error fault) ↔
      ∀ output : String, bytes ≠ output.toUTF8.data.toList) := by
  have hutf8 : ∀ output : String, bytes = output.toUTF8.data.toList →
      ofStream bytes = .ok (ofOutput output) ∧
      ∀ (store : Store) (path : String), store.read path = .ok bytes →
        ofFile store path = .ok (ofOutput output) := by
    rintro output rfl
    have hscan := scanBytes_toUTF8 output
    refine ⟨by rw [ofStream, hscan]; rfl, fun store path hread => ?_⟩
    rw [ofFile_of_read hread, hscan]
    rfl
  have hother : (∀ output : String, bytes ≠ output.toUTF8.data.toList) →
      ofStream bytes = .error (.stream .notUtf8) ∧
      ∀ (store : Store) (path : String), store.read path = .ok bytes →
        ofFile store path = .error (.file path .notUtf8) := by
    intro hnone
    have hscan := scanBytes_of_not_utf8 (decode?_eq_none_of_not_toUTF8 hnone)
    refine ⟨by rw [ofStream, hscan]; rfl, fun store path hread => ?_⟩
    rw [ofFile_of_read hread, hscan]
    rfl
  refine ⟨hutf8, hother, ?_, fun hnone => ⟨_, (hother hnone).1⟩⟩
  rintro ⟨fault, hfault⟩ output rfl
  rw [(hutf8 output rfl).1] at hfault
  cases hfault

end TileBench.SampleCounts
