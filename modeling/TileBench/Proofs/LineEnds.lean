import TileBench.Profile
import TileBench.Proofs.BenchLog.Blame
import TileBench.Proofs.SampleCount.Scanners
import TileBench.Proofs.Store.Destinations
import TileBench.Proofs.Text.Words

/-!
# Line ends

Outputs and logs are read line by line, and a carriage return at the end of a line is a blank that
belongs to no word. So carriage returns in front of the newlines make no difference, and neither does
a newline behind the last line. Only the bytes of tagged lines that are copied to a profile tell
whether there was a bare carriage return at the very end of the text: a newline behind it makes it a
part of the line end, which is not copied.
-/

namespace TileBench

open Text

variable {line : List Char} {s t : String} {path : String}

/-! ### A carriage return at the end of a line -/

namespace Text

lemma words_dropReturn (line : List Char) : words (dropReturn line) = words line := by
  obtain hsame | hline := dropReturn_cases line
  · rw [hsame]
  · conv_rhs => rw [hline]
    rw [words_append_blank isBlank_return]
    exact (List.append_nil _).symm

lemma occursIn_dropReturn {part : List Char} (h : '\r' ∉ part) (line : List Char) :
    occursIn part (dropReturn line) = occursIn part line := by
  obtain hsame | hline := dropReturn_cases line
  · rw [hsame]
  · rw [Bool.eq_iff_iff, occursIn_iff, occursIn_iff]
    conv_rhs => rw [hline]
    rw [List.infix_concat_iff, List.suffix_concat_iff]
    constructor
    · exact .inr
    · rintro ((rfl | ⟨part, rfl, -⟩) | hinfix)
      · exact List.nil_infix
      · exact absurd (List.mem_append_right _ (List.mem_singleton_self _)) h
      · exact hinfix

lemma dropReturn_eq_self_iff : dropReturn line = line ↔ line.getLast? ≠ some '\r' := by
  unfold dropReturn
  split
  · rename_i hlast
    obtain ⟨front, rfl⟩ := List.getLast?_eq_some_iff.mp hlast
    simp
  · rename_i hlast
    exact ⟨fun _ => hlast, fun _ => rfl⟩

end Text

lemma SampleCounts.ofLine?_dropReturn (line : List Char) :
    ofLine? (dropReturn line) = ofLine? line := by
  have hmarker : '\r' ∉ marker := by decide
  rw [ofLine?, ofLine?, occursIn_dropReturn hmarker, words_dropReturn]

namespace Reading

variable {marker : LogMarker}

lemma tagged_dropReturn (marker : LogMarker) (line : List Char) :
    tagged marker (dropReturn line) = tagged marker line :=
  occursIn_dropReturn (by cases marker <;> decide) line

lemma wordAt_dropReturn (marker : LogMarker) (line : List Char) :
    wordAt marker (dropReturn line) = wordAt marker line := by
  funext index
  rw [wordAt, wordAt, words_dropReturn]

lemma numberAt_dropReturn (marker : LogMarker) (line : List Char) :
    numberAt marker (dropReturn line) = numberAt marker line := by
  funext index
  rw [numberAt, numberAt, wordAt_dropReturn]

lemma addLine_dropReturn (r : Reading) (line : List Char) :
    r.addLine (dropReturn line) = r.addLine line := by
  simp only [addLine, addLayout, addBox, addProblem, addCreate, addWrite, addTaken,
    FileLayout.ofLine, WordBox.ofLine, Problem.ofLine, tagged_dropReturn, wordAt_dropReturn,
    numberAt_dropReturn]

/-- A carriage return at the end of the last line makes no difference. -/
lemma addRows_concat_dropReturn (r : Reading) (number : Nat) (rows : List (Option (List Char)))
    (line : List Char) :
    r.addRows number (rows ++ [some (dropReturn line)]) = r.addRows number (rows ++ [some line]) := by
  rw [addRows_append, addRows_append]
  refine bind_congr fun next => ?_
  rw [addRows, addRows, addRow, addRow, addLine_dropReturn]

end Reading

/-! ### What is read -/

/-- The texts are read alike: the same report is found in both, as texts and on streams, and they
are the same log or have the same fault. -/
structure ReadAlike (s t : String) : Prop where
  output : SampleCounts.ofOutput s = SampleCounts.ofOutput t
  stream : SampleCounts.ofStream (bytesOf s) = SampleCounts.ofStream (bytesOf t)
  log : ∀ path, BenchLog.parse path (bytesOf s) = BenchLog.parse path (bytesOf t)

lemma SampleCounts.ofStream_bytesOf (s : String) :
    ofStream (bytesOf s) = .ok (ofOutput s) := by
  rw [ofStream, bytesOf_eq, scanBytes_toUTF8]
  rfl

lemma logLines_bytesOf (s : String) : logLines (bytesOf s) = (lines s.toList).map some := by
  refine logLines_of_decode? ?_
  rw [decode?_eq_some_iff_toUTF8, bytesOf_eq]

/-- Texts are read alike if their lines have the same reports and are read with the same effect. -/
lemma ReadAlike.of_lines
    (hreports : (lines s.toList).filterMap SampleCounts.ofLine? =
      (lines t.toList).filterMap SampleCounts.ofLine?)
    (hrun : Reading.start.addRows 1 ((lines s.toList).map some) =
      Reading.start.addRows 1 ((lines t.toList).map some)) : ReadAlike s t := by
  have houtput : SampleCounts.ofOutput s = SampleCounts.ofOutput t := by
    rw [SampleCounts.ofOutput, SampleCounts.ofOutput, SampleCounts.ofLines, SampleCounts.ofLines,
      hreports]
  refine ⟨houtput, ?_, fun path => ?_⟩
  · rw [SampleCounts.ofStream_bytesOf, SampleCounts.ofStream_bytesOf, houtput]
  · rw [BenchLog.parse, BenchLog.parse, logLines_bytesOf, logLines_bytesOf, hrun]

/-- A newline behind a text that does not end with one makes an empty line, or it ends the last
line. -/
lemma lines_append_newline_cases (hs : s.toList.getLast? ≠ some '\n') :
    s = "" ∨ ∃ front last, lines s.toList = front ++ [last] ∧
      lines (s ++ "\n").toList = front ++ [dropReturn last] := by
  have hnewline : (s ++ "\n").toList = s.toList ++ ['\n'] := String.toList_append
  by_cases hempty : s = ""
  · exact .inl hempty
  · refine .inr ?_
    rw [hnewline]
    apply exists_lines_append_newline
    rintro (hnil | ⟨front, hfront⟩)
    · exact hempty (String.toList_eq_nil_iff.mp hnil)
    · exact hs (by rw [hfront, List.getLast?_concat])

lemma readAlike_append_newline (hs : s.toList.getLast? ≠ some '\n') : ReadAlike (s ++ "\n") s := by
  obtain rfl | ⟨front, last, hlines, hlines'⟩ := lines_append_newline_cases hs
  · exact .of_lines rfl rfl
  · refine .of_lines ?_ ?_
    · rw [hlines, hlines', List.filterMap_append, List.filterMap_append, List.filterMap_cons,
        List.filterMap_cons, SampleCounts.ofLine?_dropReturn]
    · rw [hlines, hlines', List.map_append, List.map_append]
      exact Reading.addRows_concat_dropReturn ..

/-! ### What is copied -/

/-- The same bytes are copied to a profile for both texts. -/
def CopiedAlike (s t : String) : Prop :=
  ∀ (store : Store) (path : String), Profile.capture store path s = Profile.capture store path t

namespace Profile

lemma excerpt_eq_nil_iff : excerpt s = [] ↔ taggedLines s = [] := by
  rw [excerpt, List.flatMap_eq_nil_iff]
  constructor
  · intro h
    refine List.eq_nil_iff_forall_not_mem.mpr fun line hline => ?_
    exact List.concat_ne_nil _ _ (h line hline)
  · intro h
    rw [h]
    exact List.forall_mem_nil _

lemma isPlain_readPath : Store.IsPlain "run_read.prof" := by
  constructor <;> decide

/-- What is collected first is all that the file holds. -/
lemma exists_capture_empty (output : String) :
    ∃ t, capture .empty "run_read.prof" output = .ok t ∧
      (t.contents? "run_read.prof").getD [] = encode (excerpt output) := by
  unfold capture
  split
  · rename_i hempty
    rw [excerpt_eq_nil_iff.mpr (List.isEmpty_iff.mp hempty)]
    exact ⟨.empty, rfl, by rw [isPlain_readPath.contents?_empty]; rfl⟩
  · obtain ⟨t, happend, -⟩ := isPlain_readPath.exists_modify (Store.writable_empty _)
      fun old => old ++ encode (excerpt output)
    refine ⟨t, mapError_eq_ok_iff.mpr happend, ?_⟩
    rw [Store.contents?_of_modify happend, isPlain_readPath.contents?_empty]
    rfl

lemma copiedAlike_iff : CopiedAlike s t ↔ excerpt s = excerpt t := by
  constructor
  · intro h
    obtain ⟨u, hs, hcontents⟩ := exists_capture_empty s
    obtain ⟨u', ht, hcontents'⟩ := exists_capture_empty t
    rw [h, ht] at hs
    cases hs
    rw [hcontents] at hcontents'
    have hdecode := congrArg decode? hcontents'
    rw [decode?_encode, decode?_encode] at hdecode
    exact Option.some.inj hdecode
  · intro h store path
    have hempty : (taggedLines s).isEmpty = (taggedLines t).isEmpty := by
      rw [Bool.eq_iff_iff, List.isEmpty_iff, List.isEmpty_iff, ← excerpt_eq_nil_iff,
        ← excerpt_eq_nil_iff, h]
    rw [capture, capture, hempty, h]

end Profile

/-- The last line is tagged, and a bare carriage return is its last character. -/
def EndsInTaggedReturn (s : String) : Prop :=
  ∃ line, (lines s.toList).getLast? = some line ∧ occursIn Profile.marker line = true ∧
    line.getLast? = some '\r'

lemma copiedAlike_append_newline_iff (hs : s.toList.getLast? ≠ some '\n') :
    CopiedAlike (s ++ "\n") s ↔ ¬ EndsInTaggedReturn s := by
  rw [Profile.copiedAlike_iff, Profile.excerpt, Profile.excerpt, Profile.taggedLines,
    Profile.taggedLines, EndsInTaggedReturn]
  obtain rfl | ⟨front, last, hlines, hlines'⟩ := lines_append_newline_cases hs
  · refine iff_of_true rfl ?_
    rintro ⟨line, ⟨⟩, -⟩
  · have hmarker : '\r' ∉ Profile.marker := by decide
    rw [hlines, hlines', List.getLast?_concat, List.filter_append, List.filter_append,
      List.flatMap_append, List.flatMap_append, List.append_cancel_left_eq, List.filter_singleton,
      List.filter_singleton, occursIn_dropReturn hmarker]
    cases htagged : occursIn Profile.marker last with
    | false => simp [htagged]
    | true => simp [htagged, dropReturn_eq_self_iff]

/-! ### Both kinds of line ends -/

/-- The text with a carriage return in front of each newline. -/
def withCRLF (s : String) : String := String.ofList (withReturns s.toList)

lemma lines_withCRLF (h : '\r' ∉ s.toList) : lines (withCRLF s).toList = lines s.toList := by
  rw [withCRLF, String.toList_ofList, lines_withReturns h]

lemma return_mem_of_endsInTaggedReturn (h : EndsInTaggedReturn s) : '\r' ∈ s.toList := by
  obtain ⟨line, hline, -, hlast⟩ := h
  exact subset_of_mem_lines (List.mem_of_getLast? hline) (List.mem_of_getLast? hlast)

/-- A text without carriage returns is read and copied in the same way if each of its newlines is
given one. A text that does not end with a newline is read in the same way if it is given one, and
copied in the same way unless its last line is tagged and ends in a bare carriage return. -/
theorem line_ends_make_no_difference (s : String) :
    ('\r' ∉ s.toList → ReadAlike (withCRLF s) s ∧ CopiedAlike (withCRLF s) s) ∧
    (s.toList.getLast? ≠ some '\n' → ReadAlike (s ++ "\n") s ∧
      (CopiedAlike (s ++ "\n") s ↔ ¬ EndsInTaggedReturn s)) ∧
    (EndsInTaggedReturn s → '\r' ∈ s.toList) := by
  refine ⟨fun hreturn => ⟨?_, ?_⟩, fun hs => ⟨readAlike_append_newline hs, ?_⟩,
    return_mem_of_endsInTaggedReturn⟩
  · have hlines := lines_withCRLF hreturn
    exact .of_lines (by rw [hlines]) (by rw [hlines])
  · rw [Profile.copiedAlike_iff, Profile.excerpt, Profile.excerpt, Profile.taggedLines,
      Profile.taggedLines, lines_withCRLF hreturn]
  · exact copiedAlike_append_newline_iff hs

/-- A newline behind a bare carriage return changes what is copied. -/
theorem final_newline_drops_return :
    "IRPIWCCHHAI 1\r".toList.getLast? ≠ some '\n' ∧
    ¬ CopiedAlike ("IRPIWCCHHAI 1\r" ++ "\n") "IRPIWCCHHAI 1\r" ∧
    Profile.excerpt ("IRPIWCCHHAI 1\r" ++ "\n") = "IRPIWCCHHAI 1\n".toList ∧
    Profile.excerpt "IRPIWCCHHAI 1\r" = "IRPIWCCHHAI 1\r\n".toList := by
  have hcopied : Profile.excerpt ("IRPIWCCHHAI 1\r" ++ "\n") = "IRPIWCCHHAI 1\n".toList := by
    decide +kernel
  have hcopied' : Profile.excerpt "IRPIWCCHHAI 1\r" = "IRPIWCCHHAI 1\r\n".toList := by
    decide +kernel
  refine ⟨by decide, ?_, hcopied, hcopied'⟩
  rw [Profile.copiedAlike_iff, hcopied, hcopied']
  decide

end TileBench
