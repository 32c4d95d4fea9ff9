import TileBench.Proofs.Launch.Forwarding

/-!
# Pieces of a command line

A command line is cut into *pieces*: each is an argument that is kept, or a launcher option in one
of its three spellings, with its value behind an equals sign, with its value in the next argument,
or without a value. Only an option that ends the line or has an argument with a dash behind it is
without a value; with this rule there is one way to cut a command line, and the options are read
from left to right in just this way.

So an option with a value means the same in both spellings, whatever stands around it.
-/

namespace TileBench.LaunchOptions

open Text

variable {arg next key : String} {value : OptionValue} {rest : List String}

/-! ### Written options -/

/-- A key has letters and digits, underscores and dashes, and at least one of them. -/
structure IsKey (key : String) : Prop where
  ne_empty : key ≠ ""
  chars : ∀ c ∈ key.toList, isAlphanumeric c = true ∨ c = '_' ∨ c = '-'

def written (key : String) : OptionValue → String
  | none => "--mpirun." ++ key
  | some value => "--mpirun." ++ key ++ "=" ++ value

/-- The argument is an option, up to a value in the next argument. -/
def IsOption (arg : String) : Prop := ∃ key value, IsKey key ∧ arg = written key value

lemma isKey_iff : IsKey key ↔ (!key.toList.isEmpty && key.toList.all isKeyChar) = true := by
  simp only [Bool.and_eq_true, Bool.not_eq_true', List.isEmpty_eq_false_iff, List.all_eq_true,
    isKeyChar, Bool.or_eq_true, beq_iff_eq, or_assoc, ne_eq, String.toList_eq_nil_iff]
  exact ⟨fun h => ⟨h.ne_empty, h.chars⟩, fun h => ⟨h.1, h.2⟩⟩

lemma IsKey.equals_not_mem (hkey : IsKey key) : '=' ∉ key.toList := by
  intro hmem
  have hno : ¬ (isAlphanumeric '=' = true ∨ '=' = '_' ∨ '=' = '-') := by decide +kernel
  exact hno (hkey.chars '=' hmem)

lemma toList_written_none (key : String) : (written key none).toList = lead ++ key.toList := by
  rw [written, String.toList_append]
  rfl

lemma toList_written_some (key value : String) :
    (written key (some value)).toList = lead ++ (key.toList ++ '=' :: value.toList) := by
  rw [written, String.append_assoc, String.append_assoc, String.toList_append,
    String.toList_append, String.toList_append]
  rfl

lemma isValueArg_written (key : String) (value : OptionValue) :
    isValueArg (written key value) = false := by
  have hlead : ∀ s : List Char, (lead ++ s).head? = some '-' := fun s => rfl
  cases value with
  | none => rw [isValueArg, toList_written_none, hlead]; rfl
  | some value => rw [isValueArg, toList_written_some, hlead]; rfl

lemma lead_isPrefixOf {body : List Char} (h : arg.toList = lead ++ body) :
    lead.isPrefixOf arg.toList = true := by
  rw [List.isPrefixOf_iff_prefix, h]
  exact List.prefix_append _ _

/-- Without an equals sign behind the lead everything is the key. -/
lemma ofArg?_of_bare {body : List Char} (h : arg.toList = lead ++ body)
    (hsplit : splitOnce '=' body = none) : ofArg? arg =
      if (!body.isEmpty && body.all isKeyChar) = true then some (String.ofList body, none)
      else none := by
  rw [ofArg?, if_pos (lead_isPrefixOf h)]
  simp only [h, List.drop_left, hsplit]

/-- The first equals sign ends the key. -/
lemma ofArg?_of_split {body k v : List Char} (h : arg.toList = lead ++ body)
    (hsplit : splitOnce '=' body = some (k, v)) : ofArg? arg =
      if (!k.isEmpty && k.all isKeyChar) = true then
        some (String.ofList k, some (String.ofList v))
      else none := by
  rw [ofArg?, if_pos (lead_isPrefixOf h)]
  simp only [h, List.drop_left, hsplit]

lemma ofArg?_written (hkey : IsKey key) (value : OptionValue) :
    ofArg? (written key value) = some (key, value) := by
  have hchars := isKey_iff.mp hkey
  cases value with
  | none =>
    have hsplit : splitOnce '=' key.toList = none := by
      refine Option.eq_none_iff_forall_ne_some.mpr fun parts hparts => hkey.equals_not_mem ?_
      rw [(splitOnce_eq_some_iff.mp hparts).1]
      exact List.mem_append_right _ List.mem_cons_self
    rw [ofArg?_of_bare (toList_written_none key) hsplit, if_pos hchars, String.ofList_toList]
  | some value =>
    -- The value may have equals signs too, but the first one is the one in front of it.
    have hsplit : splitOnce '=' (key.toList ++ '=' :: value.toList) =
        some (key.toList, value.toList) :=
      splitOnce_eq_some_iff.mpr ⟨rfl, hkey.equals_not_mem⟩
    rw [ofArg?_of_split (toList_written_some key value) hsplit, if_pos hchars,
      String.ofList_toList, String.ofList_toList]

lemma isKey_of_ofArg? (h : ofArg? arg = some (key, value)) :
    IsKey key ∧ arg = written key value := by
  have hlead : lead <+: arg.toList := by
    by_contra hno
    rw [ofArg?, if_neg (mt List.isPrefixOf_iff_prefix.mp hno)] at h
    cases h
  obtain ⟨body, hbody⟩ := hlead
  cases hsplit : splitOnce '=' body with
  | none =>
    rw [ofArg?_of_bare hbody.symm hsplit, Option.ite_none_right_eq_some] at h
    obtain ⟨hchars, ⟨⟩⟩ := h
    refine ⟨isKey_iff.mpr (by rwa [String.toList_ofList]), String.toList_inj.mp ?_⟩
    rw [toList_written_none, String.toList_ofList, hbody]
  | some parts =>
    rw [ofArg?_of_split hbody.symm hsplit, Option.ite_none_right_eq_some] at h
    obtain ⟨hchars, ⟨⟩⟩ := h
    refine ⟨isKey_iff.mpr (by rwa [String.toList_ofList]), String.toList_inj.mp ?_⟩
    rw [toList_written_some, String.toList_ofList, String.toList_ofList,
      ← (splitOnce_eq_some_iff.mp hsplit).1, hbody]

lemma ofArg?_eq_none_iff : ofArg? arg = none ↔ ¬ IsOption arg := by
  constructor
  · rintro hnone ⟨key, value, hkey, rfl⟩
    rw [ofArg?_written hkey] at hnone
    cases hnone
  · intro hno
    refine Option.eq_none_iff_forall_ne_some.mpr fun option hoption => hno ?_
    exact ⟨option.1, option.2, isKey_of_ofArg? hoption⟩

/-! ### Pieces -/

/-- How a stretch of a command line is written. -/
inductive Piece where
  /-- An argument that is no launcher option. -/
  | kept (arg : String)
  /-- An option with its value behind an equals sign. -/
  | joined (key value : String)
  /-- An option with its value in the next argument. -/
  | spaced (key value : String)
  /-- An option without a value. -/
  | flag (key : String)
  deriving DecidableEq

namespace Piece

def args : Piece → List String
  | kept arg => [arg]
  | joined key value => [written key (some value)]
  | spaced key value => [written key none, value]
  | flag key => [written key none]

/-- The argument that a piece leaves on the command line. -/
def kept? : Piece → Option String
  | kept arg => some arg
  | joined .. | spaced .. | flag .. => none

def option? : Piece → Option (String × OptionValue)
  | kept _ => none
  | joined key value | spaced key value => some (key, some value)
  | flag key => some (key, none)

/-- What is read from a piece, however it is spelled. -/
def segment : Piece → Segment
  | kept arg => .kept arg
  | joined key value | spaced key value => .option key (some value)
  | flag key => .option key none

end Piece

/-- The pieces are cut where a command line may be cut: no argument that is kept is an option, a
value in an argument of its own does not start with a dash, and no such argument stands behind an
option without a value. -/
inductive WellCut : List Piece → Prop
  | nil : WellCut []
  | kept {arg : String} {rest : List Piece} : ¬ IsOption arg → WellCut rest →
      WellCut (.kept arg :: rest)
  | joined {key value : String} {rest : List Piece} : IsKey key → WellCut rest →
      WellCut (.joined key value :: rest)
  | spaced {key value : String} {rest : List Piece} : IsKey key → isValueArg value = true →
      WellCut rest → WellCut (.spaced key value :: rest)
  | flag {key : String} {rest : List Piece} : IsKey key →
      (∀ next ∈ (rest.flatMap Piece.args).head?, isValueArg next = false) → WellCut rest →
      WellCut (.flag key :: rest)

/-- Cuts a command line. -/
def pieces : List String → List Piece
  | [] => []
  | arg :: rest =>
    match ofArg? arg with
    | none => .kept arg :: pieces rest
    | some (key, some value) => .joined key value :: pieces rest
    | some (key, none) =>
      match rest with
      | [] => [.flag key]
      | next :: rest =>
        if isValueArg next then .spaced key next :: pieces rest
        else .flag key :: pieces (next :: rest)

variable {args : List String} {cut : List Piece}

/-- Nothing is lost where a command line is cut. -/
lemma flatMap_pieces (args : List String) : (pieces args).flatMap Piece.args = args := by
  fun_induction pieces args with
  | case1 => rfl
  | case2 arg rest hkept ih => simp [Piece.args, ih]
  | case3 arg rest key value hoption ih => simp [Piece.args, ih, (isKey_of_ofArg? hoption).2]
  | case4 arg key hoption => simp [Piece.args, (isKey_of_ofArg? hoption).2]
  | case5 arg key hoption next rest hnext ih =>
    simp [Piece.args, ih, (isKey_of_ofArg? hoption).2]
  | case6 arg key hoption next rest hnext ih =>
    simp [Piece.args, ih, (isKey_of_ofArg? hoption).2]

lemma wellCut_pieces (args : List String) : WellCut (pieces args) := by
  fun_induction pieces args with
  | case1 => exact .nil
  | case2 arg rest hkept ih => exact .kept (ofArg?_eq_none_iff.mp hkept) ih
  | case3 arg rest key value hoption ih => exact .joined (isKey_of_ofArg? hoption).1 ih
  | case4 arg key hoption => exact .flag (isKey_of_ofArg? hoption).1 nofun .nil
  | case5 arg key hoption next rest hnext ih =>
    exact .spaced (isKey_of_ofArg? hoption).1 hnext ih
  | case6 arg key hoption next rest hnext ih =>
    refine .flag (isKey_of_ofArg? hoption).1 ?_ ih
    rw [flatMap_pieces]
    rintro _ ⟨⟩
    exact Bool.eq_false_iff.mpr hnext

/-- Pieces that are well cut are cut again in the same places. -/
lemma WellCut.pieces_eq (h : WellCut cut) :
    pieces (cut.flatMap Piece.args) = cut := by
  induction h with
  | nil => rfl
  | kept hno _ ih => simp [Piece.args, pieces, ofArg?_eq_none_iff.mpr hno, ih]
  | joined hkey _ ih => simp [Piece.args, pieces, ofArg?_written hkey, ih]
  | spaced hkey hvalue _ ih => simp [Piece.args, pieces, ofArg?_written hkey, hvalue, ih]
  | @flag key rest hkey hnext _ ih =>
    rw [List.flatMap_cons, Piece.args, List.singleton_append, pieces, ofArg?_written hkey]
    -- The first argument of the next piece shows that the option takes no value.
    cases hrest : rest.flatMap Piece.args with
    | nil => rw [← ih, hrest, pieces]
    | cons next others =>
      rw [hrest] at hnext ih
      simp [hnext next rfl, ih]

/-- There is one way to cut a command line. -/
lemma wellCut_iff : WellCut cut ∧ cut.flatMap Piece.args = args ↔ cut = pieces args := by
  constructor
  · rintro ⟨hcut, rfl⟩
    exact hcut.pieces_eq.symm
  · rintro rfl
    exact ⟨wellCut_pieces args, flatMap_pieces args⟩

lemma WellCut.not_isOption (h : WellCut cut) (hmem : .kept arg ∈ cut) :
    ¬ IsOption arg := by
  induction h with
  | nil => cases hmem
  | kept hno _ ih =>
    rcases List.mem_cons.mp hmem with hhead | hrest
    · cases hhead
      exact hno
    · exact ih hrest
  | joined _ _ ih | spaced _ _ _ ih | flag _ _ _ ih => exact ih (by simpa using hmem)

/-! ### What is read -/

lemma segments_kept (h : ofArg? arg = none) :
    segments (arg :: rest) = .kept arg :: segments rest := by
  rw [segments, h]

lemma segments_joined {value : String} (h : ofArg? arg = some (key, some value)) :
    segments (arg :: rest) = .option key (some value) :: segments rest := by
  rw [segments, h]

lemma segments_spaced (h : ofArg? arg = some (key, none)) (hnext : isValueArg next = true) :
    segments (arg :: next :: rest) = .option key (some next) :: segments rest := by
  rw [segments, h]
  exact if_pos hnext

lemma segments_flag (h : ofArg? arg = some (key, none))
    (hnext : ∀ next ∈ rest.head?, isValueArg next = false) :
    segments (arg :: rest) = .option key none :: segments rest := by
  rw [segments, h]
  cases rest with
  | nil => rfl
  | cons next rest => exact if_neg (Bool.eq_false_iff.mp (hnext next rfl))

lemma segments_eq (args : List String) : segments args = (pieces args).map Piece.segment := by
  fun_induction pieces args with
  | case1 => rfl
  | case2 arg rest hkept ih => simp [segments_kept hkept, ih, Piece.segment]
  | case3 arg rest key value hoption ih => simp [segments_joined hoption, ih, Piece.segment]
  | case4 arg key hoption => simp [segments, hoption, Piece.segment]
  | case5 arg key hoption next rest hnext ih =>
    simp [segments_spaced hoption hnext, ih, Piece.segment]
  | case6 arg key hoption next rest hnext ih =>
    rw [segments_flag hoption (by simpa using hnext), ih]
    rfl

/-- What is left of a command line are the arguments that are kept. -/
lemma extract_fst (args : List String) :
    (extract args).1 = (pieces args).filterMap Piece.kept? := by
  rw [extract, segments_eq, List.filterMap_map]
  exact List.filterMap_congr fun piece _ => by cases piece <;> rfl

lemma occurrences_eq (args : List String) :
    occurrences args = (pieces args).filterMap Piece.option? := by
  rw [occurrences, segments_eq, List.filterMap_map]
  exact List.filterMap_congr fun piece _ => by cases piece <;> rfl

/-- An option has the value of its last occurrence. -/
lemma get?_extract_eq_some_iff : (extract args).2.get? key = some value ↔
    BindsLast ((pieces args).filterMap Piece.option?) key value := by
  rw [extract_snd, get?_setAll_empty_iff, occurrences_eq]

lemma ofArg?_of_mem_extract (h : arg ∈ (extract args).1) : ofArg? arg = none := by
  rw [extract_fst] at h
  obtain ⟨piece, hpiece, hkept⟩ := List.mem_filterMap.mp h
  cases piece with
  | kept other =>
    cases hkept
    exact ofArg?_eq_none_iff.mpr ((wellCut_pieces args).not_isOption hpiece)
  | joined | spaced | flag => cases hkept

lemma segments_of_no_options (h : ∀ arg ∈ args, ofArg? arg = none) :
    segments args = args.map Segment.kept := by
  induction args with
  | nil => rfl
  | cons arg rest ih =>
    obtain ⟨harg, hrest⟩ := List.forall_mem_cons.mp h
    rw [segments_kept harg, ih hrest, List.map_cons]

/-- An argument that is kept sets no option. -/
lemma foldl_apply_kept (options : LaunchOptions) (args : List String) :
    (args.map Segment.kept).foldl Segment.apply options = options := by
  induction args with
  | nil => rfl
  | cons arg rest ih => exact ih

/-- Where there are no options, everything is kept. -/
lemma extract_of_no_options (h : ∀ arg ∈ args, ofArg? arg = none) :
    extract args = (args, empty) := by
  rw [extract, segments_of_no_options h, foldl_apply_kept, List.filterMap_map]
  simp [Function.comp_def, Segment.kept?]

/-- A command line is cut into pieces in exactly one way, and read accordingly: what is left of it
are the kept arguments in their order, and every option has the value that it is given last. No
launcher option is left, so reading what is left changes nothing and finds no option. -/
theorem extract_cuts_commandLine (args : List String) :
    ∃ cut : List Piece,
      (∀ other : List Piece, WellCut other ∧ other.flatMap Piece.args = args ↔ other = cut) ∧
      (extract args).1 = cut.filterMap Piece.kept? ∧
      (∀ key value, (extract args).2.get? key = some value ↔
        ∃ front back, cut.filterMap Piece.option? = front ++ (key, value) :: back ∧
          ∀ later ∈ back, later.1 ≠ key) ∧
      (∀ arg ∈ (extract args).1, ofArg? arg = none ∧ ¬ IsOption arg) ∧
      extract (extract args).1 = ((extract args).1, empty) := by
  refine ⟨pieces args, fun other => wellCut_iff, extract_fst args,
    fun key value => get?_extract_eq_some_iff, fun arg harg => ?_, ?_⟩
  · have hnone := ofArg?_of_mem_extract harg
    exact ⟨hnone, ofArg?_eq_none_iff.mp hnone⟩
  · exact extract_of_no_options fun arg harg => ofArg?_of_mem_extract harg

/-! ### Two spellings -/

/-- An argument with a dash is not the value of an option in front of it. -/
lemma segments_append (front back : List String) (hnext : isValueArg next = false) :
    segments (front ++ next :: back) = segments front ++ segments (next :: back) := by
  fun_induction segments front with
  | case1 => rfl
  | case2 arg rest hkept ih => simp [segments_kept hkept, ih]
  | case3 arg rest key value hoption ih => simp [segments_joined hoption, ih]
  | case4 arg key hoption =>
    exact segments_flag hoption (by simpa using hnext)
  | case5 arg key hoption other rest hother ih => simp [segments_spaced hoption hother, ih]
  | case6 arg key hoption other rest hother ih =>
    rw [List.cons_append, segments_flag hoption (by simpa using hother), ih, List.cons_append]

/-- An option with a value is read alike in both spellings, whatever stands in front of it and
behind it. -/
theorem spellings_interchangeable (front back : List String) (key value : String)
    (hkey : IsKey key) (hvalue : isValueArg value = true) :
    extract (front ++ ["--mpirun." ++ key ++ "=" ++ value] ++ back) =
      extract (front ++ ["--mpirun." ++ key, value] ++ back) := by
  have hsegments : segments (front ++ [written key (some value)] ++ back) =
      segments (front ++ [written key none, value] ++ back) := by
    calc segments (front ++ [written key (some value)] ++ back)
        = segments front ++ segments (written key (some value) :: back) := by
          rw [List.append_assoc]
          exact segments_append front back (isValueArg_written key _)
      _ = segments front ++ .option key (some value) :: segments back := by
          rw [segments_joined (ofArg?_written hkey _)]
      _ = segments front ++ segments (written key none :: value :: back) := by
          rw [segments_spaced (ofArg?_written hkey _) hvalue]
      _ = segments (front ++ [written key none, value] ++ back) := by
          rw [List.append_assoc]
          exact (segments_append front _ (isValueArg_written key _)).symm
  simp only [written] at hsegments
  rw [extract, extract, hsegments]

/-- A value with an equals sign, behind an option that waits for one. -/
theorem mapping_spelled_twice :
    IsKey "map-by" ∧ isValueArg "ppr:2=node" = true ∧
      extract ["-w", "--mpirun.v", "--mpirun.map-by=ppr:2=node", "8"] =
        extract ["-w", "--mpirun.v", "--mpirun.map-by", "ppr:2=node", "8"] ∧
      (extract ["-w", "--mpirun.v", "--mpirun.map-by", "ppr:2=node", "8"]).1 = ["-w", "8"] ∧
      (extract ["-w", "--mpirun.v", "--mpirun.map-by", "ppr:2=node", "8"]).2.launcherArgs =
        ["--map-by", "ppr:2=node", "-v"] := by
  have hkey : IsKey "map-by" := isKey_iff.mpr (by decide +kernel)
  refine ⟨hkey, by decide, ?_, by decide +kernel, by decide +kernel⟩
  exact spellings_interchangeable ["-w", "--mpirun.v"] ["8"] "map-by" "ppr:2=node" hkey (by decide)

end TileBench.LaunchOptions
