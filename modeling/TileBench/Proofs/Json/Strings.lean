import TileBench.Json.Basic
import TileBench.Json.Draft
import Mathlib.Tactic.Lemma

/-!
# Reading strings back

What stands between the quotes of a string that was written ends at the closing quote, and denotes
the text that was written.
-/

namespace TileBench.Json

variable {c : Char} {s : List Char}

/-! ### One character -/

lemma hexEscape_ofNat : ∀ n < 0x20,
    hexEscape (Char.ofNat n) =
      ['\\', 'u', '0', '0', (n / 16).digitChar, (n % 16).digitChar] ∧
    hex4? '0' '0' (n / 16).digitChar (n % 16).digitChar = some n := by
  decide

lemma digitChar_ne : ∀ n < 16, n.digitChar ≠ '"' ∧ n.digitChar ≠ '\\' := by decide

/-- What is written for a character: a short escape, four hexadecimal digits or the character. -/
inductive Escaped (c : Char) : List Char → Prop
  | short {d : Char} (hd : d ≠ 'u') (h : shortEscape? d = some c) : Escaped c ['\\', d]
  | hex {m n : Nat} (hm : m < 16) (hn : n < 16) (hlow : c.toNat < 0x20)
    (h : hex4? '0' '0' m.digitChar n.digitChar = some c.toNat) :
    Escaped c ['\\', 'u', '0', '0', m.digitChar, n.digitChar]
  | plain (hquote : c ≠ '"') (hslash : c ≠ '\\') (hlow : ¬ c.toNat < 0x20) : Escaped c [c]

lemma escaped_escape (c : Char) : Escaped c (escape c) := by
  unfold escape
  split
  case h_8 =>
    split
    · rename_i hlow
      obtain ⟨hescape, hvalue⟩ := hexEscape_ofNat c.toNat hlow
      rw [Char.ofNat_toNat] at hescape
      rw [hescape]
      exact .hex (by omega) (by omega) hlow hvalue
    · exact .plain ‹_› ‹_› ‹_›
  all_goals exact .short (by decide) rfl

lemma closingQuote?_cons (hquote : c ≠ '"') (hslash : c ≠ '\\') (s : List Char) :
    closingQuote? (c :: s) = (closingQuote? s).map fun p => (c :: p.1, p.2) := by
  rw [closingQuote?.eq_def]
  split <;> simp_all

/-- What is written for a character does not end the string. -/
lemma Escaped.closingQuote?_append {escaped : List Char} (h : Escaped c escaped) (s : List Char) :
    closingQuote? (escaped ++ s) = (closingQuote? s).map fun p => (escaped ++ p.1, p.2) := by
  cases h with
  | short hd h => rfl
  | hex hm hn hlow h =>
    obtain ⟨hm, hm'⟩ := digitChar_ne _ hm
    obtain ⟨hn, hn'⟩ := digitChar_ne _ hn
    have hslash : ∀ s, closingQuote? ('\\' :: 'u' :: s) =
        (closingQuote? s).map fun p => ('\\' :: 'u' :: p.1, p.2) := fun _ => rfl
    have hzero : ('0' : Char) ≠ '"' ∧ ('0' : Char) ≠ '\\' := by decide
    simp only [List.cons_append, List.nil_append, hslash, closingQuote?_cons hzero.1 hzero.2,
      closingQuote?_cons hm hm', closingQuote?_cons hn hn', Option.map_map, Function.comp_def]
  | plain hquote hslash hlow => exact closingQuote?_cons hquote hslash s

/-- What is written for a character denotes it. -/
lemma Escaped.unescape?_append {escaped : List Char} (h : Escaped c escaped) (s : List Char) :
    unescape? (escaped ++ s) = (unescape? s).map (c :: ·) := by
  cases h with
  | short hd h =>
    rw [List.cons_append, List.singleton_append, unescape?, h]
    · rfl
    · exact fun _ _ _ _ _ hu => absurd hu hd
  | hex hm hn hlow h =>
    have hlow' : ¬ (0xd800 ≤ c.toNat ∧ c.toNat < 0xdc00) ∧
        ¬ (0xdc00 ≤ c.toNat ∧ c.toNat < 0xe000) := by omega
    simp only [List.cons_append, List.nil_append]
    rw [unescape?, h]
    simp [hlow'.1, hlow'.2]
  | plain hquote hslash hlow =>
    rw [List.singleton_append, unescape?, if_neg (not_or.mpr ⟨hslash, hlow⟩)]
    · exact fun _ _ _ _ _ hs => absurd hs hslash
    · exact fun _ _ hs => absurd hs hslash

/-! ### Strings -/

/-- The string that is written for a text. -/
def Token.ofText (text : List Char) : Token := ⟨text.flatMap escape, some text⟩

lemma closingQuote?_flatMap_escape (text rest : List Char) :
    closingQuote? (text.flatMap escape ++ '"' :: rest) = some (text.flatMap escape, rest) := by
  induction text with
  | nil => rfl
  | cons c text ih =>
    rw [List.flatMap_cons, List.append_assoc, (escaped_escape c).closingQuote?_append, ih]
    rfl

lemma unescape?_flatMap_escape (text : List Char) :
    unescape? (text.flatMap escape) = some text := by
  induction text with
  | nil => rfl
  | cons c text ih =>
    rw [List.flatMap_cons, (escaped_escape c).unescape?_append, ih]
    rfl

/-- A string that was written is read up to its closing quote. -/
lemma readToken_flatMap_escape (text rest : List Char) :
    readToken (text.flatMap escape ++ '"' :: rest) = (.ofText text, some rest) := by
  rw [readToken, closingQuote?_flatMap_escape]
  simp only [unescape?_flatMap_escape]
  rfl

lemma toList_quote (text : String) :
    (quote text).toList = '"' :: (text.toList.flatMap escape ++ ['"']) := by
  simp [quote]

lemma escape_of_isDigit (h : c.isDigit = true) : escape c = [c] := by
  unfold escape
  split
  case h_8 =>
    have hlow : 48 ≤ c.toNat := by
      simp only [Char.isDigit, Bool.and_eq_true, decide_eq_true_eq, UInt32.le_iff_toNat_le] at h
      exact h.1
    rw [if_neg (by omega)]
  all_goals exact absurd h (by decide)

/-- Digits are written as they are. -/
lemma flatMap_escape_of_isDigit {text : List Char} (h : ∀ c ∈ text, c.isDigit = true) :
    text.flatMap escape = text := by
  induction text with
  | nil => rfl
  | cons c text ih =>
    obtain ⟨hc, htext⟩ := List.forall_mem_cons.mp h
    rw [List.flatMap_cons, escape_of_isDigit hc, ih htext, List.singleton_append]

end TileBench.Json
