import TileBench.Proofs.Text.Utf8

/-!
# Encoding and decoding

Decoding undoes encoding, and what is decoded is encoded by the bytes that were read and by no
others. The encoding is the one that strings have in memory, so a sequence of bytes is UTF-8 exactly
if it is that of a string.
-/

namespace TileBench.Text

namespace Utf8

variable {bytes rest : Bytes} {text : List Char} {b : UInt8} {n owed bits low high : Nat}
  {state : State}

lemma toNat_ofNat_of_isValidChar (h : n.isValidChar) : (Char.ofNat n).toNat = n := by
  rw [Char.ofNat, dif_pos h]
  rfl

lemma toNat_ofNat_of_lt (h : n < 256) : (UInt8.ofNat n).toNat = n := by
  rw [UInt8.toNat_ofNat', Nat.mod_eq_of_lt h]

/-! ### Bytes inside a character -/

lemma decodeFrom?_more (howed : 1 < owed) (hlow : low ≤ n) (hhigh : n ≤ high) (hn : n < 256) :
    decodeFrom? (.inside owed bits low high) (UInt8.ofNat n :: rest) =
      decodeFrom? (.inside (owed - 1) (bits * 64 + (n - 0x80)) 0x80 0xbf) rest := by
  simp only [decodeFrom?, toNat_ofNat_of_lt hn, step, if_pos (And.intro hlow hhigh),
    if_neg (Nat.not_le.mpr howed)]

lemma decodeFrom?_last (hlow : low ≤ n) (hhigh : n ≤ high) (hn : n < 256) :
    decodeFrom? (.inside 1 bits low high) (UInt8.ofNat n :: rest) =
      (decode? rest).map (Char.ofNat (bits * 64 + (n - 0x80)) :: ·) := by
  simp only [decodeFrom?, toNat_ofNat_of_lt hn, step, if_pos (And.intro hlow hhigh),
    if_pos (Nat.le_refl 1)]
  rfl

/-- A character that is not finished goes on with a byte of its range. -/
lemma exists_of_decodeFrom?_more (howed : 1 < owed)
    (h : decodeFrom? (.inside owed bits low high) bytes = some text) :
    ∃ b rest, bytes = b :: rest ∧ low ≤ b.toNat ∧ b.toNat ≤ high ∧
      decodeFrom? (.inside (owed - 1) (bits * 64 + (b.toNat - 0x80)) 0x80 0xbf) rest =
        some text := by
  cases bytes with
  | nil => cases h
  | cons b rest =>
    simp only [decodeFrom?, step, if_neg (Nat.not_le.mpr howed)] at h
    split_ifs at h with hrange
    exact ⟨b, rest, rfl, hrange.1, hrange.2, h⟩

lemma exists_of_decodeFrom?_last (h : decodeFrom? (.inside 1 bits low high) bytes = some text) :
    ∃ b rest tail, bytes = b :: rest ∧ low ≤ b.toNat ∧ b.toNat ≤ high ∧
      text = Char.ofNat (bits * 64 + (b.toNat - 0x80)) :: tail ∧ decode? rest = some tail := by
  cases bytes with
  | nil => cases h
  | cons b rest =>
    simp only [decodeFrom?, step, if_pos (Nat.le_refl 1)] at h
    split_ifs at h with hrange
    obtain ⟨tail, htail, rfl⟩ := Option.map_eq_some_iff.mp h
    exact ⟨b, rest, tail, rfl, hrange.1, hrange.2, rfl, htail⟩

/-! ### First bytes -/

lemma decode?_of_first (hn : n < 256) (h : first n = .more state) :
    decode? (UInt8.ofNat n :: rest) = decodeFrom? state rest := by
  simp only [decode?, decodeFrom?, toNat_ofNat_of_lt hn, step, h]

lemma first_two (hlow : 0xc2 ≤ n) (hhigh : n < 0xe0) :
    first n = .more (.inside 1 (n - 0xc0) 0x80 0xbf) := by
  rw [first, if_neg (by omega), if_neg (by omega), if_pos hhigh]

lemma first_three (hlow : 0xe0 ≤ n) (hhigh : n < 0xf0) :
    first n = .more (.inside 2 (n - 0xe0) (if n = 0xe0 then 0xa0 else 0x80)
      (if n = 0xed then 0x9f else 0xbf)) := by
  rw [first, if_neg (by omega), if_neg (by omega), if_neg (by omega), if_pos hhigh]

lemma first_four (hlow : 0xf0 ≤ n) (hhigh : n < 0xf5) :
    first n = .more (.inside 3 (n - 0xf0) (if n = 0xf0 then 0x90 else 0x80)
      (if n = 0xf4 then 0x8f else 0xbf)) := by
  rw [first, if_neg (by omega), if_neg (by omega), if_neg (by omega), if_neg (by omega),
    if_pos hhigh]

/-! ### Characters -/

lemma decode?_encodeChar (c : Char) (rest : Bytes) :
    decode? (encodeChar c ++ rest) = (decode? rest).map (c :: ·) := by
  have hvalid : c.toNat < 0xd800 ∨ 0xdfff < c.toNat ∧ c.toNat < 0x110000 := c.valid
  have hc : Char.ofNat c.toNat = c := c.ofNat_toNat
  unfold encodeChar
  generalize c.toNat = n at hvalid hc
  subst hc
  dsimp only
  split_ifs with hone htwo hthree
  · simp only [List.map_cons, List.map_nil, List.cons_append, List.nil_append, decode?, decodeFrom?,
      step, first, toNat_ofNat_of_lt (show n < 256 by omega), if_pos hone]
  · have hn : (0xc0 + n / 64 - 0xc0) * 64 + (0x80 + n % 64 - 0x80) = n := by omega
    rw [List.map_cons, List.map_singleton, List.cons_append, List.singleton_append,
      decode?_of_first (by omega) (first_two (by omega) (by omega)),
      decodeFrom?_last (by omega) (by omega) (by omega), hn]
  · have hn : ((0xe0 + n / 4096 - 0xe0) * 64 + (0x80 + n / 64 % 64 - 0x80)) * 64
        + (0x80 + n % 64 - 0x80) = n := by omega
    rw [List.map_cons, List.map_cons, List.map_singleton, List.cons_append, List.cons_append,
      List.singleton_append, decode?_of_first (by omega) (first_three (by omega) (by omega)),
      decodeFrom?_more (by omega) (by split_ifs <;> omega) (by split_ifs <;> omega) (by omega),
      decodeFrom?_last (by omega) (by omega) (by omega), hn]
  · have hn : (((0xf0 + n / 262144 - 0xf0) * 64 + (0x80 + n / 4096 % 64 - 0x80)) * 64
        + (0x80 + n / 64 % 64 - 0x80)) * 64 + (0x80 + n % 64 - 0x80) = n := by omega
    rw [List.map_cons, List.map_cons, List.map_cons, List.map_singleton, List.cons_append,
      List.cons_append, List.cons_append, List.singleton_append,
      decode?_of_first (by omega) (first_four (by omega) (by omega)),
      decodeFrom?_more (by omega) (by split_ifs <;> omega) (by split_ifs <;> omega) (by omega),
      decodeFrom?_more (by omega) (by omega) (by omega) (by omega),
      decodeFrom?_last (by omega) (by omega) (by omega), hn]

/-- The bytes of a character, from its code point. -/
lemma encodeChar_ofNat (h : n.isValidChar) : encodeChar (Char.ofNat n) =
    (if n < 0x80 then [n]
    else if n < 0x800 then [0xc0 + n / 64, 0x80 + n % 64]
    else if n < 0x10000 then [0xe0 + n / 4096, 0x80 + n / 64 % 64, 0x80 + n % 64]
    else [0xf0 + n / 262144, 0x80 + n / 4096 % 64, 0x80 + n / 64 % 64, 0x80 + n % 64]).map
      UInt8.ofNat := by
  rw [encodeChar, toNat_ofNat_of_isValidChar h]

lemma ofNat_of_eq (h : n = b.toNat) : UInt8.ofNat n = b := by
  rw [h, UInt8.ofNat_toNat]

/-- What is decoded begins with a character and its bytes. -/
lemma exists_of_decode?_cons (h : decode? (b :: bytes) = some text) :
    ∃ c rest tail, text = c :: tail ∧ b :: bytes = encodeChar c ++ rest ∧
      decode? rest = some tail := by
  obtain hone | hwrong | htwo | hthree | hfour : b.toNat < 0x80 ∨
      (0x80 ≤ b.toNat ∧ b.toNat < 0xc2 ∨ 0xf5 ≤ b.toNat) ∨ (0xc2 ≤ b.toNat ∧ b.toNat < 0xe0) ∨
      (0xe0 ≤ b.toNat ∧ b.toNat < 0xf0) ∨ (0xf0 ≤ b.toNat ∧ b.toNat < 0xf5) := by
    omega
  · simp only [decode?, decodeFrom?, step, first, if_pos hone] at h
    obtain ⟨tail, htail, rfl⟩ := Option.map_eq_some_iff.mp h
    refine ⟨_, bytes, tail, rfl, ?_, htail⟩
    rw [encodeChar_ofNat (.inl (by omega)), if_pos hone, List.map_singleton, ofNat_of_eq rfl]
    rfl
  · simp only [decode?, decodeFrom?, step, first] at h
    split_ifs at h <;> omega
  · simp only [decode?, decodeFrom?, step, first_two htwo.1 htwo.2] at h
    obtain ⟨b₂, rest, tail, rfl, hlow, hhigh, rfl, htail⟩ := exists_of_decodeFrom?_last h
    refine ⟨_, rest, tail, rfl, ?_, htail⟩
    rw [encodeChar_ofNat (.inl (by omega)), if_neg (by omega), if_pos (by omega), List.map_cons,
      List.map_singleton, ofNat_of_eq (b := b) (by omega), ofNat_of_eq (b := b₂) (by omega)]
    rfl
  · simp only [decode?, decodeFrom?, step, first_three hthree.1 hthree.2] at h
    obtain ⟨b₂, _, rfl, hlow, hhigh, h⟩ := exists_of_decodeFrom?_more (by omega) h
    obtain ⟨b₃, rest, tail, rfl, hlow', hhigh', rfl, htail⟩ := exists_of_decodeFrom?_last h
    have hrange : 0x80 ≤ b₂.toNat ∧ b₂.toNat ≤ 0xbf ∧ (b.toNat = 0xe0 → 0xa0 ≤ b₂.toNat) ∧
        (b.toNat = 0xed → b₂.toNat ≤ 0x9f) := by
      split_ifs at hlow hhigh <;> omega
    refine ⟨_, rest, tail, rfl, ?_, htail⟩
    rw [encodeChar_ofNat (by unfold Nat.isValidChar; omega), if_neg (by omega), if_neg (by omega),
      if_pos (by omega), List.map_cons, List.map_cons, List.map_singleton,
      ofNat_of_eq (b := b) (by omega), ofNat_of_eq (b := b₂) (by omega),
      ofNat_of_eq (b := b₃) (by omega)]
    rfl
  · simp only [decode?, decodeFrom?, step, first_four hfour.1 hfour.2] at h
    obtain ⟨b₂, _, rfl, hlow, hhigh, h⟩ := exists_of_decodeFrom?_more (by omega) h
    obtain ⟨b₃, _, rfl, hlow', hhigh', h⟩ := exists_of_decodeFrom?_more (by omega) h
    obtain ⟨b₄, rest, tail, rfl, hlow'', hhigh'', rfl, htail⟩ := exists_of_decodeFrom?_last h
    have hrange : 0x80 ≤ b₂.toNat ∧ b₂.toNat ≤ 0xbf ∧ (b.toNat = 0xf0 → 0x90 ≤ b₂.toNat) ∧
        (b.toNat = 0xf4 → b₂.toNat ≤ 0x8f) := by
      split_ifs at hlow hhigh <;> omega
    refine ⟨_, rest, tail, rfl, ?_, htail⟩
    rw [encodeChar_ofNat (by unfold Nat.isValidChar; omega), if_neg (by omega), if_neg (by omega),
      if_neg (by omega), List.map_cons, List.map_cons, List.map_cons, List.map_singleton,
      ofNat_of_eq (b := b) (by omega), ofNat_of_eq (b := b₂) (by omega),
      ofNat_of_eq (b := b₃) (by omega), ofNat_of_eq (b := b₄) (by omega)]
    rfl

/-- A character is encoded as it is in a string. -/
lemma encodeChar_eq (c : Char) : encodeChar c = String.utf8EncodeChar c := by
  have hvalid : c.toNat < 0xd800 ∨ 0xdfff < c.toNat ∧ c.toNat < 0x110000 := c.valid
  have hval : c.val.toNat = c.toNat := rfl
  simp only [encodeChar, String.utf8EncodeChar, hval]
  generalize c.toNat = n at hvalid
  obtain hone | htwo | hthree | hfour : n < 0x80 ∨ (0x80 ≤ n ∧ n < 0x800) ∨
      (0x800 ≤ n ∧ n < 0x10000) ∨ 0x10000 ≤ n := by
    omega
  · rw [if_pos hone, if_pos (by omega)]
    rfl
  · have hhigh : n / 64 % 32 + 0xc0 = 0xc0 + n / 64 := by omega
    rw [if_neg (by omega), if_pos htwo.2, if_neg (by omega), if_pos (by omega), hhigh,
      Nat.add_comm (n % 64)]
    rfl
  · have hhigh : n / 4096 % 16 + 0xe0 = 0xe0 + n / 4096 := by omega
    rw [if_neg (by omega), if_neg (by omega), if_pos hthree.2, if_neg (by omega),
      if_neg (by omega), if_pos (by omega), hhigh, Nat.add_comm (n / 64 % 64),
      Nat.add_comm (n % 64)]
    rfl
  · have hhigh : n / 262144 % 8 + 0xf0 = 0xf0 + n / 262144 := by omega
    rw [if_neg (by omega), if_neg (by omega), if_neg (by omega), if_neg (by omega),
      if_neg (by omega), if_neg (by omega), hhigh, Nat.add_comm (n / 4096 % 64),
      Nat.add_comm (n / 64 % 64), Nat.add_comm (n % 64)]
    rfl

end Utf8

variable {bytes : Bytes} {text : List Char}

/-! ### Texts -/

lemma decode?_encode (text : List Char) : decode? (encode text) = some text := by
  induction text with
  | nil => rfl
  | cons c text ih =>
    rw [encode, List.flatMap_cons, Utf8.decode?_encodeChar]
    exact Option.map_eq_some_iff.mpr ⟨text, ih, rfl⟩

/-- What is UTF-8 is decoded without a replacement. -/
lemma decodeLossyFrom_of_decodeFrom? {state : Utf8.State}
    (h : Utf8.decodeFrom? state bytes = some text) : Utf8.decodeLossyFrom state bytes = text := by
  fun_induction Utf8.decodeFrom? state bytes generalizing text with
  | case1 => simpa [Utf8.decodeLossyFrom] using h
  | case2 => cases h
  | case3 state b bytes c hstep ih =>
    obtain ⟨rest, hrest, rfl⟩ := Option.map_eq_some_iff.mp h
    cases state <;> simp only [Utf8.decodeLossyFrom, hstep, ih hrest]
  | case4 state b bytes next hstep ih =>
    cases state <;> simp only [Utf8.decodeLossyFrom, hstep, ih h]
  | case5 => cases h

lemma decodeLossy_encode (text : List Char) : decodeLossy (encode text) = text :=
  decodeLossyFrom_of_decodeFrom? (decode?_encode text)

/-- What is decoded is encoded by the bytes that were read. -/
lemma decode?_eq_some_iff : decode? bytes = some text ↔ bytes = encode text := by
  constructor
  · intro h
    induction text generalizing bytes with
    | nil => exact decode?_eq_some_nil_iff.mp h
    | cons c text ih =>
      cases bytes with
      | nil => cases h
      | cons b bytes =>
        obtain ⟨_, rest, _, ⟨⟩, hbytes, htail⟩ := Utf8.exists_of_decode?_cons h
        rw [hbytes, ih htail, encode, encode, List.flatMap_cons]
  · rintro rfl
    exact decode?_encode text

lemma bytesOf_append (s t : String) : bytesOf (s ++ t) = bytesOf s ++ bytesOf t := by
  rw [bytesOf, String.toList_append, encode, List.flatMap_append]
  rfl

lemma bytesOf_join (parts : List String) : bytesOf (String.join parts) = parts.flatMap bytesOf := by
  rw [bytesOf, String.toList_join, encode, List.flatMap_assoc]
  rfl

/-- The bytes of a string are those that it has in memory. -/
lemma bytesOf_eq (s : String) : bytesOf s = s.toUTF8.data.toList := by
  have hencode : encode s.toList = s.toList.flatMap String.utf8EncodeChar :=
    congrArg (s.toList.flatMap ·) (funext Utf8.encodeChar_eq)
  rw [bytesOf, hencode, String.toUTF8, ← String.utf8Encode_toList, List.utf8Encode,
    List.data_toByteArray]

/-- Some bytes are decoded to a text exactly if its string has them in memory. -/
lemma decode?_eq_some_iff_toUTF8 {s : String} :
    decode? bytes = some s.toList ↔ bytes = s.toUTF8.data.toList := by
  rw [decode?_eq_some_iff, ← bytesOf_eq, bytesOf]

end TileBench.Text
