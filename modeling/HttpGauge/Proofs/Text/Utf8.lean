import HttpGauge.Text.Utf8

/-!
# UTF-8 is read back

Decoding undoes encoding, character by character: the first byte of a character promises the bytes
that follow it, and each of them is within the bounds that are left.  Encoded characters contain
no encoded surrogate, so masking those changes nothing.
-/

namespace HttpGauge.Text.Utf8

/-! ## Bytes of characters -/

/-- The code point of a character is not one of a surrogate. -/
theorem code_not_surrogate (c : Char) :
    c.toNat < 0xd800 ∨ 0xe000 ≤ c.toNat ∧ c.toNat < 0x110000 := by
  rcases c.valid with below | ⟨above, bounded⟩
  · exact Or.inl below
  · exact Or.inr ⟨Nat.succ_le_of_lt above, bounded⟩

/-- A character has one, two, three or four bytes, by the size of its code point. -/
theorem encodeChar_cases (c : Char) :
    (c.toNat < 0x80 ∧ encodeChar c = [UInt8.ofNat c.toNat]) ∨
    (0x80 ≤ c.toNat ∧ c.toNat < 0x800 ∧
      encodeChar c =
        [UInt8.ofNat (0xc0 + c.toNat / 0x40), UInt8.ofNat (0x80 + c.toNat % 0x40)]) ∨
    (0x800 ≤ c.toNat ∧ c.toNat < 0x10000 ∧ (c.toNat < 0xd800 ∨ 0xe000 ≤ c.toNat) ∧
      encodeChar c =
        [UInt8.ofNat (0xe0 + c.toNat / 0x1000), UInt8.ofNat (0x80 + c.toNat / 0x40 % 0x40),
          UInt8.ofNat (0x80 + c.toNat % 0x40)]) ∨
    (0x10000 ≤ c.toNat ∧ c.toNat < 0x110000 ∧
      encodeChar c =
        [UInt8.ofNat (0xf0 + c.toNat / 0x40000), UInt8.ofNat (0x80 + c.toNat / 0x1000 % 0x40),
          UInt8.ofNat (0x80 + c.toNat / 0x40 % 0x40), UInt8.ofNat (0x80 + c.toNat % 0x40)]) := by
  have code := code_not_surrogate c
  by_cases one : c.toNat < 0x80
  · exact Or.inl ⟨one, if_pos one⟩
  · by_cases two : c.toNat < 0x800
    · refine Or.inr (Or.inl ⟨Nat.le_of_not_lt one, two, ?_⟩)
      simp only [encodeChar, if_neg one, if_pos two]
    · by_cases three : c.toNat < 0x10000
      · refine Or.inr (Or.inr (Or.inl ⟨Nat.le_of_not_lt two, three, by omega, ?_⟩))
        simp only [encodeChar, if_neg one, if_neg two, if_pos three]
      · refine Or.inr (Or.inr (Or.inr ⟨Nat.le_of_not_lt three, by omega, ?_⟩))
        simp only [encodeChar, if_neg one, if_neg two, if_neg three]

theorem toNat_ofNat_of_lt {n : Nat} (small : n < 0x100) : (UInt8.ofNat n).toNat = n := by
  rw [UInt8.toNat_ofNat']
  exact Nat.mod_eq_of_lt small

/-- The first of two bytes promises one more. -/
theorem lead?_of_two {code : Nat} (low : 0x80 ≤ code) (high : code < 0x800) :
    lead? (0xc0 + code / 0x40) = some ⟨code / 0x40, 1, 0x80, 0xbf⟩ := by
  unfold lead?
  rw [if_pos (by simp; omega), Nat.add_sub_cancel_left]

/-- The first of three bytes promises two more, and admits the second one. -/
theorem lead?_of_three {code : Nat} (low : 0x800 ≤ code) (high : code < 0x10000)
    (noSurrogate : code < 0xd800 ∨ 0xe000 ≤ code) :
    ∃ least greatest, lead? (0xe0 + code / 0x1000) = some ⟨code / 0x1000, 2, least, greatest⟩ ∧
      least ≤ 0x80 + code / 0x40 % 0x40 ∧ 0x80 + code / 0x40 % 0x40 ≤ greatest := by
  obtain first | first | ⟨first, second⟩ :
      code / 0x1000 = 0 ∨ code / 0x1000 = 0xd ∨ code / 0x1000 ≠ 0 ∧ code / 0x1000 ≠ 0xd := by
    omega
  · refine ⟨0xa0, 0xbf, ?_, by omega, by omega⟩
    rw [first]
    rfl
  · refine ⟨0x80, 0x9f, ?_, by omega, by omega⟩
    rw [first]
    rfl
  · refine ⟨0x80, 0xbf, ?_, by omega, by omega⟩
    unfold lead?
    rw [if_neg (by simp; omega), if_neg (by simp; omega), if_neg (by simp; omega),
      if_pos (by simp; omega), Nat.add_sub_cancel_left]

/-- The first of four bytes promises three more, and admits the second one. -/
theorem lead?_of_four {code : Nat} (low : 0x10000 ≤ code) (high : code < 0x110000) :
    ∃ least greatest, lead? (0xf0 + code / 0x40000) = some ⟨code / 0x40000, 3, least, greatest⟩ ∧
      least ≤ 0x80 + code / 0x1000 % 0x40 ∧ 0x80 + code / 0x1000 % 0x40 ≤ greatest := by
  obtain first | first | ⟨first, second⟩ : code / 0x40000 = 0 ∨ code / 0x40000 = 4 ∨
      1 ≤ code / 0x40000 ∧ code / 0x40000 ≤ 3 := by
    omega
  · refine ⟨0x90, 0xbf, ?_, by omega, by omega⟩
    rw [first]
    rfl
  · refine ⟨0x80, 0x8f, ?_, by omega, by omega⟩
    rw [first]
    rfl
  · refine ⟨0x80, 0xbf, ?_, by omega, by omega⟩
    unfold lead?
    rw [if_neg (by simp; omega), if_neg (by simp; omega), if_neg (by simp; omega),
      if_neg (by simp; omega), if_neg (by simp; omega), if_pos (by simp; omega),
      Nat.add_sub_cancel_left]

/-! ## Decoding -/

/-- A byte that continues a character and is not its last one. -/
theorem piecesFrom_inside {offset bits following least greatest byte : Nat}
    {consumed : List UInt8} {rest : List UInt8} (small : byte < 0x100) (low : least ≤ byte)
    (high : byte ≤ greatest) (more : 1 < following) :
    piecesFrom offset (.inside consumed ⟨bits, following, least, greatest⟩)
        (UInt8.ofNat byte :: rest) =
      piecesFrom (offset + 1)
        (.inside (UInt8.ofNat byte :: consumed)
          ⟨bits * 0x40 + byte % 0x40, following - 1, 0x80, 0xbf⟩) rest := by
  rw [piecesFrom, step, toNat_ofNat_of_lt small, if_pos (by simp [low, high])]
  simp only [Nat.not_le.mpr more, if_false, List.nil_append]

/-- The last byte of a character. -/
theorem piecesFrom_last {offset bits least greatest byte : Nat} {consumed : List UInt8}
    {rest : List UInt8} (small : byte < 0x100) (low : least ≤ byte) (high : byte ≤ greatest) :
    piecesFrom offset (.inside consumed ⟨bits, 1, least, greatest⟩) (UInt8.ofNat byte :: rest) =
      .char (Char.ofNat (bits * 0x40 + byte % 0x40)) :: piecesFrom (offset + 1) .start rest := by
  rw [piecesFrom, step, toNat_ofNat_of_lt small, if_pos (by simp [low, high])]
  rfl

/-- The first byte of a character of several bytes. -/
theorem piecesFrom_lead {offset byte : Nat} {lead : Lead} {rest : List UInt8}
    (small : byte < 0x100) (beyond : 0x80 ≤ byte) (promised : lead? byte = some lead) :
    piecesFrom offset .start (UInt8.ofNat byte :: rest) =
      piecesFrom (offset + 1) (.inside [UInt8.ofNat byte] lead) rest := by
  rw [piecesFrom, step, begin, toNat_ofNat_of_lt small, if_neg (Nat.not_lt.mpr beyond), promised]
  rfl

/-- The bytes of a character are read as the character. -/
theorem piecesFrom_encodeChar (offset : Nat) (c : Char) (rest : List UInt8) :
    ∃ next, piecesFrom offset .start (encodeChar c ++ rest) =
      .char c :: piecesFrom next .start rest := by
  have back := Char.ofNat_toNat c
  rcases encodeChar_cases c with
    ⟨small, bytes⟩ | ⟨low, high, bytes⟩ | ⟨low, high, noSurrogate, bytes⟩ | ⟨low, high, bytes⟩ <;>
    rw [bytes] <;> generalize c.toNat = code at *
  · refine ⟨offset + 1, ?_⟩
    rw [List.singleton_append, piecesFrom, step, begin, toNat_ofNat_of_lt (by omega), if_pos small,
      back]
    rfl
  · refine ⟨offset + 2, ?_⟩
    have bits : code / 0x40 * 0x40 + (0x80 + code % 0x40) % 0x40 = code := by omega
    rw [List.cons_append, List.singleton_append,
      piecesFrom_lead (by omega) (by omega) (lead?_of_two low high),
      piecesFrom_last (by omega) (by omega) (by omega), bits, back]
  · obtain ⟨least, greatest, promised, least_le, le_greatest⟩ := lead?_of_three low high noSurrogate
    refine ⟨offset + 3, ?_⟩
    have bits : (code / 0x1000 * 0x40 + (0x80 + code / 0x40 % 0x40) % 0x40) * 0x40 +
        (0x80 + code % 0x40) % 0x40 = code := by
      omega
    rw [List.cons_append, List.cons_append, List.singleton_append,
      piecesFrom_lead (by omega) (by omega) promised,
      piecesFrom_inside (by omega) least_le le_greatest (by omega),
      piecesFrom_last (by omega) (by omega) (by omega), bits, back]
  · obtain ⟨least, greatest, promised, least_le, le_greatest⟩ := lead?_of_four low high
    refine ⟨offset + 4, ?_⟩
    have bits : ((code / 0x40000 * 0x40 + (0x80 + code / 0x1000 % 0x40) % 0x40) * 0x40 +
        (0x80 + code / 0x40 % 0x40) % 0x40) * 0x40 + (0x80 + code % 0x40) % 0x40 = code := by
      omega
    rw [List.cons_append, List.cons_append, List.cons_append, List.singleton_append,
      piecesFrom_lead (by omega) (by omega) promised,
      piecesFrom_inside (by omega) least_le le_greatest (by omega),
      piecesFrom_inside (by omega) (by omega) (by omega) (by omega),
      piecesFrom_last (by omega) (by omega) (by omega), bits, back]

/-- The bytes of a text are read as the text. -/
theorem strict_piecesFrom_encodeChars (offset : Nat) (text : List Char) :
    Piece.strict (piecesFrom offset .start (encodeChars text)) = .ok text := by
  induction text generalizing offset with
  | nil => rfl
  | cons c rest ih =>
      obtain ⟨next, pieces⟩ := piecesFrom_encodeChar offset c (encodeChars rest)
      rw [encodeChars, List.flatMap_cons, ← encodeChars, pieces, Piece.strict, ih]
      rfl

/-- Decoding undoes encoding. -/
theorem decode_encode (text : String) : decode (encode text) = .ok text := by
  rw [decode, pieces, encode, strict_piecesFrom_encodeChars]
  exact congrArg Except.ok String.ofList_toList

/-- Lossy decoding loses nothing of encoded text. -/
theorem decodeLossy_encodeChars (text : List Char) :
    decodeLossy (encodeChars text) = String.ofList text := by
  rw [decodeLossy, pieces, Piece.lossy_of_strict (strict_piecesFrom_encodeChars 0 text)]

/-! ## Which bytes occur -/

theorem ofNat_ne_of_lt {n : Nat} (m : Nat) (small : n < 0x100) (bound : m < 0x100)
    (differ : n ≠ m) : UInt8.ofNat n ≠ UInt8.ofNat m := by
  intro same
  apply differ
  have codes := congrArg UInt8.toNat same
  rwa [toNat_ofNat_of_lt small, toNat_ofNat_of_lt bound] at codes

/-- No byte of a character is above the first ones of four, and only the null character has a zero
byte. -/
theorem byte_of_mem_encodeChar {c : Char} {byte : UInt8} (member : byte ∈ encodeChar c) :
    ∃ n, byte = UInt8.ofNat n ∧ n < 0xf5 ∧ (n = 0 → c = '\x00') := by
  have null : c.toNat = 0 → c = '\x00' := by
    intro zero
    rw [← Char.ofNat_toNat c, zero]
  rcases encodeChar_cases c with
    ⟨small, bytes⟩ | ⟨low, high, bytes⟩ | ⟨low, high, -, bytes⟩ | ⟨low, high, bytes⟩ <;>
    rw [bytes] at member <;> simp only [List.mem_cons, List.not_mem_nil, or_false] at member
  · exact ⟨_, member, by omega, null⟩
  · rcases member with same | same <;> exact ⟨_, same, by omega, fun zero => by omega⟩
  · rcases member with same | same | same <;> exact ⟨_, same, by omega, fun zero => by omega⟩
  · rcases member with same | same | same | same <;>
      exact ⟨_, same, by omega, fun zero => by omega⟩

/-- The same of a text. -/
theorem byte_of_mem_encodeChars {text : List Char} {byte : UInt8}
    (member : byte ∈ encodeChars text) :
    ∃ n, byte = UInt8.ofNat n ∧ n < 0xf5 ∧ (n = 0 → '\x00' ∈ text) := by
  obtain ⟨c, inText, inChar⟩ := List.mem_flatMap.mp member
  obtain ⟨n, same, bound, null⟩ := byte_of_mem_encodeChar inChar
  exact ⟨n, same, bound, fun zero => null zero ▸ inText⟩

/-! ## Encoded surrogates -/

/-- A byte that does not start a surrogate stays. -/
theorem maskSurrogates_cons {a : UInt8} (rest : List UInt8) (plain : a ≠ 0xed) :
    maskSurrogates (a :: rest) = a :: maskSurrogates rest := by
  rcases rest with _ | ⟨b, _ | ⟨c, rest⟩⟩
  · rfl
  · rfl
  · rw [maskSurrogates, if_neg (by simp [plain])]

/-- So does one that is followed by a byte below those of surrogates. -/
theorem maskSurrogates_cons_cons (a : UInt8) {b : UInt8} (rest : List UInt8) (low : b < 0xa0) :
    maskSurrogates (a :: b :: rest) = a :: maskSurrogates (b :: rest) := by
  rcases rest with _ | ⟨c, rest⟩
  · rfl
  · rw [maskSurrogates, if_neg (by simp [UInt8.not_le.mpr low])]

/-- A continuing byte stays. -/
theorem maskSurrogates_continuing {n : Nat} (rest : List UInt8) (low : 0x80 ≤ n) (high : n < 0xc0) :
    maskSurrogates (UInt8.ofNat n :: rest) = UInt8.ofNat n :: maskSurrogates rest :=
  maskSurrogates_cons rest (ofNat_ne_of_lt 0xed (by omega) (by omega) (by omega))

/-- The bytes of a character stay. -/
theorem maskSurrogates_encodeChar (c : Char) (rest : List UInt8) :
    maskSurrogates (encodeChar c ++ rest) = encodeChar c ++ maskSurrogates rest := by
  rcases encodeChar_cases c with
    ⟨small, bytes⟩ | ⟨low, high, bytes⟩ | ⟨low, high, noSurrogate, bytes⟩ | ⟨low, high, bytes⟩ <;>
    rw [bytes] <;> simp only [List.cons_append, List.nil_append]
  · rw [maskSurrogates_cons _ (ofNat_ne_of_lt 0xed (by omega) (by omega) (by omega))]
  · rw [maskSurrogates_cons _ (ofNat_ne_of_lt 0xed (by omega) (by omega) (by omega)),
      maskSurrogates_continuing _ (by omega) (by omega)]
  · have second : maskSurrogates (UInt8.ofNat (0xe0 + c.toNat / 0x1000) ::
          UInt8.ofNat (0x80 + c.toNat / 0x40 % 0x40) :: UInt8.ofNat (0x80 + c.toNat % 0x40)
            :: rest) =
        UInt8.ofNat (0xe0 + c.toNat / 0x1000) :: maskSurrogates
          (UInt8.ofNat (0x80 + c.toNat / 0x40 % 0x40) :: UInt8.ofNat (0x80 + c.toNat % 0x40)
            :: rest) := by
      by_cases first : c.toNat / 0x1000 = 0xd
      · apply maskSurrogates_cons_cons
        rw [UInt8.lt_iff_toNat_lt, toNat_ofNat_of_lt (by omega)]
        change 0x80 + c.toNat / 0x40 % 0x40 < 0xa0
        omega
      · exact maskSurrogates_cons _ (ofNat_ne_of_lt 0xed (by omega) (by omega) (by omega))
    rw [second, maskSurrogates_continuing _ (by omega) (by omega),
      maskSurrogates_continuing _ (by omega) (by omega)]
  · rw [maskSurrogates_cons _ (ofNat_ne_of_lt 0xed (by omega) (by omega) (by omega)),
      maskSurrogates_continuing _ (by omega) (by omega),
      maskSurrogates_continuing _ (by omega) (by omega),
      maskSurrogates_continuing _ (by omega) (by omega)]

/-- Encoded text holds no encoded surrogate. -/
theorem maskSurrogates_encodeChars (text : List Char) :
    maskSurrogates (encodeChars text) = encodeChars text := by
  induction text with
  | nil => rfl
  | cons c rest ih =>
      rw [encodeChars, List.flatMap_cons, ← encodeChars, maskSurrogates_encodeChar, ih]

end HttpGauge.Text.Utf8
