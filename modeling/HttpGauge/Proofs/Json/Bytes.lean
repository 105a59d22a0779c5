import HttpGauge.Json.Bytes
import HttpGauge.Proofs.Text.Utf8

/-!
# JSON in UTF-8

The character set of encoded text is recognised as UTF-8 when the text has neither a byte order
mark nor a null character, and the text is then read from its bytes.
-/

namespace HttpGauge.Json

open HttpGauge.Text

/-- Bytes in which nothing points to another character set. -/
theorem detectCharset_of_plain {bytes : List UInt8}
    (plain : ∀ byte ∈ bytes, byte ≠ 0x00 ∧ byte ≠ 0xfe)
    (unmarked : ¬ [0xef, 0xbb, 0xbf] <+: bytes) : detectCharset bytes = (.utf8, 0) := by
  -- Every mark of the other character sets has the byte `0xfe`.
  have absent (mark : List UInt8) (inside : 0xfe ∈ mark) : ¬ mark.isPrefixOf bytes = true := by
    intro marked
    have start := List.isPrefixOf_iff_prefix.mp marked
    exact (plain 0xfe (start.subset inside)).2 rfl
  unfold detectCharset
  rw [if_neg (absent _ (by decide)), if_neg (absent _ (by decide)),
    if_neg (absent _ (by decide)), if_neg (absent _ (by decide)),
    if_neg (mt List.isPrefixOf_iff_prefix.mp unmarked)]
  split
  · rw [if_neg (plain _ (by simp)).1, if_neg (plain _ (by simp)).1]
  · rw [if_neg (plain _ (by simp)).1, if_neg (plain _ (by simp)).1]
  · rfl

/-- The bytes of a byte order mark are those of a character. -/
theorem head?_of_encodeChars_eq_mark {text : List Char} {rest : List UInt8}
    (marked : Utf8.encodeChars text = 0xef :: 0xbb :: 0xbf :: rest) :
    text.head? = some '\uFEFF' := by
  have mark : (0xef :: 0xbb :: 0xbf :: rest : List UInt8) = Utf8.encodeChar '\uFEFF' ++ rest := rfl
  obtain ⟨next, pieces⟩ := Utf8.piecesFrom_encodeChar 0 '\uFEFF' rest
  have read := Utf8.strict_piecesFrom_encodeChars 0 text
  rw [marked, mark, pieces, Piece.strict] at read
  cases tail : Piece.strict (Utf8.piecesFrom next .start rest) with
  | error fault =>
      rw [tail] at read
      contradiction
  | ok later =>
      rw [tail] at read
      cases read
      rfl

/-- The character set of text without a byte order mark and null characters is recognised. -/
theorem detectCharset_encodeChars {text : List Char} (unmarked : text.head? ≠ some '\uFEFF')
    (noNull : '\x00' ∉ text) : detectCharset (Utf8.encodeChars text) = (.utf8, 0) := by
  apply detectCharset_of_plain
  · intro byte member
    obtain ⟨n, rfl, bound, null⟩ := Utf8.byte_of_mem_encodeChars member
    constructor
    · exact Utf8.ofNat_ne_of_lt 0 (by omega) (by omega) fun zero => noNull (null zero)
    · exact Utf8.ofNat_ne_of_lt 0xfe (by omega) (by omega) (by omega)
  · rintro ⟨rest, marked⟩
    exact unmarked (head?_of_encodeChars_eq_mark marked.symm)

/-- Such a text is read from its bytes. -/
theorem decodeBytes_encodeChars {text : List Char} (unmarked : text.head? ≠ some '\uFEFF')
    (noNull : '\x00' ∉ text) : decodeBytes (Utf8.encodeChars text) = .ok text := by
  rw [decodeBytes, detectCharset_encodeChars unmarked noNull]
  change Piece.strict (Utf8.pieces (Utf8.maskSurrogates (Utf8.encodeChars text))) = .ok text
  rw [Utf8.maskSurrogates_encodeChars]
  exact Utf8.strict_piecesFrom_encodeChars 0 text

end HttpGauge.Json
