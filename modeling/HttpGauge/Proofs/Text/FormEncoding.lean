import HttpGauge.Proofs.Text.Utf8
import HttpGauge.Text.FormEncoding

/-!
# Forms are read back

Reading undoes writing, byte by byte: a byte stands for itself, for a plus sign or for an escape of
two digits.  Written forms are ASCII and hold none of the marks that separate them from each other,
so that the fields of a whole form are read back as well.
-/

namespace HttpGauge.Text.FormEncoding

/-! ## Bytes -/

/-- A character that opens no escape is read by itself. -/
theorem readBytes_cons {c : Char} (noEscape : c ≠ '%') (rest : List Char) :
    readBytes (c :: rest) = (if c = '+' then [0x20] else Utf8.encodeChar c) ++ readBytes rest := by
  rw [readBytes]
  rintro a b later rfl
  exact absurd rfl noEscape

/-- A percent sign with two digits is a byte. -/
theorem readBytes_escape {a b : Char} {high low : Nat} (first : hexValue? a = some high)
    (second : hexValue? b = some low) (rest : List Char) :
    readBytes ('%' :: a :: b :: rest) = UInt8.ofNat (16 * high + low) :: readBytes rest := by
  rw [readBytes, first, second]

/-- An unreserved byte is that of an ASCII character other than the marks of the encoding. -/
theorem of_isUnreserved {byte : UInt8} (unreserved : isUnreserved byte = true) :
    Utf8.encodeChar (Char.ofNat byte.toNat) = [byte] ∧
      Char.ofNat byte.toNat ≠ '%' ∧ Char.ofNat byte.toNat ≠ '+' := by
  have table : ∀ n : Fin 256, isUnreserved (UInt8.ofNat n.val) = true →
      Utf8.encodeChar (Char.ofNat n.val) = [UInt8.ofNat n.val] ∧
        Char.ofNat n.val ≠ '%' ∧ Char.ofNat n.val ≠ '+' := by
    decide +kernel
  have entry := table ⟨byte.toNat, byte.toNat_lt⟩
  rw [UInt8.ofNat_toNat] at entry
  exact entry unreserved

/-- The written form of a byte is read as the byte. -/
theorem readBytes_writeByte (byte : UInt8) (rest : List Char) :
    readBytes (writeByte byte ++ rest) = byte :: readBytes rest := by
  unfold writeByte
  by_cases unreserved : isUnreserved byte = true
  · obtain ⟨encoded, noEscape, noPlus⟩ := of_isUnreserved unreserved
    rw [if_pos unreserved, List.singleton_append, readBytes_cons noEscape, if_neg noPlus, encoded]
    rfl
  · rw [if_neg unreserved]
    by_cases space : byte = 0x20
    · rw [if_pos space, List.singleton_append, readBytes_cons (by decide), if_pos rfl, space]
      rfl
    · have high := hexValue?_upperHexDigit (Nat.div_lt_of_lt_mul byte.toNat_lt : _ / 16 < 16)
      have low := hexValue?_upperHexDigit (Nat.mod_lt byte.toNat (by decide : 16 > 0))
      rw [if_neg space, List.cons_append, List.cons_append, List.singleton_append,
        readBytes_escape high low, Nat.div_add_mod, UInt8.ofNat_toNat]

theorem readBytes_flatMap_writeByte (bytes : List UInt8) :
    readBytes (bytes.flatMap writeByte) = bytes := by
  induction bytes with
  | nil => rfl
  | cons byte later ih => rw [List.flatMap_cons, readBytes_writeByte, ih]

/-! ## Texts -/

/-- A written text is read as the text. -/
theorem read_write (text : String) : read (write text).toList = text := by
  rw [read, write, String.toList_ofList, readBytes_flatMap_writeByte, Utf8.encode,
    Utf8.decodeLossy_encodeChars, String.ofList_toList]

/-- The marks between fields, between a name and its value, and between two texts. -/
def separators : List Char :=
  ['&', '=', ':']

/-- Written texts are ASCII without separators. -/
theorem of_mem_write {text : String} {c : Char} (member : c ∈ (write text).toList) :
    c.toNat < 0x80 ∧ c ∉ separators := by
  have table : ∀ n : Fin 256, (writeByte (UInt8.ofNat n.val)).all
      (fun c => decide (c.toNat < 0x80) && !separators.contains c) = true := by
    decide +kernel
  rw [write, String.toList_ofList, List.mem_flatMap] at member
  obtain ⟨byte, -, inByte⟩ := member
  have entry := table ⟨byte.toNat, byte.toNat_lt⟩
  rw [UInt8.ofNat_toNat, List.all_eq_true] at entry
  simpa using entry c inByte

/-- A separator is in no written text. -/
theorem notMem_write {separator : Char} (separates : separator ∈ separators) (text : String) :
    separator ∉ (write text).toList :=
  fun member => (of_mem_write member).2 separates

/-- Only the empty text is written as nothing. -/
theorem toList_write_ne_nil {text : String} (nonempty : text ≠ "") :
    (write text).toList ≠ [] := by
  intro nothing
  apply nonempty
  rw [← read_write text, nothing]
  rfl

/-! ## Forms -/

/-- The written form of a field. -/
def writeField (field : String × String) : List Char :=
  (write field.1).toList ++ '=' :: (write field.2).toList

/-- The written form of fields. -/
def writeFields (fields : List (String × String)) : String :=
  String.ofList (joinWith '&' (fields.map writeField))

/-- A written field is read as the field, unless it has no value. -/
theorem readField_writeField {field : String × String} (nonempty : field.2 ≠ "") :
    readField (writeField field) = some field := by
  obtain ⟨name, found⟩ :=
    takeWhile_append_separator (notMem_write (by decide : '=' ∈ separators) field.1)
      (write field.2).toList
  obtain ⟨first, later, value⟩ := List.exists_cons_of_ne_nil (toList_write_ne_nil nonempty)
  rw [readField, writeField, found, name, value]
  dsimp only
  rw [← value, read_write, read_write]

/-- Piece by piece, written fields are read as the fields. -/
theorem filterMap_readField {fields : List (String × String)}
    (nonempty : ∀ field ∈ fields, field.2 ≠ "") :
    (fields.map writeField).filterMap readField = fields := by
  induction fields with
  | nil => rfl
  | cons field later ih =>
      obtain ⟨first, rest⟩ := List.forall_mem_cons.mp nonempty
      rw [List.map_cons, List.filterMap_cons_some (readField_writeField first), ih rest]

/-- Written fields are read as the fields. -/
theorem readFields_writeFields {fields : List (String × String)}
    (nonempty : ∀ field ∈ fields, field.2 ≠ "") : readFields (writeFields fields) = fields := by
  have separate : ∀ piece ∈ fields.map writeField, '&' ∉ piece := by
    intro piece member
    obtain ⟨field, -, rfl⟩ := List.mem_map.mp member
    have absent (text : String) : '&' ∉ (write text).toList := notMem_write (by decide) text
    simp [writeField, absent]
  rw [readFields, writeFields, String.toList_ofList]
  cases fields with
  | nil => rfl
  | cons field later =>
      have pieces : (field :: later).map writeField ≠ [] := List.cons_ne_nil _ _
      rw [splitAt_joinWith pieces separate, filterMap_readField nonempty]

end HttpGauge.Text.FormEncoding
