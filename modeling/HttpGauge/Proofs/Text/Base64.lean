import HttpGauge.Text.Base64

/-!
# Base64 is read back

A decoder, group by group: four characters are three bytes, and only the last group may be filled
up.  Decoding undoes encoding.
-/

namespace HttpGauge.Text.Base64

/-! ## Decoding -/

/-- The first byte of a group, from two values of six bits. -/
def firstByte (a b : Nat) : UInt8 :=
  UInt8.ofNat (a * 4 + b / 16)

/-- The second byte, from the second and the third value. -/
def secondByte (b c : Nat) : UInt8 :=
  UInt8.ofNat (b % 16 * 16 + c / 4)

/-- The third byte, from the third and the fourth value. -/
def thirdByte (c d : Nat) : UInt8 :=
  UInt8.ofNat (c % 4 * 64 + d)

/-- The bytes of characters in groups of four, of which the last one may be filled up. -/
def decode? : List Char → Option (List UInt8)
  | [] => some []
  | [a, b, '=', '='] => do return [firstByte (← value? a) (← value? b)]
  | [a, b, c, '='] => do
      let second ← value? b
      let third ← value? c
      return [firstByte (← value? a) second, secondByte second third]
  | a :: b :: c :: d :: rest => do
      let second ← value? b
      let third ← value? c
      return firstByte (← value? a) second :: secondByte second third
        :: thirdByte third (← value? d) :: (← decode? rest)
  | _ => none

/-! ## Decoding undoes encoding -/

/-- The character of six bits is none of those that fill up. -/
theorem digit_ne {value : Nat} (small : value < 64) : digit value ≠ '=' := by
  have table : ∀ v : Fin 64, digit v.val ≠ '=' := by decide
  exact table ⟨value, small⟩

/-- The first byte is the bits of the first value and the upper ones of the second. -/
theorem firstByte_eq (a : UInt8) {upper : Nat} (small : upper < 16) :
    firstByte (a.toNat / 4) (a.toNat % 4 * 16 + upper) = a := by
  have bits : a.toNat / 4 * 4 + (a.toNat % 4 * 16 + upper) / 16 = a.toNat := by omega
  rw [firstByte, bits, UInt8.ofNat_toNat]

/-- The second byte is the lower bits of the second value and the upper ones of the third. -/
theorem secondByte_eq (a : Nat) (b : UInt8) {upper : Nat} (small : upper < 4) :
    secondByte (a % 4 * 16 + b.toNat / 16) (b.toNat % 16 * 4 + upper) = b := by
  have size := b.toNat_lt
  have bits : (a % 4 * 16 + b.toNat / 16) % 16 * 16 + (b.toNat % 16 * 4 + upper) / 4 =
      b.toNat := by
    omega
  rw [secondByte, bits, UInt8.ofNat_toNat]

/-- The third byte is the lower bits of the third value and the bits of the fourth. -/
theorem thirdByte_eq (b : Nat) (c : UInt8) :
    thirdByte (b % 16 * 4 + c.toNat / 64) (c.toNat % 64) = c := by
  have size := c.toNat_lt
  have bits : (b % 16 * 4 + c.toNat / 64) % 4 * 64 + c.toNat % 64 = c.toNat := by omega
  rw [thirdByte, bits, UInt8.ofNat_toNat]

/-- Encoded bytes are decoded as the bytes. -/
theorem decode?_encode (bytes : List UInt8) : decode? (encode bytes) = some bytes := by
  induction bytes using encode.induct with
  | case1 a b c rest ih =>
      have aSmall := a.toNat_lt
      have bSmall := b.toNat_lt
      have cSmall := c.toNat_lt
      have fourth : digit (c.toNat % 64) ≠ '=' := digit_ne (by omega)
      rw [encode, decode?, value?_digit (by omega), value?_digit (by omega),
        value?_digit (by omega), value?_digit (by omega), ih]
      · have first := firstByte_eq a (Nat.div_lt_of_lt_mul b.toNat_lt : b.toNat / 16 < 16)
        have second := secondByte_eq a.toNat b (Nat.div_lt_of_lt_mul c.toNat_lt : c.toNat / 64 < 4)
        have third := thirdByte_eq b.toNat c
        simp [first, second, third]
      -- The last character of a group of three bytes fills up nothing.
      · exact fun _ filled _ => fourth filled
      · exact fun filled _ => fourth filled
  | case2 a b =>
      have aSmall := a.toNat_lt
      have bSmall := b.toNat_lt
      have third : digit (b.toNat % 16 * 4) ≠ '=' := digit_ne (by omega)
      rw [encode, decode?, value?_digit (by omega), value?_digit (by omega),
        value?_digit (by omega)]
      · have first := firstByte_eq a (Nat.div_lt_of_lt_mul b.toNat_lt : b.toNat / 16 < 16)
        have second := secondByte_eq a.toNat b (by decide : 0 < 4)
        rw [Nat.add_zero] at second
        simp [first, second]
      · exact fun filled => third filled
  | case3 a =>
      have aSmall := a.toNat_lt
      rw [encode, decode?, value?_digit (by omega), value?_digit (by omega)]
      have first := firstByte_eq a (by decide : 0 < 16)
      rw [Nat.add_zero] at first
      simp [first]
  | case4 => rfl

end HttpGauge.Text.Base64
