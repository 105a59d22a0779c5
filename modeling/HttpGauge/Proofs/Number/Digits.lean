import HttpGauge.Json.Reader
import HttpGauge.Json.Writer

/-!
# Digits and sizes

How large the number is that digits spell: without leading zeros, the number of digits tells the
power of ten that the number reaches.  An integer is therefore too long to be converted exactly
when its numeral is.
-/

namespace HttpGauge.Number

/-- The first digit counts by its place. -/
theorem ofDigits_cons (digit : Nat) (digits : List Nat) :
    ofDigits (digit :: digits) = digit * 10 ^ digits.length + ofDigits digits := by
  have split := ofDigits_append [digit] digits
  rwa [List.singleton_append, show ofDigits [digit] = digit by simp [ofDigits]] at split

/-- Digits spell less than the next power of ten. -/
theorem ofDigits_lt (digits : List Nat) (small : ∀ digit ∈ digits, digit < 10) :
    ofDigits digits < 10 ^ digits.length := by
  induction digits with
  | nil => exact Nat.one_pos
  | cons digit rest ih =>
      have first := small digit List.mem_cons_self
      have later := ih fun other member => small other (List.mem_cons_of_mem _ member)
      rw [ofDigits_cons, List.length_cons, Nat.pow_succ]
      calc digit * 10 ^ rest.length + ofDigits rest
          < digit * 10 ^ rest.length + 10 ^ rest.length := Nat.add_lt_add_left later _
        _ = (digit + 1) * 10 ^ rest.length := by rw [Nat.succ_mul]
        _ ≤ 10 * 10 ^ rest.length := Nat.mul_le_mul_right _ first
        _ = 10 ^ rest.length * 10 := Nat.mul_comm _ _

/-- Digits of which the first is not zero spell at least their power of ten. -/
theorem pow_le_ofDigits_cons {digit : Nat} (digits : List Nat) (nonzero : digit ≠ 0) :
    10 ^ digits.length ≤ ofDigits (digit :: digits) := by
  rw [ofDigits_cons]
  calc 10 ^ digits.length = 1 * 10 ^ digits.length := (Nat.one_mul _).symm
    _ ≤ digit * 10 ^ digits.length := Nat.mul_le_mul_right _ (Nat.pos_of_ne_zero nonzero)
    _ ≤ digit * 10 ^ digits.length + ofDigits digits := Nat.le_add_right _ _

end HttpGauge.Number

namespace HttpGauge.Json

open HttpGauge.Number

/-- An ASCII digit is below ten, and zero only as the zero. -/
theorem digit_bounds {c : Char} (digit : c.isDigit = true) :
    c.toNat - '0'.toNat < 10 ∧ (c.toNat - '0'.toNat = 0 → c = '0') := by
  have bounds : 48 ≤ c.toNat ∧ c.toNat ≤ 57 := by
    simpa [Char.isDigit, UInt32.le_iff_toNat_le] using digit
  have zero : '0'.toNat = 48 := rfl
  rw [zero]
  refine ⟨by omega, fun same => ?_⟩
  rw [← Char.ofNat_toNat c, show c.toNat = 48 by omega]

/-- Digits spell less than the next power of ten. -/
theorem digitsValue_lt {digits : List Char} (ascii : ∀ c ∈ digits, c.isDigit = true) :
    Reader.digitsValue digits < 10 ^ digits.length := by
  have small : ∀ digit ∈ digits.map (fun c => c.toNat - '0'.toNat), digit < 10 := by
    intro digit member
    obtain ⟨c, inDigits, rfl⟩ := List.mem_map.mp member
    exact (digit_bounds (ascii c inDigits)).1
  have bound := ofDigits_lt _ small
  rwa [List.length_map] at bound

/-- An integer is too long when it reaches the power of ten of the limit. -/
theorem exceedsLimit_iff {n : Int} : exceedsLimit n = true ↔ 10 ^ digitLimit ≤ n.natAbs := by
  have positive : 0 < digitLimit := by decide
  unfold exceedsLimit Binary64.digitCount
  rw [decide_eq_true_iff]
  by_cases zero : n.natAbs = 0
  · rw [if_pos zero, zero]
    have power : 0 < 10 ^ digitLimit := Nat.pow_pos (by decide)
    omega
  · rw [if_neg zero, ← Nat.not_le, Nat.length_toDigits_le_iff (by decide) positive, Nat.not_lt]

/-- The size of a signed number. -/
theorem natAbs_withSign (negative : Bool) (magnitude : Nat) :
    (withSign negative magnitude).natAbs = magnitude := by
  cases negative <;> simp [withSign]

/-- An integer without leading zeros is too long when it has more digits than the limit. -/
theorem exceedsLimit_withSign (negative : Bool) {first : Char} {digits : List Char}
    (ascii : ∀ c ∈ first :: digits, c.isDigit = true) (nonzero : first ≠ '0') :
    exceedsLimit (withSign negative (Reader.digitsValue (first :: digits))) =
      decide (digitLimit < (first :: digits).length) := by
  have upper := digitsValue_lt ascii
  have lower := pow_le_ofDigits_cons (digits.map fun c => c.toNat - '0'.toNat)
    fun zero => nonzero ((digit_bounds (ascii first List.mem_cons_self)).2 zero)
  rw [List.length_map] at lower
  rw [Bool.eq_iff_iff, exceedsLimit_iff, natAbs_withSign, decide_eq_true_iff]
  constructor
  · intro reaches
    exact (Nat.pow_lt_pow_iff_right (by decide)).mp (Nat.lt_of_le_of_lt reaches upper)
  · intro longer
    rw [List.length_cons, Nat.lt_succ_iff] at longer
    exact Nat.le_trans (Nat.pow_le_pow_right (by decide) longer) lower

end HttpGauge.Json
