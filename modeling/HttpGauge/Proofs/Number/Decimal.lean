import HttpGauge.Number.Shortest
import HttpGauge.Proofs.Number.Digits
import HttpGauge.Proofs.Number.Rounding

/-!
# Decimals read back as doubles

The double nearest to a decimal depends on the value of the decimal only, and not on how its digits
and its exponent share it.  The shortest decimal of a double reads back as the double: so does
every decimal that the search for it finds, and where it finds none, the exact decimal does.
-/

namespace HttpGauge.Number

/-- Rounding depends on the value of a quotient only. -/
theorem roundHalfEven_mul_mul (num den : Nat) {factor : Nat} (pos : 0 < factor) :
    roundHalfEven (num * factor) (den * factor) = roundHalfEven num den := by
  have scaled (first second : Nat) : first * factor < second * factor ↔ first < second :=
    Nat.mul_lt_mul_right pos
  unfold roundHalfEven
  dsimp only
  rw [Nat.mul_div_mul_right _ _ pos, Nat.mul_mod_mul_right, ← Nat.mul_assoc]
  simp only [scaled]

namespace Binary64

/-! ## Equal values -/

theorem nearestRank_mul_mul (num den : Nat) {factor : Nat} (pos : 0 < factor) :
    nearestRank (num * factor) (den * factor) = nearestRank num den := by
  unfold nearestRank
  dsimp only
  rw [Nat.mul_div_mul_right _ _ pos, Nat.mul_right_comm, roundHalfEven_mul_mul _ _ pos]

/-- The nearest double depends on the value of a quotient only. -/
theorem nearestRank_eq_of_mul_eq {num den other part : Nat} (pos : 0 < den) (posToo : 0 < part)
    (same : num * part = other * den) : nearestRank num den = nearestRank other part := by
  rw [← nearestRank_mul_mul num den posToo, ← nearestRank_mul_mul other part pos, same,
    Nat.mul_comm den]

theorem ten_pow_pos (exponent : Nat) : 0 < 10 ^ exponent :=
  Nat.pow_pos (by decide)

/-- A decimal is a quotient of which one part is a power of ten. -/
theorem nearestRankDecimal_eq (digits : Nat) (exponent : Int) :
    nearestRankDecimal digits exponent =
      nearestRank (digits * 10 ^ exponent.toNat * unitsPerOne) (10 ^ (-exponent).toNat) := by
  unfold nearestRankDecimal
  by_cases whole : 0 ≤ exponent
  · rw [if_pos whole, show (-exponent).toNat = 0 by omega, Nat.pow_zero]
  · rw [if_neg whole, show exponent.toNat = 0 by omega, Nat.pow_zero, Nat.mul_one]

/-- Zeros at the end of the digits and the exponent make up for each other. -/
theorem nearestRankDecimal_mul_pow (digits : Nat) (exponent : Int) (zeros : Nat) :
    nearestRankDecimal (digits * 10 ^ zeros) exponent =
      nearestRankDecimal digits (exponent + zeros) := by
  rw [nearestRankDecimal_eq, nearestRankDecimal_eq]
  apply nearestRank_eq_of_mul_eq (ten_pow_pos _) (ten_pow_pos _)
  have powers : 10 ^ zeros * 10 ^ exponent.toNat * 10 ^ (-(exponent + zeros)).toNat =
      10 ^ (exponent + zeros).toNat * 10 ^ (-exponent).toNat := by
    rw [← Nat.pow_add, ← Nat.pow_add, ← Nat.pow_add]
    congr 1
    omega
  generalize unitsPerOne = one
  calc digits * 10 ^ zeros * 10 ^ exponent.toNat * one * 10 ^ (-(exponent + zeros)).toNat
      = digits * one *
          (10 ^ zeros * 10 ^ exponent.toNat * 10 ^ (-(exponent + zeros)).toNat) := by ac_rfl
    _ = digits * one * (10 ^ (exponent + zeros).toNat * 10 ^ (-exponent).toNat) := by rw [powers]
    _ = digits * 10 ^ (exponent + zeros).toNat * one * 10 ^ (-exponent).toNat := by ac_rfl

/-! ## Decimals out of range -/

/-- The digits of a number other than zero tell between which powers of ten it is. -/
theorem pow_le_of_digitCount {n : Nat} (nonzero : n ≠ 0) :
    ∃ places, digitCount n = places + 1 ∧ 10 ^ places ≤ n ∧ n < 10 ^ (places + 1) := by
  unfold digitCount
  rw [if_neg nonzero]
  have positive := Nat.length_toDigits_pos (b := 10) (n := n)
  obtain ⟨places, count⟩ : ∃ places, (Nat.toDigits 10 n).length = places + 1 :=
    ⟨(Nat.toDigits 10 n).length - 1, by omega⟩
  refine ⟨places, count, ?_, ?_⟩
  · apply Nat.le_of_not_lt
    intro less
    by_cases single : places = 0
    · subst single
      omega
    · have shorter := (Nat.length_toDigits_le_iff (by decide) (Nat.pos_of_ne_zero single)).mpr less
      omega
  · exact (Nat.length_toDigits_le_iff (by decide) (Nat.succ_pos _)).mp (Nat.le_of_eq count)

/-- What is less than half a unit is rounded to nothing. -/
theorem nearestRank_of_lt {num den : Nat} (less : 2 * num < den) : nearestRank num den = 0 := by
  have small : num < den := by omega
  rw [nearestRank, Nat.div_eq_of_lt small, Nat.log2_zero, Nat.zero_sub, Nat.pow_zero,
    Nat.mul_one, Nat.zero_mul, Nat.zero_add, roundHalfEven, Nat.mod_eq_of_lt small,
    Nat.div_eq_of_lt small]
  exact if_pos less

theorem lt_pow_digitCount (n : Nat) : n < 10 ^ digitCount n := by
  by_cases zero : n = 0
  · subst zero
    exact ten_pow_pos _
  · obtain ⟨places, count, -, less⟩ := pow_le_of_digitCount zero
    exact count ▸ less

theorem nearestRankDecimal_zero (exponent : Int) : nearestRankDecimal 0 exponent = 0 := by
  rw [nearestRankDecimal_eq, Nat.zero_mul, Nat.zero_mul]
  exact nearestRank_of_lt (ten_pow_pos _)

/-- A decimal that certainly vanishes does. -/
theorem nearestRankDecimal_of_small {digits : Nat} {exponent : Int}
    (small : digitCount digits + exponent < -324) : nearestRankDecimal digits exponent = 0 := by
  obtain ⟨places, count, least⟩ : ∃ places, places = 325 ∧ 2 * unitsPerOne ≤ 10 ^ places :=
    ⟨325, rfl, by decide +kernel⟩
  rw [nearestRankDecimal_eq, show exponent.toNat = 0 by omega, Nat.pow_zero, Nat.mul_one]
  apply nearestRank_of_lt
  generalize unitsPerOne = one at least ⊢
  calc 2 * (digits * one)
      = digits * (2 * one) := by ac_rfl
    _ ≤ digits * 10 ^ places := Nat.mul_le_mul_left _ least
    _ < 10 ^ digitCount digits * 10 ^ places :=
        Nat.mul_lt_mul_of_pos_right (lt_pow_digitCount digits) (ten_pow_pos _)
    _ = 10 ^ (digitCount digits + places) := (Nat.pow_add ..).symm
    _ ≤ 10 ^ (-exponent).toNat := Nat.pow_le_pow_right (by decide) (by omega)

/-- A decimal that certainly overflows does. -/
theorem finiteCount_le_nearestRankDecimal {digits : Nat} {exponent : Int}
    (nonzero : digits ≠ 0) (large : 310 < digitCount digits + exponent) :
    finiteCount ≤ nearestRankDecimal digits exponent := by
  obtain ⟨limit, fixed, greatest⟩ :
      ∃ limit, limit = 310 ∧ units finiteCount ≤ 10 ^ limit * unitsPerOne :=
    ⟨310, rfl, by decide +kernel⟩
  obtain ⟨places, count, least, -⟩ := pow_le_of_digitCount nonzero
  rw [nearestRankDecimal_eq]
  apply le_nearestRank_of_le_div
  rw [Nat.le_div_iff_mul_le (ten_pow_pos _)]
  generalize unitsPerOne = one at greatest ⊢
  calc units finiteCount * 10 ^ (-exponent).toNat
      ≤ 10 ^ limit * one * 10 ^ (-exponent).toNat := Nat.mul_le_mul_right _ greatest
    _ = 10 ^ (limit + (-exponent).toNat) * one := by rw [Nat.pow_add]; ac_rfl
    _ ≤ 10 ^ (places + exponent.toNat) * one :=
        Nat.mul_le_mul_right _ (Nat.pow_le_pow_right (by decide) (by omega))
    _ = 10 ^ places * 10 ^ exponent.toNat * one := by rw [Nat.pow_add]
    _ ≤ digits * 10 ^ exponent.toNat * one :=
        Nat.mul_le_mul_right _ (Nat.mul_le_mul_right _ least)

/-- The nearest double is found, whether or not its range is decided first. -/
theorem ofDecimal_eq (negative : Bool) (digits : Nat) (exponent : Int) :
    ofDecimal negative digits exponent = ofRank negative (nearestRankDecimal digits exponent) := by
  unfold ofDecimal
  dsimp only
  by_cases zero : digits = 0
  · rw [zero, nearestRankDecimal_zero, decide_eq_true rfl, Bool.true_or, if_pos rfl]
  · rw [decide_eq_false zero, Bool.false_or]
    by_cases small : digitCount digits + exponent < -324
    · rw [decide_eq_true small, if_pos rfl, nearestRankDecimal_of_small small]
    · rw [decide_eq_false small, if_neg Bool.false_ne_true]
      by_cases large : 310 < digitCount digits + exponent
      · have beyond := finiteCount_le_nearestRankDecimal zero large
        rw [if_pos large, ofRank, dif_neg (Nat.not_lt_of_le beyond)]
      · rw [if_neg large]

/-! ## Shortest decimals -/

/-- A power of five makes up for the powers of two in a unit. -/
theorem nearestRankDecimal_mul_five_pow (size : Nat) {places : Nat}
    (one : unitsPerOne = 2 ^ places) :
    nearestRankDecimal (size * 5 ^ places) (-(places : Int)) = nearestRank size 1 := by
  rw [nearestRankDecimal_eq, show (-(places : Int)).toNat = 0 by omega, one, Int.neg_neg,
    Int.toNat_natCast, Nat.pow_zero, Nat.mul_one, Nat.mul_assoc, ← Nat.mul_pow,
    ← nearestRank_mul_mul size 1 (ten_pow_pos places), Nat.one_mul]

/-- The exact decimal of a number of units is that number of units. -/
theorem nearestRankDecimal_exactDecimal (size : Nat) :
    nearestRankDecimal (exactDecimal size).digits (exactDecimal size).exponent =
      nearestRank size 1 := by
  have scaled := nearestRankDecimal_mul_five_pow size unitsPerOne.eq_1
  rw [exactDecimal]
  apply scaled

/-- Where the search finds nothing, the exact decimal stands in. -/
theorem shortest_eq (rank : Nat) :
    shortest rank =
      (searchShortest rank (units rank) (decimalSize (units rank)) 1 17).getD
        (exactDecimal (units rank)) :=
  rfl

/-- The shortest decimal of a double reads back as the double. -/
theorem nearestRankDecimal_shortest (rank : Nat) :
    nearestRankDecimal (shortest rank).digits (shortest rank).exponent = rank := by
  rw [shortest_eq]
  cases found : searchShortest rank (units rank) (decimalSize (units rank)) 1 17 with
  | some decimal =>
      have reads := readsBack_of_searchShortest found
      exact beq_iff_eq.mp reads
  | none =>
      exact (nearestRankDecimal_exactDecimal _).trans (nearestRank_units rank)

end Binary64

end HttpGauge.Number
