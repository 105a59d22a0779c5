import HttpGauge.Number.Binary64

/-!
# Rounding to doubles

The double nearest to an exact value; of two equally near ones, the one of even rank.  In the
range where neighbours are `2 ^ s` units apart the ranks run on from one binade to the next, so a
quotient that rounds up to the next power of two needs no case of its own.
-/

namespace HttpGauge.Number

/-- The natural number nearest to a quotient, the even one at a tie. -/
def roundHalfEven (num den : Nat) : Nat :=
  let quotient := num / den
  let rest := num % den
  if 2 * rest < den then quotient
  else if den < 2 * rest then quotient + 1
  else quotient + quotient % 2

/-- A whole quotient is not changed. -/
theorem roundHalfEven_mul (quotient : Nat) {den : Nat} (pos : 0 < den) :
    roundHalfEven (quotient * den) den = quotient := by
  simp [roundHalfEven, Nat.mul_div_cancel _ pos, pos]

namespace Binary64

/-- The rank nearest to `num / den` units. -/
def nearestRank (num den : Nat) : Nat :=
  let spacing := (num / den).log2 - 52
  spacing * 2 ^ 52 + roundHalfEven num (den * 2 ^ spacing)

/-- The double of a rank, an infinity past the last one. -/
def ofRank (negative : Bool) (rank : Nat) : Binary64 :=
  if finite : rank < finiteCount then .finite negative ⟨rank, finite⟩ else .infinite negative

/-- The double nearest to a signed quotient of units. -/
def ofUnits (negative : Bool) (num den : Nat) : Binary64 :=
  ofRank negative (nearestRank num den)

/-- The double nearest to an integer. -/
def ofInt (n : Int) : Binary64 :=
  ofUnits (n < 0) (n.natAbs * unitsPerOne) 1

/-- The double nearest to an integer, unless it is beyond the finite ones. -/
def ofInt? (n : Int) : Option Binary64 :=
  let x := ofInt n
  if x.isFinite then some x else none

/-! ## Decimal fractions -/

/-- How many decimal digits a number has; zero has none. -/
def digitCount (n : Nat) : Nat :=
  if n = 0 then 0 else (Nat.toDigits 10 n).length

/-- The rank nearest to `digits * 10 ^ exponent`. -/
def nearestRankDecimal (digits : Nat) (exponent : Int) : Nat :=
  if 0 ≤ exponent then nearestRank (digits * 10 ^ exponent.toNat * unitsPerOne) 1
  else nearestRank (digits * unitsPerOne) (10 ^ (-exponent).toNat)

/-- The double nearest to `digits * 10 ^ exponent`.  The exponents at which a number of so many
digits certainly overflows or vanishes are decided first, so that no huge power is built. -/
def ofDecimal (negative : Bool) (digits : Nat) (exponent : Int) : Binary64 :=
  let size := digitCount digits + exponent
  if digits = 0 || size < -324 then ofRank negative 0
  else if 310 < size then .infinite negative
  else ofRank negative (nearestRankDecimal digits exponent)

end Binary64

end HttpGauge.Number
