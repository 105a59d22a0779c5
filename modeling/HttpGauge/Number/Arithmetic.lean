import HttpGauge.Number.Rounding

/-!
# Arithmetic of doubles

Sum, difference and product: the exact result, rounded once.  An exact zero is positive, unless
both terms are negative zeros or the factors' signs differ.
-/

namespace HttpGauge.Number.Binary64

/-- The double nearest to an exact number of units, with the given sign when that is zero. -/
def ofSignedUnits (zeroNegative : Bool) (count : Int) (den : Nat) : Binary64 :=
  if count = 0 then ofRank zeroNegative 0 else ofUnits (count < 0) count.natAbs den

/-- The sum of two doubles. -/
def add : Binary64 → Binary64 → Binary64
  | .finite a m, .finite b n => ofSignedUnits (a && b) (signed a (units m) + signed b (units n)) 1
  | .infinite a, .infinite b => if a = b then .infinite a else .nan
  | .infinite a, .finite _ _ => .infinite a
  | .finite _ _, .infinite b => .infinite b
  | _, _ => .nan

/-- The difference of two doubles. -/
def sub (x y : Binary64) : Binary64 :=
  add x y.neg

/-- The product of two doubles. -/
def mul : Binary64 → Binary64 → Binary64
  | .finite a m, .finite b n =>
      ofSignedUnits (a != b) (signed a (units m) * signed b (units n)) unitsPerOne
  | .infinite a, .infinite b => .infinite (a != b)
  | .infinite a, .finite b n => if units n = 0 then .nan else .infinite (a != b)
  | .finite a m, .infinite b => if units m = 0 then .nan else .infinite (a != b)
  | _, _ => .nan

end HttpGauge.Number.Binary64
