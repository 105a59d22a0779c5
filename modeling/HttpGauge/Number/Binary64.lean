/-!
# Double precision numbers

The finite doubles of one sign, in rising order, are numbered without gaps: number `rank` has the
fraction bits `rank % 2 ^ 52` and the biased exponent `rank / 2 ^ 52`.  Every finite double is a
whole multiple of the least positive one, `2 ^ -1074`, so its size is a natural number of such
units and exact arithmetic on doubles is arithmetic on naturals.
-/

namespace HttpGauge

/-! ## Powers

Numbers have powers of their own.  Where a library also brings in the powers of all structures with
a product, those of numbers come first.
-/

attribute [scoped instance (2000)] instPowNat

-- Of a power of two numerals the types are not known yet when its instance is looked for.
attribute [default_instance (20000)] instPowNat

end HttpGauge

namespace HttpGauge.Number

/-! ## Doubles -/

/-- How many finite doubles of one sign there are. -/
def finiteCount : Nat := 2047 * 2 ^ 52

/-- A double: not a number, an infinity, or a finite value given by its sign and its rank. -/
inductive Binary64 where
  | nan
  | infinite (negative : Bool)
  | finite (negative : Bool) (rank : Fin finiteCount)
  deriving DecidableEq

namespace Binary64

/-! ## Sizes -/

/-- The units in one. -/
def unitsPerOne : Nat := 2 ^ 1074

/-- The significand of a rank. -/
def significand (rank : Nat) : Nat :=
  if rank < 2 ^ 52 then rank else 2 ^ 52 + rank % 2 ^ 52

/-- The power of two by which a rank's significand is scaled, counted from the least one. -/
def scale (rank : Nat) : Nat :=
  if rank < 2 ^ 52 then 0 else rank / 2 ^ 52 - 1

/-- The size of a rank in units. -/
def units (rank : Nat) : Nat :=
  significand rank * 2 ^ scale rank

/-- A size with a sign. -/
def signed (negative : Bool) (size : Nat) : Int :=
  if negative then -(size : Int) else size

/-- The value in units, if it is finite. -/
def units? : Binary64 → Option Int
  | .finite negative rank => some (signed negative (units rank))
  | _ => none

/-- Positive zero. -/
def zero : Binary64 :=
  .finite false ⟨0, by decide⟩

@[simp]
theorem units_zero : units 0 = 0 := by
  decide

/-! ## Order -/

/-- A value beside whole numbers of units: both infinities are beyond all of them. -/
inductive Extended where
  | bottom
  | units (count : Int)
  | top
  deriving DecidableEq

/-- Strictly less. -/
def Extended.lt : Extended → Extended → Bool
  | .bottom, .bottom => false
  | .bottom, _ => true
  | .units _, .bottom => false
  | .units a, .units b => a < b
  | .units _, .top => true
  | .top, _ => false

/-- The place of a double in the order, unless it is not a number. -/
def extended? : Binary64 → Option Extended
  | .nan => none
  | .infinite negative => some (if negative then .bottom else .top)
  | .finite negative rank => some (.units (signed negative (units rank)))

/-- The place of an integer among the doubles. -/
def extendedOfInt (n : Int) : Extended :=
  .units (n * unitsPerOne)

/-- Numerical order. -/
def lt (x y : Binary64) : Bool :=
  match x.extended?, y.extended? with
  | some a, some b => a.lt b
  | _, _ => false

/-! ## Whole numbers -/

/-- The integer that a double is, if it is one. -/
def toInt? (x : Binary64) : Option Int :=
  match x.units? with
  | some count =>
      if count % unitsPerOne = 0 then some (count / unitsPerOne) else none
  | none => none

/-- A finite double. -/
def isFinite : Binary64 → Bool
  | .finite _ _ => true
  | _ => false

/-- Change of sign. -/
def neg : Binary64 → Binary64
  | .nan => .nan
  | .infinite negative => .infinite (!negative)
  | .finite negative rank => .finite (!negative) rank

end Binary64

end HttpGauge.Number
