import HttpGauge.Number.Rounding

/-!
# The shortest decimal of a double

The decimal with the fewest significant digits that reads back as the double; of several such
decimals, the one nearest to it.  A grid of decimals with a given number of digits is searched at
the two neighbours of the value: if any point of the grid reads back, one of them does.
-/

namespace HttpGauge.Number

/-- A decimal fraction: `digits * 10 ^ exponent`. -/
structure Decimal where
  digits : Nat
  /-- The power of ten that scales them. -/
  exponent : Int
  deriving DecidableEq, Repr

namespace Binary64

/-- A decimal that reads back as the given rank. -/
def readsBack (rank : Nat) (decimal : Decimal) : Bool :=
  nearestRankDecimal decimal.digits decimal.exponent == rank

/-- The least power of ten, as an exponent, that exceeds a positive number of units. -/
def decimalSize (size : Nat) : Int :=
  (digitCount (size * 10 ^ 400 / unitsPerOne) : Int) - 400

/-- The two neighbours of a number of units on the grid of multiples of `10 ^ exponent`, the
nearer one first and the even one first at a tie. -/
def neighbours (size : Nat) (exponent : Int) : List Decimal :=
  let num := if 0 ≤ exponent then size else size * 10 ^ (-exponent).toNat
  let den := if 0 ≤ exponent then unitsPerOne * 10 ^ exponent.toNat else unitsPerOne
  let below := num / den
  let near := roundHalfEven num den
  let far := if near = below then below + 1 else below
  [⟨near, exponent⟩, ⟨far, exponent⟩]

/-- The first neighbour that reads back, from grids of `places` digits on, `tries` of them. -/
def searchShortest (rank size : Nat) (top : Int) : Nat → Nat → Option Decimal
  | _, 0 => none
  | places, tries + 1 =>
      match (neighbours size (top - places)).find? (readsBack rank) with
      | some decimal => some decimal
      | none => searchShortest rank size top (places + 1) tries

/-- The exact decimal of a number of units. -/
def exactDecimal (size : Nat) : Decimal :=
  ⟨size * 5 ^ 1074, -1074⟩

/-- The shortest decimal of a positive rank: seventeen digits always suffice. -/
def shortest (rank : Nat) : Decimal :=
  let size := units rank
  (searchShortest rank size (decimalSize size) 1 17).getD (exactDecimal size)

/-- A decimal that the search returns reads back. -/
theorem readsBack_of_searchShortest {rank size : Nat} {top : Int} {places tries : Nat}
    {decimal : Decimal} (found : searchShortest rank size top places tries = some decimal) :
    readsBack rank decimal = true := by
  induction tries generalizing places with
  | zero => simp [searchShortest] at found
  | succ tries ih =>
      simp only [searchShortest] at found
      split at found
      · rename_i hit
        cases found
        exact List.find?_some hit
      · exact ih found

end Binary64

end HttpGauge.Number
