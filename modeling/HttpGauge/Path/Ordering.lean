import HttpGauge.Json.Value

/-!
# Comparing and sorting values

Numbers of all kinds, truth values among them, compare by their exact size; strings compare by
code points and arrays item by item.  Values of other or of different kinds have no order.  A
sort starts from the run that the items begin with and inserts the others one by one, so equal
items keep their order.
-/

namespace HttpGauge.Path

open HttpGauge.Json HttpGauge.Number

/-! ## Equality -/

/-- The exact size of a number; a truth value counts as zero or one. -/
inductive Size where
  | none
  /-- It stands for no size. -/
  | undefined
  | exact (place : Binary64.Extended)
  deriving DecidableEq

/-- The size of a value. -/
def Size.of : Value → Size
  | .bool truth => .exact (Binary64.extendedOfInt (if truth then 1 else 0))
  | .int n => .exact (Binary64.extendedOfInt n)
  | .float x =>
      match x.extended? with
      | some place => .exact place
      | Option.none => .undefined
  | _ => .none

/-- Values of the same size; what has no size equals itself only inside of other values. -/
def sameSize (inside : Bool) (a b : Value) : Bool :=
  match Size.of a, Size.of b with
  | .exact x, .exact y => x == y
  | .undefined, .undefined => inside
  | _, _ => false

mutual

/-- Values that count as equal. -/
def matchesWithin (inside : Bool) : Value → Value → Bool
  | .null, .null => true
  | .str a, .str b => a == b
  | .arr as, .arr bs => itemsMatch as bs
  | .obj as, .obj bs => as.length == bs.length && membersMatch as bs
  | a, b => sameSize inside a b

/-- Items that are equal one by one. -/
def itemsMatch : List Value → List Value → Bool
  | [], [] => true
  | a :: as, b :: bs => matchesWithin true a b && itemsMatch as bs
  | _, _ => false

/-- Members that the other object has too, in any order. -/
def membersMatch : List (String × Value) → List (String × Value) → Bool
  | [], _ => true
  | (key, value) :: rest, others =>
      (match Members.get? key others with
        | some other => matchesWithin true value other
        | none => false) && membersMatch rest others

end

/-- Values that count as equal. -/
def isEqual (a b : Value) : Bool :=
  matchesWithin false a b

/-! ## Order -/

/-- Numbers and strings in order; other values have none. -/
def scalarLess? : Value → Value → Option Bool
  | .str a, .str b => some (decide (a < b))
  | a, b =>
      match Size.of a, Size.of b with
      | .exact x, .exact y => some (x.lt y)
      | .none, _ | _, .none => none
      | _, _ => some false

mutual

/-- The first value is less than the second, if they have an order. -/
def isLess? : Value → Value → Option Bool
  | .arr as, .arr bs => itemsLess? as bs
  | a, b => scalarLess? a b

/-- The first items that differ decide; without any, the shorter list is less. -/
def itemsLess? : List Value → List Value → Option Bool
  | a :: as, b :: bs =>
      if matchesWithin true a b then itemsLess? as bs else isLess? a b
  | [], _ :: _ => some true
  | _, [] => some false

end

/-! ## Sorting -/

/-- The items that go on with a run, each beside its predecessor, and those after it. -/
def extendRun {α : Type} (goesOn : α → α → Option Bool) : α → List α → Option (List α × List α)
  | _, [] => some ([], [])
  | last, item :: rest => do
      if ← goesOn last item then
        let run ← extendRun goesOn item rest
        return (item :: run.1, run.2)
      else return ([], item :: rest)

/-- The run that items begin with, in rising order, and the items after it. -/
def firstRun {α : Type} (less : α → α → Option Bool) : List α → Option (List α × List α)
  | first :: second :: rest => do
      if ← less second first then
        let run ← extendRun (fun last item => less item last) second rest
        return ((first :: second :: run.1).reverse, run.2)
      else
        let run ← extendRun (fun last item => (!·) <$> less item last) second rest
        return (first :: second :: run.1, run.2)
  | items => some (items, [])

/-- Where an item belongs between two places of sorted items: after all that are not greater. -/
def insertionPlace {α : Type} (less : α → α → Option Bool) (item : α) (sorted : List α) :
    Nat → Nat → Nat → Option Nat
  | 0, low, _ => some low
  | fuel + 1, low, high =>
      if low < high then
        let middle := low + (high - low) / 2
        match sorted[middle]? with
        | some pivot => do
            if ← less item pivot then insertionPlace less item sorted fuel low middle
            else insertionPlace less item sorted fuel (middle + 1) high
        | none => none
      else some low

/-- Insert an item into sorted items. -/
def insertItem {α : Type} (less : α → α → Option Bool) (item : α) (sorted : List α) :
    Option (List α) := do
  let place ← insertionPlace less item sorted (sorted.length + 1) 0 sorted.length
  return sorted.take place ++ item :: sorted.drop place

/-- Sort items; without an order of two that meet there is no result. -/
def sortItems {α : Type} (less : α → α → Option Bool) (items : List α) : Option (List α) := do
  let run ← firstRun less items
  run.2.foldlM (fun sorted item => insertItem less item sorted) run.1

end HttpGauge.Path
