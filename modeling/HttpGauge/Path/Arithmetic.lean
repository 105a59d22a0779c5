import HttpGauge.Number.Arithmetic
import HttpGauge.Path.Query

/-!
# Arithmetic on values

Sums, differences and products of the values that queries find.  Numbers are computed with, and
integers among themselves exactly; strings and arrays can be joined and repeated; other values are
a mismatch.
-/

namespace HttpGauge.Path

open HttpGauge.Json HttpGauge.Number

/-! ## Numbers -/

/-- Why an operation on two values has no result. -/
inductive Obstacle where
  /-- The operation is not for values of these kinds. -/
  | mismatch
  | failure
  deriving DecidableEq, Repr

/-- A truth value counts as an integer too. -/
def integer? : Value → Option Int
  | .bool truth => some (if truth then 1 else 0)
  | .int n => some n
  | _ => none

/-- A number as a double, if it is one and is not too large. -/
def double : Value → Except Obstacle Binary64
  | .float x => .ok x
  | value =>
      match integer? value with
      | none => .error .mismatch
      | some n =>
          match Binary64.ofInt? n with
          | some x => .ok x
          | none => .error .failure

/-- The value is a number. -/
def isNumber : Value → Bool
  | .bool _ | .int _ | .float _ => true
  | _ => false

/-- An operation on integers. -/
def Operation.onInt : Operation → Int → Int → Int
  | .add => (· + ·)
  | .sub => (· - ·)
  | .mul => (· * ·)

/-- An operation on doubles. -/
def Operation.onDouble : Operation → Binary64 → Binary64 → Binary64
  | .add => Binary64.add
  | .sub => Binary64.sub
  | .mul => Binary64.mul

/-- An operation on numbers; integers stay integers. -/
def computeNumbers (operation : Operation) (left right : Value) : Except Obstacle Value :=
  match integer? left, integer? right with
  | some a, some b => .ok (.int (operation.onInt a b))
  | _, _ => do return .float (operation.onDouble (← double left) (← double right))

/-! ## Strings and arrays -/

/-- The greatest number of parts that a repetition has. -/
def repetitionLimit : Nat := 2 ^ 27

/-- Parts repeated some times; a negative number counts as zero. -/
def repeated {α : Type} (parts : List α) (times : Int) : Except Obstacle (List α) :=
  if times.natAbs < countBound && parts.length * times.toNat ≤ repetitionLimit then
    .ok (if parts.isEmpty then [] else (List.replicate times.toNat parts).flatten)
  else .error .failure

/-- A string or an array repeated some times. -/
def repeatValue (times : Int) : Value → Except Obstacle Value
  | .str text => do return .str (String.ofList (← repeated text.toList times))
  | .arr items => do return .arr (← repeated items times)
  | _ => .error .mismatch

/-! ## Values -/

/-- An operation on two values: strings and arrays can be joined and repeated. -/
def compute (operation : Operation) (left right : Value) : Except Obstacle Value :=
  if isNumber left && isNumber right then computeNumbers operation left right
  else
    match operation, left, right with
    | .add, .str a, .str b => .ok (.str (a ++ b))
    | .add, .arr as, .arr bs => .ok (.arr (as ++ bs))
    | .mul, _, _ =>
        match integer? left, integer? right with
        | _, some times => repeatValue times left
        | some times, _ => repeatValue times right
        | none, none => .error .mismatch
    | _, _, _ => .error .mismatch

end HttpGauge.Path
