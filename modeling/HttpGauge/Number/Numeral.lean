import HttpGauge.Number.Binary64
import HttpGauge.Text.Blank
import HttpGauge.Text.DecimalDigit

/-!
# Numerals

Integers as people write them: digits in groups that single underscores separate.  Settings admit
the decimal digits of every script between blanks; manifests admit ASCII digits, and a fraction
that is zero.  No numeral of more than `digitLimit` digits is converted.
-/

namespace HttpGauge.Number

open HttpGauge.Text

/-- The greatest number of digits that is converted between text and integer. -/
def digitLimit : Nat := 4300

/-- The number that digits spell in base ten. -/
def ofDigits (digits : List Nat) : Nat :=
  digits.foldl (fun number digit => 10 * number + digit) 0

theorem ofDigits_append (front back : List Nat) :
    ofDigits (front ++ back) = ofDigits front * 10 ^ back.length + ofDigits back := by
  have shift : ∀ (digits : List Nat) (start : Nat),
      digits.foldl (fun number digit => 10 * number + digit) start =
        start * 10 ^ digits.length + ofDigits digits := by
    intro digits
    induction digits with
    | nil => simp [ofDigits]
    | cons digit rest ih =>
        intro start
        simp only [ofDigits, List.foldl_cons, List.length_cons, ih (10 * start + digit),
          ih (10 * 0 + digit), Nat.pow_succ]
        grind
  rw [ofDigits, List.foldl_append, shift]
  rfl

/-- The value of an ASCII digit. -/
def asciiDigitValue? (c : Char) : Option Nat :=
  if '0' ≤ c && c ≤ '9' then some (c.toNat - '0'.toNat) else none

/-- At least one digit, with at most one underscore between neighbours. -/
def digitGroups? (value? : Char → Option Nat) : List Char → Option (List Nat)
  | [] => none
  | [c] => do return [← value? c]
  | c :: '_' :: rest => do return (← value? c) :: (← digitGroups? value? rest)
  | c :: rest => do return (← value? c) :: (← digitGroups? value? rest)

/-- Split an optional sign from what follows it. -/
def splitSign : List Char → Bool × List Char
  | '-' :: rest => (true, rest)
  | '+' :: rest => (false, rest)
  | text => (false, text)

/-- A magnitude with a sign. -/
def withSign (negative : Bool) (magnitude : Nat) : Int :=
  if negative then -(magnitude : Int) else magnitude

/-- The integer of a setting: a sign and digits of any script, between white space. -/
def settingInt? (text : String) : Option Int :=
  let signed := splitSign (trimWhite text.toList)
  match digitGroups? digitValue? signed.2 with
  | some digits =>
      if digits.length ≤ digitLimit then some (withSign signed.1 (ofDigits digits)) else none
  | none => none

/-- The integer of a manifest: a sign, ASCII digits, and a point with nothing but zeros after. -/
def manifestInt? (text : String) : Option Int :=
  let signed := splitSign text.toList
  let whole := signed.2.takeWhile (· != '.')
  let fraction := (signed.2.dropWhile (· != '.')).drop 1
  match digitGroups? asciiDigitValue? whole with
  | some digits =>
      if fraction.all (· == '0') && digits.length ≤ digitLimit then
        some (withSign signed.1 (ofDigits digits))
      else none
  | none => none

end HttpGauge.Number
