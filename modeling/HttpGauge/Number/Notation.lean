import HttpGauge.Number.Shortest

/-!
# Written numbers

Integers are written in base ten.  A double is written with the digits of its shortest decimal:
positionally while its first digit stands between the places `10 ^ -4` and `10 ^ 15`, with a
fraction of at least one digit, and otherwise with an exponent of at least two digits and a sign.
-/

namespace HttpGauge.Number

/-- The digits of a natural number in base ten. -/
def natDigits (n : Nat) : List Char :=
  n.repr.toList

/-- The text of an integer. -/
def intText (n : Int) : String :=
  if n < 0 then "-" ++ n.natAbs.repr else n.natAbs.repr

/-- Remove the zeros at the end. -/
def stripZeros (digits : List Char) : List Char :=
  (digits.reverse.dropWhile (· == '0')).reverse

/-- Digits whose first one stands at place `10 ^ (point - 1)`, without exponent. -/
def positional (digits : List Char) (point : Int) : List Char :=
  if point ≤ 0 then '0' :: '.' :: List.replicate (-point).toNat '0' ++ digits
  else if digits.length ≤ point.toNat then
    digits ++ List.replicate (point.toNat - digits.length) '0' ++ ['.', '0']
  else digits.take point.toNat ++ '.' :: digits.drop point.toNat

/-- An exponent with its sign and at least two digits. -/
def exponentText (exponent : Int) : List Char :=
  let sign := if exponent < 0 then '-' else '+'
  let digits := natDigits exponent.natAbs
  sign :: (if digits.length < 2 then '0' :: digits else digits)

/-- Digits whose first one stands at place `10 ^ (point - 1)`, with an exponent. -/
def scientific (digits : List Char) (point : Int) : List Char :=
  match digits with
  | [] => []
  | first :: rest =>
      first :: (if rest.isEmpty then [] else '.' :: rest) ++ 'e' :: exponentText (point - 1)

/-- The text of a positive decimal. -/
def decimalText (decimal : Decimal) : List Char :=
  let all := natDigits decimal.digits
  let point := (all.length : Int) + decimal.exponent
  let digits := stripZeros all
  if -4 < point && point ≤ 16 then positional digits point else scientific digits point

/-- How the values without digits are spelled. -/
structure Spelling where
  /-- The word for what is not a number. -/
  nan : String
  /-- The word for infinity, a minus sign apart. -/
  infinity : String

/-- The characters of a double. -/
def Binary64.chars (spelling : Spelling) : Binary64 → List Char
  | .nan => spelling.nan.toList
  | .infinite negative => (if negative then ['-'] else []) ++ spelling.infinity.toList
  | .finite negative rank =>
      (if negative then ['-'] else [])
        ++ if rank.val = 0 then ['0', '.', '0'] else decimalText (Binary64.shortest rank)

/-- The text of a double. -/
def Binary64.text (spelling : Spelling) (x : Binary64) : String :=
  String.ofList (x.chars spelling)

/-- The words of messages and displayed values. -/
def Spelling.display : Spelling := ⟨"nan", "inf"⟩

/-- The words of JSON texts that admit such values. -/
def Spelling.json : Spelling := ⟨"NaN", "Infinity"⟩

end HttpGauge.Number
