/-!
# Hexadecimal digits

Digits of base sixteen, read in either case and written with a fixed number of places.
-/

namespace HttpGauge.Text

/-- The value of a hexadecimal digit of either case. -/
def hexValue? (c : Char) : Option Nat :=
  if '0' ≤ c && c ≤ '9' then some (c.toNat - '0'.toNat)
  else if 'a' ≤ c && c ≤ 'f' then some (c.toNat - 'a'.toNat + 10)
  else if 'A' ≤ c && c ≤ 'F' then some (c.toNat - 'A'.toNat + 10)
  else none

/-- The lower-case digit of a value below sixteen. -/
def hexDigit (value : Nat) : Char :=
  if value < 10 then Char.ofNat ('0'.toNat + value) else Char.ofNat ('a'.toNat + (value - 10))

/-- The upper-case digit of a value below sixteen. -/
def upperHexDigit (value : Nat) : Char :=
  if value < 10 then Char.ofNat ('0'.toNat + value) else Char.ofNat ('A'.toNat + (value - 10))

/-- The last `places` hexadecimal digits of a number, most significant first. -/
def hexPlaces : Nat → Nat → List Char
  | 0, _ => []
  | places + 1, value => hexPlaces places (value / 16) ++ [hexDigit (value % 16)]

/-- The number that hexadecimal digits spell, if each of them is one. -/
def readHex (digits : List Char) : Option Nat :=
  digits.foldl (fun value c => do return 16 * (← value) + (← hexValue? c)) (some 0)

theorem hexValue?_hexDigit {value : Nat} (small : value < 16) :
    hexValue? (hexDigit value) = some value := by
  have table : ∀ v : Fin 16, hexValue? (hexDigit v.val) = some v.val := by decide
  exact table ⟨value, small⟩

theorem hexValue?_upperHexDigit {value : Nat} (small : value < 16) :
    hexValue? (upperHexDigit value) = some value := by
  have table : ∀ v : Fin 16, hexValue? (upperHexDigit v.val) = some v.val := by decide
  exact table ⟨value, small⟩

end HttpGauge.Text
