import HttpGauge.Json.Value
import HttpGauge.Number.Notation
import HttpGauge.Number.Numeral
import HttpGauge.Text.HexDigit
import HttpGauge.Text.WideUnits

/-!
# Writing JSON

Compact text without blanks.  The plain style escapes what JSON requires; the ASCII style also
escapes every character outside the printable ASCII range, in UTF-16 units.
-/

namespace HttpGauge.Json

open HttpGauge.Number HttpGauge.Text

/-- Which characters of strings are escaped. -/
inductive Style where
  /-- Only quotes, backslashes and control characters. -/
  | plain
  /-- Everything that is not printable ASCII as well. -/
  | ascii
  deriving DecidableEq, Repr

namespace Writer

/-- A code unit as an escape. -/
def unitEscape (unit : Nat) : List Char :=
  '\\' :: 'u' :: hexPlaces 4 unit

/-- The short escape of a character that has one. -/
def shortEscape? : Char → Option Char
  | '"' => some '"'
  | '\\' => some '\\'
  | '\x08' => some 'b'
  | '\x0c' => some 'f'
  | '\n' => some 'n'
  | '\r' => some 'r'
  | '\t' => some 't'
  | _ => none

/-- A character without a short escape stands for itself when the style lets it. -/
def isBare : Style → Char → Bool
  | .plain, c => ' ' ≤ c
  | .ascii, c => ' ' ≤ c && c ≤ '~'

/-- The written form of a character inside a string. -/
def writeChar (style : Style) (c : Char) : List Char :=
  match shortEscape? c with
  | some letter => ['\\', letter]
  | none =>
      if isBare style c then [c]
      else if c.toNat < 0x10000 then unitEscape c.toNat
      else
        let pair := splitSurrogates c.toNat
        unitEscape pair.1 ++ unitEscape pair.2

/-- The written form of a string. -/
def writeString (style : Style) (text : String) : List Char :=
  '"' :: text.toList.flatMap (writeChar style) ++ ['"']

mutual

/-- The written form of a value. -/
def write (style : Style) : Value → List Char
  | .null => ['n', 'u', 'l', 'l']
  | .bool true => ['t', 'r', 'u', 'e']
  | .bool false => ['f', 'a', 'l', 's', 'e']
  | .int n => (intText n).toList
  | .float x => x.chars Spelling.json
  | .str text => writeString style text
  | .arr items => '[' :: writeItems style items
  | .obj members => '\x7b' :: writeMembers style members

/-- The items of an array and its closing bracket. -/
def writeItems (style : Style) : List Value → List Char
  | [] => [']']
  | [item] => write style item ++ [']']
  | item :: rest => write style item ++ ',' :: writeItems style rest

/-- The members of an object and its closing brace. -/
def writeMembers (style : Style) : List (String × Value) → List Char
  | [] => ['\x7d']
  | [(key, value)] => writeString style key ++ ':' :: write style value ++ ['\x7d']
  | (key, value) :: rest =>
      writeString style key ++ ':' :: write style value ++ ',' :: writeMembers style rest

end

end Writer

/-- The text of a value. -/
def Value.write (style : Style) (value : Value) : String :=
  String.ofList (Writer.write style value)

/-! ## Integers that have no text -/

/-- An integer of more digits than are converted to text. -/
def exceedsLimit (n : Int) : Bool :=
  digitLimit < Binary64.digitCount n.natAbs

mutual

/-- A value that holds an integer of too many digits. -/
def Value.hasLongInt : Value → Bool
  | .int n => exceedsLimit n
  | .arr items => Value.itemsHaveLongInt items
  | .obj members => Value.membersHaveLongInt members
  | _ => false

/-- Some item holds an integer of too many digits. -/
def Value.itemsHaveLongInt : List Value → Bool
  | [] => false
  | item :: rest => item.hasLongInt || Value.itemsHaveLongInt rest

/-- Some member holds an integer of too many digits. -/
def Value.membersHaveLongInt : List (String × Value) → Bool
  | [] => false
  | (_, value) :: rest => value.hasLongInt || Value.membersHaveLongInt rest

end

end HttpGauge.Json
