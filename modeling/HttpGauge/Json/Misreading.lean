import HttpGauge.Number.Numeral

/-!
# Misread JSON

What can be wrong with a JSON text, where it is wrong, and the wording of it.  A place is found as
the part of the text from the fault on; its line and column are counted in what precedes it.
-/

namespace HttpGauge.Json

open HttpGauge.Number

/-- What is wrong with a JSON text. -/
inductive ReadFault where
  | expectingValue
  | expectingKey
  | expectingColon
  /-- Neither a comma nor the closing bracket after an item. -/
  | expectingComma
  | extraData
  | unterminatedString
  | invalidControl
  /-- A backslash before a character that it does not escape. -/
  | invalidEscape
  /-- An escaped code unit without four hexadecimal digits. -/
  | invalidUnitEscape
  | byteOrderMark
  /-- An integer of more digits than are converted. -/
  | integerTooLong (digits : Nat)
  /-- A constant for a number that is not finite, where none is admitted. -/
  | refusedConstant (name : String)
  deriving DecidableEq, Repr

/-- A problem with the part of the text that starts at it. -/
structure Misread where
  problem : ReadFault
  remaining : List Char
  deriving DecidableEq, Repr

/-- A place in a text. -/
structure Place where
  /-- How many characters precede it. -/
  offset : Nat
  /-- Its line, from one on. -/
  line : Nat
  /-- Its column, from one on. -/
  column : Nat
  deriving DecidableEq, Repr

/-- The place that follows the given characters. -/
def Place.after (preceding : List Char) : Place where
  offset := preceding.length
  line := preceding.count '\n' + 1
  column := (preceding.reverse.takeWhile (· != '\n')).length + 1

/-- A place in words. -/
def Place.text (place : Place) : String :=
  "line " ++ toString place.line ++ " column " ++ toString place.column
    ++ " (char " ++ toString place.offset ++ ")"

/-- A problem with its place. -/
structure Misreading where
  problem : ReadFault
  place : Place
  deriving DecidableEq, Repr

/-- Find the place of what is wrong in the whole text. -/
def Misread.locate (text : List Char) (misread : Misread) : Misreading where
  problem := misread.problem
  place := Place.after (text.take (text.length - misread.remaining.length))

/-- The wording of a problem that a place is added to. -/
def ReadFault.summary : ReadFault → String
  | .expectingValue => "Expecting value"
  | .expectingKey => "Expecting property name enclosed in double quotes"
  | .expectingColon => "Expecting ':' delimiter"
  | .expectingComma => "Expecting ',' delimiter"
  | .extraData => "Extra data"
  | .unterminatedString => "Unterminated string starting at"
  | .invalidControl => "Invalid control character at"
  | .invalidEscape => "Invalid \\escape"
  | .invalidUnitEscape => "Invalid \\uXXXX escape"
  | .byteOrderMark => "Unexpected UTF-8 BOM (decode using utf-8-sig)"
  | .integerTooLong digits =>
      "Exceeds the limit (" ++ toString digitLimit ++ " digits) for integer string conversion: "
        ++ "value has " ++ toString digits
        ++ " digits; use sys.set_int_max_str_digits() to increase the limit"
  | .refusedConstant name => "invalid JSON constant " ++ name

/-- A problem of the text itself, as opposed to a value that is not accepted. -/
def ReadFault.isGrammatical : ReadFault → Bool
  | .integerTooLong _ | .refusedConstant _ => false
  | _ => true

/-- The wording of a misreading: problems of the text come with their place. -/
def Misreading.message (misreading : Misreading) : String :=
  if misreading.problem.isGrammatical then
    misreading.problem.summary ++ ": " ++ misreading.place.text
  else misreading.problem.summary

end HttpGauge.Json
