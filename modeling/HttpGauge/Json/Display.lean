import HttpGauge.Json.Value
import HttpGauge.Number.Notation
import HttpGauge.Text.Quoted

/-!
# Displayed values

How a value is shown inside messages and by the text operator of paths: `None`, `True` and `False`
for the constants, quoted strings, and a space after commas and colons.
-/

namespace HttpGauge.Json

open HttpGauge.Number HttpGauge.Text

mutual

/-- A value as messages show it. -/
def Value.displayChars : Value → List Char
  | .null => "None".toList
  | .bool true => "True".toList
  | .bool false => "False".toList
  | .int n => (intText n).toList
  | .float x => x.chars Spelling.display
  | .str text => Quoted.quoteChars text.toList
  | .arr items => '[' :: displayItems items
  | .obj members => '\x7b' :: displayMembers members

/-- Shown items, with the closing bracket. -/
def Value.displayItems : List Value → List Char
  | [] => [']']
  | [item] => item.displayChars ++ [']']
  | item :: rest => item.displayChars ++ ',' :: ' ' :: displayItems rest

/-- Shown members, with the closing brace. -/
def Value.displayMembers : List (String × Value) → List Char
  | [] => ['\x7d']
  | [(key, value)] =>
      Quoted.quoteChars key.toList ++ ':' :: ' ' :: value.displayChars ++ ['\x7d']
  | (key, value) :: rest =>
      Quoted.quoteChars key.toList ++ ':' :: ' ' :: value.displayChars
        ++ ',' :: ' ' :: displayMembers rest

end

/-- A value as messages show it. -/
def Value.display (value : Value) : String :=
  String.ofList value.displayChars

/-- A value as a text of its own: a string is not quoted. -/
def Value.displayBare : Value → String
  | .str text => text
  | value => value.display

end HttpGauge.Json
