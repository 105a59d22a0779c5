import HttpGauge.Text.HexDigit
import HttpGauge.Text.Printable

/-!
# Quoted texts

How a text is shown inside a message: between single quotes, or between double quotes when it
holds a single quote and no double quote.  The backslash, the chosen quote and everything that is
not printable are escaped.
-/

namespace HttpGauge.Text.Quoted

/-- The quote that surrounds a text. -/
def delimiter (text : List Char) : Char :=
  if text.contains '\'' && !text.contains '"' then '"' else '\''

/-- One character of a quoted text. -/
def escape (quote c : Char) : List Char :=
  if c = quote || c = '\\' then ['\\', c]
  else if c = '\n' then ['\\', 'n']
  else if c = '\r' then ['\\', 'r']
  else if c = '\t' then ['\\', 't']
  else if isPrintable c then [c]
  else if c.toNat < 0x100 then '\\' :: 'x' :: hexPlaces 2 c.toNat
  else if c.toNat < 0x10000 then '\\' :: 'u' :: hexPlaces 4 c.toNat
  else '\\' :: 'U' :: hexPlaces 8 c.toNat

/-- A text with its quotes. -/
def quoteChars (text : List Char) : List Char :=
  let quote := delimiter text
  quote :: text.flatMap (escape quote) ++ [quote]

end HttpGauge.Text.Quoted

namespace HttpGauge.Text

/-- A string as a message shows it. -/
def quote (text : String) : String :=
  String.ofList (Quoted.quoteChars text.toList)

end HttpGauge.Text
