import HttpGauge.Text.HexDigit
import HttpGauge.Text.Pieces
import HttpGauge.Text.Utf8

/-!
# Form encoding

Names and values as web forms send them.  A space is written `+`; letters, digits and `_.-~` stand
for themselves; every other byte of the UTF-8 form is a percent sign and two upper-case digits.
Reading is lenient: a percent sign without two digits stands for itself, and bytes that are not
UTF-8 become replacement characters.
-/

namespace HttpGauge.Text.FormEncoding

/-! ## Writing -/

/-- The bytes that stand for themselves. -/
def isUnreserved (byte : UInt8) : Bool :=
  let c := Char.ofNat byte.toNat
  byte.toNat < 0x80 && (c.isAlphanum || c = '_' || c = '.' || c = '-' || c = '~')

/-- The written form of a byte. -/
def writeByte (byte : UInt8) : List Char :=
  if isUnreserved byte then [Char.ofNat byte.toNat]
  else if byte = 0x20 then ['+']
  else ['%', upperHexDigit (byte.toNat / 16), upperHexDigit (byte.toNat % 16)]

/-- The written form of a string. -/
def write (text : String) : String :=
  String.ofList ((Utf8.encode text).flatMap writeByte)

/-! ## Reading -/

/-- The bytes of a written form: plus signs are spaces, and escapes with two digits are bytes. -/
def readBytes : List Char → List UInt8
  | '%' :: a :: b :: rest =>
      match hexValue? a, hexValue? b with
      | some high, some low => UInt8.ofNat (16 * high + low) :: readBytes rest
      | _, _ => 0x25 :: readBytes (a :: b :: rest)
  | c :: rest => (if c = '+' then [0x20] else Utf8.encodeChar c) ++ readBytes rest
  | [] => []

/-- The string of a written form. -/
def read (text : List Char) : String :=
  Utf8.decodeLossy (readBytes text)

/-- One field: a piece without an equals sign, or with nothing after it, is no field. -/
def readField (piece : List Char) : Option (String × String) :=
  match piece.dropWhile (· != '=') with
  | [] | [_] => none
  | _ :: value => some (read (piece.takeWhile (· != '=')), read value)

/-- The fields of a form, in order. -/
def readFields (text : String) : List (String × String) :=
  (splitAt '&' text.toList).filterMap readField

end HttpGauge.Text.FormEncoding
