import HttpGauge.Json.Reader
import HttpGauge.Text.Utf8

/-!
# JSON in bytes

The character set of JSON bytes is told by a byte order mark, and otherwise by where the first
bytes are zero: a JSON text starts with two ASCII characters, or is a single one.  Encoded
surrogates are not a failure of decoding.
-/

namespace HttpGauge.Json

open HttpGauge.Text

/-- What the first bytes tell: the character set, and how many bytes are a mark. -/
def detectCharset (bytes : List UInt8) : Charset × Nat :=
  if [0x00, 0x00, 0xfe, 0xff].isPrefixOf bytes then (.utf32 true, 4)
  else if [0xff, 0xfe, 0x00, 0x00].isPrefixOf bytes then (.utf32 false, 4)
  else if [0xfe, 0xff].isPrefixOf bytes then (.utf16 true, 2)
  else if [0xff, 0xfe].isPrefixOf bytes then (.utf16 false, 2)
  else if [0xef, 0xbb, 0xbf].isPrefixOf bytes then (.utf8, 3)
  else match bytes with
  | a :: b :: c :: d :: _ =>
      if a = 0 then (if b = 0 then .utf32 true else .utf16 true, 0)
      else if b = 0 then (if c = 0 && d = 0 then .utf32 false else .utf16 false, 0)
      else (.utf8, 0)
  | [a, b] =>
      if a = 0 then (.utf16 true, 0)
      else if b = 0 then (.utf16 false, 0)
      else (.utf8, 0)
  | _ => (.utf8, 0)

/-- The characters of JSON bytes. -/
def decodeBytes (bytes : List UInt8) : Except DecodingFault (List Char) :=
  match detectCharset bytes with
  | (.utf8, mark) => Piece.strict (Utf8.pieces (Utf8.maskSurrogates (bytes.drop mark)))
  | (.utf16 big, mark) => decodeUtf16 big mark (bytes.drop mark)
  | (.utf32 big, mark) => decodeUtf32 big mark (bytes.drop mark)

/-- Why bytes are not JSON. -/
inductive Unreadable where
  | undecodable (fault : DecodingFault)
  | misread (misreading : Misreading)
  deriving DecidableEq, Repr

/-- The wording of the reason. -/
def Unreadable.message : Unreadable → String
  | .undecodable fault => fault.message
  | .misread misreading => misreading.message

/-- Read JSON bytes. -/
def readBytes (lenient : Bool) (bytes : List UInt8) : Except Unreadable Value :=
  match decodeBytes bytes with
  | .error fault => .error (.undecodable fault)
  | .ok text => (readChars lenient text).mapError .misread

end HttpGauge.Json
