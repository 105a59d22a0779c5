import HttpGauge.Text.HexDigit

/-!
# Failures of decoding

What is reported when bytes are not text in the character set they were taken for: the bytes at
fault, their place and the reason.
-/

namespace HttpGauge.Text

/-- The character sets that are decoded. -/
inductive Charset where
  | utf8
  /-- UTF-16, most significant byte first when `big`. -/
  | utf16 (big : Bool)
  /-- UTF-32, most significant byte first when `big`. -/
  | utf32 (big : Bool)
  deriving DecidableEq, Repr

/-- The name of a character set in messages. -/
def Charset.name : Charset → String
  | .utf8 => "utf-8"
  | .utf16 true => "utf-16-be"
  | .utf16 false => "utf-16-le"
  | .utf32 true => "utf-32-be"
  | .utf32 false => "utf-32-le"

/-- Why bytes are not text. -/
inductive DecodingReason where
  | invalidStart
  /-- The next byte does not continue the character. -/
  | invalidContinuation
  | unexpectedEnd
  | truncated
  /-- The number is above the last code point. -/
  | outOfRange
  deriving DecidableEq, Repr

/-- The wording of a reason. -/
def DecodingReason.message : DecodingReason → String
  | .invalidStart => "invalid start byte"
  | .invalidContinuation => "invalid continuation byte"
  | .unexpectedEnd => "unexpected end of data"
  | .truncated => "truncated data"
  | .outOfRange => "code point not in range(0x110000)"

/-- A failure of decoding. -/
structure DecodingFault where
  charset : Charset
  reason : DecodingReason
  /-- The place of the first byte at fault. -/
  position : Nat
  bytes : List UInt8
  deriving DecidableEq, Repr

/-- A single byte is named; of several, the first and the last place are. -/
def DecodingFault.place (fault : DecodingFault) : String :=
  match fault.bytes with
  | [byte] =>
      "byte 0x" ++ String.ofList (hexPlaces 2 byte.toNat) ++ " in position "
        ++ toString fault.position
  | bytes =>
      "bytes in position " ++ toString fault.position ++ "-"
        ++ toString (fault.position + bytes.length - 1)

/-- The wording of a decoding failure. -/
def DecodingFault.message (fault : DecodingFault) : String :=
  "'" ++ fault.charset.name ++ "' codec can't decode " ++ fault.place ++ ": "
    ++ fault.reason.message

/-- A stretch of decoded bytes: a character, or bytes that are none. -/
inductive Piece where
  | char (c : Char)
  | fault (found : DecodingFault)
  deriving DecidableEq, Repr

/-- The character that stands in for what cannot be decoded. -/
def replacement : Char := '\uFFFD'

/-- The text of decoded pieces, or the first failure among them. -/
def Piece.strict : List Piece → Except DecodingFault (List Char)
  | [] => .ok []
  | .char c :: rest => (Piece.strict rest).map (c :: ·)
  | .fault found :: _ => .error found

/-- The text of decoded pieces, with one replacement character for each failure. -/
def Piece.lossy : List Piece → List Char
  | [] => []
  | .char c :: rest => c :: Piece.lossy rest
  | .fault _ :: rest => replacement :: Piece.lossy rest

/-- Without failures, both readings of the pieces agree. -/
theorem Piece.lossy_of_strict {pieces : List Piece} {text : List Char}
    (read : Piece.strict pieces = .ok text) : Piece.lossy pieces = text := by
  induction pieces generalizing text with
  | nil => cases read; rfl
  | cons piece rest ih =>
      cases piece with
      | fault fault => cases read
      | char c =>
          cases tail : Piece.strict rest with
          | error fault => simp [Piece.strict, tail, Except.map] at read
          | ok tailText =>
              simp only [Piece.strict, tail, Except.map, Except.ok.injEq] at read
              simp [Piece.lossy, ih tail, read]

end HttpGauge.Text
