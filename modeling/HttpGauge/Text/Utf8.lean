import HttpGauge.Text.Decoding

/-!
# UTF-8

Encoding, and decoding byte by byte.  A decoder that meets a byte which cannot continue the
character it is in reports the bytes read so far, the longest part that could still have become a
character, and takes the byte as the start of the next one.
-/

namespace HttpGauge.Text.Utf8

/-! ## Encoding -/

/-- The bytes of a character. -/
def encodeChar (c : Char) : List UInt8 :=
  let code := c.toNat
  if code < 0x80 then [UInt8.ofNat code]
  else if code < 0x800 then
    [UInt8.ofNat (0xc0 + code / 0x40), UInt8.ofNat (0x80 + code % 0x40)]
  else if code < 0x10000 then
    [UInt8.ofNat (0xe0 + code / 0x1000), UInt8.ofNat (0x80 + code / 0x40 % 0x40),
      UInt8.ofNat (0x80 + code % 0x40)]
  else
    [UInt8.ofNat (0xf0 + code / 0x40000), UInt8.ofNat (0x80 + code / 0x1000 % 0x40),
      UInt8.ofNat (0x80 + code / 0x40 % 0x40), UInt8.ofNat (0x80 + code % 0x40)]

/-- The bytes of a text. -/
def encodeChars (text : List Char) : List UInt8 :=
  text.flatMap encodeChar

/-- The bytes of a string. -/
def encode (text : String) : List UInt8 :=
  encodeChars text.toList

/-! ## Decoding -/

/-- What the first byte of a character of several bytes promises. -/
structure Lead where
  /-- The bits of the code point that it holds. -/
  bits : Nat
  following : Nat
  low : Nat
  high : Nat
  deriving DecidableEq, Repr

/-- Read a first byte: the second one is bounded so that no character has two encodings, none is
a surrogate and none is above the last code point. -/
def lead? (byte : Nat) : Option Lead :=
  if 0xc2 ≤ byte && byte ≤ 0xdf then some ⟨byte - 0xc0, 1, 0x80, 0xbf⟩
  else if byte == 0xe0 then some ⟨0, 2, 0xa0, 0xbf⟩
  else if byte == 0xed then some ⟨0xd, 2, 0x80, 0x9f⟩
  else if 0xe1 ≤ byte && byte ≤ 0xef then some ⟨byte - 0xe0, 2, 0x80, 0xbf⟩
  else if byte == 0xf0 then some ⟨0, 3, 0x90, 0xbf⟩
  else if 0xf1 ≤ byte && byte ≤ 0xf3 then some ⟨byte - 0xf0, 3, 0x80, 0xbf⟩
  else if byte == 0xf4 then some ⟨4, 3, 0x80, 0x8f⟩
  else none

/-- Where the decoder stands between two bytes. -/
inductive State where
  | start
  /-- Inside a character: its bytes so far, latest first, and what is expected. -/
  | inside (consumed : List UInt8) (expected : Lead)
  deriving DecidableEq, Repr

/-- The failure of a character that begins `consumed.length` bytes before `offset`. -/
def faultAt (reason : DecodingReason) (offset : Nat) (consumed : List UInt8) : Piece :=
  .fault ⟨.utf8, reason, offset - consumed.length, consumed.reverse⟩

/-- Take a byte between characters. -/
def begin (offset : Nat) (byte : UInt8) : List Piece × State :=
  if byte.toNat < 0x80 then ([.char (Char.ofNat byte.toNat)], .start)
  else
    match lead? byte.toNat with
    | some lead => ([], .inside [byte] lead)
    | none => ([faultAt .invalidStart (offset + 1) [byte]], .start)

/-- Take the byte at `offset`. -/
def step (offset : Nat) : State → UInt8 → List Piece × State
  | .start, byte => begin offset byte
  | .inside consumed expected, byte =>
      if expected.low ≤ byte.toNat && byte.toNat ≤ expected.high then
        let bits := expected.bits * 0x40 + byte.toNat % 0x40
        if expected.following ≤ 1 then ([.char (Char.ofNat bits)], .start)
        else ([], .inside (byte :: consumed) ⟨bits, expected.following - 1, 0x80, 0xbf⟩)
      else
        let next := begin offset byte
        (faultAt .invalidContinuation offset consumed :: next.1, next.2)

/-- The pieces of the bytes from `offset` on. -/
def piecesFrom (offset : Nat) : State → List UInt8 → List Piece
  | .start, [] => []
  | .inside consumed _, [] => [faultAt .unexpectedEnd offset consumed]
  | state, byte :: rest =>
      let taken := step offset state byte
      taken.1 ++ piecesFrom (offset + 1) taken.2 rest

/-- The pieces of a sequence of bytes. -/
def pieces (bytes : List UInt8) : List Piece :=
  piecesFrom 0 .start bytes

/-- The text of bytes that are valid throughout. -/
def decode (bytes : List UInt8) : Except DecodingFault String :=
  (Piece.strict (pieces bytes)).map String.ofList

/-- The text of any bytes, with a replacement character for each failure. -/
def decodeLossy (bytes : List UInt8) : String :=
  String.ofList (Piece.lossy (pieces bytes))

/-! ## Encoded surrogates -/

/-- Put the replacement character in place of each encoded surrogate. -/
def maskSurrogates : List UInt8 → List UInt8
  | a :: b :: c :: rest =>
      if a = 0xed && 0xa0 ≤ b && b ≤ 0xbf && 0x80 ≤ c && c ≤ 0xbf then
        0xef :: 0xbf :: 0xbd :: maskSurrogates rest
      else a :: maskSurrogates (b :: c :: rest)
  | bytes => bytes

end HttpGauge.Text.Utf8
