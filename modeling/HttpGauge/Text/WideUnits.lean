import HttpGauge.Text.Decoding

/-!
# UTF-16 and UTF-32

Decoding of code units of two and of four bytes in either byte order.  A surrogate without its
partner reads as the replacement character; a number above the last code point, and bytes that do
not fill a unit, are failures.
-/

namespace HttpGauge.Text

/-- The number that bytes spell in the given order. -/
def unitValue (big : Bool) (bytes : List UInt8) : Nat :=
  (if big then bytes else bytes.reverse).foldl (fun value byte => 256 * value + byte.toNat) 0

/-- The character of a code point, and the replacement character where there is none. -/
def charOfCode (code : Nat) : Char :=
  if code.isValidChar then Char.ofNat code else replacement

/-! ## UTF-16 -/

/-- The code units of two bytes each. -/
def units16 (big : Bool) : List UInt8 → List Nat
  | a :: b :: rest => unitValue big [a, b] :: units16 big rest
  | _ => []

/-- The first half of a surrogate pair. -/
def isHighSurrogate (unit : Nat) : Bool :=
  0xd800 ≤ unit && unit < 0xdc00

/-- The second half of a surrogate pair. -/
def isLowSurrogate (unit : Nat) : Bool :=
  0xdc00 ≤ unit && unit < 0xe000

/-- The code point of a surrogate pair. -/
def joinSurrogates (high low : Nat) : Nat :=
  0x10000 + (high - 0xd800) * 0x400 + (low - 0xdc00)

/-- The surrogate pair of a code point above U+FFFF. -/
def splitSurrogates (code : Nat) : Nat × Nat :=
  (0xd800 + (code - 0x10000) / 0x400, 0xdc00 + (code - 0x10000) % 0x400)

/-- The text of code units: pairs of surrogates are joined. -/
def charsOfUnits16 : List Nat → List Char
  | high :: low :: rest =>
      if isHighSurrogate high && isLowSurrogate low then
        charOfCode (joinSurrogates high low) :: charsOfUnits16 rest
      else charOfCode high :: charsOfUnits16 (low :: rest)
  | [unit] => [charOfCode unit]
  | [] => []

/-- Decode UTF-16 that starts at `offset`. -/
def decodeUtf16 (big : Bool) (offset : Nat) (bytes : List UInt8) :
    Except DecodingFault (List Char) :=
  if bytes.length % 2 = 1 then
    .error ⟨.utf16 big, .truncated, offset + bytes.length - 1, bytes.drop (bytes.length - 1)⟩
  else .ok (charsOfUnits16 (units16 big bytes))

/-- Joining undoes splitting. -/
theorem joinSurrogates_splitSurrogates {code : Nat} (beyond : 0x10000 ≤ code) :
    joinSurrogates (splitSurrogates code).1 (splitSurrogates code).2 = code := by
  obtain ⟨excess, rfl⟩ : ∃ excess, code = 0x10000 + excess := ⟨code - 0x10000, by omega⟩
  have parts := Nat.div_add_mod excess 0x400
  unfold joinSurrogates splitSurrogates
  generalize 0x10000 = base at *
  generalize 0xd800 = firstHigh at *
  generalize 0xdc00 = firstLow at *
  simp only [Nat.add_sub_cancel_left]
  omega

/-! ## UTF-32 -/

/-- Decode UTF-32 that starts at `offset`. -/
def decodeUtf32 (big : Bool) (offset : Nat) : List UInt8 → Except DecodingFault (List Char)
  | [] => .ok []
  | a :: b :: c :: d :: rest =>
      let code := unitValue big [a, b, c, d]
      if 0x110000 ≤ code then .error ⟨.utf32 big, .outOfRange, offset, [a, b, c, d]⟩
      else (decodeUtf32 big (offset + 4) rest).map (charOfCode code :: ·)
  | bytes => .error ⟨.utf32 big, .truncated, offset, bytes⟩

end HttpGauge.Text
