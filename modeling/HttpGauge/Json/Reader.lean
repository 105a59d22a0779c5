import HttpGauge.Json.Misreading
import HttpGauge.Json.Value
import HttpGauge.Number.Rounding
import HttpGauge.Text.HexDigit
import HttpGauge.Text.WideUnits

/-!
# Reading JSON

A recursive descent over the characters of a text.  The grammar is strict; the constants for
numbers that are not finite are admitted on request.  Each reader returns its result with the rest
of the text, or the problem with the text from the fault on.

Values and the items of arrays and objects take turns; each turn that does not consume a character
is followed by one that does, so twice the length of the text bounds their number.
-/

namespace HttpGauge.Json

open HttpGauge.Number HttpGauge.Text

/-- A result with the rest of the text, or what is wrong with it. -/
abbrev Reading (α : Type) := Except Misread (α × List Char)

/-- Read on after a result. -/
def Reading.andThen {α β : Type} (reading : Reading α) (next : α → List Char → Reading β) :
    Reading β :=
  match reading with
  | .ok (result, rest) => next result rest
  | .error misread => .error misread

@[simp]
theorem Reading.andThen_ok {α β : Type} (result : α) (rest : List Char)
    (next : α → List Char → Reading β) :
    Reading.andThen (.ok (result, rest)) next = next result rest :=
  rfl

@[simp]
theorem Reading.andThen_error {α β : Type} (misread : Misread)
    (next : α → List Char → Reading β) :
    Reading.andThen (.error misread) next = .error misread :=
  rfl

namespace Reader

/-! ## Blanks and strings -/

/-- The characters between tokens. -/
def isSpace (c : Char) : Bool :=
  c = ' ' || c = '\t' || c = '\n' || c = '\r'

/-- Skip the characters between tokens. -/
def skipSpace (text : List Char) : List Char :=
  text.dropWhile isSpace

/-- The character that a backslash and a letter stand for. -/
def escaped? : Char → Option Char
  | '"' => some '"'
  | '\\' => some '\\'
  | '/' => some '/'
  | 'b' => some '\x08'
  | 'f' => some '\x0c'
  | 'n' => some '\n'
  | 'r' => some '\r'
  | 't' => some '\t'
  | _ => none

/-- Put a code before the codes of a reading. -/
def consCode (code : Nat) (reading : Reading (List Nat)) : Reading (List Nat) :=
  reading.andThen fun codes rest => .ok (code :: codes, rest)

/-- Read the codes of a string up to its closing quote: the code points of plain characters and
the code units of escapes.  An escaped unit is followed by at least one character of the text. -/
def readCodes (opening : List Char) : List Char → Reading (List Nat)
  | [] => .error ⟨.unterminatedString, opening⟩
  | '"' :: rest => .ok ([], rest)
  | ['\\'] => .error ⟨.unterminatedString, opening⟩
  | '\\' :: 'u' :: a :: b :: c :: d :: next :: rest =>
      match readHex [a, b, c, d] with
      | some unit => consCode unit (readCodes opening (next :: rest))
      | none => .error ⟨.invalidUnitEscape, 'u' :: a :: b :: c :: d :: next :: rest⟩
  | '\\' :: 'u' :: rest => .error ⟨.invalidUnitEscape, 'u' :: rest⟩
  | '\\' :: c :: rest =>
      match escaped? c with
      | some character => consCode character.toNat (readCodes opening rest)
      | none => .error ⟨.invalidEscape, '\\' :: c :: rest⟩
  | c :: rest =>
      if c < ' ' then .error ⟨.invalidControl, c :: rest⟩
      else consCode c.toNat (readCodes opening rest)

/-- Read a string whose opening quote precedes the text. -/
def readString (text : List Char) : Reading String :=
  (readCodes ('"' :: text) text).andThen fun codes rest =>
    .ok (String.ofList (charsOfUnits16 codes), rest)

/-! ## Numbers -/

/-- The digits at the start of a text, and the rest. -/
def spanDigits (text : List Char) : List Char × List Char :=
  (text.takeWhile Char.isDigit, text.dropWhile Char.isDigit)

/-- The number that ASCII digits spell. -/
def digitsValue (digits : List Char) : Nat :=
  ofDigits (digits.map fun c => c.toNat - '0'.toNat)

/-- The whole part of a number: a zero, or digits that do not start with one. -/
def readWhole : List Char → Option (List Char × List Char)
  | '0' :: rest => some (['0'], rest)
  | text =>
      match spanDigits text with
      | ([], _) => none
      | found => some found

/-- The fraction of a number, if a point and a digit follow. -/
def readFraction : List Char → Option (List Char × List Char)
  | '.' :: text =>
      match spanDigits text with
      | ([], _) => none
      | found => some found
  | _ => none

/-- The exponent of a number, if its letter, perhaps a sign, and a digit follow. -/
def readExponent : List Char → Option (Int × List Char)
  | letter :: text =>
      if letter = 'e' || letter = 'E' then
        let signed := splitSign text
        match spanDigits signed.2 with
        | ([], _) => none
        | (digits, rest) => some (withSign signed.1 (digitsValue digits), rest)
      else none
  | _ => none

/-- Read a number; one with a fraction or an exponent is a double. -/
def readNumber (text : List Char) : Reading Value :=
  let negative := text.head? = some '-'
  match readWhole (if negative then text.drop 1 else text) with
  | none => .error ⟨.expectingValue, text⟩
  | some (whole, afterWhole) =>
      let fraction := readFraction afterWhole
      let fractionDigits := (fraction.map (·.1)).getD []
      let afterFraction := (fraction.map (·.2)).getD afterWhole
      let exponent := readExponent afterFraction
      let rest := (exponent.map (·.2)).getD afterFraction
      if fraction.isNone && exponent.isNone then
        if digitLimit < whole.length then .error ⟨.integerTooLong whole.length, text⟩
        else .ok (.int (withSign negative (digitsValue whole)), rest)
      else
        let power := (exponent.map (·.1)).getD 0
        .ok (.float (Binary64.ofDecimal negative (digitsValue (whole ++ fractionDigits))
          (power - fractionDigits.length)), rest)

/-! ## Words -/

/-- What follows a word at the start of a text. -/
def afterWord? (word : String) (text : List Char) : Option (List Char) :=
  if word.toList.isPrefixOf text then some (text.drop word.length) else none

/-- The words that are values, with the value of each. -/
def words : List (String × Value) :=
  [("null", .null), ("true", .bool true), ("false", .bool false)]

/-- The words for numbers that are not finite. -/
def constants : List (String × Binary64) :=
  [("NaN", .nan), ("Infinity", .infinite false), ("-Infinity", .infinite true)]

/-- Read a word or a number. -/
def readScalar (lenient : Bool) (text : List Char) : Reading Value :=
  match words.findSome? fun word => (afterWord? word.1 text).map (word.2, ·) with
  | some found => .ok found
  | none =>
      match constants.findSome? fun word => (afterWord? word.1 text).map (word, ·) with
      | some (word, rest) =>
          if lenient then .ok (.float word.2, rest) else .error ⟨.refusedConstant word.1, text⟩
      | none => readNumber text

/-! ## Values -/

mutual

/-- Read a value at the start of a text. -/
def readValue (lenient : Bool) : Nat → List Char → Reading Value
  | 0, text => .error ⟨.expectingValue, text⟩
  | turns + 1, text =>
      match text with
      | '"' :: rest => (readString rest).andThen fun content rest => .ok (.str content, rest)
      | '[' :: rest =>
          match skipSpace rest with
          | ']' :: after => .ok (.arr [], after)
          | start =>
              (readItems lenient turns start).andThen fun items rest => .ok (.arr items, rest)
      | '\x7b' :: rest =>
          match skipSpace rest with
          | '\x7d' :: after => .ok (.obj [], after)
          | start =>
              (readMembers lenient turns start).andThen fun members rest =>
                .ok (.obj (Members.ofPairs members), rest)
      | text => readScalar lenient text

/-- Read the items of an array up to its closing bracket. -/
def readItems (lenient : Bool) : Nat → List Char → Reading (List Value)
  | 0, text => .error ⟨.expectingValue, text⟩
  | turns + 1, text =>
      (readValue lenient turns text).andThen fun item rest =>
        match skipSpace rest with
        | ']' :: after => .ok ([item], after)
        | ',' :: after =>
            (readItems lenient turns (skipSpace after)).andThen fun items rest =>
              .ok (item :: items, rest)
        | rest => .error ⟨.expectingComma, rest⟩

/-- Read the members of an object up to its closing brace. -/
def readMembers (lenient : Bool) : Nat → List Char → Reading (List (String × Value))
  | 0, text => .error ⟨.expectingKey, text⟩
  | turns + 1, text =>
      match text with
      | '"' :: rest =>
          (readString rest).andThen fun key rest =>
            match skipSpace rest with
            | ':' :: after =>
                (readValue lenient turns (skipSpace after)).andThen fun value rest =>
                  match skipSpace rest with
                  | '\x7d' :: after => .ok ([(key, value)], after)
                  | ',' :: after =>
                      (readMembers lenient turns (skipSpace after)).andThen fun members rest =>
                        .ok ((key, value) :: members, rest)
                  | rest => .error ⟨.expectingComma, rest⟩
            | rest => .error ⟨.expectingColon, rest⟩
      | text => .error ⟨.expectingKey, text⟩

end

theorem readValue_string (lenient : Bool) (turns : Nat) (text : List Char) :
    readValue lenient (turns + 1) ('"' :: text) =
      (readString text).andThen fun content rest => .ok (.str content, rest) := by
  rw [readValue]

/-- A text that is neither a string nor an array nor an object is read as a word or a number. -/
theorem readValue_scalar (lenient : Bool) (turns : Nat) {c : Char} (text : List Char)
    (noString : c ≠ '"') (noArray : c ≠ '[') (noObject : c ≠ '\x7b') :
    readValue lenient (turns + 1) (c :: text) = readScalar lenient (c :: text) := by
  rw [readValue]
  all_goals simp_all

/-- Read a text that is one value between blanks. -/
def readDocument (lenient : Bool) (text : List Char) : Except Misread Value :=
  match readValue lenient (2 * text.length + 2) (skipSpace text) with
  | .error misread => .error misread
  | .ok (value, rest) =>
      match skipSpace rest with
      | [] => .ok value
      | rest => .error ⟨.extraData, rest⟩

end Reader

/-- Read decoded text. -/
def readChars (lenient : Bool) (text : List Char) : Except Misreading Value :=
  (Reader.readDocument lenient text).mapError (Misread.locate text)

/-- Read a string, which has no byte order mark. -/
def readText (lenient : Bool) (text : String) : Except Misreading Value :=
  if text.toList.head? = some '\uFEFF' then
    .error (Misread.locate text.toList ⟨.byteOrderMark, text.toList⟩)
  else readChars lenient text.toList

end HttpGauge.Json
