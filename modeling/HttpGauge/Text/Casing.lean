import HttpGauge.Text.CaseTable

/-!
# Upper, lower and title case

Case mapping of whole texts.  A character may map to several characters, and the capital sigma
lowers to a final sigma at the end of a word.  `capitalize` writes the first character in title
case and lowers the rest.
-/

namespace HttpGauge.Text

/-! ## Single characters -/

/-- The upper case of a character. -/
def upperChar (c : Char) : List Char :=
  if c.toNat < 0x80 then [c.toUpper]
  else (upperTable.map? c).getD [c]

/-- The lower case of a character, apart from its place in a word. -/
def lowerChar (c : Char) : List Char :=
  if c.toNat < 0x80 then [c.toLower]
  else (lowerTable.map? c).getD [c]

/-- The title case of a character. -/
def titleChar (c : Char) : List Char :=
  if c.toNat < 0x80 then [c.toUpper]
  else (titleTable.map? c).getD (upperChar c)

theorem lowerChar_ascii {c : Char} (ascii : c.toNat < 0x80) : lowerChar c = [c.toLower] := by
  simp [lowerChar, ascii]

theorem titleChar_ascii {c : Char} (ascii : c.toNat < 0x80) : titleChar c = [c.toUpper] := by
  simp [titleChar, ascii]

/-! ## Words -/

/-- The first character that is not ignorable, if there is one, is cased. -/
def meetsCased (text : List Char) : Bool :=
  match text.dropWhile (CodeRange.covers caseIgnorableRanges) with
  | [] => false
  | c :: _ => CodeRange.covers casedRanges c

/-- The capital sigma, whose lower case depends on its place. -/
def capitalSigma : Char := 'Σ'

/-- Lower a text whose preceding characters, nearest first, are given: a capital sigma after a
cased character and before none is final. -/
def lowerAfter : List Char → List Char → List Char
  | _, [] => []
  | before, c :: rest =>
      let image :=
        if c = capitalSigma then
          if meetsCased before && !meetsCased rest then ['ς'] else ['σ']
        else lowerChar c
      image ++ lowerAfter (c :: before) rest

/-! ## Texts -/

/-- The upper case of a text. -/
def upperChars (text : List Char) : List Char :=
  text.flatMap upperChar

/-- The lower case of a text. -/
def lowerChars (text : List Char) : List Char :=
  lowerAfter [] text

/-- The first character in title case, the others in lower case. -/
def capitalizeChars : List Char → List Char
  | [] => []
  | c :: rest => titleChar c ++ lowerAfter [c] rest

/-- The upper case of a string. -/
def upper (text : String) : String :=
  String.ofList (upperChars text.toList)

/-- The lower case of a string. -/
def lower (text : String) : String :=
  String.ofList (lowerChars text.toList)

/-- An ASCII text is lowered character by character, whatever precedes it. -/
theorem lowerAfter_ascii (before : List Char) {text : List Char}
    (ascii : ∀ c ∈ text, c.toNat < 0x80) : lowerAfter before text = text.map Char.toLower := by
  induction text generalizing before with
  | nil => rfl
  | cons c rest ih =>
      have head : c.toNat < 0x80 := ascii c (by simp)
      have notSigma : c ≠ capitalSigma := by
        rintro rfl
        exact absurd head (by decide)
      have tail := ih (c :: before) fun d mem => ascii d (by simp [mem])
      simp [lowerAfter, notSigma, lowerChar_ascii head, tail]

end HttpGauge.Text
