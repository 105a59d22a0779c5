import HttpGauge.Text.CodeRange

/-!
# Blank characters

The characters that surround a text without being part of it: the white space of Unicode and the
four information separators, and their removal at both ends.
-/

namespace HttpGauge.Text

/-- The intervals of white space. -/
def whiteRanges : List CodeRange :=
  [(0x9, 0xd), (0x20, 0x20), (0x85, 0x85), (0xa0, 0xa0), (0x1680, 0x1680), (0x2000, 0x200a),
    (0x2028, 0x2029), (0x202f, 0x202f), (0x205f, 0x205f), (0x3000, 0x3000)]

/-- White space; the zero-width space is none. -/
def isWhite (c : Char) : Bool :=
  CodeRange.covers whiteRanges c

/-- White space and the separators of files, groups, records and units. -/
def isBlank (c : Char) : Bool :=
  isWhite c || (0x1c ≤ c.toNat && c.toNat ≤ 0x1f)

/-- Remove the characters of a class from both ends. -/
def trimBy (drop : Char → Bool) (text : List Char) : List Char :=
  ((text.dropWhile drop).reverse.dropWhile drop).reverse

/-- Remove white space from both ends. -/
def trimWhite (text : List Char) : List Char :=
  trimBy isWhite text

/-- Remove blank characters from both ends. -/
def trimBlank (text : List Char) : List Char :=
  trimBy isBlank text

end HttpGauge.Text
