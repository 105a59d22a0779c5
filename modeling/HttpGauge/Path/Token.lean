import HttpGauge.Number.Numeral
import HttpGauge.Number.Rounding

/-!
# Tokens of path expressions

A name may hold hyphens, a quoted string is a name too, and a name between backquotes is that of an
operator.  A sign belongs to the number that follows it at once.  A slash in either direction, also
after a comma, introduces a key to sort by, so it never divides.
-/

namespace HttpGauge.Path

open HttpGauge.Number HttpGauge.Text

/-- How a value is compared. -/
inductive Comparison where
  | equal
  | notEqual
  | less
  | atMost
  | greater
  | atLeast
  | matching
  deriving DecidableEq, Repr

/-- A token. -/
inductive Token where
  | name (text : String)
  /-- The word that keeps only some nodes. -/
  | whereWord
  | number (n : Int)
  | decimal (x : Binary64)
  | truth (value : Bool)
  | operator (text : List Char)
  /-- The start of a key to sort by. -/
  | sortKey (descending : Bool)
  | comparison (comparison : Comparison)
  | descend
  | symbol (c : Char)
  deriving DecidableEq

namespace Token

/-! ## Names and words -/

/-- An ASCII letter or an underscore. -/
def isNameStart (c : Char) : Bool :=
  ('a' ≤ c && c ≤ 'z') || ('A' ≤ c && c ≤ 'Z') || c = '_'

/-- A character that a name goes on with. -/
def isNamePart (c : Char) : Bool :=
  isNameStart c || ('0' ≤ c && c ≤ '9') || c = '@' || c = '-'

/-- The token of a bare name. -/
def ofName (text : List Char) : Token :=
  if text = ['w', 'h', 'e', 'r', 'e'] then .whereWord else .name (String.ofList text)

/-- The bare name at the start of a text. -/
def name? (text : List Char) : Option (Token × List Char) :=
  let marked := match text with
    | '@' :: rest => (['@'], rest)
    | _ => ([], text)
  match marked.2 with
  | [] => none
  | c :: rest =>
      if isNameStart c then
        some (ofName (marked.1 ++ c :: rest.takeWhile isNamePart), rest.dropWhile isNamePart)
      else none

/-- The truth value at the start of a text; what follows it need not be a new word. -/
def truth? (text : List Char) : Option (Token × List Char) :=
  match text with
  | 't' :: 'r' :: 'u' :: 'e' :: rest => some (.truth true, rest)
  | 'f' :: 'a' :: 'l' :: 's' :: 'e' :: rest => some (.truth false, rest)
  | _ => none

/-! ## Numbers -/

/-- The values of the digits at the start of a text, with what follows. -/
def digits (text : List Char) : List Nat × List Char :=
  ((text.takeWhile isDecimalDigit).filterMap digitValue?, text.dropWhile isDecimalDigit)

/-- A number at the start of a text. -/
inductive Numeric where
  | absent
  /-- There is one of too many digits. -/
  | tooLong
  | found (token : Token) (rest : List Char)

/-- The number at the start of a text: one with a fraction rather than one without. -/
def numeric (text : List Char) : Numeric :=
  let negative := text.head? == some '-'
  let whole := digits (if negative then text.drop 1 else text)
  if whole.1.isEmpty then .absent
  else
    let fraction := match whole.2 with
      | '.' :: rest => digits rest
      | _ => ([], [])
    if !fraction.1.isEmpty then
      .found (.decimal (Binary64.ofDecimal negative (ofDigits (whole.1 ++ fraction.1))
        (-(fraction.1.length : Int)))) fraction.2
    else if digitLimit < whole.1.length then .tooLong
    else .found (.number (withSign negative (ofDigits whole.1))) whole.2

/-! ## Strings -/

/-- The text up to a closing quote; a backslash takes the next character as it is. -/
def quoted (quote : Char) : List Char → Option (List Char × List Char)
  | [] => none
  | '\\' :: c :: rest =>
      if c = '\n' then none else (quoted quote rest).map fun found => (c :: found.1, found.2)
  | c :: rest =>
      if c = quote then some ([], rest)
      else if c = '\\' then none
      else (quoted quote rest).map fun found => (c :: found.1, found.2)

/-! ## Signs -/

/-- The comparison at the start of a text, the longest that fits. -/
def comparison? : List Char → Option (Token × List Char)
  | '=' :: '~' :: rest => some (.comparison .matching, rest)
  | '=' :: '=' :: rest => some (.comparison .equal, rest)
  | '=' :: rest => some (.comparison .equal, rest)
  | '<' :: '=' :: rest => some (.comparison .atMost, rest)
  | '>' :: '=' :: rest => some (.comparison .atLeast, rest)
  | '!' :: '=' :: rest => some (.comparison .notEqual, rest)
  | '<' :: rest => some (.comparison .less, rest)
  | '>' :: rest => some (.comparison .greater, rest)
  | _ => none

/-- The start of a sort key at the start of a text: a comma may precede it, and blanks. -/
def sortKey? (text : List Char) : Option (Token × List Char) :=
  let separated := match text with
    | ',' :: rest => rest
    | _ => text
  match separated.dropWhile isBlank with
  | '/' :: rest => some (.sortKey false, rest)
  | '\\' :: rest => some (.sortKey true, rest)
  | _ => none

/-- The characters that stand for themselves. -/
def symbols : List Char :=
  ['*', '.', '[', ']', '(', ')', '$', ',', ':', '|', '&', '~', '?', '@', '+', '-', '!']

/-- The sign at the start of a text. -/
def sign? : List Char → Option (Token × List Char)
  | '.' :: '.' :: rest => some (.descend, rest)
  | c :: rest => if c ∈ symbols then some (.symbol c, rest) else none
  | [] => none

/-! ## Texts -/

/-- The token at the start of a text that starts with no blank. -/
def next? (text : List Char) : Option (Token × List Char) :=
  (truth? text).or <| (sortKey? text).or <| (name? text).or <|
    match numeric text with
    | .found token rest => some (token, rest)
    | .tooLong => none
    | .absent =>
        match text with
        | '\'' :: rest => (quoted '\'' rest).map fun found =>
            (.name (String.ofList found.1), found.2)
        | '"' :: rest => (quoted '"' rest).map fun found =>
            (.name (String.ofList found.1), found.2)
        | '\x60' :: rest => (quoted '\x60' rest).map fun found => (.operator found.1, found.2)
        | _ => (comparison? text).or (sign? text)

/-- The tokens of a text, in at most the given number of steps. -/
def readWithin : Nat → List Char → Option (List Token)
  | _, [] => some []
  | 0, _ :: _ => none
  | fuel + 1, c :: rest =>
      if c = ' ' || c = '\t' then readWithin fuel rest
      else
        match next? (c :: rest) with
        | some (token, rest) => (readWithin fuel rest).map (token :: ·)
        | none => if c = '\n' then readWithin fuel rest else none

/-- The tokens of a text. -/
def read (text : List Char) : Option (List Token) :=
  readWithin text.length text

end Token

end HttpGauge.Path
