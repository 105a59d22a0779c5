import HttpGauge.Json.Reader

/-!
# The grammar of JSON

What a JSON text is, stated without a reader.  Each relation holds of a text, of what its beginning
denotes, and of the rest of the text behind that beginning.  A value is denoted as it is written:
an object lists all of its members, also those whose key occurs again; `Value.merged` is the value
that remains when later members replace earlier ones.
-/

namespace HttpGauge.Json

open HttpGauge.Number HttpGauge.Text

/-! ## Merged values -/

mutual

/-- The value with one member for each key, the last one. -/
def Value.merged : Value → Value
  | .arr items => .arr (Value.mergedItems items)
  | .obj members => .obj (Members.ofPairs (Value.mergedMembers members))
  | value => value

/-- The same of each item. -/
def Value.mergedItems : List Value → List Value
  | [] => []
  | item :: rest => item.merged :: Value.mergedItems rest

/-- The same of each member. -/
def Value.mergedMembers : List (String × Value) → List (String × Value)
  | [] => []
  | (key, value) :: rest => (key, value.merged) :: Value.mergedMembers rest

end

namespace Grammar

/-! ## Tokens -/

/-- Blanks between tokens. -/
inductive Blanks : List Char → List Char → Prop where
  /-- There need not be any. -/
  | none (text : List Char) : Blanks text text
  /-- Spaces, tabs and both kinds of line ends. -/
  | some {c : Char} {text rest : List Char} (blank : c ∈ [' ', '\t', '\n', '\r'])
      (more : Blanks text rest) : Blanks (c :: text) rest

/-- The letters that stand for a character after a backslash. -/
def escapes : List (Char × Char) :=
  [('"', '"'), ('\\', '\\'), ('/', '/'), ('b', '\x08'), ('f', '\x0c'), ('n', '\n'), ('r', '\r'),
    ('t', '\t')]

/-- The characters of a string up to its closing quote, and the codes that they denote: code points
of plain characters and code units of escapes. -/
inductive Codes : List Char → List Nat → List Char → Prop where
  | close (rest : List Char) : Codes ('"' :: rest) [] rest
  | plain {c : Char} {text rest : List Char} {codes : List Nat} (noQuote : c ≠ '"')
      (noBackslash : c ≠ '\\') (noControl : ' ' ≤ c) (more : Codes text codes rest) :
      Codes (c :: text) (c.toNat :: codes) rest
  /-- A letter that stands for a character. -/
  | escape {letter c : Char} {text rest : List Char} {codes : List Nat}
      (named : (letter, c) ∈ escapes) (more : Codes text codes rest) :
      Codes ('\\' :: letter :: text) (c.toNat :: codes) rest
  /-- Four hexadecimal digits that stand for a code unit. -/
  | unit {a b c d : Char} {unit : Nat} {text rest : List Char} {codes : List Nat}
      (hex : readHex [a, b, c, d] = some unit) (more : Codes text codes rest) :
      Codes ('\\' :: 'u' :: a :: b :: c :: d :: text) (unit :: codes) rest

/-- The text that codes denote. -/
def textOf (codes : List Nat) : String :=
  String.ofList (charsOfUnits16 codes)

/-- At least one digit. -/
inductive Digits : List Char → List Char → List Char → Prop where
  | last {c : Char} (digit : c.isDigit = true) (rest : List Char) : Digits (c :: rest) [c] rest
  | more {c : Char} {text digits rest : List Char} (digit : c.isDigit = true)
      (more : Digits text digits rest) : Digits (c :: text) (c :: digits) rest

/-- The whole part of a number: a zero, or digits of which the first is none. -/
inductive Whole : List Char → List Char → List Char → Prop where
  | zero (rest : List Char) : Whole ('0' :: rest) ['0'] rest
  | digits {text digits rest : List Char} (nonzero : text.head? ≠ Option.some '0')
      (found : Digits text digits rest) : Whole text digits rest

/-- The fraction of a number, if it has one. -/
inductive Fraction : List Char → Option (List Char) → List Char → Prop where
  | none (text : List Char) : Fraction text Option.none text
  | some {text digits rest : List Char} (found : Digits text digits rest) :
      Fraction ('.' :: text) (Option.some digits) rest

/-- The sign of an exponent, if it has one. -/
inductive Sign : List Char → Bool → List Char → Prop where
  | none (text : List Char) : Sign text false text
  | plus (rest : List Char) : Sign ('+' :: rest) false rest
  | minus (rest : List Char) : Sign ('-' :: rest) true rest

/-- The exponent of a number, if it has one. -/
inductive Exponent : List Char → Option Int → List Char → Prop where
  | none (text : List Char) : Exponent text Option.none text
  /-- A letter, perhaps a sign, and digits. -/
  | some {letter : Char} {text unsigned digits rest : List Char} {negative : Bool}
      (marked : letter ∈ ['e', 'E']) (sign : Sign text negative unsigned)
      (found : Digits unsigned digits rest) :
      Exponent (letter :: text) (Option.some (withSign negative (Reader.digitsValue digits))) rest

/-- A text behind a minus sign, if there is one. -/
def withMinus (negative : Bool) (text : List Char) : List Char :=
  if negative then '-' :: text else text

/-- Numbers: integers, and doubles where there is a fraction or an exponent. -/
inductive Number : List Char → Value → List Char → Prop where
  | int (negative : Bool) {text digits rest : List Char} (whole : Whole text digits rest) :
      Number (withMinus negative text) (.int (withSign negative (Reader.digitsValue digits))) rest
  | float (negative : Bool) {text digits afterWhole afterFraction rest : List Char}
      {fraction : Option (List Char)} {exponent : Option Int}
      (whole : Whole text digits afterWhole)
      (fractional : Fraction afterWhole fraction afterFraction)
      (scaled : Exponent afterFraction exponent rest)
      (inexact : fraction ≠ Option.none ∨ exponent ≠ Option.none) :
      Number (withMinus negative text)
        (.float (Binary64.ofDecimal negative (Reader.digitsValue (digits ++ fraction.getD []))
          (exponent.getD 0 - (fraction.getD []).length))) rest

/-! ## Values -/

/-- The words that denote values. -/
def words : List (String × Value) :=
  [("null", .null), ("true", .bool true), ("false", .bool false)]

/-- What may be denoted. -/
inductive Part where
  | value
  /-- The items of an array up to its closing bracket, as the array. -/
  | items
  /-- The members of an object up to its closing brace, as the object. -/
  | members
  deriving DecidableEq, Repr

/-- What a text denotes. -/
inductive Denotes : Part → List Char → Value → List Char → Prop where
  | word {word : String} {value : Value} (named : (word, value) ∈ words) (rest : List Char) :
      Denotes .value (word.toList ++ rest) value rest
  | number {text rest : List Char} {value : Value} (number : Number text value rest) :
      Denotes .value text value rest
  | string {text rest : List Char} {codes : List Nat} (spelled : Codes text codes rest) :
      Denotes .value ('"' :: text) (.str (textOf codes)) rest
  | emptyArray {text rest : List Char} (inside : Blanks text (']' :: rest)) :
      Denotes .value ('[' :: text) (.arr []) rest
  | array {text start rest : List Char} {items : List Value} (inside : Blanks text start)
      (denoted : Denotes .items start (.arr items) rest) :
      Denotes .value ('[' :: text) (.arr items) rest
  | emptyObject {text rest : List Char} (inside : Blanks text ('\x7d' :: rest)) :
      Denotes .value ('\x7b' :: text) (.obj []) rest
  | object {text start rest : List Char} {members : List (String × Value)}
      (inside : Blanks text start) (denoted : Denotes .members start (.obj members) rest) :
      Denotes .value ('\x7b' :: text) (.obj members) rest
  | lastItem {text after rest : List Char} {item : Value} (denoted : Denotes .value text item after)
      (behind : Blanks after (']' :: rest)) : Denotes .items text (.arr [item]) rest
  | item {text after comma next rest : List Char} {item : Value} {items : List Value}
      (denoted : Denotes .value text item after) (behind : Blanks after (',' :: comma))
      (ahead : Blanks comma next) (more : Denotes .items next (.arr items) rest) :
      Denotes .items text (.arr (item :: items)) rest
  | lastMember {text afterKey colon start after rest : List Char} {codes : List Nat}
      {value : Value} (key : Codes text codes afterKey) (behindKey : Blanks afterKey (':' :: colon))
      (aheadOfValue : Blanks colon start) (denoted : Denotes .value start value after)
      (behind : Blanks after ('\x7d' :: rest)) :
      Denotes .members ('"' :: text) (.obj [(textOf codes, value)]) rest
  | member {text afterKey colon start after comma next rest : List Char} {codes : List Nat}
      {value : Value} {members : List (String × Value)}
      (key : Codes text codes afterKey) (behindKey : Blanks afterKey (':' :: colon))
      (aheadOfValue : Blanks colon start) (denoted : Denotes .value start value after)
      (behind : Blanks after (',' :: comma)) (ahead : Blanks comma next)
      (more : Denotes .members next (.obj members) rest) :
      Denotes .members ('"' :: text) (.obj ((textOf codes, value) :: members)) rest

/-- A JSON text is one value between blanks. -/
inductive Document : List Char → Value → Prop where
  /-- The value as it is written. -/
  | mk {text start after : List Char} {value : Value} (ahead : Blanks text start)
      (denoted : Denotes .value start value after) (behind : Blanks after []) : Document text value

end Grammar

end HttpGauge.Json
