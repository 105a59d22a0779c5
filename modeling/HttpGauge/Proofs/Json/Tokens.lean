import HttpGauge.Proofs.Json.Grammar
import HttpGauge.Proofs.Number.Digits

/-!
# Reading tokens

Strings, numbers and words are read as the grammar denotes them, and blanks are skipped, provided
that what follows a number ends it.  Only an integer of more digits than are converted is not read,
and the reader says so.
-/

namespace HttpGauge.Json

open HttpGauge.Json.Reader HttpGauge.Number HttpGauge.Text

namespace Grammar

/-! ## Blanks and strings -/

theorem isSpace_iff {c : Char} : isSpace c = true ↔ c ∈ [' ', '\t', '\n', '\r'] := by
  simp [isSpace, or_assoc]

/-- Blanks are skipped. -/
theorem Blanks.skipSpace_eq {text rest : List Char} (blanks : Blanks text rest) :
    skipSpace text = skipSpace rest := by
  induction blanks with
  | none text => rfl
  | some blank _ ih =>
      rw [← ih]
      exact List.dropWhile_cons_of_pos (isSpace_iff.mpr blank)

/-- Nothing else is. -/
theorem skipSpace_cons {c : Char} (text : List Char) (solid : isSpace c = false) :
    skipSpace (c :: text) = c :: text :=
  List.dropWhile_cons_of_neg (by simp [solid])

theorem Blanks.length_le {text rest : List Char} (blanks : Blanks text rest) :
    rest.length ≤ text.length := by
  induction blanks with
  | none text => exact Nat.le_refl _
  | some _ _ ih => exact Nat.le_succ_of_le ih

/-- A letter that stands for a character is read as the character. -/
theorem escaped?_of_mem {letter c : Char} (named : (letter, c) ∈ escapes) :
    escaped? letter = some c ∧ letter ≠ 'u' := by
  simp only [escapes, List.mem_cons, Prod.mk.injEq, List.not_mem_nil, or_false] at named
  rcases named with ⟨rfl, rfl⟩ | ⟨rfl, rfl⟩ | ⟨rfl, rfl⟩ | ⟨rfl, rfl⟩ | ⟨rfl, rfl⟩ | ⟨rfl, rfl⟩ |
    ⟨rfl, rfl⟩ | ⟨rfl, rfl⟩ <;> exact ⟨rfl, by decide⟩

theorem Codes.length_lt {text rest : List Char} {codes : List Nat}
    (spelled : Codes text codes rest) : rest.length < text.length := by
  induction spelled with
  | close rest => exact Nat.lt_succ_self _
  | plain _ _ _ _ ih => exact Nat.lt_succ_of_lt ih
  | escape _ _ ih =>
      rw [List.length_cons, List.length_cons]
      omega
  | unit _ _ ih =>
      simp only [List.length_cons]
      omega

theorem readCodes_plain (opening : List Char) {c : Char} (text : List Char) (noQuote : c ≠ '"')
    (noBackslash : c ≠ '\\') (noControl : ' ' ≤ c) :
    readCodes opening (c :: text) = consCode c.toNat (readCodes opening text) := by
  rw [readCodes, if_neg (Char.not_lt.mpr noControl)]
  all_goals simp_all

theorem readCodes_escape (opening : List Char) {letter c : Char} (text : List Char)
    (named : escaped? letter = some c) (noUnit : letter ≠ 'u') :
    readCodes opening ('\\' :: letter :: text) = consCode c.toNat (readCodes opening text) := by
  rw [readCodes, named]
  all_goals simp_all

/-- The codes of a string are read. -/
theorem Codes.readCodes_eq {text rest : List Char} {codes : List Nat} (opening : List Char)
    (spelled : Codes text codes rest) : readCodes opening text = .ok (codes, rest) := by
  induction spelled with
  | close rest => rw [readCodes]
  | plain noQuote noBackslash noControl _ ih =>
      rw [readCodes_plain opening _ noQuote noBackslash noControl, ih]
      rfl
  | escape named _ ih =>
      obtain ⟨stands, noUnit⟩ := escaped?_of_mem named
      rw [readCodes_escape opening _ stands noUnit, ih]
      rfl
  | @unit a b c d unit text rest codes hex more ih =>
      have longer := more.length_lt
      cases text with
      | nil => contradiction
      | cons next later =>
          rw [readCodes, hex, ih]
          rfl

/-- A string is read. -/
theorem Codes.readString_eq {text rest : List Char} {codes : List Nat}
    (spelled : Codes text codes rest) : readString text = .ok (textOf codes, rest) := by
  rw [readString, spelled.readCodes_eq]
  rfl

/-! ## Numbers -/

/-- Digits end where no digit follows. -/
def NoDigit (text : List Char) : Prop :=
  ∀ c, text.head? = some c → c.isDigit = false

/-- A number ends where nothing follows that could be part of one. -/
def Stops (text : List Char) : Prop :=
  ∀ c, text.head? = some c → c.isDigit = false ∧ c ≠ '.' ∧ c ≠ 'e' ∧ c ≠ 'E'

theorem Digits.length_lt {text digits rest : List Char} (found : Digits text digits rest) :
    rest.length < text.length := by
  induction found with
  | last _ rest => exact Nat.lt_succ_self _
  | more _ _ ih => exact Nat.lt_succ_of_lt ih

/-- Digits are digits. -/
theorem Digits.ascii {text digits rest : List Char} (found : Digits text digits rest) :
    ∀ c ∈ digits, c.isDigit = true := by
  induction found with
  | last digit rest => simpa using digit
  | more digit _ ih =>
      intro c member
      rcases List.mem_cons.mp member with same | later
      · rw [same]
        exact digit
      · exact ih c later

/-- There is a first digit. -/
theorem Digits.head {text digits rest : List Char} (found : Digits text digits rest) :
    ∃ first later, digits = first :: later ∧ text.head? = some first := by
  cases found with
  | last digit rest => exact ⟨_, [], rfl, rfl⟩
  | more digit found => exact ⟨_, _, rfl, rfl⟩

/-- Digits are spanned. -/
theorem Digits.spanDigits_eq {text digits rest : List Char} (found : Digits text digits rest)
    (ends : NoDigit rest) : spanDigits text = (digits, rest) := by
  induction found with
  | last digit rest =>
      rw [spanDigits, List.takeWhile_cons_of_pos digit, List.dropWhile_cons_of_pos digit]
      cases rest with
      | nil => rfl
      | cons next later =>
          have solid : ¬ next.isDigit = true := by simp [ends next rfl]
          rw [List.takeWhile_cons_of_neg solid, List.dropWhile_cons_of_neg solid]
  | more digit _ ih =>
      obtain ⟨taken, dropped⟩ := Prod.mk.inj (ih ends)
      rw [spanDigits, List.takeWhile_cons_of_pos digit, List.dropWhile_cons_of_pos digit, taken,
        dropped]

/-- A fraction ends where neither a digit nor a point follows. -/
def NoFraction (text : List Char) : Prop :=
  ∀ c, text.head? = some c → c.isDigit = false ∧ c ≠ '.'

theorem NoFraction.noDigit {text : List Char} (ends : NoFraction text) : NoDigit text :=
  fun c head => (ends c head).1

theorem Stops.noDigit {text : List Char} (stops : Stops text) : NoDigit text :=
  fun c head => (stops c head).1

/-- The whole part is read. -/
theorem Whole.readWhole_eq {text digits rest : List Char} (whole : Whole text digits rest)
    (ends : NoDigit rest) : readWhole text = some (digits, rest) := by
  cases whole with
  | zero rest => rfl
  | digits nonzero found =>
      obtain ⟨first, later, same, head⟩ := found.head
      have spanned := found.spanDigits_eq ends
      rw [readWhole, spanned, same]
      rintro tail rfl
      exact nonzero rfl

/-- A fraction, or its absence, is read. -/
theorem Fraction.readFraction_eq {text rest : List Char} {fraction : Option (List Char)}
    (fractional : Fraction text fraction rest) (ends : NoFraction rest) :
    readFraction text = fraction.map (·, rest) := by
  cases fractional with
  | none text =>
      rw [readFraction]
      · rfl
      · rintro tail rfl
        exact (ends '.' rfl).2 rfl
  | some found =>
      obtain ⟨first, later, same, -⟩ := found.head
      rw [readFraction, found.spanDigits_eq ends.noDigit, same]
      rfl

theorem Fraction.noDigit {text rest : List Char} {fraction : Option (List Char)}
    (fractional : Fraction text fraction rest) (ends : NoFraction rest) : NoDigit text := by
  cases fractional with
  | none text => exact ends.noDigit
  | some found =>
      intro c head
      cases head
      decide

/-- A sign, or its absence before a digit, is split off. -/
theorem Sign.splitSign_eq {text unsigned digits rest : List Char} {negative : Bool}
    (sign : Sign text negative unsigned) (found : Digits unsigned digits rest) :
    splitSign text = (negative, unsigned) := by
  cases sign with
  | plus unsigned => rfl
  | minus unsigned => rfl
  | none text =>
      obtain ⟨first, later, same, head⟩ := found.head
      have digit := found.ascii first (by simp [same])
      rw [splitSign]
      · rintro tail rfl
        cases head
        contradiction
      · rintro tail rfl
        cases head
        contradiction

/-- An exponent, or its absence, is read. -/
theorem Exponent.readExponent_eq {text rest : List Char} {exponent : Option Int}
    (scaled : Exponent text exponent rest) (stops : Stops rest) :
    readExponent text = exponent.map (·, rest) := by
  cases scaled with
  | none text =>
      cases text with
      | nil => rfl
      | cons c later =>
          obtain ⟨-, -, notLower, notUpper⟩ := stops c rfl
          simp [readExponent, notLower, notUpper]
  | some marked sign found =>
      obtain ⟨first, later, same, -⟩ := found.head
      have letter := marked
      rw [List.mem_cons, List.mem_singleton] at letter
      simp only [readExponent, sign.splitSign_eq found, found.spanDigits_eq stops.noDigit, same]
      simp [letter]

theorem Exponent.noFraction {text rest : List Char} {exponent : Option Int}
    (scaled : Exponent text exponent rest) (stops : Stops rest) : NoFraction text := by
  cases scaled with
  | none text => exact fun c head => ⟨(stops c head).1, (stops c head).2.1⟩
  | some marked sign found =>
      rintro c head
      cases head
      rw [List.mem_cons, List.mem_singleton] at marked
      rcases marked with rfl | rfl <;> decide

/-- A whole part starts with a digit. -/
theorem Whole.head {text digits rest : List Char} (whole : Whole text digits rest) :
    ∃ first later, text = first :: later ∧ first.isDigit = true := by
  cases whole with
  | zero rest => exact ⟨'0', _, rfl, rfl⟩
  | digits nonzero found =>
      cases found with
      | last digit rest => exact ⟨_, _, rfl, digit⟩
      | more digit found => exact ⟨_, _, rfl, digit⟩

/-- The sign of a number is recognised. -/
theorem head?_withMinus {negative : Bool} {text digits rest : List Char}
    (whole : Whole text digits rest) :
    (withMinus negative text).head? = some '-' ↔ negative = true := by
  obtain ⟨first, later, rfl, digit⟩ := whole.head
  cases negative with
  | true => exact iff_of_true rfl rfl
  | false =>
      have noMinus : first ≠ '-' := by
        rintro rfl
        contradiction
      simp [withMinus, noMinus]

/-- The sign of a number is taken off. -/
theorem drop_withMinus (negative : Bool) (text : List Char) :
    (if negative = true then (withMinus negative text).drop 1 else withMinus negative text) =
      text := by
  cases negative <;> rfl

/-- The digits of an integer tell whether it is too long. -/
theorem Whole.exceedsLimit_eq {text digits rest : List Char} (negative : Bool)
    (whole : Whole text digits rest) :
    exceedsLimit (withSign negative (digitsValue digits)) =
      decide (digitLimit < digits.length) := by
  cases whole with
  | zero rest =>
      cases negative <;> rfl
  | digits nonzero found =>
      obtain ⟨first, later, rfl, head⟩ := found.head
      apply exceedsLimit_withSign negative found.ascii
      rintro rfl
      exact nonzero head

/-- The parts of a number are found one after another. -/
theorem readNumber_withMinus (negative : Bool)
    {text digits afterWhole afterFraction rest : List Char} {fraction : Option (List Char)}
    {exponent : Option Int} (whole : Whole text digits afterWhole)
    (fractional : Fraction afterWhole fraction afterFraction)
    (scaled : Exponent afterFraction exponent rest) (stops : Stops rest) :
    readNumber (withMinus negative text) =
      if fraction.isNone && exponent.isNone then
        if digitLimit < digits.length then
          .error ⟨.integerTooLong digits.length, withMinus negative text⟩
        else .ok (.int (withSign negative (digitsValue digits)), rest)
      else
        .ok (.float (Binary64.ofDecimal negative (digitsValue (digits ++ fraction.getD []))
          (exponent.getD 0 - (fraction.getD []).length)), rest) := by
  have noFraction := scaled.noFraction stops
  have behindFraction : ((fraction.map (·, afterFraction)).map (·.2)).getD afterWhole =
      afterFraction := by
    cases fractional <;> rfl
  have behindExponent : ((exponent.map (·, rest)).map (·.2)).getD afterFraction = rest := by
    cases scaled <;> rfl
  simp only [readNumber, head?_withMinus whole, drop_withMinus,
    whole.readWhole_eq (fractional.noDigit noFraction), fractional.readFraction_eq noFraction,
    behindFraction, scaled.readExponent_eq stops, behindExponent]
  cases fraction <;> cases exponent <;> simp

/-- What a reading amounts to: the result and the rest, unless the text holds an integer that is
too long. -/
def Reads {α : Type} (long : Bool) (result : α) (rest : List Char) (reading : Reading α) : Prop :=
  if long then ∃ digits remaining, reading = .error ⟨.integerTooLong digits, remaining⟩
  else reading = .ok (result, rest)

/-- A number is read, unless it is an integer that is too long. -/
theorem Number.reads {text rest : List Char} {value : Value} (number : Number text value rest)
    (stops : Stops rest) : Reads value.hasLongInt value rest (readNumber text) := by
  cases number with
  | @int negative text digits rest whole =>
      rw [readNumber_withMinus negative whole (.none rest) (.none rest) stops, Value.hasLongInt,
        whole.exceedsLimit_eq negative]
      by_cases long : digitLimit < digits.length
      · rw [decide_eq_true long, if_pos long]
        exact ⟨_, _, rfl⟩
      · rw [decide_eq_false long, if_neg long]
        rfl
  | float negative whole fractional scaled inexact =>
      rw [readNumber_withMinus negative whole fractional scaled stops, if_neg]
      · rfl
      · rw [Bool.and_eq_true, Option.isNone_iff_eq_none, Option.isNone_iff_eq_none]
        rintro ⟨noFraction, noExponent⟩
        rcases inexact with hasFraction | hasExponent
        · exact hasFraction noFraction
        · exact hasExponent noExponent

/-! ## Words -/

/-- A text does not start with a word whose beginning differs. -/
theorem afterWord?_eq_none {word : String} (start : List Char) {letters : List Char}
    {letter c : Char} (text : List Char) (spelled : word.toList = start ++ letter :: letters)
    (differ : letter ≠ c) : afterWord? word (start ++ c :: text) = none := by
  rw [afterWord?, spelled, if_neg]
  rw [List.isPrefixOf_iff_prefix, List.prefix_append_right_inj, List.cons_prefix_cons]
  rintro ⟨same, -⟩
  exact differ same

/-- A digit differs from every character that is none. -/
theorem ne_of_isDigit {c other : Char} (digit : c.isDigit = true)
    (noDigit : other.isDigit = false) : c ≠ other := by
  rintro rfl
  rw [digit] at noDigit
  contradiction

/-- No word starts with a digit, with or without a sign, so that a number is read as one. -/
theorem readScalar_withMinus (lenient negative : Bool) {first : Char} (later : List Char)
    (digit : first.isDigit = true) :
    readScalar lenient (withMinus negative (first :: later)) =
      readNumber (withMinus negative (first :: later)) := by
  have noWord : ∀ word ∈ ["null", "true", "false", "NaN", "Infinity", "-Infinity"],
      afterWord? word (withMinus negative (first :: later)) = none := by
    intro word member
    simp only [List.mem_cons, List.not_mem_nil, or_false] at member
    cases negative with
    | true =>
        -- The minus sign is the beginning of the last word and of no other.
        rcases member with rfl | rfl | rfl | rfl | rfl | rfl
        case inr.inr.inr.inr.inr =>
          exact afterWord?_eq_none ['-'] later rfl (ne_of_isDigit digit rfl).symm
        all_goals exact afterWord?_eq_none [] (first :: later) rfl (by decide)
    | false =>
        rcases member with rfl | rfl | rfl | rfl | rfl | rfl <;>
          exact afterWord?_eq_none [] later rfl (ne_of_isDigit digit rfl).symm
  have noValue : Reader.words.findSome? (fun word =>
      (afterWord? word.1 (withMinus negative (first :: later))).map (word.2, ·)) = none := by
    simp [Reader.words, noWord]
  have noConstant : constants.findSome? (fun word =>
      (afterWord? word.1 (withMinus negative (first :: later))).map (word, ·)) = none := by
    simp [constants, noWord]
  rw [readScalar, noValue, noConstant]

end Grammar

end HttpGauge.Json
