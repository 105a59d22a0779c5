import HttpGauge.Proofs.Json.Tokens

/-!
# The characters of JSON texts

A JSON text is made of strings and, outside of them, of few characters: blanks, brackets, the
characters of numbers and the letters of the three words.  What stands outside of strings is found
without knowing more of a text than its quotes and backslashes.
-/

namespace HttpGauge.Json.Grammar

open HttpGauge.Text

/-! ## What stands outside of strings -/

mutual

/-- The characters outside of strings. -/
def outside : List Char → List Char
  | [] => []
  | c :: rest => if c = '"' then afterString rest else c :: outside rest

/-- The same behind the opening quote of a string. -/
def afterString : List Char → List Char
  | [] => []
  | '\\' :: _ :: rest => afterString rest
  | c :: rest => if c = '"' then outside rest else afterString rest

end

theorem outside_cons {c : Char} (noQuote : c ≠ '"') (rest : List Char) :
    outside (c :: rest) = c :: outside rest := by
  rw [outside, if_neg noQuote]

theorem afterString_cons {c : Char} (noQuote : c ≠ '"') (noBackslash : c ≠ '\\')
    (rest : List Char) : afterString (c :: rest) = afterString rest := by
  rw [afterString, if_neg noQuote]
  rintro escaped later rfl
  exact absurd rfl noBackslash

theorem afterString_escape (escaped : Char) (rest : List Char) :
    afterString ('\\' :: escaped :: rest) = afterString rest := by
  rw [afterString]

/-- What has no value as a hexadecimal digit is in no escaped unit. -/
theorem notMem_of_readHex {a b c d other : Char} {unit : Nat}
    (hex : readHex [a, b, c, d] = some unit) (noDigit : hexValue? other = none) :
    other ∉ [a, b, c, d] := by
  intro member
  simp only [List.mem_cons, List.not_mem_nil, or_false] at member
  rcases member with rfl | rfl | rfl | rfl <;> simp [readHex, noDigit] at hex

/-- A string is passed over. -/
theorem Codes.afterString_eq {text rest : List Char} {codes : List Nat}
    (spelled : Codes text codes rest) : afterString text = outside rest := by
  induction spelled with
  | close rest =>
      rw [afterString, if_pos rfl]
      nofun
  | plain noQuote noBackslash _ _ ih => rw [afterString_cons noQuote noBackslash, ih]
  | escape _ _ ih => rw [afterString_escape, ih]
  | unit hex _ ih =>
      have noQuote := notMem_of_readHex hex (rfl : hexValue? '"' = none)
      have noBackslash := notMem_of_readHex hex (rfl : hexValue? '\\' = none)
      simp only [List.mem_cons, List.not_mem_nil, or_false, not_or] at noQuote noBackslash
      obtain ⟨quoteA, quoteB, quoteC, quoteD⟩ := noQuote
      obtain ⟨backA, backB, backC, backD⟩ := noBackslash
      rw [afterString_escape, afterString_cons (Ne.symm quoteA) (Ne.symm backA),
        afterString_cons (Ne.symm quoteB) (Ne.symm backB),
        afterString_cons (Ne.symm quoteC) (Ne.symm backC),
        afterString_cons (Ne.symm quoteD) (Ne.symm backD), ih]

/-! ## Marks and strings -/

/-- A text is made of strings and of some characters, up to its rest. -/
inductive Lexes (isMark : Char → Bool) : List Char → List Char → Prop where
  | none (text : List Char) : Lexes isMark text text
  | mark {c : Char} {text rest : List Char} (mark : isMark c = true)
      (more : Lexes isMark text rest) : Lexes isMark (c :: text) rest
  | string {text after rest : List Char} {codes : List Nat} (spelled : Codes text codes after)
      (more : Lexes isMark after rest) : Lexes isMark ('"' :: text) rest

section Lexes

variable {isMark other : Char → Bool} {text middle rest : List Char}

theorem Lexes.trans (first : Lexes isMark text middle) (second : Lexes isMark middle rest) :
    Lexes isMark text rest := by
  induction first with
  | none => exact second
  | mark mark _ ih => exact .mark mark (ih second)
  | string spelled _ ih => exact .string spelled (ih second)

theorem Lexes.append {letters : List Char} (marks : ∀ c ∈ letters, isMark c = true)
    (more : Lexes isMark text rest) : Lexes isMark (letters ++ text) rest := by
  induction letters with
  | nil => exact more
  | cons c later ih =>
      obtain ⟨first, rest⟩ := List.forall_mem_cons.mp marks
      exact .mark first (ih rest)

/-- More characters may be admitted. -/
theorem Lexes.mono (wider : ∀ c, isMark c = true → other c = true)
    (lexes : Lexes isMark text rest) : Lexes other text rest := by
  induction lexes with
  | none text => exact .none text
  | mark mark _ ih => exact .mark (wider _ mark) ih
  | string spelled _ ih => exact .string spelled ih

/-- Outside of strings stand the admitted characters only. -/
theorem Lexes.outside_eq (noQuote : isMark '"' = false) (lexes : Lexes isMark text rest) :
    ∃ front, outside text = front ++ outside rest ∧ ∀ c ∈ front, isMark c = true := by
  induction lexes with
  | none text => exact ⟨[], rfl, by simp⟩
  | @mark c text rest mark _ ih =>
      obtain ⟨front, same, marks⟩ := ih
      refine ⟨c :: front, ?_, List.forall_mem_cons.mpr ⟨mark, marks⟩⟩
      have plain : c ≠ '"' := by
        rintro rfl
        rw [noQuote] at mark
        contradiction
      rw [outside_cons plain, same]
      rfl
  | string spelled _ ih =>
      obtain ⟨front, same, marks⟩ := ih
      exact ⟨front, by rw [outside, if_pos rfl, spelled.afterString_eq, same], marks⟩

/-- A string contains no null character. -/
theorem Codes.null_mem {codes : List Nat} (spelled : Codes text codes rest)
    (member : '\x00' ∈ text) : '\x00' ∈ rest := by
  induction spelled with
  | close rest =>
      rcases List.mem_cons.mp member with same | later
      · contradiction
      · exact later
  | plain _ _ noControl _ ih =>
      rcases List.mem_cons.mp member with rfl | later
      · contradiction
      · exact ih later
  | escape named _ ih =>
      have solid : ∀ named ∈ escapes, '\x00' ≠ named.1 := by simp [escapes]
      exact ih (by simpa [solid _ named] using member)
  | @unit a b c d _ text _ _ hex _ ih =>
      have digits := notMem_of_readHex hex (rfl : hexValue? '\x00' = none)
      have escaped : '\x00' ∈ [a, b, c, d] ++ text := by simpa using member
      rcases List.mem_append.mp escaped with inDigits | later
      · exact absurd inDigits digits
      · exact ih later

/-- Nor do the characters outside of strings, if it is none of those that are admitted. -/
theorem Lexes.null_mem (noNull : isMark '\x00' = false) (lexes : Lexes isMark text rest)
    (member : '\x00' ∈ text) : '\x00' ∈ rest := by
  induction lexes with
  | none => exact member
  | mark mark _ ih =>
      rcases List.mem_cons.mp member with rfl | later
      · rw [noNull] at mark
        contradiction
      · exact ih later
  | string spelled _ ih =>
      rcases List.mem_cons.mp member with same | later
      · contradiction
      · exact ih (spelled.null_mem later)

/-- A text up to its end begins with a quote or an admitted character, if at all. -/
theorem Lexes.head?_ne {c : Char} (noMark : isMark c = false) (noQuote : c ≠ '"')
    (lexes : Lexes isMark text []) : text.head? ≠ some c := by
  intro head
  cases lexes with
  | none => contradiction
  | mark mark _ =>
      cases head
      rw [noMark] at mark
      contradiction
  | string _ _ =>
      cases head
      contradiction

end Lexes

/-! ## The marks of JSON -/

/-- The characters of JSON texts outside of strings: blanks, brackets, and what numbers and the
three words consist of. -/
def isMark (c : Char) : Bool :=
  c.isDigit ||
    [' ', '\t', '\n', '\r', '[', ']', '\x7b', '\x7d', ',', ':', '+', '-', '.', 'E', 'a', 'e', 'f',
      'l', 'n', 'r', 's', 't', 'u'].contains c

theorem isMark_of_isDigit {c : Char} (digit : c.isDigit = true) : isMark c = true := by
  rw [isMark, digit, Bool.true_or]

variable {text rest : List Char}

theorem Blanks.lexes (blanks : Blanks text rest) : Lexes isMark text rest := by
  induction blanks with
  | none text => exact .none text
  | some blank _ ih =>
      simp only [List.mem_cons, List.not_mem_nil, or_false] at blank
      rcases blank with rfl | rfl | rfl | rfl <;> exact .mark rfl ih

/-- So do blanks and the character behind them. -/
theorem Blanks.lexes_token {c : Char} {next : List Char} (blanks : Blanks text (c :: next))
    (mark : isMark c = true) (more : Lexes isMark next rest) : Lexes isMark text rest :=
  blanks.lexes.trans (.mark mark more)

theorem Digits.lexes {digits : List Char} (found : Digits text digits rest) :
    Lexes isMark text rest := by
  induction found with
  | last digit rest => exact .mark (isMark_of_isDigit digit) (.none rest)
  | more digit _ ih => exact .mark (isMark_of_isDigit digit) ih

theorem Whole.lexes {digits : List Char} (whole : Whole text digits rest) :
    Lexes isMark text rest := by
  cases whole with
  | zero rest => exact .mark rfl (.none rest)
  | digits _ found => exact found.lexes

theorem Fraction.lexes {fraction : Option (List Char)} (fractional : Fraction text fraction rest) :
    Lexes isMark text rest := by
  cases fractional with
  | none text => exact .none text
  | some found => exact .mark rfl found.lexes

theorem Exponent.lexes {exponent : Option Int} (scaled : Exponent text exponent rest) :
    Lexes isMark text rest := by
  cases scaled with
  | none text => exact .none text
  | @some _ text _ _ _ _ marked sign found =>
      have digits : Lexes isMark text rest := by
        cases sign with
        | none text => exact found.lexes
        | plus text => exact .mark rfl found.lexes
        | minus text => exact .mark rfl found.lexes
      simp only [List.mem_cons, List.not_mem_nil, or_false] at marked
      rcases marked with rfl | rfl <;> exact .mark rfl digits

theorem lexes_withMinus (negative : Bool) (text : List Char) :
    Lexes isMark (withMinus negative text) text := by
  cases negative with
  | true => exact .mark rfl (.none text)
  | false => exact .none text

theorem Number.lexes {value : Value} (number : Number text value rest) :
    Lexes isMark text rest := by
  cases number with
  | int negative whole => exact (lexes_withMinus negative _).trans whole.lexes
  | float negative whole fractional scaled _ =>
      exact (lexes_withMinus negative _).trans
        (whole.lexes.trans (fractional.lexes.trans scaled.lexes))

/-- What a text denotes is made of strings and marks. -/
theorem Denotes.lexes {part : Part} {value : Value} (denoted : Denotes part text value rest) :
    Lexes isMark text rest := by
  induction denoted with
  | word named rest =>
      have letters : ∀ named ∈ words, ∀ c ∈ named.1.toList, isMark c = true := by
        simp [words, isMark]
      exact (Lexes.none rest).append (letters _ named)
  | number number => exact number.lexes
  | string spelled => exact .string spelled (.none _)
  | emptyArray inside => exact .mark rfl (inside.lexes_token rfl (.none _))
  | array inside _ ih => exact .mark rfl (inside.lexes.trans ih)
  | emptyObject inside => exact .mark rfl (inside.lexes_token rfl (.none _))
  | object inside _ ih => exact .mark rfl (inside.lexes.trans ih)
  | lastItem _ behind ih => exact ih.trans (behind.lexes_token rfl (.none _))
  | item _ behind ahead _ ih ihMore =>
      exact ih.trans (behind.lexes_token rfl (ahead.lexes.trans ihMore))
  | lastMember key behindKey aheadOfValue _ behind ih =>
      have afterValue := behind.lexes_token rfl (.none _)
      have afterColon := aheadOfValue.lexes.trans (ih.trans afterValue)
      exact .string key (behindKey.lexes_token rfl afterColon)
  | member key behindKey aheadOfValue _ behind ahead _ ih ihMore =>
      have afterValue := behind.lexes_token rfl (ahead.lexes.trans ihMore)
      have afterColon := aheadOfValue.lexes.trans (ih.trans afterValue)
      exact .string key (behindKey.lexes_token rfl afterColon)

/-- A document is made of strings and marks. -/
theorem Document.lexes {value : Value} (document : Document text value) :
    Lexes isMark text [] := by
  obtain ⟨ahead, denoted, behind⟩ := document
  exact ahead.lexes.trans (denoted.lexes.trans behind.lexes)

theorem Document.noNull {value : Value} (document : Document text value) : '\x00' ∉ text := by
  intro member
  have nothing := document.lexes.null_mem rfl member
  contradiction

end HttpGauge.Json.Grammar
