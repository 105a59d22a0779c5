import HttpGauge.Proofs.Json.Reading

/-!
# What is read is a document

The strict reader finds nothing that the grammar does not denote.  There is one lemma for each
token, and one for each of values, items and members, given that fewer turns find only what is
denoted.  Main statement, together with the converse: a text is read exactly when it is a document
without an integer that is too long.
-/

namespace HttpGauge.Json.Grammar

open HttpGauge.Json.Reader HttpGauge.Number HttpGauge.Text

/-- Reading on succeeds when both readings do. -/
theorem andThen_eq_ok_iff {α β : Type} {reading : Reading α} {next : α → List Char → Reading β}
    {final : β} {behind : List Char} :
    reading.andThen next = .ok (final, behind) ↔
      ∃ result rest, reading = .ok (result, rest) ∧ next result rest = .ok (final, behind) := by
  cases reading with
  | error misread => simp
  | ok read =>
      rcases read with ⟨result, rest⟩
      constructor
      · intro succeeded
        exact ⟨result, rest, rfl, succeeded⟩
      · rintro ⟨_, _, same, succeeded⟩
        cases same
        exact succeeded

/-! ## Blanks and strings -/

/-- What is skipped is blank. -/
theorem blanks_skipSpace (text : List Char) : Blanks text (skipSpace text) := by
  induction text with
  | nil => exact .none []
  | cons c text ih =>
      by_cases blank : isSpace c = true
      · rw [skipSpace, List.dropWhile_cons_of_pos blank]
        exact .some (isSpace_iff.mp blank) ih
      · rw [skipSpace, List.dropWhile_cons_of_neg blank]
        exact .none _

theorem blanks_of_skipSpace {text rest : List Char} (skipped : skipSpace text = rest) :
    Blanks text rest :=
  skipped ▸ blanks_skipSpace text

theorem mem_escapes_of_escaped? {letter c : Char} (named : escaped? letter = some c) :
    (letter, c) ∈ escapes := by
  unfold escaped? at named
  split at named <;> cases named <;> simp [escapes]

theorem consCode_eq_ok_iff {code : Nat} {reading : Reading (List Nat)} {codes : List Nat}
    {rest : List Char} :
    consCode code reading = .ok (codes, rest) ↔
      ∃ later, reading = .ok (later, rest) ∧ codes = code :: later := by
  rw [consCode, andThen_eq_ok_iff]
  constructor
  · rintro ⟨later, behind, read, same⟩
    cases same
    exact ⟨later, read, rfl⟩
  · rintro ⟨later, read, rfl⟩
    exact ⟨later, rest, read, rfl⟩

/-- The codes that are read are those of the string. -/
theorem codes_of_readCodes {opening text rest : List Char} {codes : List Nat}
    (read : readCodes opening text = .ok (codes, rest)) : Codes text codes rest := by
  fun_induction readCodes opening text generalizing codes rest with
  | case1 | case3 | case5 | case6 | case8 | case9 => contradiction
  | case2 =>
      cases read
      exact .close _
  | case4 a b c d next text unit hex ih =>
      rcases consCode_eq_ok_iff.mp read with ⟨later, readLater, rfl⟩
      exact .unit hex (ih readLater)
  | case7 letter text _ _ c named ih =>
      rcases consCode_eq_ok_iff.mp read with ⟨later, readLater, rfl⟩
      exact .escape (mem_escapes_of_escaped? named) (ih readLater)
  | case10 c text noQuote noEnd noUnit noHex noEscape noControl ih =>
      rcases consCode_eq_ok_iff.mp read with ⟨later, readLater, rfl⟩
      refine .plain noQuote ?_ (Char.not_lt.mp noControl) (ih readLater)
      intro backslash
      cases text with
      | nil => exact noEnd backslash rfl
      | cons next text => exact noEscape next text backslash rfl

theorem codes_of_readString {text rest : List Char} {content : String}
    (read : readString text = .ok (content, rest)) :
    ∃ codes, Codes text codes rest ∧ content = textOf codes := by
  rcases andThen_eq_ok_iff.mp read with ⟨codes, behind, readCodes, same⟩
  cases same
  exact ⟨codes, codes_of_readCodes readCodes, rfl⟩

/-! ## Numbers -/

/-- Digits that are spanned, if there are any. -/
theorem digits_of_spanDigits {text digits rest : List Char}
    (spanned : spanDigits text = (digits, rest)) (nonempty : digits ≠ []) :
    Digits text digits rest := by
  induction text generalizing digits with
  | nil =>
      cases spanned
      contradiction
  | cons c text ih =>
      by_cases digit : c.isDigit = true
      · rw [spanDigits, List.takeWhile_cons_of_pos digit, List.dropWhile_cons_of_pos digit]
          at spanned
        cases spanned
        cases later : text.takeWhile Char.isDigit with
        | nil =>
            have same := List.takeWhile_append_dropWhile (p := Char.isDigit) (l := text)
            rw [later, List.nil_append] at same
            rw [same]
            exact .last digit text
        | cons first more =>
            refine .more digit (ih ?_ (List.cons_ne_nil first more))
            rw [spanDigits, later]
      · rw [spanDigits, List.takeWhile_cons_of_neg digit] at spanned
        cases spanned
        contradiction

theorem whole_of_readWhole {text digits rest : List Char}
    (read : readWhole text = some (digits, rest)) : Whole text digits rest := by
  unfold readWhole at read
  split at read
  · cases read
    exact .zero _
  · rename_i text nonzero
    split at read
    · contradiction
    · rename_i noDigits
      have spanned := Option.some.inj read
      refine .digits ?_ (digits_of_spanDigits spanned ?_)
      · intro zero
        rcases List.head?_eq_some_iff.mp zero with ⟨later, same⟩
        exact nonzero later same
      · rintro rfl
        exact noDigits _ spanned

/-- Without a fraction, nothing is read. -/
theorem fraction_readFraction (text : List Char) :
    Fraction text ((readFraction text).map (·.1)) (((readFraction text).map (·.2)).getD text) := by
  unfold readFraction
  split
  · rename_i text
    split
    · exact .none _
    · rename_i noDigits
      refine .some (digits_of_spanDigits rfl ?_)
      intro empty
      exact noDigits _ (Prod.ext empty rfl)
  · exact .none _

theorem sign_splitSign (text : List Char) : Sign text (splitSign text).1 (splitSign text).2 := by
  unfold splitSign
  split
  · exact .minus _
  · exact .plus _
  · exact .none _

/-- Without an exponent, nothing is read. -/
theorem exponent_readExponent (text : List Char) :
    Exponent text ((readExponent text).map (·.1)) (((readExponent text).map (·.2)).getD text) := by
  unfold readExponent
  split
  · rename_i letter text
    split
    · rename_i marked
      dsimp only
      split
      · exact .none _
      · rename_i digits rest noDigits spanned
        exact .some (by simpa using marked) (sign_splitSign text)
          (digits_of_spanDigits spanned (by rintro rfl; exact noDigits rfl))
    · exact .none _
  · exact .none _

/-- A number is read off what may be behind a sign. -/
theorem exists_withMinus (text : List Char) :
    ∃ negative unsigned, text = withMinus negative unsigned ∧
      (text.head? = some '-' ↔ negative = true) := by
  by_cases signed : text.head? = some '-'
  · rcases List.head?_eq_some_iff.mp signed with ⟨unsigned, rfl⟩
    exact ⟨true, unsigned, rfl, iff_of_true signed rfl⟩
  · exact ⟨false, text, rfl, iff_of_false signed Bool.false_ne_true⟩

/-- What is read as a number is one, and not too long. -/
theorem number_of_readNumber {text rest : List Char} {value : Value}
    (read : readNumber text = .ok (value, rest)) :
    Number text value rest ∧ value.hasLongInt = false := by
  rcases exists_withMinus text with ⟨negative, unsigned, rfl, signed⟩
  simp only [readNumber, signed, drop_withMinus, Bool.decide_eq_true] at read
  split at read
  · contradiction
  · rename_i whole afterWhole readWhole
    have found := whole_of_readWhole readWhole
    have fractional := fraction_readFraction afterWhole
    generalize readFraction afterWhole = fraction at read fractional
    have scaled := exponent_readExponent ((fraction.map (·.2)).getD afterWhole)
    generalize exponentRead : readExponent ((fraction.map (·.2)).getD afterWhole) = exponent
      at read scaled
    by_cases integral : (fraction.isNone && exponent.isNone) = true
    · rw [if_pos integral] at read
      rw [Bool.and_eq_true, Option.isNone_iff_eq_none, Option.isNone_iff_eq_none] at integral
      rcases integral with ⟨rfl, rfl⟩
      split at read
      · contradiction
      · rename_i short
        cases read
        refine ⟨.int negative found, ?_⟩
        rw [Value.hasLongInt, found.exceedsLimit_eq negative, decide_eq_false short]
    · rw [if_neg integral] at read
      cases read
      refine ⟨.float negative found fractional scaled ?_, rfl⟩
      rw [Bool.and_eq_true, Option.isNone_iff_eq_none, Option.isNone_iff_eq_none,
        Decidable.not_and_iff_or_not] at integral
      simpa using integral

/-! ## Words -/

theorem eq_append_of_afterWord? {word : String} {text rest : List Char}
    (found : afterWord? word text = some rest) : text = word.toList ++ rest := by
  unfold afterWord? at found
  split at found
  · rename_i starts
    rcases List.isPrefixOf_iff_prefix.mp starts with ⟨later, rfl⟩
    cases found
    rw [← String.length_toList, List.drop_left]
  · contradiction

/-- A word or a number is denoted; the constants are refused. -/
theorem denotes_of_readScalar {text rest : List Char} {value : Value}
    (read : readScalar false text = .ok (value, rest)) :
    Denotes .value text value rest ∧ value.merged = value ∧ value.hasLongInt = false := by
  unfold readScalar at read
  split at read
  · rename_i found named
    cases read
    rcases List.exists_of_findSome?_eq_some named with ⟨⟨word, named⟩, member, starts⟩
    rcases Option.map_eq_some_iff.mp starts with ⟨behind, after, same⟩
    cases same
    rw [eq_append_of_afterWord? after]
    refine ⟨.word member _, ?_⟩
    simp only [Reader.words, List.mem_cons, Prod.mk.injEq, List.not_mem_nil, or_false] at member
    rcases member with ⟨-, rfl⟩ | ⟨-, rfl⟩ | ⟨-, rfl⟩ <;> exact ⟨rfl, rfl⟩
  · split at read
    · rw [if_neg Bool.false_ne_true] at read
      contradiction
    · rcases number_of_readNumber read with ⟨number, short⟩
      exact ⟨.number number, number.merged_eq, short⟩

/-! ## Values -/

/-- What so many turns find is denoted. -/
structure Recognizes (turns : Nat) : Prop where
  value : ∀ {text value rest}, readValue false turns text = .ok (value, rest) →
    ∃ written, Denotes .value text written rest ∧ written.merged = value ∧
      written.hasLongInt = false
  items : ∀ {text items rest}, readItems false turns text = .ok (items, rest) →
    ∃ written, Denotes .items text (.arr written) rest ∧ Value.mergedItems written = items ∧
      Value.itemsHaveLongInt written = false
  members : ∀ {text members rest}, readMembers false turns text = .ok (members, rest) →
    ∃ written, Denotes .members text (.obj written) rest ∧
      Value.mergedMembers written = members ∧ Value.membersHaveLongInt written = false

section Turns

variable {turns : Nat} {text rest : List Char}

/-- A value is found by one turn more. -/
theorem Recognizes.readValue (fewer : Recognizes turns) {value : Value}
    (read : readValue false (turns + 1) text = .ok (value, rest)) :
    ∃ written, Denotes .value text written rest ∧ written.merged = value ∧
      written.hasLongInt = false := by
  unfold Reader.readValue at read
  split at read
  · rcases andThen_eq_ok_iff.mp read with ⟨content, behind, readString, same⟩
    cases same
    rcases codes_of_readString readString with ⟨codes, spelled, rfl⟩
    exact ⟨_, .string spelled, rfl, rfl⟩
  · split at read
    · rename_i inside
      cases read
      exact ⟨_, .emptyArray (blanks_of_skipSpace inside), rfl, rfl⟩
    · rcases andThen_eq_ok_iff.mp read with ⟨items, behind, readItems, same⟩
      cases same
      rcases fewer.items readItems with ⟨written, denoted, merged, short⟩
      refine ⟨_, .array (blanks_skipSpace _) denoted, ?_, short⟩
      rw [Value.merged, merged]
  · split at read
    · rename_i inside
      cases read
      exact ⟨_, .emptyObject (blanks_of_skipSpace inside), rfl, rfl⟩
    · rcases andThen_eq_ok_iff.mp read with ⟨members, behind, readMembers, same⟩
      cases same
      rcases fewer.members readMembers with ⟨written, denoted, merged, short⟩
      refine ⟨_, .object (blanks_skipSpace _) denoted, ?_, short⟩
      rw [Value.merged, merged]
  · exact ⟨value, denotes_of_readScalar read⟩

theorem Recognizes.readItems (fewer : Recognizes turns) {items : List Value}
    (read : readItems false (turns + 1) text = .ok (items, rest)) :
    ∃ written, Denotes .items text (.arr written) rest ∧ Value.mergedItems written = items ∧
      Value.itemsHaveLongInt written = false := by
  unfold Reader.readItems at read
  rcases andThen_eq_ok_iff.mp read with ⟨item, behind, readItem, more⟩
  rcases fewer.value readItem with ⟨written, denoted, rfl, short⟩
  split at more
  · rename_i closes
    cases more
    refine ⟨[written], .lastItem denoted (blanks_of_skipSpace closes), rfl, ?_⟩
    rw [Value.itemsHaveLongInt, short]
    rfl
  · rename_i separates
    rcases andThen_eq_ok_iff.mp more with ⟨later, behindLater, readLater, same⟩
    cases same
    rcases fewer.items readLater with ⟨others, denotedLater, rfl, shortLater⟩
    refine ⟨written :: others, .item denoted (blanks_of_skipSpace separates)
      (blanks_skipSpace _) denotedLater, rfl, ?_⟩
    rw [Value.itemsHaveLongInt, short, shortLater]
    rfl
  · contradiction

theorem Recognizes.readMembers (fewer : Recognizes turns) {members : List (String × Value)}
    (read : readMembers false (turns + 1) text = .ok (members, rest)) :
    ∃ written, Denotes .members text (.obj written) rest ∧
      Value.mergedMembers written = members ∧ Value.membersHaveLongInt written = false := by
  unfold Reader.readMembers at read
  split at read
  · rcases andThen_eq_ok_iff.mp read with ⟨key, behindKey, readKey, afterKey⟩
    rcases codes_of_readString readKey with ⟨codes, spelled, rfl⟩
    split at afterKey
    · rename_i colon
      rcases andThen_eq_ok_iff.mp afterKey with ⟨value, behind, readValue, more⟩
      rcases fewer.value readValue with ⟨written, denoted, rfl, short⟩
      split at more
      · rename_i closes
        cases more
        refine ⟨_, .lastMember spelled (blanks_of_skipSpace colon) (blanks_skipSpace _) denoted
          (blanks_of_skipSpace closes), rfl, ?_⟩
        rw [Value.membersHaveLongInt, short]
        rfl
      · rename_i separates
        rcases andThen_eq_ok_iff.mp more with ⟨later, behindLater, readLater, same⟩
        cases same
        rcases fewer.members readLater with ⟨others, denotedLater, rfl, shortLater⟩
        refine ⟨_, .member spelled (blanks_of_skipSpace colon) (blanks_skipSpace _) denoted
          (blanks_of_skipSpace separates) (blanks_skipSpace _) denotedLater, rfl, ?_⟩
        rw [Value.membersHaveLongInt, short, shortLater]
        rfl
      · contradiction
    · contradiction
  · contradiction

end Turns

/-- However many turns there are, what they find is denoted. -/
theorem recognizes (turns : Nat) : Recognizes turns := by
  induction turns with
  | zero =>
      constructor <;> intros <;> contradiction
  | succ turns fewer =>
      exact ⟨fewer.readValue, fewer.readItems, fewer.readMembers⟩

/-! ## Documents -/

/-- A text is read exactly when it is a document without an integer that is too long. -/
theorem readDocument_eq_ok_iff {text : List Char} {value : Value} :
    readDocument false text = .ok value ↔
      ∃ written, Document text written ∧ written.hasLongInt = false ∧ written.merged = value := by
  constructor
  · intro read
    unfold readDocument at read
    split at read
    · contradiction
    · rename_i found behind readValue
      rcases (recognizes _).value readValue with ⟨written, denoted, rfl, short⟩
      split at read
      · rename_i ends
        cases read
        exact ⟨written, .mk (blanks_skipSpace text) denoted (blanks_of_skipSpace ends), short, rfl⟩
      · contradiction
  · rintro ⟨written, document, short, rfl⟩
    have read := document.readDocument_eq false
    rwa [short, if_neg Bool.false_ne_true] at read

/-- The only fault that is found in a document is an integer that is too long. -/
theorem Document.fault_of_misread {text : List Char} {written : Value} {misread : Misread}
    (document : Document text written) (read : readDocument false text = .error misread) :
    ∃ digits, misread.problem = .integerTooLong digits := by
  have expected := document.readDocument_eq false
  cases long : written.hasLongInt with
  | true =>
      rw [long] at expected
      rcases expected with ⟨digits, remaining, same⟩
      cases read.symm.trans same
      exact ⟨digits, rfl⟩
  | false =>
      rw [long, if_neg Bool.false_ne_true] at expected
      cases read.symm.trans expected

/-- The same of its bytes, where they are recognised as UTF-8. -/
theorem readBytes_eq_ok_iff {text : List Char} {value : Value}
    (unmarked : text.head? ≠ some '\uFEFF') (noNull : '\x00' ∉ text) :
    readBytes false (Utf8.encodeChars text) = .ok value ↔
      ∃ written, Document text written ∧ written.hasLongInt = false ∧ written.merged = value := by
  rw [← readDocument_eq_ok_iff, readBytes, decodeBytes_encodeChars unmarked noNull]
  dsimp only [readChars]
  cases readDocument false text with
  | ok written => exact ⟨fun same => congrArg Except.ok (Except.ok.inj same),
      fun same => congrArg Except.ok (Except.ok.inj same)⟩
  | error misread =>
      constructor
      · intro same
        cases same
      · intro same
        cases same

end HttpGauge.Json.Grammar
