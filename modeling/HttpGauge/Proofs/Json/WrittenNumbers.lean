import HttpGauge.Json.Writer
import HttpGauge.Proofs.Json.Tokens
import HttpGauge.Proofs.Number.Decimal

/-!
# Written numbers

The text of an integer, and the text of a finite double, is a number of the grammar that denotes
what it is written from, whatever follows.  The digits of a double are spread over the whole part
and the fraction, or stand before an exponent; however they are spread, they have the value of the
shortest decimal, which reads back as the double.
-/

namespace HttpGauge.Json.Grammar

open HttpGauge.Json.Reader HttpGauge.Number HttpGauge.Number.Binary64

/-! ## The value of digits -/

theorem digitsValue_append (front back : List Char) :
    digitsValue (front ++ back) = digitsValue front * 10 ^ back.length + digitsValue back := by
  rw [digitsValue, List.map_append, ofDigits_append, List.length_map]
  rfl

theorem digitsValue_replicate (zeros : Nat) : digitsValue (List.replicate zeros '0') = 0 := by
  induction zeros with
  | zero => rfl
  | succ zeros ih =>
      rw [List.replicate_succ', digitsValue_append, ih, Nat.zero_mul]
      rfl

/-- Zeros at the front count for nothing. -/
theorem digitsValue_leading (zeros : Nat) (digits : List Char) :
    digitsValue (List.replicate zeros '0' ++ digits) = digitsValue digits := by
  rw [digitsValue_append, digitsValue_replicate, Nat.zero_mul, Nat.zero_add]

/-- Zeros at the end count for a power of ten. -/
theorem digitsValue_trailing (digits : List Char) (zeros : Nat) :
    digitsValue (digits ++ List.replicate zeros '0') = digitsValue digits * 10 ^ zeros := by
  rw [digitsValue_append, digitsValue_replicate, List.length_replicate, Nat.add_zero]

theorem natDigits_eq (n : Nat) : natDigits n = Nat.toDigits 10 n := by
  rw [natDigits, Nat.toList_repr]

/-- The digits of a number spell the number. -/
theorem digitsValue_natDigits (n : Nat) : digitsValue (natDigits n) = n := by
  rw [natDigits_eq, digitsValue, ofDigits, List.foldl_map]
  exact Nat.ofDigitChars_ten_toDigits

theorem isDigit_of_mem_natDigits {n : Nat} {c : Char} (member : c ∈ natDigits n) :
    c.isDigit = true := by
  rw [natDigits_eq] at member
  exact Nat.isDigit_of_mem_toDigits (by decide) (by decide) member

theorem natDigits_ne_nil (n : Nat) : natDigits n ≠ [] := by
  rw [natDigits_eq]
  exact Nat.toDigits_ne_nil

/-! ## Significant digits -/

/-- At least one digit, of which the first is not zero. -/
structure Significant (digits : List Char) : Prop where
  ascii : ∀ c ∈ digits, c.isDigit = true
  nonempty : digits ≠ []
  nonzero : digits.head? ≠ some '0'

/-- Digits are found before what follows them. -/
theorem digits_append {digits : List Char} (ascii : ∀ c ∈ digits, c.isDigit = true)
    (nonempty : digits ≠ []) (rest : List Char) : Digits (digits ++ rest) digits rest := by
  induction digits with
  | nil => exact absurd rfl nonempty
  | cons first later ih =>
      have digit := ascii first List.mem_cons_self
      by_cases single : later = []
      · rw [single]
        exact .last digit rest
      · exact .more digit (ih (fun c member => ascii c (List.mem_cons_of_mem _ member)) single)

theorem Significant.whole {digits : List Char} (significant : Significant digits)
    (rest : List Char) : Whole (digits ++ rest) digits rest := by
  have found := digits_append significant.ascii significant.nonempty rest
  obtain ⟨first, later, rfl, head⟩ := found.head
  apply Whole.digits
  · rw [head]
    exact significant.nonzero
  · exact found

/-- The digits of a number other than zero are significant. -/
theorem significant_natDigits {n : Nat} (nonzero : n ≠ 0) : Significant (natDigits n) where
  ascii _ := isDigit_of_mem_natDigits
  nonempty := natDigits_ne_nil n
  nonzero := by
    intro zero
    obtain ⟨later, digits⟩ := List.head?_eq_some_iff.mp zero
    -- The digits behind the zero are too few for the number.
    have ascii (c : Char) (member : c ∈ later) : c.isDigit = true :=
      isDigit_of_mem_natDigits (digits ▸ List.mem_cons_of_mem '0' member)
    have value : digitsValue later = n := by
      rw [← digitsValue_leading 1 later, List.replicate_one, List.singleton_append, ← digits,
        digitsValue_natDigits]
    obtain ⟨places, count, least, -⟩ := pow_le_of_digitCount nonzero
    rw [digitCount, if_neg nonzero, ← natDigits_eq, digits, List.length_cons] at count
    have less := digitsValue_lt ascii
    rw [value, Nat.succ.inj count] at less
    exact Nat.not_lt_of_le least less

/-- What is removed from the end is zeros. -/
theorem stripZeros_append (digits : List Char) :
    ∃ zeros, digits = stripZeros digits ++ List.replicate zeros '0' := by
  refine ⟨(digits.reverse.takeWhile (· == '0')).length, ?_⟩
  have zeros : digits.reverse.takeWhile (· == '0') =
      List.replicate (digits.reverse.takeWhile (· == '0')).length '0' :=
    List.eq_replicate_of_mem fun c member =>
      beq_iff_eq.mp (List.all_eq_true.mp List.all_takeWhile c member)
  have split := congrArg List.reverse
    (List.takeWhile_append_dropWhile (p := (· == '0')) (l := digits.reverse))
  rw [List.reverse_append, List.reverse_reverse, zeros, List.reverse_replicate] at split
  exact split.symm

/-- The first ones of significant digits are significant. -/
theorem Significant.of_append {front back : List Char} (significant : Significant (front ++ back))
    (nonempty : front ≠ []) : Significant front := by
  obtain ⟨ascii, -, nonzero⟩ := significant
  refine ⟨fun c member => ascii c (List.mem_append_left _ member), nonempty, ?_⟩
  intro zero
  rw [List.head?_append, zero] at nonzero
  exact nonzero rfl

/-- Significant digits may go on with any digits. -/
theorem Significant.append {front back : List Char} (significant : Significant front)
    (ascii : ∀ c ∈ back, c.isDigit = true) : Significant (front ++ back) := by
  obtain ⟨first, later, rfl⟩ := List.exists_cons_of_ne_nil significant.nonempty
  refine ⟨fun c member => ?_, nofun, significant.nonzero⟩
  rcases List.mem_append.mp member with inFront | inBack
  · exact significant.ascii c inFront
  · exact ascii c inBack

theorem isDigit_of_mem_replicate {zeros : Nat} {c : Char}
    (member : c ∈ List.replicate zeros '0') : c.isDigit = true := by
  rw [List.eq_of_mem_replicate member]
  rfl

/-- Without the zeros at their end, significant digits are significant. -/
theorem Significant.stripZeros {digits : List Char} (significant : Significant digits) :
    Significant (stripZeros digits) := by
  obtain ⟨zeros, split⟩ := stripZeros_append digits
  rw [split] at significant
  apply significant.of_append
  intro empty
  rw [empty] at significant
  cases zeros with
  | zero => exact significant.nonempty rfl
  | succ zeros => exact significant.nonzero rfl

/-! ## Integers -/

theorem intText_eq (n : Int) :
    (intText n).toList = withMinus (decide (n < 0)) (natDigits n.natAbs) := by
  by_cases negative : n < 0
  · rw [intText, if_pos negative, String.toList_append, decide_eq_true negative]
    rfl
  · rw [intText, if_neg negative, decide_eq_false negative]
    rfl

theorem withSign_natAbs (n : Int) : withSign (decide (n < 0)) n.natAbs = n := by
  by_cases negative : n < 0
  · rw [decide_eq_true negative, withSign, if_pos rfl]
    omega
  · rw [decide_eq_false negative, withSign, if_neg Bool.false_ne_true]
    omega

theorem withMinus_append (negative : Bool) (text rest : List Char) :
    withMinus negative text ++ rest = withMinus negative (text ++ rest) := by
  cases negative <;> rfl

theorem whole_natDigits (n : Nat) (rest : List Char) :
    Whole (natDigits n ++ rest) (natDigits n) rest := by
  by_cases zero : n = 0
  · subst zero
    exact Whole.zero rest
  · exact (significant_natDigits zero).whole rest

/-- The text of an integer denotes the integer. -/
theorem number_intText (n : Int) (rest : List Char) :
    Number ((intText n).toList ++ rest) (.int n) rest := by
  have number := Number.int (decide (n < 0)) (whole_natDigits n.natAbs rest)
  rwa [digitsValue_natDigits, withSign_natAbs, ← withMinus_append, ← intText_eq] at number

/-! ## Doubles -/

/-- A text that is a number, with either sign and whatever follows: the double of a rank. -/
def Spells (text : List Char) (rank : Nat) : Prop :=
  ∀ (negative : Bool) (rest : List Char),
    Number (withMinus negative (text ++ rest)) (.float (ofRank negative rank)) rest

/-- A text of a whole part and a fraction. -/
theorem spells_fraction {whole fraction : List Char} {rank : Nat}
    (isWhole : ∀ rest, Whole (whole ++ rest) whole rest)
    (ascii : ∀ c ∈ fraction, c.isDigit = true) (nonempty : fraction ≠ [])
    (value :
      nearestRankDecimal (digitsValue (whole ++ fraction)) (-(fraction.length : Int)) = rank) :
    Spells (whole ++ '.' :: fraction) rank := by
  intro negative rest
  have found := digits_append ascii nonempty rest
  have number := Number.float negative (isWhole _) (.some found) (.none rest) (Or.inl nofun)
  rw [ofDecimal_eq] at number
  simpa [value] using number

/-- Digits behind a point: the first one, or zeros before it. -/
theorem spells_below {digits : List Char} (significant : Significant digits) (zeros : Nat) :
    Spells ('0' :: '.' :: List.replicate zeros '0' ++ digits)
      (nearestRankDecimal (digitsValue digits) (-(zeros : Int) - digits.length)) := by
  have ascii : ∀ c ∈ List.replicate zeros '0' ++ digits, c.isDigit = true := by
    intro c member
    rcases List.mem_append.mp member with zero | inDigits
    · exact isDigit_of_mem_replicate zero
    · exact significant.ascii c inDigits
  have isZero : ∀ rest, Whole (['0'] ++ rest) ['0'] rest := Whole.zero
  have nonempty : List.replicate zeros '0' ++ digits ≠ [] :=
    List.append_ne_nil_of_right_ne_nil _ significant.nonempty
  have value : digitsValue (['0'] ++ (List.replicate zeros '0' ++ digits)) = digitsValue digits :=
    (digitsValue_leading 1 _).trans (digitsValue_leading zeros digits)
  have length : (List.replicate zeros '0' ++ digits).length = zeros + digits.length := by
    rw [List.length_append, List.length_replicate]
  have spelled := spells_fraction isZero ascii nonempty rfl
  rwa [value, length, show -((zeros + digits.length : Nat) : Int) = -zeros - digits.length by omega]
    at spelled

/-- Digits and zeros before a point, and a zero behind it. -/
theorem spells_whole {digits : List Char} (significant : Significant digits) (zeros : Nat) :
    Spells (digits ++ List.replicate zeros '0' ++ ['.', '0'])
      (nearestRankDecimal (digitsValue digits) zeros) := by
  have longer : Significant (digits ++ List.replicate zeros '0') :=
    significant.append fun _ => isDigit_of_mem_replicate
  refine spells_fraction longer.whole (List.forall_mem_singleton.mpr rfl)
    (List.cons_ne_nil _ _) ?_
  rw [List.append_assoc, ← List.replicate_succ', digitsValue_trailing, nearestRankDecimal_mul_pow]
  congr 1
  rw [List.length_singleton]
  omega

/-- Digits on both sides of a point. -/
theorem spells_within {digits : List Char} (significant : Significant digits) {places : Nat}
    (positive : 0 < places) (inside : places < digits.length) :
    Spells (digits.take places ++ '.' :: digits.drop places)
      (nearestRankDecimal (digitsValue digits) ((places : Int) - digits.length)) := by
  have first : Significant (digits.take places) := by
    rw [← List.take_append_drop places digits] at significant
    apply significant.of_append
    rw [Ne, List.take_eq_nil_iff]
    rintro (zero | empty)
    · exact Nat.ne_of_gt positive zero
    · rw [empty] at inside
      contradiction
  have later : digits.drop places ≠ [] := by
    rw [Ne, List.drop_eq_nil_iff]
    exact Nat.not_le_of_lt inside
  refine spells_fraction first.whole
    (fun c member => significant.ascii c (List.mem_of_mem_drop member)) later ?_
  rw [List.take_append_drop, List.length_drop]
  congr 1
  omega

/-- Significant digits in their place. -/
theorem spells_positional {digits : List Char} (significant : Significant digits) (point : Int) :
    Spells (positional digits point)
      (nearestRankDecimal (digitsValue digits) (point - digits.length)) := by
  unfold positional
  by_cases below : point ≤ 0
  · have spelled := spells_below significant (-point).toNat
    rw [if_pos below]
    rwa [show -((-point).toNat : Int) = point by omega] at spelled
  · rw [if_neg below]
    by_cases reaches : digits.length ≤ point.toNat
    · have spelled := spells_whole significant (point.toNat - digits.length)
      rw [if_pos reaches]
      rwa [show ((point.toNat - digits.length : Nat) : Int) = point - digits.length by omega]
        at spelled
    · have spelled := spells_within significant (by omega) (Nat.lt_of_not_le reaches)
      rw [if_neg reaches]
      rwa [show (point.toNat : Int) = point by omega] at spelled

/-- An exponent is written with a sign and its digits, perhaps behind a zero. -/
theorem exponentText_eq (exponent : Int) :
    ∃ digits, exponentText exponent = (if exponent < 0 then '-' else '+') :: digits ∧
      (∀ c ∈ digits, c.isDigit = true) ∧ digits ≠ [] ∧
      digitsValue digits = exponent.natAbs := by
  have ascii : ∀ c ∈ natDigits exponent.natAbs, c.isDigit = true :=
    fun _ => isDigit_of_mem_natDigits
  have value := digitsValue_natDigits exponent.natAbs
  unfold exponentText
  dsimp only
  by_cases short : (natDigits exponent.natAbs).length < 2
  · refine ⟨'0' :: natDigits exponent.natAbs, by rw [if_pos short], ?_, nofun, ?_⟩
    · exact List.forall_mem_cons.mpr ⟨rfl, ascii⟩
    · exact (digitsValue_leading 1 _).trans value
  · exact ⟨_, by rw [if_neg short], ascii, natDigits_ne_nil _, value⟩

/-- The text of an exponent denotes the exponent. -/
theorem exponent_exponentText (exponent : Int) (rest : List Char) :
    Exponent ('e' :: exponentText exponent ++ rest) (some exponent) rest := by
  obtain ⟨digits, text, ascii, nonempty, value⟩ := exponentText_eq exponent
  have found := digits_append ascii nonempty rest
  have signed := withSign_natAbs exponent
  rw [← value] at signed
  rw [text]
  by_cases negative : exponent < 0
  · rw [decide_eq_true negative] at signed
    rw [if_pos negative]
    exact signed ▸ .some (by simp) (.minus _) found
  · rw [decide_eq_false negative] at signed
    rw [if_neg negative]
    exact signed ▸ .some (by simp) (.plus _) found

/-- Significant digits and an exponent. -/
theorem spells_scientific {digits : List Char} (significant : Significant digits) (point : Int) :
    Spells (scientific digits point)
      (nearestRankDecimal (digitsValue digits) (point - digits.length)) := by
  obtain ⟨first, later, rfl⟩ := List.exists_cons_of_ne_nil significant.nonempty
  intro negative rest
  have leading : Significant [first] := Significant.of_append significant (List.cons_ne_nil _ _)
  have whole (text : List Char) : Whole ([first] ++ text) [first] text :=
    leading.whole text
  have scaled := exponent_exponentText (point - 1) rest
  by_cases single : later = []
  · subst single
    have number := Number.float negative (whole _) (.none _) scaled (Or.inr nofun)
    rw [ofDecimal_eq] at number
    simpa [scientific] using number
  · have ascii (c : Char) (member : c ∈ later) : c.isDigit = true :=
      significant.ascii c (List.mem_cons_of_mem _ member)
    have found := digits_append ascii single ('e' :: exponentText (point - 1) ++ rest)
    have number := Number.float negative (whole _) (.some found) scaled (Or.inr nofun)
    have place : point - 1 - later.length = point - (first :: later).length := by
      rw [List.length_cons]
      omega
    rw [ofDecimal_eq] at number
    simpa [scientific, single, place] using number

/-- The text of a decimal has its value. -/
theorem spells_decimalText {decimal : Decimal} (nonzero : decimal.digits ≠ 0) :
    Spells (decimalText decimal) (nearestRankDecimal decimal.digits decimal.exponent) := by
  have significant := (significant_natDigits nonzero).stripZeros
  have value : nearestRankDecimal decimal.digits decimal.exponent =
      nearestRankDecimal (digitsValue (stripZeros (natDigits decimal.digits)))
        ((natDigits decimal.digits).length + decimal.exponent
          - (stripZeros (natDigits decimal.digits)).length) := by
    obtain ⟨zeros, split⟩ := stripZeros_append (natDigits decimal.digits)
    have spelled := digitsValue_natDigits decimal.digits
    rw [split, digitsValue_trailing] at spelled
    have length := congrArg List.length split
    rw [List.length_append, List.length_replicate] at length
    conv => lhs; rw [← spelled]
    rw [nearestRankDecimal_mul_pow]
    congr 1
    omega
  rw [decimalText, value]
  split
  · exact spells_positional significant _
  · exact spells_scientific significant _

theorem spells_zero : Spells ['0', '.', '0'] 0 := by
  have isZero : ∀ rest, Whole (['0'] ++ rest) ['0'] rest := Whole.zero
  have ascii : ∀ c ∈ ['0'], c.isDigit = true := List.forall_mem_singleton.mpr rfl
  have spelled := spells_fraction isZero ascii (List.cons_ne_nil _ _) rfl
  rwa [show digitsValue (['0'] ++ ['0']) = 0 from rfl, nearestRankDecimal_zero] at spelled

/-- The digits of a double, or those of a zero, are its text. -/
theorem spells_chars (rank : Nat) :
    Spells (if rank = 0 then ['0', '.', '0'] else decimalText (shortest rank)) rank := by
  by_cases zero : rank = 0
  · rw [if_pos zero, zero]
    exact spells_zero
  · have reads := nearestRankDecimal_shortest rank
    have nonzero : (shortest rank).digits ≠ 0 := by
      intro vanishes
      rw [vanishes, nearestRankDecimal_zero] at reads
      exact zero reads.symm
    have spelled := spells_decimalText nonzero
    rw [if_neg zero]
    rwa [reads] at spelled

/-- The text of a finite double denotes the double. -/
theorem number_finite (negative : Bool) (rank : Fin finiteCount) (rest : List Char) :
    Number ((Binary64.finite negative rank).chars Spelling.json ++ rest)
      (.float (.finite negative rank)) rest := by
  have number := spells_chars rank.val negative rest
  rw [ofRank_of_lt] at number
  rw [Binary64.chars]
  generalize (if rank.val = 0 then ['0', '.', '0'] else decimalText (shortest rank)) = text
    at number ⊢
  cases negative <;> exact number

end HttpGauge.Json.Grammar
