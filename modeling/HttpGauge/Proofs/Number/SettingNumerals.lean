import HttpGauge.Proofs.Json.Recognition
import HttpGauge.Proofs.Number.Numeral

/-!
# Numerals of settings

Which texts a setting takes for an integer, stated without a reader: white space, perhaps a sign,
digits of any script in groups that single underscores separate, and white space.  Main statements:
these texts are read, as what their digits spell, and no others; the text of an integer is one.
-/

namespace HttpGauge.Text

/-! ## White space around a text -/

/-- What is removed from a text belongs to the class. -/
theorem exists_trimBy (drop : Char → Bool) (text : List Char) :
    ∃ before after, text = before ++ trimBy drop text ++ after ∧
      (∀ c ∈ before, drop c = true) ∧ ∀ c ∈ after, drop c = true := by
  refine ⟨text.takeWhile drop, ((text.dropWhile drop).reverse.takeWhile drop).reverse, ?_,
    fun c member => List.mem_takeWhile_imp member,
    fun c member => List.mem_takeWhile_imp (List.mem_reverse.mp member)⟩
  rw [trimBy, List.append_assoc, ← List.reverse_append, List.takeWhile_append_dropWhile,
    List.reverse_reverse, List.takeWhile_append_dropWhile]

/-- Only that is removed, where the text within begins and ends with something else. -/
theorem trimBy_append {drop : Char → Bool} {before core after : List Char}
    (ahead : ∀ c ∈ before, drop c = true) (behind : ∀ c ∈ after, drop c = true)
    (first : ∀ c, core.head? = some c → drop c = false)
    (last : ∀ c, core.getLast? = some c → drop c = false) (nonempty : core ≠ []) :
    trimBy drop (before ++ core ++ after) = core := by
  have front : (before ++ core ++ after).dropWhile drop = core ++ after := by
    rw [List.append_assoc, List.dropWhile_append_of_pos ahead]
    cases core with
    | nil => contradiction
    | cons c rest => exact List.dropWhile_cons_of_neg (Bool.eq_false_iff.mp (first c rfl))
  have back : (core ++ after).reverse.dropWhile drop = core.reverse := by
    rw [List.reverse_append, List.dropWhile_append_of_pos fun c member =>
      behind c (List.mem_reverse.mp member)]
    cases reversed : core.reverse with
    | nil => rfl
    | cons c rest =>
        have isLast : core.getLast? = some c := by
          rw [List.getLast?_eq_head?_reverse, reversed]
          rfl
        exact List.dropWhile_cons_of_neg (Bool.eq_false_iff.mp (last c isLast))
  rw [trimBy, front, back, List.reverse_reverse]

/-- A digit is no white space. -/
theorem isWhite_of_digitValue? {c : Char} {digit : Nat} (value : digitValue? c = some digit) :
    isWhite c = false := by
  have apart : ∀ digits ∈ digitRanges, ∀ white ∈ whiteRanges,
      digits.2 < white.1 ∨ white.2 < digits.1 := by decide
  obtain ⟨digits, found, -⟩ := Option.map_eq_some_iff.mp value
  rw [CodeRange.find?] at found
  have contains := List.find?_some found
  have inDigits := CodeRange.contains_iff.mp contains
  refine Bool.eq_false_iff.mpr fun isWhite => ?_
  obtain ⟨white, member, inWhite⟩ := CodeRange.covers_iff.mp isWhite
  have differ := apart digits (List.mem_of_find?_eq_some found) white member
  omega

end HttpGauge.Text

namespace HttpGauge.Number

open HttpGauge.Json HttpGauge.Json.Grammar HttpGauge.Text

/-! ## Digits in groups -/

/-- Digits, at least one, with at most one underscore between neighbours; the values of the
digits. -/
inductive Groups (value? : Char → Option Nat) : List Char → List Nat → Prop where
  | last {c : Char} {digit : Nat} (value : value? c = some digit) : Groups value? [c] [digit]
  | next {c : Char} {digit : Nat} {text : List Char} {digits : List Nat}
      (value : value? c = some digit) (more : Groups value? text digits) :
      Groups value? (c :: text) (digit :: digits)
  | separated {c : Char} {digit : Nat} {text : List Char} {digits : List Nat}
      (value : value? c = some digit) (more : Groups value? text digits) :
      Groups value? (c :: '_' :: text) (digit :: digits)

theorem digitGroups?_eq_some_iff {value? : Char → Option Nat} (noDigit : value? '_' = none)
    {text : List Char} {digits : List Nat} :
    digitGroups? value? text = some digits ↔ Groups value? text digits := by
  constructor
  · intro read
    fun_induction digitGroups? value? text generalizing digits with
    | case1 => contradiction
    | case2 c =>
        obtain ⟨digit, value, same⟩ := Option.bind_eq_some_iff.mp read
        cases same
        exact .last value
    | case3 c rest ih =>
        obtain ⟨digit, value, more⟩ := Option.bind_eq_some_iff.mp read
        obtain ⟨later, grouped, same⟩ := Option.bind_eq_some_iff.mp more
        cases same
        exact .separated value (ih grouped)
    | case4 c rest single grouped ih =>
        obtain ⟨digit, value, more⟩ := Option.bind_eq_some_iff.mp read
        obtain ⟨later, grouped, same⟩ := Option.bind_eq_some_iff.mp more
        cases same
        exact .next value (ih grouped)
  · intro grouped
    induction grouped with
    | last value => simp [digitGroups?, value]
    | @next c digit text digits value more ih =>
        -- What follows a digit begins with one, so that it is neither empty nor an underscore.
        have begins : ∃ next later, text = next :: later ∧ next ≠ '_' := by
          cases more with
          | last value | next value more | separated value more =>
              refine ⟨_, _, rfl, ?_⟩
              rintro rfl
              rw [noDigit] at value
              contradiction
        obtain ⟨next, later, rfl, plain⟩ := begins
        rw [digitGroups?, value, ih]
        · rfl
        · exact List.cons_ne_nil next later
        · exact fun _ same => plain (List.cons.inj same).1
    | separated value more ih => simp [digitGroups?, value, ih]

theorem Groups.ne_nil {value? : Char → Option Nat} {text : List Char} {digits : List Nat}
    (grouped : Groups value? text digits) : text ≠ [] := by
  cases grouped <;> nofun

/-- Digits stand at both ends. -/
theorem Groups.head? {value? : Char → Option Nat} {text : List Char} {digits : List Nat}
    (grouped : Groups value? text digits) {c : Char} (first : text.head? = some c) :
    ∃ digit, value? c = some digit := by
  cases grouped with
  | last value | next value more | separated value more =>
      cases first
      exact ⟨_, value⟩

theorem Groups.getLast? {value? : Char → Option Nat} {text : List Char} {digits : List Nat}
    (grouped : Groups value? text digits) {c : Char} (last : text.getLast? = some c) :
    ∃ digit, value? c = some digit := by
  induction grouped with
  | last value =>
      cases last
      exact ⟨_, value⟩
  | next value more ih =>
      obtain ⟨d, later, rfl⟩ := List.exists_cons_of_ne_nil more.ne_nil
      exact ih (List.getLast?_cons_cons ▸ last)
  | separated value more ih =>
      obtain ⟨d, later, rfl⟩ := List.exists_cons_of_ne_nil more.ne_nil
      rw [List.getLast?_cons_cons, List.getLast?_cons_cons] at last
      exact ih last

/-- The digits have a value each. -/
theorem Groups.lt_ten {text : List Char} {digits : List Nat}
    (grouped : Groups digitValue? text digits) : ∀ digit ∈ digits, digit < 10 := by
  induction grouped with
  | last value => exact List.forall_mem_singleton.mpr (digitValue?_lt value)
  | next value more ih | separated value more ih =>
      exact List.forall_mem_cons.mpr ⟨digitValue?_lt value, ih⟩

/-! ## Numerals -/

/-- A numeral of a setting, with its value. -/
inductive SettingNumeral : List Char → Int → Prop where
  /-- White space, perhaps a sign, digits in groups, and white space. -/
  | mk {before signed unsigned after : List Char} {negative : Bool} {digits : List Nat}
      (ahead : ∀ c ∈ before, isWhite c = true) (sign : Sign signed negative unsigned)
      (grouped : Groups digitValue? unsigned digits) (short : digits.length ≤ digitLimit)
      (behind : ∀ c ∈ after, isWhite c = true) :
      SettingNumeral (before ++ signed ++ after) (withSign negative (ofDigits digits))

/-- A numeral begins with a sign or a digit, and ends with a digit. -/
theorem trimWhite_signed {before signed unsigned after : List Char} {negative : Bool}
    {digits : List Nat} (ahead : ∀ c ∈ before, isWhite c = true)
    (sign : Sign signed negative unsigned) (grouped : Groups digitValue? unsigned digits)
    (behind : ∀ c ∈ after, isWhite c = true) :
    trimWhite (before ++ signed ++ after) = signed := by
  have digit {c : Char} (value : ∃ digit, digitValue? c = some digit) : isWhite c = false :=
    value.elim fun _ value => isWhite_of_digitValue? value
  obtain ⟨d, later, rfl⟩ := List.exists_cons_of_ne_nil grouped.ne_nil
  refine trimBy_append ahead behind ?_ ?_ ?_
  · intro c first
    cases sign with
    | none => exact digit (grouped.head? first)
    | plus | minus =>
        cases first
        rfl
  · intro c last
    cases sign with
    | none => exact digit (grouped.getLast? last)
    | plus | minus => exact digit (grouped.getLast? (List.getLast?_cons_cons ▸ last))
  · cases sign <;> nofun

theorem splitSign_signed {signed unsigned : List Char} {negative : Bool} {digits : List Nat}
    (sign : Sign signed negative unsigned) (grouped : Groups digitValue? unsigned digits) :
    splitSign signed = (negative, unsigned) := by
  have noSign {c : Char} (first : unsigned.head? = some c) : c ≠ '-' ∧ c ≠ '+' := by
    obtain ⟨digit, value⟩ := grouped.head? first
    constructor <;> rintro rfl <;> cases value
  cases sign with
  | plus | minus => rfl
  | none =>
      rw [splitSign]
      · rintro later rfl
        exact (noSign rfl).1 rfl
      · rintro later rfl
        exact (noSign rfl).2 rfl

/-- The numerals are read as their values, and nothing else is read. -/
theorem settingInt?_eq_some_iff {text : String} {n : Int} :
    settingInt? text = some n ↔ SettingNumeral text.toList n := by
  constructor
  · intro read
    unfold settingInt? at read
    dsimp only at read
    split at read
    · rename_i digits grouped
      split at read
      · rename_i short
        cases read
        obtain ⟨before, after, same, ahead, behind⟩ := exists_trimBy isWhite text.toList
        have groups := (digitGroups?_eq_some_iff rfl).mp grouped
        have numeral := SettingNumeral.mk ahead (sign_splitSign _) groups short behind
        rwa [trimWhite, ← same] at numeral
      · contradiction
    · contradiction
  · intro numeral
    generalize given : text.toList = chars at numeral
    cases numeral with
    | mk ahead sign grouped short behind =>
        rw [settingInt?, given, trimWhite_signed ahead sign grouped behind,
          splitSign_signed sign grouped]
        dsimp only
        rw [(digitGroups?_eq_some_iff rfl).mpr grouped]
        exact if_pos short

/-! ## Texts of integers -/

theorem digitValue?_of_isDigit {c : Char} (digit : c.isDigit = true) :
    digitValue? c = some (c.toNat - '0'.toNat) := by
  have bounds : 0x30 ≤ c.toNat ∧ c.toNat ≤ 0x39 := by
    simpa [Char.isDigit, UInt32.le_iff_toNat_le] using digit
  have contains : CodeRange.contains (0x30, 0x39) c = true := CodeRange.contains_iff.mpr bounds
  have found : CodeRange.find? digitRanges c = some (0x30, 0x39) :=
    List.find?_cons_of_pos contains
  rw [digitValue?, found, Option.map_some]
  exact congrArg some (Nat.mod_eq_of_lt (digit_bounds digit).1)

/-- The text of an integer is a numeral of it, unless it has too many digits. -/
theorem settingNumeral_intText {n : Int} (short : (natDigits n.natAbs).length ≤ digitLimit) :
    SettingNumeral (intText n).toList n := by
  have sign := sign_splitSign (intText n).toList
  rw [splitSign_intText] at sign
  have read : digitGroups? digitValue? (natDigits n.natAbs) =
      some ((natDigits n.natAbs).map fun c => c.toNat - '0'.toNat) :=
    digitGroups?_of_digits
      (fun c member => digitValue?_of_isDigit (isDigit_of_mem_natDigits member))
      rfl (natDigits_ne_nil _)
  have value : ofDigits ((natDigits n.natAbs).map fun c => c.toNat - '0'.toNat) = n.natAbs :=
    digitsValue_natDigits n.natAbs
  have numeral : SettingNumeral ([] ++ (intText n).toList ++ []) (withSign (decide (n < 0)) _) :=
    .mk nofun sign ((digitGroups?_eq_some_iff rfl).mp read) (by rwa [List.length_map]) nofun
  rwa [value, withSign_natAbs, List.nil_append, List.append_nil] at numeral

/-- The value of a numeral has no more digits than the numeral. -/
theorem SettingNumeral.length_le {text : List Char} {n : Int} (numeral : SettingNumeral text n) :
    (natDigits n.natAbs).length ≤ digitLimit := by
  cases numeral with
  | @mk _ _ _ _ _ digits _ _ grouped short _ =>
      have small := ofDigits_lt digits grouped.lt_ten
      have some_digit : 0 < digits.length := by cases grouped <;> exact Nat.succ_pos _
      rw [natAbs_withSign, natDigits_eq]
      exact Nat.le_trans ((Nat.length_toDigits_le_iff (by decide) some_digit).mpr small) short

end HttpGauge.Number
