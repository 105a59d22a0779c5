import HttpGauge.Proofs.Json.WrittenNumbers
import Mathlib.Data.List.TakeWhile

/-!
# Numerals are read back

The text of an integer is a numeral, and a manifest reads it as the integer: plain digits are digit
groups without underscores, the sign stands before them, and no fraction follows.
-/

namespace HttpGauge.Number

open HttpGauge.Json HttpGauge.Json.Grammar

/-- Digits without underscores are read one by one. -/
theorem digitGroups?_of_digits {value? : Char → Option Nat} {value : Char → Nat}
    {digits : List Char} (each : ∀ c ∈ digits, value? c = some (value c))
    (noDigit : value? '_' = none) (nonempty : digits ≠ []) :
    digitGroups? value? digits = some (digits.map value) := by
  induction digits with
  | nil => exact absurd rfl nonempty
  | cons c later ih =>
      obtain ⟨first, rest⟩ := List.forall_mem_cons.mp each
      cases later with
      | nil => rw [digitGroups?, first]; rfl
      | cons next more =>
          have plain : next ≠ '_' := by
            rintro rfl
            have digit := rest '_' List.mem_cons_self
            rw [noDigit] at digit
            cases digit
          rw [digitGroups?, first, ih rest nofun]
          · rfl
          · nofun
          -- The character after the first one is no underscore.
          · exact fun _ same => plain (List.cons.inj same).1

theorem asciiDigitValue?_of_isDigit {c : Char} (digit : c.isDigit = true) :
    asciiDigitValue? c = some (c.toNat - '0'.toNat) := by
  rw [asciiDigitValue?, if_pos]
  simpa [Char.isDigit, Char.le_def] using digit

/-- The text of an integer is the sign of a negative number, and its digits. -/
theorem splitSign_intText (n : Int) :
    splitSign (intText n).toList = (decide (n < 0), natDigits n.natAbs) := by
  rw [intText_eq]
  by_cases negative : n < 0
  · rw [decide_eq_true negative]
    rfl
  · have noSign {sign : Char} {later : List Char} (same : natDigits n.natAbs = sign :: later) :
        sign.isDigit = true :=
      isDigit_of_mem_natDigits (same ▸ List.mem_cons_self)
    rw [decide_eq_false negative, withMinus, if_neg Bool.false_ne_true, splitSign]
    · intro later same
      exact absurd (noSign same) (by decide)
    · intro later same
      exact absurd (noSign same) (by decide)

/-- The text of an integer is the integer's numeral, unless it has too many digits. -/
theorem manifestInt?_intText {n : Int} (short : (natDigits n.natAbs).length ≤ digitLimit) :
    manifestInt? (intText n) = some n := by
  have ascii : ∀ c ∈ natDigits n.natAbs, c.isDigit = true := fun _ => isDigit_of_mem_natDigits
  have noPoint : ∀ c ∈ natDigits n.natAbs, (c != '.') = true := by
    intro c member
    rw [bne_iff_ne]
    rintro rfl
    exact absurd (ascii _ member) (by decide)
  have whole : (natDigits n.natAbs).takeWhile (· != '.') = natDigits n.natAbs :=
    List.takeWhile_eq_self_iff.mpr noPoint
  have fraction : (natDigits n.natAbs).dropWhile (· != '.') = [] :=
    List.dropWhile_eq_nil_iff.mpr noPoint
  have read : digitGroups? asciiDigitValue? (natDigits n.natAbs) =
      some ((natDigits n.natAbs).map fun c => c.toNat - '0'.toNat) :=
    digitGroups?_of_digits (fun c member => asciiDigitValue?_of_isDigit (ascii c member)) rfl
      (natDigits_ne_nil _)
  have spelled : ofDigits ((natDigits n.natAbs).map fun c => c.toNat - '0'.toNat) = n.natAbs :=
    digitsValue_natDigits n.natAbs
  rw [manifestInt?, splitSign_intText]
  dsimp only
  rw [whole, fraction, read]
  dsimp only
  rw [spelled, withSign_natAbs, List.length_map, if_pos]
  simpa using short

/-- Zero has a digit in its text, and every other number has those that it counts. -/
theorem digitCount_le_length_natDigits (n : Nat) :
    Binary64.digitCount n ≤ (natDigits n).length := by
  unfold Binary64.digitCount
  split
  · exact Nat.zero_le _
  · exact Nat.le_of_eq (congrArg List.length (natDigits_eq n).symm)

end HttpGauge.Number
