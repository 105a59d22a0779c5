import HttpGauge.Number.Arithmetic

/-!
# Rounding keeps the order

Rounding leaves every double as it is, and no value gets past a double when it is rounded: what
is at most a double is rounded to at most that double.  So a comparison with a rounded result
says something about the exact one.
-/

namespace HttpGauge.Number

/-! ## Quotients -/

section Quotients

variable {num den k : Nat}

theorem div_le_roundHalfEven : num / den ≤ roundHalfEven num den := by
  unfold roundHalfEven
  dsimp only
  split
  · exact Nat.le_refl _
  · split
    · exact Nat.le_succ _
    · exact Nat.le_add_right _ _

theorem roundHalfEven_le_succ : roundHalfEven num den ≤ num / den + 1 := by
  unfold roundHalfEven
  dsimp only
  split
  · exact Nat.le_succ _
  · split
    · exact Nat.le_refl _
    · exact Nat.add_le_add_left (Nat.le_of_lt_succ (Nat.mod_lt _ (by decide))) _

/-- A natural number at least a quotient is at least the rounded quotient. -/
theorem roundHalfEven_le (pos : 0 < den) (le : num ≤ k * den) : roundHalfEven num den ≤ k := by
  have bound : num / den ≤ k := Nat.div_le_of_le_mul (Nat.mul_comm k den ▸ le)
  rcases Nat.lt_or_eq_of_le bound with less | same
  · exact Nat.le_trans roundHalfEven_le_succ less
  · have whole : num = k * den := by
      apply Nat.le_antisymm le
      rw [← same]
      exact Nat.div_mul_le_self num den
    exact Nat.le_of_eq (by rw [whole, roundHalfEven_mul k pos])

/-- Rounding keeps the order of quotients. -/
theorem roundHalfEven_mono {other : Nat} (le : num ≤ other) :
    roundHalfEven num den ≤ roundHalfEven other den := by
  rcases Nat.lt_or_eq_of_le (Nat.div_le_div_right le : num / den ≤ other / den) with less | same
  · exact Nat.le_trans roundHalfEven_le_succ (Nat.le_trans less div_le_roundHalfEven)
  · have rest : num % den ≤ other % den := by
      have first := Nat.div_add_mod num den
      have second := Nat.div_add_mod other den
      rw [same] at first
      omega
    unfold roundHalfEven
    dsimp only
    rw [same]
    by_cases down : 2 * (num % den) < den
    · rw [if_pos down]
      split
      · exact Nat.le_refl _
      · split <;> omega
    · rw [if_neg down, if_neg (show ¬ 2 * (other % den) < den by omega)]
      split
      · exact Nat.le_of_eq (if_pos (by omega)).symm
      · split <;> omega

end Quotients

namespace Binary64

/-! ## Binades -/

section Binades

variable {rank count : Nat}

/-- The ranks run on from one binade to the next. -/
theorem scale_mul_add_significand (rank : Nat) :
    scale rank * 2 ^ 52 + significand rank = rank := by
  unfold scale significand
  by_cases small : rank < 2 ^ 52
  · rw [if_pos small, if_pos small, Nat.zero_mul, Nat.zero_add]
  · rw [if_neg small, if_neg small]
    omega

theorem significand_lt (rank : Nat) : significand rank < 2 ^ 53 := by
  unfold significand
  split <;> omega

/-- Only the significands of the least binade are small. -/
theorem le_significand (scaled : 0 < scale rank) : 2 ^ 52 ≤ significand rank := by
  unfold scale at scaled
  unfold significand
  split at scaled
  · contradiction
  · rename_i large
    rw [if_neg large]
    exact Nat.le_add_right _ _

/-- A binade ends where the next one begins. -/
theorem next_binade (exponent : Nat) : 2 ^ 53 * 2 ^ exponent = 2 ^ 52 * 2 ^ (exponent + 1) := by
  rw [← Nat.pow_add, ← Nat.pow_add, Nat.add_comm exponent, ← Nat.add_assoc]

theorem nearestRank_one (count : Nat) :
    nearestRank count 1 =
      (count.log2 - 52) * 2 ^ 52 + roundHalfEven count (2 ^ (count.log2 - 52)) := by
  rw [nearestRank, Nat.div_one, Nat.one_mul]

/-- The spacing of the doubles around a count is fine enough for it. -/
theorem lt_mul_spacing (count : Nat) : count < 2 ^ 53 * 2 ^ (count.log2 - 52) := by
  rw [← Nat.pow_add]
  exact Nat.lt_of_lt_of_le Nat.lt_log2_self (Nat.pow_le_pow_right (by decide) (by omega))

/-- It is no finer than it has to be. -/
theorem mul_spacing_le (spaced : 0 < count.log2 - 52) :
    2 ^ 52 * 2 ^ (count.log2 - 52) ≤ count := by
  have nonzero : count ≠ 0 := by
    rintro rfl
    contradiction
  rw [← Nat.pow_add, Nat.add_sub_cancel' (by omega)]
  exact Nat.log2_self_le nonzero

/-- A count of at most the units of a rank is rounded to at most that rank. -/
theorem nearestRank_le (le : count ≤ units rank) : nearestRank count 1 ≤ rank := by
  have bound := significand_lt rank
  have fine := lt_mul_spacing count
  rw [nearestRank_one, ← scale_mul_add_significand rank]
  rw [units] at le
  rcases Nat.lt_trichotomy (count.log2 - 52) (scale rank) with below | same | above
  · have full := le_significand (Nat.lt_of_le_of_lt (Nat.zero_le _) below)
    have rounded := roundHalfEven_le (Nat.two_pow_pos _) (Nat.le_of_lt fine)
    omega
  · rw [same]
    exact Nat.add_le_add_left (roundHalfEven_le (Nat.two_pow_pos _) le) _
  · have coarse := mul_spacing_le (Nat.lt_of_le_of_lt (Nat.zero_le _) above)
    have contrary : count < count :=
      calc count ≤ significand rank * 2 ^ scale rank := le
        _ < 2 ^ 53 * 2 ^ scale rank := Nat.mul_lt_mul_of_pos_right bound (Nat.two_pow_pos _)
        _ = 2 ^ 52 * 2 ^ (scale rank + 1) := next_binade _
        _ ≤ 2 ^ 52 * 2 ^ (count.log2 - 52) :=
          Nat.mul_le_mul_left _ (Nat.pow_le_pow_right (by decide) above)
        _ ≤ count := coarse
    exact absurd contrary (Nat.lt_irrefl count)

/-- A quotient of at least the units of a rank is rounded to at least that rank. -/
theorem le_nearestRank_of_le_div {num den : Nat} (le : units rank ≤ num / den) :
    rank ≤ nearestRank num den := by
  have bound := significand_lt rank
  have fine := lt_mul_spacing (num / den)
  -- Rounding may only add to the whole part of the quotient.
  have whole : num / den / 2 ^ ((num / den).log2 - 52) ≤
      roundHalfEven num (den * 2 ^ ((num / den).log2 - 52)) := by
    rw [Nat.div_div_eq_div_mul]
    exact div_le_roundHalfEven
  have floor {k : Nat} (fits : k * 2 ^ ((num / den).log2 - 52) ≤ num / den) :=
    Nat.le_trans ((Nat.le_div_iff_mul_le (Nat.two_pow_pos _)).mpr fits) whole
  unfold nearestRank
  apply Nat.le_trans (Nat.le_of_eq (scale_mul_add_significand rank).symm)
  rw [units] at le
  rcases Nat.lt_trichotomy ((num / den).log2 - 52) (scale rank) with below | same | above
  · have full := le_significand (Nat.lt_of_le_of_lt (Nat.zero_le _) below)
    have contrary : num / den < num / den :=
      calc num / den < 2 ^ 53 * 2 ^ ((num / den).log2 - 52) := fine
        _ = 2 ^ 52 * 2 ^ ((num / den).log2 - 52 + 1) := next_binade _
        _ ≤ significand rank * 2 ^ scale rank :=
          Nat.mul_le_mul full (Nat.pow_le_pow_right (by decide) below)
        _ ≤ num / den := le
    exact absurd contrary (Nat.lt_irrefl _)
  · rw [← same] at le ⊢
    exact Nat.add_le_add_left (floor le) _
  · have coarse := floor (mul_spacing_le (Nat.lt_of_le_of_lt (Nat.zero_le _) above))
    dsimp only
    omega

/-- A count of at least the units of a rank is rounded to at least that rank. -/
theorem le_nearestRank (le : units rank ≤ count) : rank ≤ nearestRank count 1 := by
  apply le_nearestRank_of_le_div
  rwa [Nat.div_one]

/-- The units of a rank are rounded to that rank. -/
theorem nearestRank_units (rank : Nat) : nearestRank (units rank) 1 = rank :=
  Nat.le_antisymm (nearestRank_le (Nat.le_refl _)) (le_nearestRank (Nat.le_refl _))

/-- Rounding keeps the order of counts. -/
theorem nearestRank_mono {other : Nat} (le : count ≤ other) :
    nearestRank count 1 ≤ nearestRank other 1 := by
  have logs : count.log2 ≤ other.log2 := by
    by_cases zero : count = 0
    · rw [zero]
      exact Nat.zero_le _
    · exact (Nat.le_log2 (by omega)).mpr (Nat.le_trans (Nat.log2_self_le zero) le)
  rw [nearestRank_one, nearestRank_one]
  rcases Nat.lt_or_eq_of_le (Nat.sub_le_sub_right logs 52) with coarser | same
  · have low := roundHalfEven_le (Nat.two_pow_pos _) (Nat.le_of_lt (lt_mul_spacing count))
    have high : 2 ^ 52 ≤ roundHalfEven other (2 ^ (other.log2 - 52)) := by
      have least := mul_spacing_le (Nat.lt_of_le_of_lt (Nat.zero_le _) coarser)
      exact Nat.le_trans ((Nat.le_div_iff_mul_le (Nat.two_pow_pos _)).mpr least)
        div_le_roundHalfEven
    omega
  · rw [same]
    exact Nat.add_le_add_left (roundHalfEven_mono le) _

/-- A higher rank has at least as many units. -/
theorem units_mono {first second : Nat} (le : first ≤ second) : units first ≤ units second := by
  rcases Nat.lt_or_ge (units second) (units first) with less | done
  · have other := nearestRank_le (Nat.le_of_lt less)
    rw [nearestRank_units] at other
    exact Nat.le_of_eq (congrArg units (Nat.le_antisymm le other))
  · exact done

end Binades

/-! ## Doubles -/

/-- A place at which there is a double. -/
def IsDouble (place : Extended) : Prop :=
  ∃ x : Binary64, x.extended? = some place

/-- The place that lies so many whole numbers further on. -/
def Extended.add (n : Int) : Extended → Extended
  | .bottom => .bottom
  | .units count => .units (count + n * unitsPerOne)
  | .top => .top

theorem Extended.add_add (place : Extended) (first second : Int) :
    (place.add first).add second = place.add (first + second) := by
  cases place with
  | bottom => rfl
  | top => rfl
  | units count => rw [add, add, add, Int.add_assoc, ← Int.add_mul]

/-- Only finite doubles lie at whole numbers of units. -/
theorem exists_finite_of_extended? {x : Binary64} {count : Int}
    (place : x.extended? = some (.units count)) :
    ∃ negative rank, x = .finite negative rank ∧ signed negative (units rank) = count := by
  cases x with
  | nan => contradiction
  | infinite negative => cases negative <;> cases Option.some.inj place
  | finite negative rank => exact ⟨negative, rank, rfl, Extended.units.inj (Option.some.inj place)⟩

/-- Doubles compare as their places do. -/
theorem lt_eq {x y : Binary64} {first second : Extended} (placeFirst : x.extended? = some first)
    (placeSecond : y.extended? = some second) : x.lt y = first.lt second := by
  rw [lt, placeFirst, placeSecond]

/-- Only doubles that have places compare at all. -/
theorem places_of_lt {x y : Binary64} (below : x.lt y = true) :
    ∃ first second, x.extended? = some first ∧ y.extended? = some second ∧
      first.lt second = true := by
  unfold lt at below
  split at below
  · rename_i first second placeFirst placeSecond
    exact ⟨first, second, placeFirst, placeSecond, below⟩
  · contradiction

theorem natAbs_signed (negative : Bool) (size : Nat) : (signed negative size).natAbs = size := by
  cases negative <;> simp [signed]

/-- Anything but zero shows its sign. -/
theorem signed_lt_zero {negative : Bool} {size : Nat} (nonzero : signed negative size ≠ 0) :
    decide (signed negative size < 0) = negative := by
  cases negative with
  | false => simp [signed]
  | true =>
      simp only [signed, if_true, ne_eq, Int.neg_eq_zero, Int.natCast_eq_zero] at nonzero
      simp [signed, Nat.pos_of_ne_zero nonzero]

/-- The double of a rank that there is. -/
theorem ofRank_of_lt (negative : Bool) (rank : Fin finiteCount) :
    ofRank negative rank = .finite negative rank := by
  rw [ofRank, dif_pos rank.isLt]

section Rounded

variable {count value : Int} {zeroNegative : Bool}

/-- Rounding leaves doubles as they are. -/
theorem extended?_ofSignedUnits (double : IsDouble (.units count)) :
    (ofSignedUnits zeroNegative count 1).extended? = some (.units count) := by
  unfold ofSignedUnits
  by_cases zero : count = 0
  · rw [if_pos zero, zero]
    cases zeroNegative <;> rfl
  · rw [if_neg zero]
    obtain ⟨x, place⟩ := double
    obtain ⟨negative, rank, rfl, rfl⟩ := exists_finite_of_extended? place
    rw [signed_lt_zero zero, natAbs_signed, ofUnits, nearestRank_units, ofRank_of_lt]
    exact place

theorem not_lt_ofRank_true {x : Binary64} {rank : Nat} (place : x.extended? = some (.units value))
    (le : -(units rank : Int) ≤ value) : x.lt (ofRank true rank) = false := by
  unfold ofRank
  split
  · rw [lt_eq place rfl]
    exact decide_eq_false (Int.not_lt.mpr le)
  · rw [lt_eq place rfl]
    rfl

theorem not_lt_ofRank_false {x : Binary64} {rank : Nat} (place : x.extended? = some (.units value))
    (finite : rank < finiteCount) (le : (units rank : Int) ≤ value) :
    x.lt (ofRank false rank) = false := by
  rw [ofRank, dif_pos finite, lt_eq place rfl]
  exact decide_eq_false (Int.not_lt.mpr le)

/-- What is at most a double is rounded to at most that double. -/
theorem not_lt_ofSignedUnits {negative : Bool} {rank : Fin finiteCount}
    (le : count ≤ signed negative (units rank)) :
    (finite negative rank).lt (ofSignedUnits zeroNegative count 1) = false := by
  have place : (finite negative rank).extended? = some (.units (signed negative (units rank))) :=
    rfl
  unfold ofSignedUnits
  rcases Int.lt_trichotomy count 0 with below | zero | above
  · rw [if_neg (Int.ne_of_lt below), decide_eq_true below]
    apply not_lt_ofRank_true place
    cases negative with
    | false => simp [signed]
    | true =>
        have least : units rank ≤ count.natAbs := by
          simp only [signed, if_true] at le
          omega
        have sizes := units_mono (le_nearestRank least)
        simp only [signed, if_true]
        omega
  · rw [if_pos zero]
    rw [zero] at le
    cases zeroNegative with
    | true => exact not_lt_ofRank_true place (by simpa using le)
    | false => exact not_lt_ofRank_false place (by decide) (by simpa using le)
  · rw [if_neg (Int.ne_of_gt above), decide_eq_false (Int.lt_asymm above)]
    cases negative with
    | true =>
        simp only [signed, if_true] at le
        omega
    | false =>
        have most : count.natAbs ≤ units rank := by
          simp only [signed, Bool.false_eq_true, if_false] at le
          omega
        have ranks := nearestRank_le most
        apply not_lt_ofRank_false place (Nat.lt_of_le_of_lt ranks rank.isLt)
        exact Int.ofNat_le.mpr (units_mono ranks)

/-- A double below a rounded value is below the exact one. -/
theorem lt_of_lt_ofSignedUnits {x : Binary64}
    (below : x.lt (ofSignedUnits zeroNegative count 1) = true) :
    ∃ place, x.extended? = some place ∧ place.lt (.units count) = true := by
  obtain ⟨place, rounded, found, -, less⟩ := places_of_lt below
  refine ⟨place, found, ?_⟩
  cases place with
  | bottom => rfl
  | top => contradiction
  | units value =>
      rw [Extended.lt, decide_eq_true_eq]
      apply Int.not_le.mp
      intro le
      obtain ⟨negative, rank, rfl, rfl⟩ := exists_finite_of_extended? found
      rw [not_lt_ofSignedUnits le] at below
      contradiction

end Rounded

/-! ## Integers, sums and differences -/

theorem unitsPerOne_pos : 0 < unitsPerOne := by
  decide +kernel

theorem ofInt_eq (n : Int) : ofInt n = ofSignedUnits false (n * unitsPerOne) 1 := by
  have sign : n * unitsPerOne < 0 ↔ n < 0 := by
    constructor
    · intro less
      apply Int.not_le.mp
      intro nonneg
      exact Int.not_le.mpr less (Int.mul_nonneg nonneg (Int.natCast_nonneg _))
    · intro less
      exact Int.mul_neg_of_neg_of_pos less (Int.natCast_pos.mpr unitsPerOne_pos)
  unfold ofInt ofSignedUnits
  by_cases zero : n = 0
  · rw [zero]
    decide +kernel
  · have nonzero : n * unitsPerOne ≠ 0 :=
      Int.mul_ne_zero zero (Int.natCast_ne_zero.mpr (Nat.ne_of_gt unitsPerOne_pos))
    rw [if_neg nonzero, decide_eq_decide.mpr sign, Int.natAbs_mul, Int.natAbs_natCast]

/-- An integer that is a double is not rounded. -/
theorem extended?_ofInt {n : Int} (double : IsDouble (extendedOfInt n)) :
    (ofInt n).extended? = some (extendedOfInt n) := by
  rw [ofInt_eq]
  exact extended?_ofSignedUnits double

theorem ofInt_of_ofInt? {n : Int} {x : Binary64} (finite : ofInt? n = some x) : ofInt n = x := by
  rw [ofInt?] at finite
  by_cases isFinite : (ofInt n).isFinite = true
  · rw [if_pos isFinite] at finite
    exact Option.some.inj finite
  · rw [if_neg isFinite] at finite
    contradiction

/-- The least size of an integer that is rounded to an infinity: half way from the greatest double
to the power of two beyond it. -/
def overflowBound : Nat := 2 ^ 1024 - 2 ^ 970

/-- From its bound on an integer is beyond every double. -/
theorem finiteCount_le_nearestRank_iff {size : Nat} :
    finiteCount ≤ nearestRank (size * unitsPerOne) 1 ↔ overflowBound ≤ size := by
  have least : finiteCount ≤ nearestRank (overflowBound * unitsPerOne) 1 := by decide +kernel
  have below : nearestRank ((overflowBound - 1) * unitsPerOne) 1 < finiteCount := by
    decide +kernel
  generalize unitsPerOne = one at least below ⊢
  constructor
  · intro beyond
    apply Nat.le_of_not_lt
    intro less
    have fits := nearestRank_mono (Nat.mul_le_mul_right one (Nat.le_sub_one_of_lt less))
    exact Nat.not_lt_of_le beyond (Nat.lt_of_le_of_lt fits below)
  · intro large
    exact Nat.le_trans least (nearestRank_mono (Nat.mul_le_mul_right one large))

/-- An integer has no double exactly when it reaches the bound. -/
theorem ofInt?_eq_none_iff {n : Int} : ofInt? n = none ↔ overflowBound ≤ n.natAbs := by
  rw [← finiteCount_le_nearestRank_iff, ofInt?, ofInt, ofUnits]
  generalize nearestRank (n.natAbs * unitsPerOne) 1 = rank
  by_cases finite : rank < finiteCount
  · have isFinite : (ofRank (decide (n < 0)) rank).isFinite = true := by
      rw [ofRank, dif_pos finite]
      rfl
    rw [if_pos isFinite]
    simp [finite]
  · have infinite : ofRank (decide (n < 0)) rank = .infinite (decide (n < 0)) := by
      rw [ofRank, dif_neg finite]
    rw [infinite, if_neg (by exact Bool.false_ne_true)]
    simpa using Nat.le_of_not_lt finite

variable {x y z : Binary64} {n : Int}

/-- A sum with an integer that is a double is not rounded. -/
theorem extended?_add {place : Extended} (found : x.extended? = some place)
    (integer : y.extended? = some (extendedOfInt n)) (double : IsDouble (place.add n)) :
    (x.add y).extended? = some (place.add n) := by
  obtain ⟨negative, rank, rfl, value⟩ := exists_finite_of_extended? integer
  cases x with
  | nan => contradiction
  | infinite sign =>
      cases Option.some.inj found
      cases sign <;> rfl
  | finite sign other =>
      cases Option.some.inj found
      rw [Extended.add, ← value] at double ⊢
      exact extended?_ofSignedUnits double

theorem signed_not (negative : Bool) (size : Nat) :
    signed (!negative) size = -signed negative size := by
  cases negative <;> simp [signed]

/-- A double below the rounded difference of a double and an integer is below the exact one. -/
theorem lt_of_lt_sub (integer : z.extended? = some (extendedOfInt n))
    (below : x.lt (y.sub z) = true) :
    ∃ first second, x.extended? = some first ∧ y.extended? = some second ∧
      first.lt (second.add (-n)) = true := by
  obtain ⟨negative, rank, rfl, value⟩ := exists_finite_of_extended? integer
  cases y with
  | nan =>
      obtain ⟨-, second, -, nothing, -⟩ := places_of_lt below
      contradiction
  | infinite sign =>
      obtain ⟨first, second, found, place, less⟩ := places_of_lt below
      cases Option.some.inj place
      exact ⟨first, _, found, rfl, by cases sign <;> exact less⟩
  | finite sign other =>
      obtain ⟨first, found, less⟩ := lt_of_lt_ofSignedUnits below
      rw [signed_not, value] at less
      refine ⟨first, _, found, rfl, ?_⟩
      rw [Extended.add, Int.neg_mul]
      exact less

end Binary64

end HttpGauge.Number
