import HttpGauge.Header

/-!
# The case of ASCII texts

Lowering and capitalizing texts of ASCII characters, and what becomes of the keys of headers: the
canonical form of a key has the letters of the key and depends on nothing else, so two keys have
the same canonical form exactly when they are equal but for their case.
-/

namespace HttpGauge.Text

/-! ## Characters -/

/-- A property of ASCII characters is checked one character after the other. -/
theorem ascii_forall (property : Char → Prop) (all : ∀ n, n < 0x80 → property (Char.ofNat n))
    {c : Char} (ascii : c.toNat < 0x80) : property c := by
  have holds := all c.toNat ascii
  rwa [Char.ofNat_toNat] at holds

theorem toLower_toUpper {c : Char} (ascii : c.toNat < 0x80) : c.toUpper.toLower = c.toLower :=
  ascii_forall (fun c => c.toUpper.toLower = c.toLower) (by decide +kernel) ascii

theorem toUpper_toLower {c : Char} (ascii : c.toNat < 0x80) : c.toLower.toUpper = c.toUpper :=
  ascii_forall (fun c => c.toLower.toUpper = c.toUpper) (by decide +kernel) ascii

theorem toLower_toLower {c : Char} (ascii : c.toNat < 0x80) : c.toLower.toLower = c.toLower :=
  ascii_forall (fun c => c.toLower.toLower = c.toLower) (by decide +kernel) ascii

theorem toLower_eq_hyphen_iff {c : Char} (ascii : c.toNat < 0x80) : c.toLower = '-' ↔ c = '-' :=
  ascii_forall (fun c => c.toLower = '-' ↔ c = '-') (by decide +kernel) ascii

theorem toLower_ascii {c : Char} (ascii : c.toNat < 0x80) : c.toLower.toNat < 0x80 :=
  ascii_forall (fun c => c.toLower.toNat < 0x80) (by decide +kernel) ascii

/-- No other character has an ASCII character as its lower case here. -/
theorem ascii_of_toLower {c : Char} (ascii : c.toLower.toNat < 0x80) : c.toNat < 0x80 := by
  unfold Char.toLower at ascii
  split at ascii
  · rename_i upper
    exact Nat.lt_of_le_of_lt (UInt32.le_iff_toNat_le.mp upper.2) (by decide)
  · exact ascii

/-! ## Texts -/

/-- A text of ASCII characters. -/
def IsAscii (text : List Char) : Prop :=
  ∀ c ∈ text, c.toNat < 0x80

instance (text : List Char) : Decidable (IsAscii text) :=
  decidable_of_iff (text.all (·.toNat < 0x80) = true) (by simp [IsAscii])

variable {text piece : List Char}

/-- A word with its first letter in upper case and the others in lower case. -/
theorem capitalizeChars_cons {c : Char} {rest : List Char} (ascii : IsAscii (c :: rest)) :
    capitalizeChars (c :: rest) = c.toUpper :: rest.map Char.toLower := by
  obtain ⟨head, tail⟩ := List.forall_mem_cons.mp ascii
  rw [capitalizeChars, titleChar_ascii head, lowerAfter_ascii _ tail]
  rfl

/-- Capitalizing changes nothing but the case. -/
theorem map_toLower_capitalizeChars (ascii : IsAscii piece) :
    (capitalizeChars piece).map Char.toLower = piece.map Char.toLower := by
  cases piece with
  | nil => rfl
  | cons c rest =>
      obtain ⟨head, tail⟩ := List.forall_mem_cons.mp ascii
      rw [capitalizeChars_cons ascii, List.map_cons, List.map_cons, toLower_toUpper head,
        List.map_map]
      congr 1
      exact List.map_congr_left fun d member => toLower_toLower (tail d member)

/-- Capitalizing does not look at the case. -/
theorem capitalizeChars_map_toLower (ascii : IsAscii piece) :
    capitalizeChars (piece.map Char.toLower) = capitalizeChars piece := by
  have lowered : IsAscii (piece.map Char.toLower) :=
    List.forall_mem_map.mpr fun d member => toLower_ascii (ascii d member)
  cases piece with
  | nil => rfl
  | cons c rest =>
      obtain ⟨head, tail⟩ := List.forall_mem_cons.mp ascii
      rw [List.map_cons] at lowered ⊢
      rw [capitalizeChars_cons lowered, capitalizeChars_cons ascii, toUpper_toLower head,
        List.map_map]
      congr 1
      exact List.map_congr_left fun d member => toLower_toLower (tail d member)

/-! ## Pieces -/

/-- Every character of a piece is one of the text. -/
theorem mem_of_mem_splitAt {separator c : Char} (member : piece ∈ splitAt separator text)
    (inside : c ∈ piece) : c ∈ text := by
  induction text generalizing piece with
  | nil =>
      rw [List.mem_singleton.mp member] at inside
      contradiction
  | cons d rest ih =>
      rw [splitAt] at member
      split at member
      · rcases List.mem_cons.mp member with rfl | later
        · contradiction
        · exact List.mem_cons_of_mem d (ih later inside)
      · obtain ⟨first, more, pieces⟩ := List.exists_cons_of_ne_nil (splitAt_ne_nil separator rest)
        rw [pieces] at member ih
        rcases List.mem_cons.mp member with rfl | later
        · rcases List.mem_cons.mp inside with rfl | further
          · exact List.mem_cons_self
          · exact List.mem_cons_of_mem d (ih List.mem_cons_self further)
        · exact List.mem_cons_of_mem d (ih (List.mem_cons_of_mem first later) inside)

/-- A map of characters that knows the separators keeps the pieces apart. -/
theorem splitAt_map {separator : Char} {f : Char → Char}
    (keeps : ∀ c ∈ text, f c = separator ↔ c = separator) :
    splitAt separator (text.map f) = (splitAt separator text).map (List.map f) := by
  induction text with
  | nil => rfl
  | cons c rest ih =>
      obtain ⟨head, tail⟩ := List.forall_mem_cons.mp keeps
      rw [List.map_cons, splitAt, splitAt, ih tail]
      by_cases same : c = separator
      · rw [if_pos (head.mpr same), if_pos same]
        rfl
      · rw [if_neg (mt head.mp same), if_neg same]
        cases splitAt separator rest <;> rfl

/-- A map of characters that keeps the separator maps what is joined. -/
theorem joinWith_map {separator : Char} {f : Char → Char} (keeps : f separator = separator)
    (pieces : List (List Char)) :
    joinWith separator (pieces.map (List.map f)) = (joinWith separator pieces).map f := by
  induction pieces with
  | nil => rfl
  | cons piece rest ih =>
      cases rest with
      | nil => rfl
      | cons next more =>
          calc joinWith separator ((piece :: next :: more).map (List.map f))
              = piece.map f ++ separator :: joinWith separator ((next :: more).map (List.map f)) :=
                rfl
            _ = piece.map f ++ separator :: (joinWith separator (next :: more)).map f := by rw [ih]
            _ = (piece ++ separator :: joinWith separator (next :: more)).map f := by
                rw [List.map_append, List.map_cons, keeps]

/-! ## Canonical keys -/

/-- The pieces of an ASCII text are ASCII texts. -/
theorem isAscii_of_mem_splitAt {separator : Char} (ascii : IsAscii text)
    (member : piece ∈ splitAt separator text) : IsAscii piece :=
  fun c inside => ascii c (mem_of_mem_splitAt member inside)

/-- The canonical form of a key has the letters of the key. -/
theorem map_toLower_canonicalKeyChars (ascii : IsAscii text) :
    (canonicalKeyChars text).map Char.toLower = text.map Char.toLower := by
  calc (canonicalKeyChars text).map Char.toLower
      = joinWith '-' ((splitAt '-' text).map (List.map Char.toLower ∘ capitalizeChars)) := by
        rw [canonicalKeyChars, ← joinWith_map (by decide), List.map_map]
    _ = joinWith '-' ((splitAt '-' text).map (List.map Char.toLower)) := by
        congr 1
        exact List.map_congr_left fun piece member =>
          map_toLower_capitalizeChars (isAscii_of_mem_splitAt ascii member)
    _ = text.map Char.toLower := by rw [joinWith_map (by decide), joinWith_splitAt]

/-- The canonical form of a key depends on nothing but its letters. -/
theorem canonicalKeyChars_map_toLower (ascii : IsAscii text) :
    canonicalKeyChars (text.map Char.toLower) = canonicalKeyChars text := by
  have keeps : ∀ c ∈ text, c.toLower = '-' ↔ c = '-' :=
    fun c member => toLower_eq_hyphen_iff (ascii c member)
  rw [canonicalKeyChars, canonicalKeyChars, splitAt_map keeps, List.map_map]
  congr 1
  exact List.map_congr_left fun piece member =>
    capitalizeChars_map_toLower (isAscii_of_mem_splitAt ascii member)

/-- The canonical form of an ASCII key is an ASCII text. -/
theorem isAscii_canonicalKeyChars (ascii : IsAscii text) : IsAscii (canonicalKeyChars text) := by
  intro c member
  have lowered : c.toLower ∈ text.map Char.toLower := by
    rw [← map_toLower_canonicalKeyChars ascii]
    exact List.mem_map_of_mem member
  obtain ⟨d, inside, same⟩ := List.mem_map.mp lowered
  apply ascii_of_toLower
  rw [← same]
  exact toLower_ascii (ascii d inside)

/-- The lower case of an ASCII string. -/
theorem lower_eq {key : String} (ascii : IsAscii key.toList) :
    lower key = String.ofList (key.toList.map Char.toLower) := by
  rw [lower, lowerChars, lowerAfter_ascii _ ascii]

end HttpGauge.Text

namespace HttpGauge

open HttpGauge.Text

/-- A key in canonical form, of ASCII characters. -/
structure IsCanonicalKey (key : String) : Prop where
  ascii : IsAscii key.toList
  fixed : canonicalKey key = key

theorem lower_canonicalKey {key : String} (ascii : IsAscii key.toList) :
    lower (canonicalKey key) = lower key := by
  have canonical : IsAscii (canonicalKey key).toList := by
    rw [canonicalKey, String.toList_ofList]
    exact isAscii_canonicalKeyChars ascii
  rw [lower_eq canonical, lower_eq ascii, canonicalKey, String.toList_ofList,
    map_toLower_canonicalKeyChars ascii]

/-- Keys that are equal but for their case have the same canonical form. -/
theorem canonicalKey_eq_of_lower_eq {first second : String} (asciiFirst : IsAscii first.toList)
    (asciiSecond : IsAscii second.toList) (same : lower first = lower second) :
    canonicalKey first = canonicalKey second := by
  rw [lower_eq asciiFirst, lower_eq asciiSecond, String.ofList_inj] at same
  rw [canonicalKey, canonicalKey, ← canonicalKeyChars_map_toLower asciiFirst, same,
    canonicalKeyChars_map_toLower asciiSecond]

/-- The canonical form of a key is one. -/
theorem isCanonicalKey_canonicalKey {key : String} (ascii : IsAscii key.toList) :
    IsCanonicalKey (canonicalKey key) := by
  have canonical : IsAscii (canonicalKey key).toList := by
    rw [canonicalKey, String.toList_ofList]
    exact isAscii_canonicalKeyChars ascii
  exact ⟨canonical, canonicalKey_eq_of_lower_eq canonical ascii (lower_canonicalKey ascii)⟩

/-- Canonical keys that are equal but for their case are equal. -/
theorem IsCanonicalKey.eq_of_lower_eq {first second : String} (canonical : IsCanonicalKey first)
    (other : IsCanonicalKey second) (same : lower first = lower second) : first = second := by
  rw [← canonical.fixed, ← other.fixed]
  exact canonicalKey_eq_of_lower_eq canonical.ascii other.ascii same

end HttpGauge
