/-!
# Separated pieces

A text split at each occurrence of a character, and pieces joined by one.  Main statements: joining
undoes splitting, and splitting undoes joining as long as no piece holds the character.
-/

namespace HttpGauge.Text

/-- Put a character before the first piece. -/
def consPiece (c : Char) : List (List Char) → List (List Char)
  | [] => [[c]]
  | piece :: rest => (c :: piece) :: rest

/-- The pieces between the occurrences of a character. -/
def splitAt (separator : Char) : List Char → List (List Char)
  | [] => [[]]
  | c :: rest =>
      if c = separator then [] :: splitAt separator rest
      else consPiece c (splitAt separator rest)

/-- Join texts with a character between them. -/
def joinWith (separator : Char) : List (List Char) → List Char
  | [] => []
  | [piece] => piece
  | piece :: rest => piece ++ separator :: joinWith separator rest

/-- Pieces joined by a character are those joined by a text of one character. -/
theorem joinWith_eq_intercalate (separator : Char) (pieces : List (List Char)) :
    joinWith separator pieces = [separator].intercalate pieces := by
  induction pieces with
  | nil => rfl
  | cons piece later ih =>
      cases later with
      | nil => simp [joinWith]
      | cons next more =>
          rw [joinWith, ih, List.intercalate_cons_cons, List.append_assoc]
          · rfl
          · nofun

/-- There is always at least one piece. -/
theorem splitAt_ne_nil (separator : Char) (text : List Char) : splitAt separator text ≠ [] := by
  induction text with
  | nil => simp [splitAt]
  | cons c rest ih =>
      cases pieces : splitAt separator rest with
      | nil => exact absurd pieces ih
      | cons piece more => by_cases same : c = separator <;> simp [splitAt, consPiece, same, pieces]

/-- Joining undoes splitting. -/
theorem joinWith_splitAt (separator : Char) (text : List Char) :
    joinWith separator (splitAt separator text) = text := by
  induction text with
  | nil => rfl
  | cons c rest ih =>
      cases pieces : splitAt separator rest with
      | nil => exact absurd pieces (splitAt_ne_nil separator rest)
      | cons piece more =>
          rw [pieces] at ih
          by_cases same : c = separator
          · simp [splitAt, same, pieces, joinWith, ih]
          · cases more <;> simp_all [splitAt, consPiece, joinWith]

/-- A text without the separator is one piece. -/
theorem splitAt_of_notMem {separator : Char} {piece : List Char} (absent : separator ∉ piece) :
    splitAt separator piece = [piece] := by
  induction piece with
  | nil => rfl
  | cons c later ih =>
      rw [List.mem_cons, not_or] at absent
      obtain ⟨differ, more⟩ := absent
      rw [splitAt, if_neg (Ne.symm differ), ih more]
      rfl

/-- A piece ends at the first separator. -/
theorem splitAt_append {separator : Char} {piece : List Char} (absent : separator ∉ piece)
    (rest : List Char) :
    splitAt separator (piece ++ separator :: rest) = piece :: splitAt separator rest := by
  induction piece with
  | nil => rw [List.nil_append, splitAt, if_pos rfl]
  | cons c later ih =>
      rw [List.mem_cons, not_or] at absent
      obtain ⟨differ, more⟩ := absent
      rw [List.cons_append, splitAt, if_neg (Ne.symm differ), ih more]
      rfl

/-- Splitting undoes joining. -/
theorem splitAt_joinWith {separator : Char} {pieces : List (List Char)} (nonempty : pieces ≠ [])
    (absent : ∀ piece ∈ pieces, separator ∉ piece) :
    splitAt separator (joinWith separator pieces) = pieces := by
  induction pieces with
  | nil => exact absurd rfl nonempty
  | cons piece later ih =>
      obtain ⟨first, rest⟩ := List.forall_mem_cons.mp absent
      cases later with
      | nil => exact splitAt_of_notMem first
      | cons next more =>
          rw [joinWith, splitAt_append first, ih nofun rest]
          nofun

/-- A text up to its first separator, and what begins with the separator. -/
theorem takeWhile_append_separator {separator : Char} {front : List Char}
    (absent : separator ∉ front) (back : List Char) :
    (front ++ separator :: back).takeWhile (· != separator) = front ∧
      (front ++ separator :: back).dropWhile (· != separator) = separator :: back := by
  have differ : ∀ c ∈ front, (c != separator) = true := by
    intro c member
    rw [bne_iff_ne]
    rintro rfl
    exact absent member
  constructor
  · rw [List.takeWhile_append_of_pos differ, List.takeWhile_cons_of_neg (by simp),
      List.append_nil]
  · rw [List.dropWhile_append_of_pos differ, List.dropWhile_cons_of_neg (by simp)]

end HttpGauge.Text
