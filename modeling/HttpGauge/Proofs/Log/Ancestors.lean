import HttpGauge.Log.Registry
import Mathlib.Data.List.TakeWhile

/-!
# Ancestors of loggers

The ancestors of a logger are looked for from the end of its name.  A dot that stands in front of
a dot is passed over, so that of a row of dots every second one counts.  Main statement: a word is
an ancestor of the names that go on behind it with an odd number of dots.
-/

namespace HttpGauge.Log

/-- A name goes on below a word, with one dot or any other odd number of them. -/
def IsBelow (word name : String) : Prop :=
  ∃ (pairs : Nat) (rest : List Char),
    name.toList = word.toList ++ List.replicate (2 * pairs + 1) '.' ++ rest ∧
      rest.head? ≠ some '.'

/-- A name is a word, or below it. -/
def IsWithin (word name : String) : Prop :=
  name = word ∨ IsBelow word name

variable {word name : String}

/-- An ancestor is found in front of an odd number of dots. -/
theorem exists_of_mem_namesBefore (reversed : List Char) (member : word ∈ namesBefore reversed) :
    ∃ (pairs : Nat) (front : List Char),
      reversed = front ++ List.replicate (2 * pairs + 1) '.' ++ word.toList.reverse ∧
        front.getLast? ≠ some '.' := by
  induction reversed using namesBefore.induct with
  | case1 c rest ih =>
      rw [namesBefore, List.mem_cons] at member
      obtain rfl | later := member
      · exact ⟨0, [], by simp, by simp⟩
      · obtain ⟨pairs, front, rfl, last⟩ := ih later
        by_cases empty : front = []
        · subst empty
          by_cases dot : c = '.'
          · exact ⟨pairs + 1, [], by simp [dot, List.replicate_succ, Nat.mul_add], by simp⟩
          · exact ⟨pairs, ['.', c], by simp, by simpa using dot⟩
        · refine ⟨pairs, '.' :: c :: front, by simp, ?_⟩
          rwa [List.getLast?_cons_of_ne_nil (by simp), List.getLast?_cons_of_ne_nil empty]
  | case2 c rest other ih =>
      rw [namesBefore] at member
      · obtain ⟨pairs, front, rfl, last⟩ := ih member
        by_cases empty : front = []
        · subst empty
          have plain : c ≠ '.' := fun dot => other '.' _ dot (by simp [List.replicate_succ]; rfl)
          exact ⟨pairs, [c], by simp, by simpa using plain⟩
        · refine ⟨pairs, c :: front, by simp, ?_⟩
          rwa [List.getLast?_cons_of_ne_nil empty]
      · exact other
  | case3 => simp [namesBefore] at member

/-- What stands in front of an odd number of dots is found. -/
theorem mem_namesBefore (filled : word.toList ≠ []) (pairs : Nat) (front reversed : List Char)
    (row : reversed = front ++ List.replicate (2 * pairs + 1) '.' ++ word.toList.reverse)
    (last : front.getLast? ≠ some '.') : word ∈ namesBefore reversed := by
  induction reversed using namesBefore.induct generalizing pairs front with
  | case1 c rest ih =>
      rw [namesBefore, List.mem_cons]
      cases front with
      | nil =>
          cases pairs with
          | zero =>
              have same : c :: rest = word.toList.reverse := by simpa using row
              exact Or.inl (by simp [same])
          | succ pairs =>
              have tail : rest = List.replicate (2 * pairs + 1) '.' ++ word.toList.reverse := by
                simpa [List.replicate_succ, Nat.mul_add] using
                  (List.cons.inj (List.cons.inj row).2).2
              exact Or.inr (ih pairs [] tail (by simp))
      | cons first front =>
          obtain ⟨rfl, tail⟩ := List.cons.inj row
          cases front with
          | nil => simp at last
          | cons second front =>
              refine Or.inr (ih pairs front (List.cons.inj tail).2 fun ends => last ?_)
              simp [List.getLast?_cons, ends]
  | case2 c rest other ih =>
      rw [namesBefore]
      · cases front with
        | nil =>
            obtain ⟨rfl, tail⟩ := List.cons.inj row
            have left : rest ≠ [] := by simp [tail, filled]
            obtain ⟨second, behind, rfl⟩ := List.exists_cons_of_ne_nil left
            exact (other second behind rfl rfl).elim
        | cons first front =>
            refine ih pairs front (List.cons.inj row).2 fun ends => last ?_
            simp [List.getLast?_cons, ends]
      · exact other
  | case3 => simp at row

/-- The ancestors of a logger are the words that its name is below. -/
theorem mem_ancestors_iff (named : word ≠ "") : word ∈ ancestors name ↔ IsBelow word name := by
  have filled : word.toList ≠ [] := by simpa using named
  constructor
  · intro member
    obtain ⟨pairs, front, row, last⟩ := exists_of_mem_namesBefore name.toList.reverse member
    refine ⟨pairs, front.reverse, ?_, by simpa using last⟩
    simpa using congrArg List.reverse row
  · rintro ⟨pairs, rest, row, head⟩
    apply mem_namesBefore filled pairs rest.reverse
    · simp [row]
    · simpa using head

/-- A logger and its ancestors are the words that its name is within. -/
theorem mem_chain_iff (named : word ≠ "") :
    word ∈ name :: ancestors name ↔ IsWithin word name := by
  rw [List.mem_cons, mem_ancestors_iff named, IsWithin, eq_comm]

/-- A word without dots is what a name within it has in front of its first dot. -/
theorem IsWithin.takeWhile_eq (within : IsWithin word name) (dotless : '.' ∉ word.toList) :
    name.toList.takeWhile (· != '.') = word.toList := by
  have plain : ∀ c ∈ word.toList, (c != '.') = true := by
    intro c member
    simpa using fun dot : c = '.' => dotless (dot ▸ member)
  obtain rfl | ⟨pairs, rest, row, -⟩ := within
  · exact List.takeWhile_eq_self_iff.mpr plain
  · rw [row, List.append_assoc, List.takeWhile_append_of_pos plain]
    simp [List.replicate_succ]

/-- A name is within at most one word without dots. -/
theorem IsWithin.unique {other : String} (within : IsWithin word name)
    (withinToo : IsWithin other name) (dotless : '.' ∉ word.toList)
    (dotlessToo : '.' ∉ other.toList) : other = word :=
  String.toList_injective
    ((withinToo.takeWhile_eq dotlessToo).symm.trans (within.takeWhile_eq dotless))

end HttpGauge.Log
