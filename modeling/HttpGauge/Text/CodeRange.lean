/-!
# Intervals of code points

Character classes are tables of closed intervals of code points, in rising order.  This module
says what membership in such a table means.
-/

namespace HttpGauge.Text

/-- A closed interval of code points, given by its first and its last member. -/
abbrev CodeRange := Nat × Nat

namespace CodeRange

/-- A character lies in an interval when its code point is between the two ends. -/
def contains (range : CodeRange) (c : Char) : Bool :=
  range.1 ≤ c.toNat && c.toNat ≤ range.2

@[simp]
theorem contains_iff {range : CodeRange} {c : Char} :
    range.contains c = true ↔ range.1 ≤ c.toNat ∧ c.toNat ≤ range.2 := by
  simp [contains]

/-- The interval of a table that holds a character, if there is one. -/
def find? (table : List CodeRange) (c : Char) : Option CodeRange :=
  table.find? (·.contains c)

/-- A character belongs to a table when one of its intervals holds it. -/
def covers (table : List CodeRange) (c : Char) : Bool :=
  table.any (·.contains c)

theorem covers_iff {table : List CodeRange} {c : Char} :
    covers table c = true ↔ ∃ range ∈ table, range.1 ≤ c.toNat ∧ c.toNat ≤ range.2 := by
  simp [covers]

end CodeRange

end HttpGauge.Text
