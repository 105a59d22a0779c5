/-!
# Problems of a document

What does not fit in a document that should describe a metric, settings or a token, and where.
Checks of the parts of a document are independent, so all problems are reported, in the order of
the parts.
-/

namespace HttpGauge

section Presenting

variable {ε ε' α : Type} {present : ε → ε'}

@[simp]
theorem mapError_ok {result : α} :
    (Except.ok result : Except ε α).mapError present = .ok result :=
  rfl

@[simp]
theorem mapError_error {failure : ε} :
    (Except.error failure : Except ε α).mapError present = .error (present failure) :=
  rfl

end Presenting

end HttpGauge

namespace HttpGauge.Manifest

/-- What does not fit. -/
inductive Flaw where
  /-- A member that has to be there is not. -/
  | missing
  | notObject
  | notList
  | notString
  /-- Not a number nor a text for one. -/
  | notInt
  | intSyntax
  | fractional
  | notFinite
  /-- Not a truth value nor something for one. -/
  | notBool
  /-- A text or a number that is no truth value. -/
  | boolSyntax
  | unknownMethod
  | notGreater
  | unknownLevel
  | tooShort
  deriving DecidableEq, Repr

/-- The code of a flaw. -/
def Flaw.code : Flaw → String
  | .missing => "missing"
  | .notObject => "model_type"
  | .notList => "list_type"
  | .notString => "string_type"
  | .notInt => "int_type"
  | .intSyntax => "int_parsing"
  | .fractional => "int_from_float"
  | .notFinite => "finite_number"
  | .notBool => "bool_type"
  | .boolSyntax => "bool_parsing"
  | .unknownMethod => "enum"
  | .notGreater => "greater_than"
  | .unknownLevel => "value_error"
  | .tooShort => "string_too_short"

/-- A flaw with its place: the keys and positions that lead to it. -/
structure Problem where
  /-- The keys and positions, outermost first. -/
  location : List String
  flaw : Flaw
  deriving DecidableEq, Repr

/-- A place as one text. -/
def Problem.path (problem : Problem) : String :=
  ".".intercalate problem.location

/-- The number of problems of a subject, in words, and the report of them. -/
def summary (problems : List Problem) (subject report : String) : String :=
  let noun := if problems.length = 1 then " validation error for " else " validation errors for "
  toString problems.length ++ noun ++ subject ++ report

/-! ## Checks -/

/-- A part that fits, or all its problems. -/
abbrev Checked (α : Type) := Except (List Problem) α

namespace Checked

/-- One problem at the place of the part itself. -/
def fail {α : Type} (flaw : Flaw) : Checked α :=
  .error [⟨[], flaw⟩]

/-- The part of a document that a key or a position leads to. -/
def under {α : Type} (step : String) (part : Checked α) : Checked α :=
  part.mapError (List.map fun problem => { problem with location := step :: problem.location })

/-- A further part: the problems of both are kept. -/
def also {α β : Type} (sofar : Checked (α → β)) (part : Checked α) : Checked β :=
  match sofar, part with
  | .ok build, .ok value => .ok (build value)
  | .ok _, .error problems => .error problems
  | .error problems, .ok _ => .error problems
  | .error earlier, .error later => .error (earlier ++ later)

/-- A combination fits exactly when both parts do. -/
theorem also_eq_ok_iff {α β : Type} {sofar : Checked (α → β)} {part : Checked α} {result : β} :
    also sofar part = .ok result ↔
      ∃ build value, sofar = .ok build ∧ part = .ok value ∧ build value = result := by
  cases sofar <;> cases part <;> simp [also]

/-- What fits does so wherever it stands. -/
theorem under_eq_ok_iff {α : Type} {step : String} {part : Checked α} {result : α} :
    under step part = .ok result ↔ part = .ok result := by
  cases part <;> simp [under]

/-- Check the items of an array, each under its position. -/
def items {α β : Type} (check : α → Checked β) : Nat → List α → Checked (List β)
  | _, [] => .ok []
  | position, item :: rest =>
      also (also (.ok List.cons) (under (toString position) (check item)))
        (items check (position + 1) rest)

end Checked

end HttpGauge.Manifest
