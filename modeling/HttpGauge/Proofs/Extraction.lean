import HttpGauge.Extractor
import Mathlib.Data.List.Permutation

/-!
# Compiling templates and extracting values

A template compiles when it is split and each of its expressions is one of the path language.  An
extraction goes through the segments from the left: it has one set of values for each of them, or
the failure of the first one that fails, which is an expression that cannot be applied to the
document.
-/

namespace HttpGauge.Extractor

open HttpGauge.Json HttpGauge.Path HttpGauge.Text

variable {language : PathLanguage} {template : String} {extractor : Extractor}
  {document : Value} {selector : Selector} {failure : Failure}

/-! ## Going through a list -/

/-- Results are found for a list when they are found one by one. -/
theorem mapM_eq_ok_iff {ε α β : Type} {find : α → Except ε β} {elements : List α}
    {results : List β} :
    elements.mapM find = .ok results ↔
      List.Forall₂ (fun element result => find element = .ok result) elements results := by
  induction elements generalizing results with
  | nil => simp [pure, Except.pure, eq_comm]
  | cons element rest ih =>
      rw [List.mapM_cons]
      cases found : find element with
      | error failure => cases results <;> simp [bind, Except.bind, found]
      | ok result =>
          cases later : rest.mapM find with
          | error failure => cases results <;> simp [bind, Except.bind, ← ih, later]
          | ok others =>
              cases results <;>
                simp [bind, Except.bind, pure, Except.pure, ← ih, later, found]

/-! ## Compilation -/

/-- Only the empty template stands for another one. -/
theorem outcome_compile (nonempty : template ≠ "") :
    (compile language template).outcome =
      (ofTemplate language template).mapError .configuration := by
  have given : template.isEmpty = false := by simpa using nonempty
  rw [compile, given, if_neg Bool.false_ne_true]
  cases ofTemplate language template <;> rfl

/-- A template compiles segment by segment. -/
theorem outcome_compile_eq_ok_iff (nonempty : template ≠ "") :
    (compile language template).outcome = .ok extractor ↔
      ∃ segments, split template.toList = .ok segments ∧
        segments.mapM (Segment.compile language) = .ok extractor.selectors ∧
        extractor.template = template := by
  rw [outcome_compile nonempty, ofTemplate]
  cases split template.toList with
  | error imbalance => cases imbalance <;> simp
  | ok segments =>
      cases compiled : segments.mapM (Segment.compile language) with
      | error reason => simp [compiled]
      | ok selectors =>
          constructor
          · intro same
            simp only [compiled, mapError_ok] at same
            cases same
            exact ⟨segments, rfl, compiled, rfl⟩
          · rintro ⟨_, same, selects, rfl⟩
            cases same
            simp only [compiled, mapError_ok]
            rw [compiled] at selects
            cases selects
            rfl

/-- A template that is a single expression compiles when its text is read. -/
theorem outcome_compile_expression {text : List Char} (nonempty : template ≠ "")
    (splits : split template.toList = .ok [.expression text]) :
    (compile language template).outcome =
      match language.read (normalize text) with
      | .ok search => .ok ⟨template, [.query search]⟩
      | .error reason => .error (.configuration (.invalidPath template reason)) := by
  rw [outcome_compile nonempty, ofTemplate, splits]
  have single : [Segment.expression text].mapM (Segment.compile language) =
      (language.read (normalize text)).map fun search => [.query search] := by
    rw [List.mapM_cons, List.mapM_nil, Segment.compile]
    cases language.read (normalize text) <;> rfl
  simp only [single]
  cases language.read (normalize text) <;> rfl

/-- An intersection binds tighter than the steps before and behind it. -/
theorem read_intersection : Query.language.read (normalize "$.a & $.b".toList) =
    .ok (Query.search (.child (.child .root (.intersection (.fields ["a"]) .root))
      (.fields ["b"]))) := by
  have read : Query.read (normalize "$.a & $.b".toList) =
      some (.child (.child .root (.intersection (.fields ["a"]) .root)) (.fields ["b"])) := by cbv
  exact Query.read_language_eq_ok_iff.mpr ⟨_, read, rfl⟩

/-! ## Segments that fail -/

/-- A segment that fails is an expression that cannot be applied, with the reason for it. -/
theorem select_eq_error_iff :
    select document selector = .error failure ↔
      ∃ search reason, selector = .query search ∧ search document = .error reason ∧
        failure = .extraction (.pathFailed reason) := by
  cases selector with
  | literal text => simp [select]
  | query search =>
      cases applied : search document <;> simp [select, applied, eq_comm]

/-! ## Extraction -/

/-- The leftmost segment that fails on a document. -/
def IsLeftmostFailing (document : Value) (selectors : List Selector) (selector : Selector) :
    Prop :=
  ∃ front back, selectors = front ++ selector :: back ∧
    (∀ earlier ∈ front, ∃ values, select document earlier = .ok values) ∧
    ∃ failure, select document selector = .error failure

/-- The leftmost segment that fails is the first one, or it is so among the others. -/
theorem isLeftmostFailing_cons_iff {first : Selector} {rest : List Selector} :
    IsLeftmostFailing document (first :: rest) selector ↔
      (selector = first ∧ ∃ failure, select document first = .error failure) ∨
        (∃ values, select document first = .ok values) ∧
          IsLeftmostFailing document rest selector := by
  constructor
  · rintro ⟨front, back, same, succeeds, fails⟩
    cases front with
    | nil =>
        cases same
        exact Or.inl ⟨rfl, fails⟩
    | cons earlier front =>
        cases same
        rcases List.forall_mem_cons.mp succeeds with ⟨succeeds, later⟩
        exact Or.inr ⟨succeeds, front, back, rfl, later, fails⟩
  · rintro (⟨rfl, fails⟩ | ⟨succeeds, front, back, rfl, later, fails⟩)
    · exact ⟨[], rest, rfl, by simp, fails⟩
    · exact ⟨first :: front, back, rfl, List.forall_mem_cons.mpr ⟨succeeds, later⟩, fails⟩

/-- Segments fail if the first one does, or else the others. -/
theorem mapM_select_cons_eq_error_iff {first : Selector} {rest : List Selector} :
    (first :: rest).mapM (select document) = .error failure ↔
      select document first = .error failure ∨
        (∃ values, select document first = .ok values) ∧
          rest.mapM (select document) = .error failure := by
  rw [List.mapM_cons]
  cases select document first with
  | error other => simp [bind, Except.bind]
  | ok values =>
      cases rest.mapM (select document) <;> simp [bind, Except.bind, pure, Except.pure]

/-- The failure of an extraction is that of the leftmost segment that fails. -/
theorem find_eq_error_iff :
    extractor.find document = .error failure ↔
      ∃ selector, IsLeftmostFailing document extractor.selectors selector ∧
        select document selector = .error failure := by
  unfold find
  generalize extractor.selectors = selectors
  induction selectors with
  | nil =>
      constructor
      · intro failed
        contradiction
      · rintro ⟨selector, ⟨front, back, same, -⟩, -⟩
        simp at same
  | cons first rest ih =>
      rw [mapM_select_cons_eq_error_iff, ih]
      constructor
      · rintro (fails | ⟨succeeds, selector, leftmost, fails⟩)
        · exact ⟨first, isLeftmostFailing_cons_iff.mpr (Or.inl ⟨rfl, failure, fails⟩), fails⟩
        · exact ⟨selector, isLeftmostFailing_cons_iff.mpr (Or.inr ⟨succeeds, leftmost⟩), fails⟩
      · rintro ⟨selector, leftmost, fails⟩
        rcases isLeftmostFailing_cons_iff.mp leftmost with ⟨rfl, -⟩ | ⟨succeeds, leftmost⟩
        · exact Or.inl fails
        · exact Or.inr ⟨succeeds, selector, leftmost, fails⟩

/-- The failure of an extraction is what the path language says of the leftmost segment that
fails. -/
theorem find_eq_error_iff_search :
    extractor.find document = .error failure ↔
      ∃ search reason, IsLeftmostFailing document extractor.selectors (.query search) ∧
        search document = .error reason ∧ failure = .extraction (.pathFailed reason) := by
  rw [find_eq_error_iff]
  constructor
  · rintro ⟨selector, leftmost, fails⟩
    rcases select_eq_error_iff.mp fails with ⟨search, reason, rfl, unapplied, same⟩
    exact ⟨search, reason, leftmost, unapplied, same⟩
  · rintro ⟨search, reason, leftmost, unapplied, same⟩
    exact ⟨.query search, leftmost, select_eq_error_iff.mpr ⟨search, reason, rfl, unapplied, same⟩⟩

/-- An extraction that fails has a reason. -/
theorem find_error (failed : extractor.find document = .error failure) :
    ∃ reason, failure = .extraction (.pathFailed reason) := by
  rcases find_eq_error_iff_search.mp failed with ⟨_, reason, -, -, same⟩
  exact ⟨reason, same⟩

/-- A segment selects values in a document. -/
def Selects (document : Value) (selector : Selector) (values : List Value) : Prop :=
  select document selector = .ok values

/-- An extraction succeeds with what the segments select, one by one. -/
theorem find_eq_ok_iff {sets : List (List Value)} :
    extractor.find document = .ok sets ↔
      List.Forall₂ (Selects document) extractor.selectors sets :=
  mapM_eq_ok_iff

/-- An extraction has one set for each segment. -/
theorem length_of_find {sets : List (List Value)} (found : extractor.find document = .ok sets) :
    sets.length = extractor.selectors.length :=
  (find_eq_ok_iff.mp found).length_eq.symm

/-- A single segment gives a single set. -/
theorem find_single (template : String) (selector : Selector) (document : Value) :
    find ⟨template, [selector]⟩ document =
      (select document selector).map fun values => [values] := by
  rw [find, List.mapM_cons, List.mapM_nil]
  cases select document selector <;> rfl

/-- The segments of two extractors select what both select, in turn. -/
theorem find_append {first second whole : Extractor}
    (joined : whole.selectors = first.selectors ++ second.selectors) (document : Value) :
    whole.find document =
      (first.find document).bind fun front => (second.find document).map (front ++ ·) := by
  rw [find, joined, List.mapM_append]
  rfl

end HttpGauge.Extractor
