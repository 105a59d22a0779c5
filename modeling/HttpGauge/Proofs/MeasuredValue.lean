import HttpGauge.Proofs.JsonBody
import HttpGauge.Proofs.Path.Composition

/-!
# The measured value

Which value of a document is measured: the first one that the leftmost segment selects which selects
any.  A literal selects its own text, so that a template which begins with one measures nothing
else.  Where a segment fails, wherever it stands, nothing is measured.
-/

namespace HttpGauge.Path

open HttpGauge.Path.Template

/-- A template with braces that does not begin with one begins with a literal: the text up to its
first brace. -/
theorem split_of_literal {text : List Char} {segments : List Segment}
    (braced : text.any isBrace = true) (begins : text.head? ≠ some '\x7b')
    (splits : split text = .ok segments) :
    ∃ later, segments = .literal (text.takeWhile fun c => !isBrace c) :: later := by
  rw [split, if_pos braced] at splits
  rcases scan_eq_ok_iff.mp splits with ⟨chunks, row, rfl, rfl⟩
  cases row with
  | none => contradiction
  | group balanced more =>
      rw [written_group] at begins
      exact absurd rfl begins
  | @literal literal chunks nonempty unbraced apart more =>
      have front : ∀ c ∈ literal, (!isBrace c) = true := by
        intro c member
        rw [unbraced c member]
        rfl
      have back : (written chunks).takeWhile (fun c => !isBrace c) = [] := by
        cases rest : written chunks with
        | nil => rfl
        | cons c later =>
            have brace := more.head?_written apart c (by rw [rest]; rfl)
            rw [List.takeWhile_cons_of_neg (by simp [brace])]
      refine ⟨chunks.map Chunk.segment, ?_⟩
      rw [written_literal, List.takeWhile_append_of_pos front, back, List.append_nil]
      rfl

end HttpGauge.Path

namespace HttpGauge

open HttpGauge.Json HttpGauge.Path

namespace Extractor

variable {language : PathLanguage} {template : String} {extractor : Extractor}
  {document value : Value} {sets : List (List Value)} {selectors : List Selector}

/-! ## Templates that begin with a literal -/

/-- Such a template compiles to the literal and what is behind it. -/
theorem selectors_of_literal (compiles : (compile language template).outcome = .ok extractor)
    (braced : template.toList.any isBrace = true)
    (begins : template.toList.head? ≠ some '\x7b') :
    ∃ later, extractor.selectors =
      .literal (String.ofList (template.toList.takeWhile fun c => !isBrace c)) :: later := by
  have nonempty : template ≠ "" := by
    rintro rfl
    contradiction
  rcases (outcome_compile_eq_ok_iff nonempty).mp compiles with ⟨segments, splits, selects, -⟩
  obtain ⟨rest, rfl⟩ := split_of_literal braced begins splits
  obtain ⟨first, later, same, -, joined⟩ :=
    List.forall₂_cons_left_iff.mp (mapM_eq_ok_iff.mp selects)
  cases same
  exact ⟨later, joined⟩

/-! ## The first value -/

/-- Every segment of a list that selects sets does select something. -/
theorem exists_selects (selected : List.Forall₂ (Selects document) selectors sets)
    {selector : Selector} (member : selector ∈ selectors) :
    ∃ values, Selects document selector values := by
  induction selected with
  | nil => contradiction
  | cons selects later ih =>
      rcases List.mem_cons.mp member with rfl | inLater
      · exact ⟨_, selects⟩
      · exact ih inLater

/-- A segment that selects nothing, or values of which one is the first. -/
theorem isFirst_cons_iff {values : List Value} :
    IsFirst value (values :: sets) ↔
      (∃ others, values = value :: others) ∨ (values = [] ∧ IsFirst value sets) := by
  rw [← firstValue?_eq_some_iff, ← firstValue?_eq_some_iff]
  cases values <;> simp [firstValue?]

/-- The first value of the leftmost segment that selects any. -/
def IsLeftmostMatch (document : Value) (selectors : List Selector) (value : Value) : Prop :=
  ∃ front selector back others, selectors = front ++ selector :: back ∧
    (∀ earlier ∈ front, select document earlier = .ok []) ∧
    select document selector = .ok (value :: others)

/-- It is that of the first segment, or, if this selects nothing, that of the others. -/
theorem isLeftmostMatch_cons_iff {first : Selector} {rest : List Selector} :
    IsLeftmostMatch document (first :: rest) value ↔
      (∃ others, select document first = .ok (value :: others)) ∨
        (select document first = .ok [] ∧ IsLeftmostMatch document rest value) := by
  constructor
  · rintro ⟨front, selector, back, others, same, nothing, selects⟩
    cases front with
    | nil =>
        cases same
        exact Or.inl ⟨others, selects⟩
    | cons earlier front =>
        cases same
        rcases List.forall_mem_cons.mp nothing with ⟨first, later⟩
        exact Or.inr ⟨first, front, selector, back, others, rfl, later, selects⟩
  · rintro (⟨others, selects⟩ | ⟨nothing, front, selector, back, others, rfl, later, selects⟩)
    · exact ⟨[], first, rest, others, rfl, by simp, selects⟩
    · exact ⟨first :: front, selector, back, others, rfl,
        List.forall_mem_cons.mpr ⟨nothing, later⟩, selects⟩

/-- The first value of all sets is that of the leftmost segment that selects any. -/
theorem isFirst_iff (selected : List.Forall₂ (Selects document) selectors sets) :
    IsFirst value sets ↔ IsLeftmostMatch document selectors value := by
  induction selected with
  | nil => simp [IsFirst, IsLeftmostMatch]
  | cons selects later ih =>
      rw [isFirst_cons_iff, isLeftmostMatch_cons_iff, ih, selects]
      simp

/-- There is no first value exactly when no segment selects any. -/
theorem firstValue?_eq_none_iff (selected : List.Forall₂ (Selects document) selectors sets) :
    firstValue? sets = none ↔ ∀ selector ∈ selectors, select document selector = .ok [] := by
  rw [firstValue?, List.head?_eq_none_iff, List.flatten_eq_nil_iff]
  induction selected with
  | nil => simp
  | cons selects later ih =>
      rw [List.forall_mem_cons, List.forall_mem_cons, ih, selects]
      simp

/-- An expression selects what its search finds. -/
theorem select_query_eq_ok_iff {search : Search} {values : List Value} :
    select document (.query search) = .ok values ↔ search document = .ok values := by
  cases found : search document <;> simp [select, found]

/-- No segment selects a value exactly when all are expressions that find none. -/
theorem forall_select_nil_iff {selectors : List Selector} :
    (∀ selector ∈ selectors, select document selector = .ok []) ↔
      (∀ text, .literal text ∉ selectors) ∧
        ∀ search, .query search ∈ selectors → search document = .ok [] := by
  constructor
  · intro nothing
    constructor
    · intro text member
      have selects := nothing _ member
      simp [select] at selects
    · exact fun search member => select_query_eq_ok_iff.mp (nothing _ member)
  · rintro ⟨noLiteral, nothing⟩ selector member
    cases selector with
    | literal text => exact absurd member (noLiteral text)
    | query search => exact select_query_eq_ok_iff.mpr (nothing search member)

/-- An extraction fails exactly when some segment does. -/
theorem find_fails_iff :
    (∃ failure, extractor.find document = .error failure) ↔
      ∃ selector ∈ extractor.selectors, ∃ failure, select document selector = .error failure := by
  constructor
  · rintro ⟨failure, failed⟩
    obtain ⟨selector, ⟨front, back, same, -, fails⟩, -⟩ := find_eq_error_iff.mp failed
    exact ⟨selector, by rw [same]; simp, fails⟩
  · rintro ⟨selector, member, failure, fails⟩
    cases found : extractor.find document with
    | error other => exact ⟨other, rfl⟩
    | ok sets =>
        obtain ⟨values, selects⟩ := exists_selects (find_eq_ok_iff.mp found) member
        rw [Selects, fails] at selects
        contradiction

end Extractor

/-! ## Measuring -/

namespace Response

open HttpGauge.Extractor

variable {language : PathLanguage} {template : String} {extractor : Extractor}
  {document : Value} {response : Response} {body : List UInt8}

/-- A judged value is no value that is missing. -/
theorem judgeValue_ne_noValue (evaluator : Evaluator) (metric : Metric) (value : Value) :
    judgeValue evaluator metric value ≠ .fail (.extraction .noValue) := by
  intro same
  unfold judgeValue at same
  cases long : value.hasLongInt with
  | true =>
      rw [long] at same
      cases congrArg Traced.outcome same
  | false =>
      rw [long] at same
      cases congrArg Traced.trace same

/-- Which value of a document is measured.  Where every segment succeeds, it is the first value of
the leftmost segment that selects any, and the literal that the template begins with if it begins
with one; it has to have a text to be judged.  There is no such value exactly when no segment is a
literal and no expression finds anything.  Where a segment fails, wherever it stands, the extraction
fails with what the path language says of the leftmost one that fails, and nothing is judged. -/
theorem classify_measures_leftmost
    (compiles : (compile language template).outcome = .ok extractor)
    (success : 200 ≤ response.status ∧ response.status < 300) (arrived : response.body = .ok body)
    (read : readBytes false body = .ok document) (evaluator : Evaluator) (metric : Metric) :
    ((∃ sets, extractor.find document = .ok sets) →
      (∀ value, IsLeftmostMatch document extractor.selectors value →
        response.classify extractor evaluator metric = judgeValue evaluator metric value) ∧
      (template.toList.any isBrace = true → template.toList.head? ≠ some '\x7b' →
        (response.classify extractor evaluator metric).trace.evaluations =
          [(.str (String.ofList (template.toList.takeWhile fun c => !isBrace c)), metric)]) ∧
      (response.classify extractor evaluator metric = .fail (.extraction .noValue) ↔
        (∀ text, .literal text ∉ extractor.selectors) ∧
          ∀ search, .query search ∈ extractor.selectors → search document = .ok [])) ∧
    ((∃ selector ∈ extractor.selectors, ∃ failure, select document selector = .error failure) →
      ∃ search reason, IsLeftmostFailing document extractor.selectors (.query search) ∧
        search document = .error reason ∧ response.classify extractor evaluator metric =
          .fail (.extraction (.pathFailed reason))) := by
  have classified : response.classify extractor evaluator metric =
      judgeDocument extractor evaluator metric document :=
    classify_of_document (isSuccess_iff.mpr success) arrived read
  rw [classified]
  constructor
  · rintro ⟨sets, found⟩
    have selected := find_eq_ok_iff.mp found
    have leftmost : ∀ value, IsLeftmostMatch document extractor.selectors value →
        judgeDocument extractor evaluator metric document = judgeValue evaluator metric value := by
      intro value isMatch
      have first := firstValue?_eq_some_iff.mpr ((isFirst_iff selected).mpr isMatch)
      rw [judgeDocument_of_found found, first]
    refine ⟨leftmost, ?_, ?_⟩
    · intro braced begins
      obtain ⟨later, same⟩ := selectors_of_literal compiles braced begins
      rw [leftmost _ ⟨[], _, later, [], same, by simp, rfl⟩]
      rfl
    · rw [← forall_select_nil_iff, ← firstValue?_eq_none_iff selected,
        judgeDocument_of_found found]
      cases firstValue? sets with
      | none => simp
      | some value => simp [judgeValue_ne_noValue]
  · intro fails
    obtain ⟨failure, failed⟩ := find_fails_iff.mpr fails
    obtain ⟨search, reason, isLeftmost, unapplied, rfl⟩ := find_eq_error_iff_search.mp failed
    have unmeasured : measured extractor document = .error (.extraction (.pathFailed reason)) := by
      rw [measured, failed]
    rw [judgeDocument_of_unmeasured unmeasured]
    exact ⟨search, reason, isLeftmost, unapplied, rfl⟩

/-- A segment that fails, behind a literal that would be measured. -/
theorem classify_measures_leftmost_of_failing :
    let query : Query :=
      .child (.child .root (.intersection (.fields ["a"]) .root)) (.fields ["b"])
    let selectors : List Selector := [.literal "x", .query query.search]
    let extractor : Extractor := ⟨"x\x7b$.a & $.b\x7d", selectors⟩
    let metric : Metric := ⟨"m", "", "", { url := "http://h/m" }⟩
    (compile Query.language "x\x7b$.a & $.b\x7d").outcome = .ok extractor ∧
      readBytes false [0x31] = .ok (.int 1) ∧
      IsLeftmostMatch (.int 1) selectors (.str "x") ∧
      ∃ reason, query.search (.int 1) = .error reason ∧
        classify ⟨200, .ok [0x31]⟩ extractor (fun _ _ => .ok (.phase .failed)) metric =
          .fail (.extraction (.pathFailed reason)) := by
  intro query selectors extractor metric
  have splits : split "x\x7b$.a & $.b\x7d".toList =
      .ok [.literal ['x'], .expression "$.a & $.b".toList] := rfl
  have compiled : List.Forall₂ (Segment.CompilesTo Query.language)
      [.literal ['x'], .expression "$.a & $.b".toList] selectors :=
    .cons rfl (.cons (.of_read read_intersection) .nil)
  have compiles : (compile Query.language "x\x7b$.a & $.b\x7d").outcome = .ok extractor :=
    (outcome_compile_eq_ok_iff (by decide)).mpr ⟨_, splits, mapM_eq_ok_iff.mpr compiled, rfl⟩
  have read : readBytes false [0x31] = .ok (.int 1) := by rfl
  have isMatch : IsLeftmostMatch (.int 1) selectors (.str "x") :=
    ⟨[], _, _, [], rfl, by simp, rfl⟩
  have fails : ∃ selector ∈ selectors, ∃ failure, select (.int 1) selector = .error failure :=
    ⟨.query query.search, List.mem_cons_of_mem _ (List.mem_singleton_self _), _, rfl⟩
  obtain ⟨search, reason, isLeftmost, unapplied, ended⟩ :=
    (@classify_measures_leftmost _ _ extractor (.int 1) ⟨200, .ok [0x31]⟩ [0x31] compiles
      (by decide) rfl read (fun _ _ => .ok (.phase .failed)) metric).2 fails
  have second : search = query.search := by
    rcases isLeftmostFailing_cons_iff.mp isLeftmost with ⟨same, -⟩ | ⟨-, later⟩
    · cases same
    · rcases isLeftmostFailing_cons_iff.mp later with ⟨same, -⟩ | ⟨-, front, back, none, -⟩
      · exact Selector.query.inj same
      · simp at none
  exact ⟨compiles, read, isMatch, reason, second ▸ unapplied, ended⟩

end Response

end HttpGauge
