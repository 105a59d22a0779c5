import HttpGauge.Proofs.Course
import HttpGauge.Proofs.Extraction
import HttpGauge.Proofs.Json.Reading

/-!
# Bodies that are JSON

What becomes of the body of a success that is a JSON document in UTF-8.  Unless it holds an integer
that is too long to be converted, the body is never taken for a raw value: either no value is
extracted from it or the evaluator decides about the first one, if that has a text.
-/

namespace HttpGauge

open HttpGauge.Json HttpGauge.Number HttpGauge.Text

/-! ## Decided classifications -/

namespace Response

variable {response : Response} {extractor : Extractor} {evaluator : Evaluator} {metric : Metric}
  {text : List Char} {written : Value}

/-- The classification of a document is decided when no value is extracted, or when the first value
is evaluated and its verdict, or the failure to reach one, is the result. -/
def Decided (response : Response) (extractor : Extractor) (evaluator : Evaluator)
    (metric : Metric) (document : Value) : Prop :=
  (∃ fault, (response.classify extractor evaluator metric).outcome = .error (.extraction fault) ∧
    (response.classify extractor evaluator metric).trace.evaluations = []) ∨
  ∃ sets value, extractor.find document = .ok sets ∧ IsFirst value sets ∧
    (response.classify extractor evaluator metric).trace.evaluations = [(value, metric)] ∧
    (response.classify extractor evaluator metric).outcome =
      (evaluator.judge value metric).map (value.canonical.write .plain, ·)

/-- The first value that an extractor selects from a document, if it selects any, holds no integer
that is too long. -/
def MeasuresShort (extractor : Extractor) (document : Value) : Prop :=
  ∀ sets value, extractor.find document = .ok sets → IsFirst value sets → value.hasLongInt = false

/-- A document with an integer that is too long is taken for a raw value. -/
theorem classify_of_long (success : isSuccess response.status = true)
    (arrived : response.body = .ok (Utf8.encodeChars text))
    (document : Grammar.Document text written) (long : written.hasLongInt = true) :
    response.classify extractor evaluator metric =
      ⟨.ok (String.ofList text, .successful), rawTrace⟩ := by
  have read := document.readBytes_eq false
  rw [long] at read
  obtain ⟨reason, raw⟩ := read
  rw [classify_of_read success (readBody_eq_ok_iff.mpr arrived), judgeBody_of_raw raw,
    Utf8.decodeLossy_encodeChars]

/-- Whatever is read from a body is judged. -/
theorem classify_of_document {body : List UInt8} {document : Value}
    (success : isSuccess response.status = true) (arrived : response.body = .ok body)
    (read : readBytes false body = .ok document) :
    response.classify extractor evaluator metric =
      judgeDocument extractor evaluator metric document := by
  rw [classify_of_read success (readBody_eq_ok_iff.mpr arrived), judgeBody_of_document read]

/-- Any other document is judged. -/
theorem classify_of_short (success : isSuccess response.status = true)
    (arrived : response.body = .ok (Utf8.encodeChars text))
    (document : Grammar.Document text written) (short : written.hasLongInt = false) :
    response.classify extractor evaluator metric =
      judgeDocument extractor evaluator metric written.merged := by
  have read := document.readBytes_eq false
  rw [short] at read
  exact classify_of_document success arrived read

/-- A value is judged by the evaluator, unless it has no text. -/
def judgeValue (evaluator : Evaluator) (metric : Metric) (value : Value) :
    Traced (String × Phase) :=
  if value.hasLongInt then .fail (.internal .integerTooLong)
  else
    ⟨(evaluator.judge value metric).map (value.canonical.write .plain, ·),
      [.evaluated value metric]⟩

/-- A document is judged by the first value of the sets that are found in it. -/
theorem judgeDocument_of_found {document : Value} {sets : List (List Value)}
    (found : extractor.find document = .ok sets)
    (evaluator : Evaluator) (metric : Metric) :
    judgeDocument extractor evaluator metric document =
      match firstValue? sets with
      | none => .fail (.extraction .noValue)
      | some value => judgeValue evaluator metric value := by
  rw [judgeDocument, measured, found]
  dsimp only [firstValue]
  cases firstValue? sets with
  | none => rfl
  | some value =>
      dsimp only [canonicalText, judgeValue]
      cases value.hasLongInt <;> rfl

/-- Where a first value is found, it is the one that has to be short. -/
theorem measuresShort_iff {document value : Value} {sets : List (List Value)}
    (found : extractor.find document = .ok sets) (isFirst : IsFirst value sets) :
    MeasuresShort extractor document ↔ value.hasLongInt = false := by
  constructor
  · intro short
    exact short sets value found isFirst
  · intro short others other finds isFirstToo
    cases Except.ok.inj (found.symm.trans finds)
    rw [← firstValue?_eq_some_iff] at isFirst isFirstToo
    rw [← Option.some.inj (isFirst.symm.trans isFirstToo)]
    exact short

/-- The document is judged by its first value if that is short, or the failure to have one is the
result. -/
theorem judgeDocument_cases (extractor : Extractor) (evaluator : Evaluator) (metric : Metric)
    (document : Value) :
    (MeasuresShort extractor document ∧ ∃ fault,
      judgeDocument extractor evaluator metric document = .fail (.extraction fault)) ∨
    (MeasuresShort extractor document ∧ ∃ sets value, extractor.find document = .ok sets ∧
      IsFirst value sets ∧ judgeDocument extractor evaluator metric document =
        ⟨(evaluator.judge value metric).map (value.canonical.write .plain, ·),
          [.evaluated value metric]⟩) ∨
    (¬ MeasuresShort extractor document ∧
      judgeDocument extractor evaluator metric document = .fail (.internal .integerTooLong)) := by
  cases found : extractor.find document with
  | error failure =>
      rcases Extractor.find_error found with ⟨reason, rfl⟩
      have unmeasured : measured extractor document =
          .error (.extraction (.pathFailed reason)) := by
        rw [measured, found]
      rw [judgeDocument_of_unmeasured unmeasured]
      refine Or.inl ⟨?_, _, rfl⟩
      intro sets value finds
      rw [found] at finds
      contradiction
  | ok sets =>
      rw [judgeDocument_of_found found]
      cases selected : firstValue? sets with
      | none =>
          refine Or.inl ⟨?_, _, rfl⟩
          intro others value finds isFirst
          cases Except.ok.inj (found.symm.trans finds)
          rw [← firstValue?_eq_some_iff, selected] at isFirst
          contradiction
      | some value =>
          have isFirst := firstValue?_eq_some_iff.mp selected
          rw [measuresShort_iff found isFirst]
          dsimp only [judgeValue]
          cases value.hasLongInt with
          | true => exact Or.inr (Or.inr ⟨Bool.false_ne_true.symm, rfl⟩)
          | false => exact Or.inr (Or.inl ⟨rfl, sets, value, rfl, isFirst, rfl⟩)

/-- A body that is taken for a raw value is not decided. -/
theorem not_decided_of_raw {content : String} {document : Value}
    (raw : response.classify extractor evaluator metric =
      ⟨.ok (content, .successful), rawTrace⟩) :
    ¬ response.Decided extractor evaluator metric document := by
  unfold Decided
  rw [raw]
  rintro (⟨fault, ended, -⟩ | ⟨_, value, -, -, asked, -⟩)
  · contradiction
  · simp [rawTrace] at asked

/-- A body whose classification fails within is not decided. -/
theorem not_decided_of_internal {fault : InternalFault} {document : Value}
    (failed : response.classify extractor evaluator metric = .fail (.internal fault)) :
    ¬ response.Decided extractor evaluator metric document := by
  unfold Decided
  rw [failed]
  rintro (⟨other, ended, -⟩ | ⟨_, value, -, -, asked, -⟩)
  · cases ended
  · contradiction

/-- A document whose first value is too long is not judged. -/
theorem judgeDocument_of_not_measuresShort {document : Value}
    (long : ¬ MeasuresShort extractor document) :
    judgeDocument extractor evaluator metric document = .fail (.internal .integerTooLong) := by
  rcases judgeDocument_cases extractor evaluator metric document with
    ⟨short, -⟩ | ⟨short, -⟩ | ⟨-, failed⟩
  · exact absurd short long
  · exact absurd short long
  · exact failed

/-- A classification that judges a document is decided by its first value, unless that is too
long. -/
theorem decided_iff_measuresShort {document : Value}
    (classified : response.classify extractor evaluator metric =
      judgeDocument extractor evaluator metric document) :
    response.Decided extractor evaluator metric document ↔ MeasuresShort extractor document := by
  rcases judgeDocument_cases extractor evaluator metric document with
    ⟨short, fault, unmeasured⟩ | ⟨short, sets, value, found, isFirst, measured⟩ | ⟨beyond, failed⟩
  · rw [unmeasured] at classified
    refine iff_of_true (Or.inl ⟨fault, ?_, ?_⟩) short
    · rw [classified]
      rfl
    · rw [classified]
      rfl
  · rw [measured] at classified
    refine iff_of_true (Or.inr ⟨sets, value, found, isFirst, ?_, ?_⟩) short
    · rw [classified]
      rfl
    · rw [classified]
  · rw [failed] at classified
    exact iff_of_false (not_decided_of_internal classified) beyond

/-- What is measured of a document is the canonical text of the one value that is judged, and its
phase is the verdict on that. -/
theorem judgeDocument_eq_ok {document : Value} {content : String} {phase : Phase}
    (ends : (judgeDocument extractor evaluator metric document).outcome = .ok (content, phase)) :
    ∃ value, value.hasLongInt = false ∧ content = value.canonical.write .plain ∧
      evaluator.judge value metric = .ok phase ∧
      (judgeDocument extractor evaluator metric document).trace.evaluations =
        [(value, metric)] := by
  rcases judgeDocument_cases extractor evaluator metric document with
    ⟨-, fault, judged⟩ | ⟨short, sets, value, found, isFirst, judged⟩ | ⟨-, judged⟩
  · rw [judged] at ends
    cases ends
  · rw [judged] at ends ⊢
    cases verdict : evaluator.judge value metric with
    | error failure =>
        rw [verdict] at ends
        cases ends
    | ok other =>
        rw [verdict] at ends
        cases ends
        exact ⟨value, short sets value found isFirst, rfl, verdict, rfl⟩
  · rw [judged] at ends
    cases ends

/-- A document that is a body is decided unless it holds an integer that is too long or its first
value does.  In the first case the body is taken for a raw value, which is the only way in which it
is successful without the evaluator; in the second the classification fails within. -/
theorem decided_iff (success : 200 ≤ response.status ∧ response.status < 300)
    (arrived : response.body = .ok (Utf8.encodeChars text))
    (document : Grammar.Document text written) :
    (response.Decided extractor evaluator metric written.merged ↔
      written.hasLongInt = false ∧ MeasuresShort extractor written.merged) ∧
    (written.hasLongInt = true →
      response.classify extractor evaluator metric =
        ⟨.ok (String.ofList text, .successful), rawTrace⟩) ∧
    (written.hasLongInt = false → ¬ MeasuresShort extractor written.merged →
      response.classify extractor evaluator metric = .fail (.internal .integerTooLong)) ∧
    (written.hasLongInt = false → ∀ content,
      (response.classify extractor evaluator metric).outcome = .ok (content, .successful) →
        ∃ value, (response.classify extractor evaluator metric).trace.evaluations =
          [(value, metric)] ∧ evaluator.judge value metric = .ok .successful) := by
  have successful := isSuccess_iff.mpr success
  cases long : written.hasLongInt with
  | true =>
      have raw := @classify_of_long _ extractor evaluator metric _ _ successful arrived document
        long
      refine ⟨iff_of_false (not_decided_of_raw raw) ?_, fun _ => raw, ?_, ?_⟩
      · rintro ⟨short, -⟩
        contradiction
      · intro short
        contradiction
      · intro short
        contradiction
  | false =>
      have judged := @classify_of_short _ extractor evaluator metric _ _ successful arrived document
        long
      refine ⟨(decided_iff_measuresShort judged).trans (and_iff_right rfl).symm, ?_, ?_, ?_⟩
      · intro impossible
        contradiction
      · intro _ beyond
        rw [judged, judgeDocument_of_not_measuresShort beyond]
      · intro _ content ended
        rw [judged] at ended ⊢
        obtain ⟨value, -, -, verdict, asked⟩ := judgeDocument_eq_ok ended
        exact ⟨value, asked, verdict⟩

/-- The body of a single digit is decided. -/
theorem decided_of_digit :
    let response : Response := ⟨200, .ok (Utf8.encodeChars ['5'])⟩
    let extractor : Extractor := ⟨"\x7b$\x7d", [.query (Path.Query.search .root)]⟩
    let metric : Metric := ⟨"m", "", "", { url := "http://h/m" }⟩
    response.Decided extractor (fun _ _ => .ok (.phase .failed)) metric (.int 5) := by
  have document : Grammar.Document ['5'] (.int 5) :=
    .mk (.none _) (.number (.int false (.digits (by decide) (.last (by decide) [])))) (.none _)
  have short : MeasuresShort ⟨"\x7b$\x7d", [.query (Path.Query.search .root)]⟩ (.int 5) :=
    (measuresShort_iff rfl (firstValue?_eq_some_iff.mp rfl)).mpr (by decide)
  exact (decided_iff (by decide) rfl document).1.mpr ⟨by decide, short⟩

/-! ## Integers that are too long -/

theorem digits_nines (count : Nat) :
    Grammar.Digits (List.replicate (count + 1) '9') (List.replicate (count + 1) '9') [] := by
  induction count with
  | zero => exact .last (by decide) []
  | succ count ih => exact .more (by decide) ih

/-- However many nines are a document, but more of them than are converted are taken for a raw
value, whatever the evaluator says. -/
theorem successful_of_nines {count : Nat} (long : digitLimit < count + 1)
    (success : isSuccess response.status = true)
    (arrived : response.body = .ok (Utf8.encodeChars (List.replicate (count + 1) '9'))) :
    (∃ value, Grammar.Document (List.replicate (count + 1) '9') value) ∧
      response.classify extractor evaluator metric =
        ⟨.ok (String.ofList (List.replicate (count + 1) '9'), .successful), rawTrace⟩ := by
  have whole : Grammar.Whole (List.replicate (count + 1) '9') (List.replicate (count + 1) '9') [] :=
    .digits (by simp [List.replicate_succ]) (digits_nines count)
  have document := Grammar.Document.mk (.none _) (.number (.int false whole)) (.none [])
  refine ⟨⟨_, document⟩, classify_of_long success arrived document ?_⟩
  rw [Value.hasLongInt, whole.exceedsLimit_eq, List.length_replicate]
  exact decide_eq_true long

end Response

end HttpGauge
