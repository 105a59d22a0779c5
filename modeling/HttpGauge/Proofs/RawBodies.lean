import HttpGauge.Proofs.Json.Recognition
import HttpGauge.Proofs.JsonBody

/-!
# Bodies that are no JSON

What becomes of the body of a success that is text in UTF-8 and no JSON document: the text itself is
the value, to the byte, and it is successful whatever the path and the conditions of the metric ask
for.  The only documents that share this are those with an integer that is too long.
-/

namespace HttpGauge.Response

open HttpGauge.Json HttpGauge.Text

/-- A document that is judged does not leave the trace of a raw value. -/
theorem judgeDocument_ne_raw (extractor : Extractor) (evaluator : Evaluator) (metric : Metric)
    (document : Value) (content : String) :
    judgeDocument extractor evaluator metric document ≠
      ⟨.ok (content, .successful), rawTrace⟩ := by
  intro same
  have traces := congrArg Traced.trace same
  rcases judgeDocument_cases extractor evaluator metric document with
    ⟨-, fault, judged⟩ | ⟨-, sets, value, -, -, judged⟩ | ⟨-, judged⟩ <;>
    rw [judged] at traces <;> cases traces

variable {response : Response} {text : String}

/-- A body is taken for a raw value exactly when it is not read. -/
theorem classify_eq_raw_iff (success : isSuccess response.status = true)
    (arrived : response.body = .ok (Utf8.encode text)) (extractor : Extractor)
    (evaluator : Evaluator) (metric : Metric) :
    response.classify extractor evaluator metric = ⟨.ok (text, .successful), rawTrace⟩ ↔
      ∀ document, readBytes false (Utf8.encode text) ≠ .ok document := by
  rw [classify_of_read success (readBody_eq_ok_iff.mpr arrived)]
  constructor
  · intro raw document read
    rw [judgeBody_of_document read] at raw
    exact judgeDocument_ne_raw extractor evaluator metric document text raw
  · intro unread
    cases read : readBytes false (Utf8.encode text) with
    | ok document => exact absurd read (unread document)
    | error reason =>
        rw [judgeBody_of_raw read, Utf8.encode, Utf8.decodeLossy_encodeChars, String.ofList_toList]

/-- The text of a body that is no document is kept: it is the value, successful without an
evaluation, whatever would be extracted and however it would be judged.  A document is kept so only
if it holds an integer that is too long. -/
theorem classify_keeps_text (success : 200 ≤ response.status ∧ response.status < 300)
    (arrived : response.body = .ok (Utf8.encode text))
    (unmarked : text.toList.head? ≠ some '\uFEFF') (noNull : '\x00' ∉ text.toList) :
    ((¬ ∃ written, Grammar.Document text.toList written) →
      ∀ extractor evaluator metric,
        (response.classify extractor evaluator metric).outcome = .ok (text, .successful) ∧
          (response.classify extractor evaluator metric).trace.evaluations = []) ∧
    ∀ extractor evaluator metric,
      response.classify extractor evaluator metric = ⟨.ok (text, .successful), rawTrace⟩ ↔
        ∀ written, Grammar.Document text.toList written → written.hasLongInt = true := by
  have kept_iff (extractor : Extractor) (evaluator : Evaluator) (metric : Metric) :
      response.classify extractor evaluator metric = ⟨.ok (text, .successful), rawTrace⟩ ↔
        ∀ written, Grammar.Document text.toList written → written.hasLongInt = true := by
    rw [classify_eq_raw_iff (isSuccess_iff.mpr success) arrived]
    constructor
    · intro unread written document
      cases long : written.hasLongInt with
      | true => rfl
      | false =>
          have read := (Grammar.readBytes_eq_ok_iff unmarked noNull).mpr
            ⟨written, document, long, rfl⟩
          exact absurd read (unread written.merged)
    · intro long document read
      rcases (Grammar.readBytes_eq_ok_iff unmarked noNull).mp read with
        ⟨written, denoted, short, -⟩
      rw [long written denoted] at short
      contradiction
  constructor
  · intro malformed extractor evaluator metric
    have kept := (kept_iff extractor evaluator metric).mpr fun written document =>
      absurd ⟨written, document⟩ malformed
    rw [kept]
    exact ⟨rfl, rfl⟩
  · exact kept_iff

/-- A constant that is no number, within an array within an object, is kept with all around it. -/
theorem classify_keeps_text_of_constant :
    let text := "\x7b\"a\": [1, -Infinity]\x7d"
    let response : Response := ⟨200, .ok (Utf8.encode text)⟩
    let query : Path.Query := .child .root (.fields ["a"])
    let extractor : Extractor := ⟨"\x7b$.a\x7d", [.query query.search]⟩
    let metric : Metric := ⟨"m", "", "", { url := "http://h/m" }⟩
    (¬ ∃ written, Grammar.Document text.toList written) ∧
      (response.classify extractor (fun _ _ => .ok (.phase .failed)) metric).outcome =
        .ok (text, .successful) := by
  intro text response query extractor metric
  have malformed : ¬ ∃ written, Grammar.Document text.toList written := by
    rintro ⟨written, document⟩
    have refused : (match Reader.readDocument false text.toList with
        | .error misread => some misread.problem
        | .ok _ => none) = some (.refusedConstant "-Infinity") := by
      decide +kernel
    cases read : Reader.readDocument false text.toList with
    | ok value =>
        rw [read] at refused
        contradiction
    | error misread =>
        rw [read] at refused
        rcases document.fault_of_misread read with ⟨digits, long⟩
        cases long.symm.trans (Option.some.inj refused)
  have kept := (@classify_keeps_text response text (by decide) rfl
    (by decide) (by decide)).1 malformed extractor (fun _ _ => .ok (.phase .failed)) metric
  exact ⟨malformed, kept.1⟩

end HttpGauge.Response
