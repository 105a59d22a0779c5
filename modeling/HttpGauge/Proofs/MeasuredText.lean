import HttpGauge.Proofs.Json.Finiteness
import HttpGauge.Proofs.RawBodies
import HttpGauge.Proofs.WrittenValues

/-!
# The text of a measurement as JSON

A JSON body is measured as the canonical text of the value that is selected from it.  A number with
a large exponent is read as an infinite double, and arithmetic may lead to one, for which JSON has
no word.  Main statement: the measured text is JSON, and is taken for JSON where it is the body of a
response, exactly when all of the doubles in the value are finite.
-/

namespace HttpGauge

open HttpGauge.Json HttpGauge.Number HttpGauge.Text

/-! ## Canonical values -/

namespace Json.Value

/-- Only a finite double is an integer. -/
theorem isFinite_of_plainInt? {x : Binary64} {n : Int} (plain : plainInt? x = some n) :
    (Value.float x).IsFinite := by
  cases x with
  | nan => contradiction
  | infinite negative => cases negative <;> contradiction
  | finite negative rank => exact .float negative rank

theorem isFinite_canonical_iff {value : Value} : value.canonical.IsFinite ↔ value.IsFinite := by
  induction value with
  | null | bool | int | str => rfl
  | float x =>
      rcases canonical_float x with ⟨n, plain, same⟩ | ⟨-, same⟩
      · rw [same]
        exact iff_of_true (.int n) (isFinite_of_plainInt? plain)
      · rw [same]
  | arr items ih =>
      rw [canonical, canonicalItems_eq_map, isFinite_arr_iff, isFinite_arr_iff,
        List.forall_mem_map]
      exact forall₂_congr ih
  | obj members ih =>
      rw [canonical, canonicalMembers_eq_map, isFinite_obj_iff, isFinite_obj_iff,
        List.forall_mem_map]
      exact forall₂_congr ih

/-- Some image has a property exactly when some item has the one that corresponds to it. -/
theorem any_map_eq {α β : Type} {f : α → β} {p : α → Bool} {q : β → Bool} {items : List α}
    (each : ∀ item ∈ items, q (f item) = p item) : (items.map f).any q = items.any p := by
  induction items with
  | nil => rfl
  | cons item later ih =>
      obtain ⟨first, others⟩ := List.forall_mem_cons.mp each
      rw [List.map_cons, List.any_cons, List.any_cons, first, ih others]

theorem hasLongInt_canonical (value : Value) : value.canonical.hasLongInt = value.hasLongInt := by
  induction value with
  | null | bool | int | str => rfl
  | float x =>
      rcases canonical_float x with ⟨n, plain, same⟩ | ⟨-, same⟩
      · rw [same]
        exact exceedsLimit_of_plainInt? plain
      · rw [same]
  | arr items ih =>
      rw [canonical, canonicalItems_eq_map, hasLongInt, hasLongInt, itemsHaveLongInt_eq_any,
        itemsHaveLongInt_eq_any]
      exact any_map_eq ih
  | obj members ih =>
      rw [canonical, canonicalMembers_eq_map, hasLongInt, hasLongInt, membersHaveLongInt_eq_any,
        membersHaveLongInt_eq_any]
      exact any_map_eq ih

end Json.Value

/-! ## Measured texts -/

namespace Response

variable {response : Response} {extractor : Extractor} {evaluator : Evaluator} {metric : Metric}
  {document : Value} {body : List UInt8} {text : String} {phase : Phase}

/-- The text that a JSON body is measured as is JSON exactly when the doubles in the value that is
judged are finite.  It is then read as the canonical value; otherwise it is a raw value wherever it
is the body of a response. -/
theorem classify_writes_json_iff (success : 200 ≤ response.status ∧ response.status < 300)
    (arrived : response.body = .ok body) (read : readBytes false body = .ok document)
    (ends : (response.classify extractor evaluator metric).outcome = .ok (text, phase)) :
    ∃ value, (response.classify extractor evaluator metric).trace.evaluations =
        [(value, metric)] ∧
      text = value.canonical.write .plain ∧
      ((∃ written, Grammar.Document text.toList written) ↔ value.IsFinite) ∧
      (∀ again, readBytes false (Utf8.encode text) = .ok again ↔
        value.IsFinite ∧ again = value.canonical.merged) ∧
      ∀ later : Response, 200 ≤ later.status ∧ later.status < 300 →
        later.body = .ok (Utf8.encode text) → ∀ extractor evaluator metric,
          (later.classify extractor evaluator metric = ⟨.ok (text, .successful), rawTrace⟩ ↔
            ¬ value.IsFinite) := by
  have classified : response.classify extractor evaluator metric =
      judgeDocument extractor evaluator metric document :=
    classify_of_document (isSuccess_iff.mpr success) arrived read
  rw [classified] at ends ⊢
  obtain ⟨value, short, rfl, -, evaluated⟩ := judgeDocument_eq_ok ends
  have reads (again : Value) :
      readBytes false (Utf8.encode (value.canonical.write .plain)) = .ok again ↔
        value.IsFinite ∧ again = value.canonical.merged := by
    rw [readBytes_write_eq_ok_iff .plain (value.hasLongInt_canonical.trans short),
      Value.isFinite_canonical_iff]
  refine ⟨value, evaluated, rfl, ?_, reads, ?_⟩
  · rw [document_write_iff, Value.isFinite_canonical_iff]
  · intro later successToo arrivedToo extractor evaluator metric
    rw [classify_eq_raw_iff (isSuccess_iff.mpr successToo) arrivedToo]
    constructor
    · intro unread finite
      exact unread _ ((reads _).mpr ⟨finite, rfl⟩)
    · intro infinite again readAgain
      exact infinite ((reads again).mp readAgain).1

/-- A number with a large exponent is measured as a word that is no JSON. -/
theorem classify_writes_json_iff_of_overflow :
    let extractor : Extractor := ⟨"\x7b$\x7d", [.query Path.Query.root.search]⟩
    let evaluator : Evaluator := fun _ _ => .ok (.phase .successful)
    let metric : Metric := ⟨"m", "", "", { url := "http://h/m" }⟩
    let response : Response := ⟨200, .ok (Utf8.encode "1e400")⟩
    (response.classify extractor evaluator metric).outcome = .ok ("Infinity", .successful) ∧
      ¬ ∃ written, Grammar.Document "Infinity".toList written := by
  intro extractor evaluator metric response
  have read : readBytes false (Utf8.encode "1e400") = .ok (.float (.infinite false)) := by
    rfl
  have classified : response.classify extractor evaluator metric =
      judgeValue evaluator metric (.float (.infinite false)) := by
    have found : extractor.find (.float (.infinite false)) = .ok [[.float (.infinite false)]] := rfl
    rw [classify_of_document rfl rfl read]
    exact judgeDocument_of_found found evaluator metric
  have ends : (response.classify extractor evaluator metric).outcome =
      .ok ("Infinity", .successful) := by
    rw [classified]
    rfl
  obtain ⟨value, evaluated, -, isDocument, -⟩ :=
    classify_writes_json_iff (by decide) rfl read ends
  rw [classified] at evaluated
  cases evaluated
  refine ⟨ends, fun written => ?_⟩
  cases isDocument.mp written

end Response

end HttpGauge
