import HttpGauge.Manifest.Metric
import HttpGauge.Proofs.Json.Finiteness
import HttpGauge.Proofs.Json.ReadIntegers
import HttpGauge.Proofs.WrittenValues
import Mathlib.Control.Monad.Basic

/-!
# Bodies that are labelled as JSON

A manifest may hold the words for doubles that are not finite, and a number that is too large is
read as such a double.  It never holds an integer that is too long, so that every value of a
manifest is written.  Main statement: the body that is labelled as JSON is JSON exactly when all of
the doubles in the value are finite.
-/

namespace HttpGauge

open HttpGauge.Json HttpGauge.Manifest HttpGauge.Number HttpGauge.Text

/-! ## Values of manifests -/

namespace Manifest

variable {document : Value} {metric : Metric} {value : Value}

/-- What stands in an object that holds no long integer holds none. -/
theorem hasLongInt_of_find? {field : Field} {members : Members} {spelling : String}
    (short : (Value.obj members).hasLongInt = false)
    (found : field.find? members = some (spelling, value)) : value.hasLongInt = false := by
  rw [Value.hasLongInt, Value.membersHaveLongInt_eq_any, List.any_eq_false] at short
  exact Bool.eq_false_iff.mpr (short _ (Field.mem_of_find? found))

/-- The web block of a metric is read from its provider block. -/
theorem provider_of_readMetric (valid : readMetric document = .ok metric) :
    ∃ members, document = .obj members ∧
      Field.required ⟨"provider", "provider"⟩ readProvider members = .ok metric.web := by
  obtain ⟨members, rfl, fits⟩ := readObject_eq_ok_iff.mp valid
  simp only [Checked.also_eq_ok_iff] at fits
  obtain ⟨_, _, ⟨_, _, ⟨_, _, ⟨_, _, ⟨⟩, -, rfl⟩, -, rfl⟩, -, rfl⟩, provider, rfl⟩ := fits
  exact ⟨members, rfl, provider⟩

/-- Its body is a member of that block. -/
theorem jsonBody_of_readWebMetric {web : WebMetric} (valid : readWebMetric document = .ok web) :
    ∃ members, document = .obj members ∧
      Field.orElse ⟨"jsonBody", "json_body"⟩ none readJsonBody members = .ok web.jsonBody := by
  obtain ⟨members, rfl, fits⟩ := readObject_eq_ok_iff.mp valid
  simp only [Checked.also_eq_ok_iff] at fits
  obtain ⟨_, _, ⟨_, _, ⟨_, _, ⟨_, _, ⟨_, _, ⟨_, _, ⟨_, _, ⟨_, _, ⟨_, _, ⟨⟩, -, rfl⟩, -, rfl⟩, -,
    rfl⟩, -, rfl⟩, body, rfl⟩, -, rfl⟩, -, rfl⟩, -, rfl⟩, -, rfl⟩ := fits
  exact ⟨members, rfl, body⟩

/-- The body of a metric holds no integer that is too long if its manifest holds none. -/
theorem hasLongInt_of_readMetric (valid : readMetric document = .ok metric)
    (short : document.hasLongInt = false) (given : metric.web.jsonBody = some value) :
    value.hasLongInt = false := by
  obtain ⟨members, rfl, required⟩ := provider_of_readMetric valid
  obtain ⟨_, provider, foundProvider, read⟩ := Field.required_eq_ok_iff.mp required
  have shortProvider := hasLongInt_of_find? short foundProvider
  obtain ⟨members, rfl, required⟩ := readObject_eq_ok_iff.mp read
  obtain ⟨_, web, foundWeb, read⟩ := Field.required_eq_ok_iff.mp required
  have shortWeb := hasLongInt_of_find? shortProvider foundWeb
  obtain ⟨members, rfl, body⟩ := jsonBody_of_readWebMetric read
  rw [given] at body
  obtain ⟨-, absent⟩ | ⟨_, held, foundBody, read⟩ := Field.orElse_eq_ok_iff.mp body
  · cases absent
  · have short := hasLongInt_of_find? shortWeb foundBody
    cases held <;> cases read <;> exact short

end Manifest

namespace WebMetric

variable {document value : Value} {metric : Metric}

/-- The body of a value is labelled as JSON. -/
theorem get?_label_sentHeaders {web : WebMetric} (given : web.jsonBody = some value) :
    web.sentHeaders.get? contentTypeKey = some contentTypeJson := by
  rw [sentHeaders, hasJsonBody, given]
  exact HeaderSet.get?_set_self ..

/-- A manifest of a metric that sends a value always leads to a request with a body that is labelled
as JSON, for the value is always written.  That body is JSON exactly when all of the doubles in
the value, at whatever depth, are finite. -/
theorem labelled_body_isDocument_iff {text : String} (decoded : readText true text = .ok document)
    (valid : readMetric document = .ok metric)
    (sends : metric.web.method = some .post ∨ metric.web.method = some .put)
    (noText : metric.web.body = "") (given : metric.web.jsonBody = some value) :
    value.hasLongInt = false ∧
      ∃ request body, metric.web.request = .ok request ∧
        request.headers.get? "Content-Type" = some "application/json" ∧
        request.body = some body ∧
        ((∃ written, Grammar.Document body.toList written) ↔ value.IsFinite) := by
  have short : value.hasLongInt = false :=
    hasLongInt_of_readMetric valid (hasLongInt_of_readText decoded) given
  exact ⟨short, _, _, request_of_jsonBody sends noText given short, get?_label_sentHeaders given,
    rfl, document_write_iff .ascii value⟩

/-- A number that is too large for a double is read from a manifest that is JSON itself, and is
written as a word that is not. -/
theorem labelled_body_isDocument_iff_of_overflow :
    let text := "\x7b\"name\": \"m\", \"provider\": \x7b\"web\": \x7b\"url\": \"u\", " ++
      "\"method\": \"POST\", \"jsonBody\": [\x7b\"a\": 1e400\x7d]\x7d\x7d\x7d"
    ∃ document metric request, readText true text = .ok document ∧
      readMetric document = .ok metric ∧ metric.web.request = .ok request ∧
      request.headers.get? "Content-Type" = some "application/json" ∧
      request.body = some "[\x7b\"a\":Infinity\x7d]" ∧
      ¬ ∃ written, Grammar.Document "[\x7b\"a\":Infinity\x7d]".toList written := by
  intro text
  let value : Value := .arr [.obj [("a", .float (.infinite false))]]
  let document : Value := .obj [("name", .str "m"), ("provider", .obj [("web", .obj
    [("url", .str "u"), ("method", .str "POST"), ("jsonBody", value)])])]
  let metric : Metric :=
    ⟨"m", "", "", { url := "u", method := some .post, jsonBody := some value }⟩
  have decoded : readText true text = .ok document := by decide +kernel
  have valid : readMetric document = .ok metric := by decide +kernel
  have infinite : ¬ value.IsFinite := by
    intro finite
    have inside := Value.isFinite_arr_iff.mp finite _ List.mem_cons_self
    have inmost := Value.isFinite_obj_iff.mp inside _ List.mem_cons_self
    cases inmost
  obtain ⟨-, request, body, same, label, sent, isDocument⟩ :=
    labelled_body_isDocument_iff decoded valid (Or.inl rfl) rfl rfl
  have written : body = "[\x7b\"a\":Infinity\x7d]" := by
    rw [request_of_jsonBody (Or.inl rfl) rfl rfl rfl] at same
    cases same
    exact (Option.some.inj sent).symm
  rw [written] at sent isDocument
  exact ⟨document, metric, request, decoded, valid, same, label, sent,
    fun written => infinite (isDocument.mp written)⟩

end WebMetric

end HttpGauge
