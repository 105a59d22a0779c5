import HttpGauge.Json.Writer
import HttpGauge.Trace

/-!
# Building requests

The request that a web metric describes.  A metric has at most one body, and only requests that
send something have one; a body given as a value is sent as ASCII JSON and labelled as such,
whatever the metric declares, unless it cannot be written.
-/

namespace HttpGauge

open HttpGauge.Json

/-- The key of the header that labels the body. -/
def contentTypeKey : String := "Content-Type"

/-- The label of JSON bodies. -/
def contentTypeJson : String := "application/json"

namespace WebMetric

/-- The method that applies. -/
def effectiveMethod (web : WebMetric) : Method :=
  web.method.getD .get

/-- The metric has a body as text. -/
def hasTextBody (web : WebMetric) : Bool :=
  web.body != ""

/-- The metric has a body as a value. -/
def hasJsonBody (web : WebMetric) : Bool :=
  web.jsonBody.isSome

/-- The body as a value holds an integer that is too long to be written. -/
def hasLongBody (web : WebMetric) : Bool :=
  web.jsonBody.any Value.hasLongInt

/-- The body that is sent. -/
def sentBody (web : WebMetric) : Option String :=
  if web.hasTextBody then some web.body else web.jsonBody.map (Value.write .ascii)

/-- The headers that are sent, before authorisation. -/
def sentHeaders (web : WebMetric) : HeaderSet :=
  let declared := HeaderSet.ofDeclared web.headers
  if web.hasJsonBody then declared.set contentTypeKey contentTypeJson else declared

/-- The request of a web metric. -/
def request (web : WebMetric) : Except ConfigurationFault Request :=
  if web.hasTextBody && web.hasJsonBody then .error .twoBodies
  else if (web.hasTextBody || web.hasJsonBody) && web.effectiveMethod = .get then
    .error .bodyWithGet
  else if web.hasLongBody then .error .unwritableBody
  else .ok ⟨web.effectiveMethod, web.url, web.sentBody, web.sentHeaders⟩

/-- Whatever request is built, it has the parts that the metric describes. -/
theorem eq_of_request {web : WebMetric} {built : Request} (builds : web.request = .ok built) :
    built = ⟨web.effectiveMethod, web.url, web.sentBody, web.sentHeaders⟩ := by
  unfold request at builds
  split at builds
  · contradiction
  · split at builds
    · contradiction
    · split at builds
      · contradiction
      · exact (Except.ok.inj builds).symm

end WebMetric

end HttpGauge
