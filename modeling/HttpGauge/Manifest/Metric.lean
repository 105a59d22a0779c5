import HttpGauge.Manifest.Field
import HttpGauge.Metric
import HttpGauge.Text.Casing

/-!
# Metrics in manifests

How a manifest describes a metric.  Unknown keys are ignored, absent optional fields take their
defaults, and all flaws are reported in the order of the fields.
-/

namespace HttpGauge.Manifest

open HttpGauge.Json

/-- Read a method: null and the empty text are none, and case does not matter. -/
def readMethod : Value → Checked (Option Method)
  | .null => .ok none
  | .str text =>
      if text = "" then .ok none
      else
        match Method.ofName? (Text.upper text) with
        | some method => .ok (some method)
        | none => Checked.fail .unknownMethod
  | _ => Checked.fail .unknownMethod

/-- Read a header. -/
def readHeader : Value → Checked Header :=
  readObject fun members =>
    Checked.also (.ok Header.mk) (Field.required ⟨"key", "key"⟩ readString members)
      |>.also (Field.required ⟨"value", "value"⟩ readString members)

/-- Read the settings of the client credentials grant. -/
def readOAuth2 : Value → Checked OAuth2 :=
  readObject fun members =>
    Checked.also (.ok OAuth2.mk) (Field.orElse ⟨"tokenUrl", "token_url"⟩ "" readString members)
      |>.also (Field.orElse ⟨"clientId", "client_id"⟩ "" readString members)
      |>.also (Field.orElse ⟨"clientSecret", "client_secret"⟩ "" readString members)
      |>.also (Field.orElse ⟨"scopes", "scopes"⟩ [] (readList readString) members)

/-- Read the authentication block. -/
def readAuthentication : Value → Checked OAuth2 :=
  readObject fun members => Field.orElse ⟨"oauth2", "oauth2"⟩ { } readOAuth2 members

/-- A body may be any value; null is none. -/
def readJsonBody : Value → Checked (Option Value)
  | .null => .ok none
  | value => .ok (some value)

/-- Read the web block. -/
def readWebMetric : Value → Checked WebMetric :=
  readObject fun members =>
    Checked.also (.ok WebMetric.mk)
        (Field.orElse ⟨"method", "method"⟩ none readMethod members)
      |>.also (Field.required ⟨"url", "url"⟩ readString members)
      |>.also (Field.orElse ⟨"headers", "headers"⟩ [] (readList readHeader) members)
      |>.also (Field.orElse ⟨"body", "body"⟩ "" readString members)
      |>.also (Field.orElse ⟨"jsonBody", "json_body"⟩ none readJsonBody members)
      |>.also (Field.orElse ⟨"timeoutSeconds", "timeout_seconds"⟩ 0 readInt members)
      |>.also (Field.orElse ⟨"jsonPath", "json_path"⟩ "" readString members)
      |>.also (Field.orElse ⟨"insecure", "insecure"⟩ false readBool members)
      |>.also (Field.orElse ⟨"authentication", "authentication"⟩ { } readAuthentication members)

/-- Read the provider block, which has to hold a web block. -/
def readProvider : Value → Checked WebMetric :=
  readObject fun members => Field.required ⟨"web", "web"⟩ readWebMetric members

/-- Read a metric. -/
def readMetric : Value → Checked Metric :=
  readObject fun members =>
    Checked.also (.ok Metric.mk) (Field.required ⟨"name", "name"⟩ readString members)
      |>.also (Field.orElse ⟨"successCondition", "success_condition"⟩ "" readString members)
      |>.also (Field.orElse ⟨"failureCondition", "failure_condition"⟩ "" readString members)
      |>.also (Field.required ⟨"provider", "provider"⟩ readProvider members)

end HttpGauge.Manifest
