import HttpGauge.Json.Value

/-!
# Metrics

A metric names a web endpoint to ask, how to ask it, which value of the answer to measure, and the
conditions under which an evaluator judges that value.
-/

namespace HttpGauge

/-- The methods of requests. -/
inductive Method where
  | get
  | post
  | put
  deriving DecidableEq, Repr

/-- The name of a method. -/
def Method.name : Method → String
  | .get => "GET"
  | .post => "POST"
  | .put => "PUT"

/-- The method of a name. -/
def Method.ofName? (name : String) : Option Method :=
  [Method.get, .post, .put].find? (·.name == name)

/-- A header as declared. -/
structure Header where
  /-- Its key, in any spelling. -/
  key : String
  value : String
  deriving DecidableEq, Repr

/-- The settings of the client credentials grant; an empty token address turns it off. -/
structure OAuth2 where
  tokenUrl : String := ""
  clientId : String := ""
  clientSecret : String := ""
  scopes : List String := []
  deriving DecidableEq, Repr

/-- The web block of a metric. -/
structure WebMetric where
  /-- The method; none stands for `get`. -/
  method : Option Method := none
  url : String
  headers : List Header := []
  /-- A body as text; the empty text is no body. -/
  body : String := ""
  jsonBody : Option Json.Value := none
  /-- The time limit in seconds; without a positive one the default applies. -/
  timeoutSeconds : Int := 0
  /-- The path template that selects the value. -/
  jsonPath : String := ""
  /-- Accept any certificate. -/
  insecure : Bool := false
  oauth2 : OAuth2 := { }
  deriving DecidableEq

/-- A metric. -/
structure Metric where
  name : String
  successCondition : String := ""
  failureCondition : String := ""
  web : WebMetric
  deriving DecidableEq

end HttpGauge
