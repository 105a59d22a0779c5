import HttpGauge.Extractor
import HttpGauge.Json.Writer
import HttpGauge.Verdict

/-!
# Classifying responses

From a response to the value and the phase of a measurement: the status has to be a success, the
body is read, a value is selected from it and judged.  A body that is no JSON is a value by itself.
-/

namespace HttpGauge

open HttpGauge.Json HttpGauge.Number HttpGauge.Text

/-- A response whose body has yet to be read. -/
structure Response where
  status : Int
  /-- The body, or why it cannot be read. -/
  body : Except Failure (List UInt8)

/-- A status of success. -/
def isSuccess (status : Int) : Bool :=
  200 ≤ status && status < 300

/-- Refuse every status but those of success. -/
def checkStatus (status : Int) : Except Failure Unit :=
  if isSuccess status then .ok () else .error (.protocol status .status)

/-! ## Canonical values -/

/-- Doubles from this size on keep their exponent. -/
def plainLimit : Nat := 10 ^ 21

/-- The integer that stands for a double, if it is one and not too large. -/
def plainInt? (x : Binary64) : Option Int :=
  match x.toInt? with
  | some n => if n.natAbs < plainLimit then some n else none
  | none => none

mutual

/-- A value with integers for the doubles that are some. -/
def Json.Value.canonical : Value → Value
  | .float x =>
      match plainInt? x with
      | some n => .int n
      | none => .float x
  | .arr items => .arr (Value.canonicalItems items)
  | .obj members => .obj (Value.canonicalMembers members)
  | value => value

/-- The same of each item. -/
def Json.Value.canonicalItems : List Value → List Value
  | [] => []
  | item :: rest => item.canonical :: Value.canonicalItems rest

/-- The same of each member. -/
def Json.Value.canonicalMembers : List (String × Value) → List (String × Value)
  | [] => []
  | (key, value) :: rest => (key, value.canonical) :: Value.canonicalMembers rest

end

/-- The canonical text of a value; an integer may be too long to have one. -/
def canonicalText (value : Value) : Except Failure String :=
  if value.hasLongInt then .error (.internal .integerTooLong)
  else .ok (value.canonical.write .plain)

/-! ## The measured value -/

/-- The first of all selected values. -/
def firstValue? (selected : List (List Value)) : Option Value :=
  selected.flatten.head?

/-- The first of all selected values, with its canonical text. -/
def firstValue (selected : List (List Value)) : Except Failure (Value × String) :=
  match firstValue? selected with
  | none => .error (.extraction .noValue)
  | some value => (canonicalText value).map (value, ·)

namespace Response

/-- The logger of classifications. -/
def logger : String := "webmetric.core.response"

/-- Read the body; a failure of the network leaves nothing to extract from. -/
def readBody (response : Response) : Except Failure (List UInt8) :=
  response.body.mapError fun failure =>
    match failure.network? with
    | some cause => .extraction (.unreadBody cause)
    | none => failure

/-- The value that an extractor selects from a document, with its canonical text. -/
def measured (extractor : Extractor) (document : Value) : Except Failure (Value × String) :=
  match extractor.find document with
  | .ok selected => firstValue selected
  | .error failure => .error failure

/-- Judge a document by the value selected from it. -/
def judgeDocument (extractor : Extractor) (evaluator : Evaluator) (metric : Metric)
    (document : Value) : Traced (String × Phase) :=
  match measured extractor document with
  | .error failure => .fail failure
  | .ok (value, text) =>
      .after (.evaluated value metric)
        ⟨(evaluator.judge value metric).map (text, ·), []⟩

/-- Judge a body: one that is no JSON is successful as it is. -/
def judgeBody (extractor : Extractor) (evaluator : Evaluator) (metric : Metric)
    (body : List UInt8) : Traced (String × Phase) :=
  match readBytes false body with
  | .ok document => judgeDocument extractor evaluator metric document
  | .error _ =>
      .logging logger .debug "Response body is not JSON, using raw body as value"
        (.ok (Utf8.decodeLossy body, .successful))

/-- The value and the phase that a response results in. -/
def classify (response : Response) (extractor : Extractor) (evaluator : Evaluator)
    (metric : Metric) : Traced (String × Phase) :=
  match checkStatus response.status with
  | .error failure => .fail failure
  | .ok () =>
      match response.readBody with
      | .error failure => .fail failure
      | .ok body => judgeBody extractor evaluator metric body

end Response

end HttpGauge
