import HttpGauge.Json.Bytes
import HttpGauge.Json.Display
import HttpGauge.Manifest.Problem
import HttpGauge.Text.Quoted

/-!
# Failures

Everything that can end a measurement early.  The failures that the pipeline recognises fall into
classes; beside them there are failures of the host (the network layer, an evaluator) that it
passes on, and faults of its own values.  The wording of all of them is `Failure.message`.
-/

namespace HttpGauge

open HttpGauge.Text

/-! ## Failures of the host -/

/-- The kinds of failures that the host raises. -/
inductive HostKind where
  | client
  | connection
  | payload
  | serverTimeout
  | timeout
  | value
  | key
  | runtime
  | type
  | os
  deriving DecidableEq, Repr

namespace HostKind

/-- The name of a kind. -/
def name : HostKind → String
  | .client => "ClientError"
  | .connection => "ClientConnectionError"
  | .payload => "ClientPayloadError"
  | .serverTimeout => "ServerTimeoutError"
  | .timeout => "TimeoutError"
  | .value => "ValueError"
  | .key => "KeyError"
  | .runtime => "RuntimeError"
  | .type => "TypeError"
  | .os => "OSError"

/-- A time limit was exceeded. -/
def isTimeout : HostKind → Bool
  | .serverTimeout | .timeout => true
  | _ => false

/-- A request failed; a server that takes too long is such a case too. -/
def isClient : HostKind → Bool
  | .client | .connection | .payload | .serverTimeout => true
  | _ => false

/-- A failure of the network. -/
def isNetwork (kind : HostKind) : Bool :=
  kind.isTimeout || kind.isClient

end HostKind

/-- A failure of the host. -/
structure HostFailure where
  kind : HostKind
  /-- What it says, if it says anything. -/
  detail : Option String := none
  deriving DecidableEq, Repr

/-- What a failure says; a key that is not there is quoted. -/
def HostFailure.message (failure : HostFailure) : String :=
  match failure.detail with
  | none => ""
  | some detail => if failure.kind = .key then quote detail else detail

/-- A failure with its kind. -/
def HostFailure.shown (failure : HostFailure) : String :=
  failure.kind.name ++ "(" ++ (failure.detail.map quote).getD "" ++ ")"

/-! ## Causes -/

/-- What is said of an integer that has more digits than are converted to text. -/
def longIntMessage : String :=
  "Exceeds the limit (" ++ toString Number.digitLimit
    ++ " digits) for integer string conversion; use sys.set_int_max_str_digits() to increase "
    ++ "the limit"

/-- What is wrong with the definition of a metric. -/
inductive ConfigurationFault where
  /-- Both a text and a value as body. -/
  | twoBodies
  /-- A body with a method that takes none. -/
  | bodyWithGet
  /-- A body as value with an integer that has more digits than are converted to text. -/
  | unwritableBody
  /-- A token address without both credentials. -/
  | incompleteCredentials
  /-- A closing brace outside every expression of a template. -/
  | strayBrace (template : String)
  /-- An expression of a template that does not end. -/
  | unclosedExpression (template : String)
  /-- An expression of a template that is none of the path language, which says why. -/
  | invalidPath (template reason : String)
  deriving DecidableEq, Repr

/-- The wording. -/
def ConfigurationFault.message : ConfigurationFault → String
  | .twoBodies => "use either Body or JSONBody; both cannot exists for WebMetric payload"
  | .bodyWithGet => "Body/JSONBody can only be used with POST or PUT WebMetric Method types"
  | .unwritableBody => "could not serialize JSONBody: " ++ longIntMessage
  | .incompleteCredentials => "missing mandatory parameter in metric for OAuth2 setup"
  | .strayBrace template => "unexpected '\x7d' in JSONPath " ++ quote template
  | .unclosedExpression template => "unclosed expression in JSONPath " ++ quote template
  | .invalidPath template reason => "invalid JSONPath " ++ quote template ++ ": " ++ reason

/-- What is wrong with the network. -/
inductive TransportFault where
  /-- A request took longer than its limit of seconds. -/
  | timedOut (url : String) (seconds : Int)
  | failed (url : String) (cause : HostFailure)
  | tokenExchange (cause : HostFailure)
  deriving DecidableEq, Repr

/-- The wording. -/
def TransportFault.message : TransportFault → String
  | .timedOut url seconds =>
      "request to " ++ url ++ " timed out after " ++ Number.intText seconds ++ "s"
  | .failed url cause => "request to " ++ url ++ " failed: " ++ cause.message
  | .tokenExchange cause => "oauth2: cannot fetch token: " ++ cause.shown

/-- Why the answer of a token endpoint holds no token. -/
inductive TokenFault where
  | unreadable (reason : Json.Unreadable)
  | invalid (problems : List Manifest.Problem)
  deriving DecidableEq, Repr

/-- The wording, with a report of the problems. -/
def TokenFault.message (report : String) : TokenFault → String
  | .unreadable reason => reason.message
  | .invalid problems => Manifest.summary problems "TokenResponse" report

/-- What is wrong with an answer of a server. -/
inductive ProtocolFault where
  | status
  /-- A token endpoint refused; the text of its answer. -/
  | tokenRefused (body : String)
  /-- An answer without a token, and what is reported of its problems. -/
  | tokenUnusable (fault : TokenFault) (report : String)
  deriving DecidableEq, Repr

/-- The wording of a fault in an answer of the given status. -/
def ProtocolFault.message (status : Int) : ProtocolFault → String
  | .status => "received non 2xx response code: " ++ Number.intText status
  | .tokenRefused body =>
      "oauth2: cannot fetch token: " ++ Number.intText status ++ "\nResponse: " ++ body
  | .tokenUnusable fault report =>
      "oauth2: cannot parse token response: " ++ fault.message report

/-- Why no value was extracted. -/
inductive ExtractionFault where
  | unreadBody (cause : HostFailure)
  /-- An expression cannot be applied to the document; the path language says why. -/
  | pathFailed (reason : String)
  | noValue
  deriving DecidableEq, Repr

/-- The wording. -/
def ExtractionFault.message : ExtractionFault → String
  | .unreadBody cause => "Received no bytes in response: " ++ cause.message
  | .pathFailed reason => "Could not find JSONPath in body: " ++ reason
  | .noValue => "result of web metric produced no value"

/-- Why there is no verdict. -/
inductive EvaluationFault where
  | evaluator (detail : String)
  /-- The evaluator returned something else than a phase. -/
  | notAPhase (value : Json.Value)
  deriving DecidableEq

/-- The wording. -/
def EvaluationFault.message : EvaluationFault → String
  | .evaluator detail => detail
  | .notAPhase value => value.display ++ " is not a valid AnalysisPhase"

/-- What is wrong with a value of the pipeline itself. -/
inductive InternalFault where
  /-- An integer has more digits than are converted to text. -/
  | integerTooLong
  /-- A lifetime is beyond every double. -/
  | lifetimeTooLarge
  deriving DecidableEq, Repr

/-- The wording. -/
def InternalFault.message : InternalFault → String
  | .integerTooLong => longIntMessage
  | .lifetimeTooLarge => "int too large to convert to float"

/-! ## Failures -/

/-- The classes of failures that the pipeline recognises. -/
inductive FailureClass where
  | general
  | configuration
  | transport
  | protocol (status : Int)
  | extraction
  | evaluation
  deriving DecidableEq, Repr

/-- What ends a measurement early. -/
inductive Failure where
  | configuration (fault : ConfigurationFault)
  | transport (fault : TransportFault)
  /-- An answer with a status is not acceptable. -/
  | protocol (status : Int) (fault : ProtocolFault)
  | extraction (fault : ExtractionFault)
  | evaluation (fault : EvaluationFault)
  /-- A collaborator reports a failure of one of the classes. -/
  | reported (failureClass : FailureClass) (detail : Option String)
  | host (failure : HostFailure)
  /-- A value of the pipeline is at fault. -/
  | internal (fault : InternalFault)
  deriving DecidableEq

namespace Failure

/-- The class of a failure that the pipeline recognises. -/
def failureClass? : Failure → Option FailureClass
  | .configuration _ => some .configuration
  | .transport _ => some .transport
  | .protocol status _ => some (.protocol status)
  | .extraction _ => some .extraction
  | .evaluation _ => some .evaluation
  | .reported failureClass _ => some failureClass
  | .host _ | .internal _ => none

/-- What a failure says. -/
def message : Failure → String
  | .configuration fault => fault.message
  | .transport fault => fault.message
  | .protocol status fault => fault.message status
  | .extraction fault => fault.message
  | .evaluation fault => fault.message
  | .reported _ detail => detail.getD ""
  | .host failure => failure.message
  | .internal fault => fault.message

/-- The failure of the host that is one of the network. -/
def network? : Failure → Option HostFailure
  | .host failure => if failure.kind.isNetwork then some failure else none
  | _ => none

end Failure

end HttpGauge
