import HttpGauge.Request
import HttpGauge.Token

/-!
# Clients

A client sends requests with the time limit and the certificate check of its metric, and with a
token if the metric asks for one.  The token is cached from one request to the next.
-/

namespace HttpGauge

open HttpGauge.Number HttpGauge.Text

/-- A client. -/
structure Client where
  connection : Connection
  /-- Where it gets tokens, if its requests carry one. -/
  source : Option TokenSource := none
  deriving DecidableEq, Repr

/-- What the endpoints answer to one request. -/
structure Answers where
  token : Except Failure TokenAnswer
  /-- The endpoint of the metric, if it is asked. -/
  response : Except Failure Response

/-! ## From metrics -/

/-- The source of tokens that a grant describes; without an address there is none. -/
def OAuth2.source? (grant : OAuth2) : Except ConfigurationFault (Option TokenSource) :=
  if grant.tokenUrl = "" then .ok none
  else if grant.clientId = "" || grant.clientSecret = "" then .error .incompleteCredentials
  else .ok (some ⟨grant.tokenUrl, grant.clientId, grant.clientSecret, grant.scopes⟩)

/-- How the requests of a metric are sent; without a positive time limit the default applies. -/
def WebMetric.connection (web : WebMetric) (defaultTimeout : Int) : Connection where
  timeout := if 0 < web.timeoutSeconds then web.timeoutSeconds else defaultTimeout
  tls := if web.insecure then .insecure else .verify

namespace Client

/-- The time limit in seconds where nothing else is set. -/
def defaultTimeout : Int := 10

/-- The client of a metric, with the time limit of those that set none. -/
def ofMetric (timeout : Int) (metric : Metric) : Except ConfigurationFault Client :=
  metric.web.oauth2.source?.map (⟨metric.web.connection timeout, ·⟩)

/-! ## Requests -/

/-- The key of the header that carries the token. -/
def authorizationKey : String := "Authorization"

/-- The request with a token; one that is declared gives way. -/
def attach (token : Option Token) (request : Request) : Request :=
  match token with
  | none => request
  | some token =>
      { request with headers := request.headers.set authorizationKey token.authorization }

/-- The headers that must not be added on the way: a body stays without a label. -/
def skippedHeaders (headers : HeaderSet) : List String :=
  if headers.hasKey (lower contentTypeKey) then [] else [contentTypeKey]

/-- A failure to send a request to some address. -/
def sendFailure (client : Client) (url : String) (failure : Failure) : Failure :=
  match failure with
  | .host cause =>
      if cause.kind.isTimeout then .transport (.timedOut url client.connection.timeout)
      else if cause.kind.isClient then .transport (.failed url cause)
      else failure
  | _ => failure

/-- The logger of requests. -/
def logger : String := "webmetric.adapters.driven.http.client"

/-- What is logged of a request. -/
def requestSummary (request : Request) : String :=
  "Sending " ++ request.method.name ++ " " ++ request.url

/-- Send a request that is complete. -/
def deliver (client : Client) (request : Request) (response : Except Failure Response) :
    Traced Response :=
  .logging logger .debug (requestSummary request)
    (.after (.sent (.metric request (skippedHeaders request.headers) client.connection))
      ⟨response.mapError (client.sendFailure request.url), []⟩)

/-- The token for the next request, if it carries one. -/
def authorize (client : Client) (cache : Option Token) (now : Binary64)
    (answer : Except Failure TokenAnswer) : Traced (Option Token) :=
  match client.source with
  | none => .ok none
  | some source =>
      (source.token client.connection cache now answer).andThen fun token => .ok (some token)

/-- Send a request, with a token if need be. -/
def send (client : Client) (cache : Option Token) (now : Binary64) (answers : Answers)
    (request : Request) : Traced Response :=
  (client.authorize cache now answers.token).andThen fun token =>
    client.deliver (attach token request) answers.response

/-- Send a request for a holder of the response, which goes on with it. -/
def hold {α : Type} (client : Client) (cache : Option Token) (now : Binary64) (answers : Answers)
    (request : Request) (holder : Response → Traced α) : Traced α :=
  (client.send cache now answers request).andThen holder

/-- The cached token after a request: the one that it carried, and otherwise the one before. -/
def cacheAfter (client : Client) (cache : Option Token) (now : Binary64) (answers : Answers) :
    Option Token :=
  match (client.authorize cache now answers.token).outcome with
  | .ok (some token) => some token
  | _ => cache

end Client

end HttpGauge
