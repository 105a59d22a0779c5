import HttpGauge.Manifest.Field
import HttpGauge.Number.Arithmetic
import HttpGauge.Response
import HttpGauge.Text.Base64
import HttpGauge.Text.Casing
import HttpGauge.Text.FormEncoding

/-!
# Access tokens

The client credentials grant: a form is sent to a token endpoint, whose answer grants a token for
some time.  A token is used while it is valid for more than ten seconds.
-/

namespace HttpGauge

open HttpGauge.Json HttpGauge.Manifest HttpGauge.Number HttpGauge.Text

/-! ## Tokens -/

/-- A token. -/
structure Token where
  access : String
  /-- The type, in any spelling. -/
  type : String
  /-- The time from which on it gives no access; without one it always does. -/
  expiresAt : Option Binary64 := none
  deriving DecidableEq

namespace Token

/-- How many seconds before its end a token is no longer used. -/
def refreshMargin : Binary64 := Binary64.ofInt 10

/-- A token that can still be used. -/
def isValid (now : Binary64) (token : Token) : Bool :=
  match token.expiresAt with
  | none => true
  | some expiry => now.lt (expiry.sub refreshMargin)

/-- The type of bearer tokens. -/
def bearer : String := "Bearer"

/-- The value of the authorization header; the bearer type has one spelling there. -/
def authorization (token : Token) : String :=
  (if lower token.type = lower bearer then bearer else token.type) ++ " " ++ token.access

end Token

/-! ## Grants -/

/-- What a token endpoint grants. -/
structure Grant where
  access : String
  type : String
  /-- For how many seconds. -/
  lifetime : Option Int
  deriving DecidableEq, Repr

namespace Grant

/-- Read a secret, which is not empty. -/
def readAccess (value : Value) : Checked String :=
  match readString value with
  | .ok text => if text.isEmpty then Checked.fail .tooShort else .ok text
  | .error problems => .error problems

/-- Read a grant. -/
def read : Value → Checked Grant :=
  readObject fun members =>
    Checked.also (.ok Grant.mk)
        (Field.required ⟨"access_token", "access_token"⟩ readAccess members)
      |>.also (Field.orElse ⟨"token_type", "token_type"⟩ Token.bearer readString members)
      |>.also (Field.orElse ⟨"expires_in", "expires_in"⟩ none (readOptional readInt) members)

/-- The token of a grant that was asked for at some time; a lifetime of zero sets no end. -/
def token (grant : Grant) (requestedAt : Binary64) : Except InternalFault Token :=
  match grant.lifetime with
  | none => .ok ⟨grant.access, grant.type, none⟩
  | some lifetime =>
      if lifetime = 0 then .ok ⟨grant.access, grant.type, none⟩
      else
        match Binary64.ofInt? lifetime with
        | none => .error .lifetimeTooLarge
        | some seconds => .ok ⟨grant.access, grant.type, some (requestedAt.add seconds)⟩

end Grant

/-! ## Answers of token endpoints -/

/-- The answer of a token endpoint whose body has yet to be read. -/
structure TokenAnswer where
  status : Int
  contentType : String
  /-- The body, or why it cannot be read. -/
  body : Except Failure (List UInt8)
  /-- What is reported of the problems of the body, if it is no grant. -/
  report : String := ""

/-- Wrap a failure of the network during an exchange. -/
def exchangeFailure (failure : Failure) : Failure :=
  match failure.network? with
  | some cause => .transport (.tokenExchange cause)
  | none => failure

namespace TokenAnswer

/-- The types of content that hold a form. -/
def formTypes : List String := ["application/x-www-form-urlencoded", "text/plain"]

/-- A form as an object of strings. -/
def formObject (text : String) : Value :=
  .obj (Members.ofPairs ((FormEncoding.readFields text).map fun field => (field.1, .str field.2)))

/-- The document that a body holds: a form or JSON, by the type of the content. -/
def document (contentType : String) (body : List UInt8) : Except Unreadable Value :=
  if formTypes.contains contentType then
    (Utf8.decode body).map formObject |>.mapError .undecodable
  else readBytes true body

/-- The grant that a body holds. -/
def grantOf (contentType : String) (body : List UInt8) : Except TokenFault Grant :=
  match document contentType body with
  | .error reason => .error (.unreadable reason)
  | .ok document => (Grant.read document).mapError .invalid

/-- The grant that an answer holds. -/
def grant (answer : TokenAnswer) : Except Failure Grant :=
  match answer.body with
  | .error failure => .error (exchangeFailure failure)
  | .ok body =>
      if isSuccess answer.status then
        (grantOf answer.contentType body).mapError fun fault =>
          .protocol answer.status (.tokenUnusable fault answer.report)
      else .error (.protocol answer.status (.tokenRefused (Utf8.decodeLossy body)))

end TokenAnswer

/-! ## Sources of tokens -/

/-- A token endpoint, with the credentials and the scopes to ask it with. -/
structure TokenSource where
  url : String
  clientId : String
  clientSecret : String
  scopes : List String
  deriving DecidableEq, Repr

namespace TokenSource

/-- The fields of the form; scopes are separated by spaces. -/
def form (source : TokenSource) : List (String × String) :=
  ("grant_type", "client_credentials")
    :: if source.scopes.isEmpty then [] else [("scope", " ".intercalate source.scopes)]

/-- The credentials in encoded form, with a colon between them. -/
def credentials (source : TokenSource) : String :=
  FormEncoding.write source.clientId ++ ":" ++ FormEncoding.write source.clientSecret

/-- The credentials as a header value. -/
def authorization (source : TokenSource) : String :=
  "Basic " ++ String.ofList (Base64.encode (Utf8.encode source.credentials))

/-- The request for a token. -/
def request (source : TokenSource) : TokenRequest :=
  ⟨source.url, source.form, source.authorization⟩

/-- The logger of token requests. -/
def logger : String := "webmetric.adapters.driven.http.oauth2"

/-- What is logged of a grant. -/
def grantSummary (source : TokenSource) (grant : Grant) : String :=
  let lifetime := match grant.lifetime with
    | none => "None"
    | some seconds => intText seconds
  "Obtained OAuth2 token from " ++ source.url ++ " (expires_in=" ++ lifetime ++ ")"

/-- The cached token, if it can still be used. -/
def check (now : Binary64) : Option Token → Option Token
  | some token => if token.isValid now then some token else none
  | none => none

/-- Accept the answer to a request that was made at some time. -/
def receive (source : TokenSource) (requestedAt : Binary64)
    (answer : Except Failure TokenAnswer) : Traced Token :=
  match answer with
  | .error failure => .fail (exchangeFailure failure)
  | .ok answer =>
      match answer.grant with
      | .error failure => .fail failure
      | .ok grant =>
          match grant.token requestedAt with
          | .error fault => .fail (.internal fault)
          | .ok token => .logging logger .debug (source.grantSummary grant) (.ok token)

/-- Exchange the credentials for a token. -/
def exchange (source : TokenSource) (connection : Connection) (now : Binary64)
    (answer : Except Failure TokenAnswer) : Traced Token :=
  .logging logger .debug ("Requesting OAuth2 token from " ++ source.url)
    (.after (.sent (.token source.request connection)) (source.receive now answer))

/-- A token that can be used: the cached one, or else one from an exchange. -/
def token (source : TokenSource) (connection : Connection) (cache : Option Token)
    (now : Binary64) (answer : Except Failure TokenAnswer) : Traced Token :=
  match check now cache with
  | some token => .ok token
  | none => source.exchange connection now answer

end TokenSource

end HttpGauge
