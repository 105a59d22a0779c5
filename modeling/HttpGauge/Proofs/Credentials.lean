import HttpGauge.Proofs.Sending
import HttpGauge.Proofs.Text.Base64
import HttpGauge.Proofs.Text.FormEncoding

/-!
# Credentials

The basic scheme of authorisation, with a reader for its header values.  It has room for a user
without colons and for characters of Latin-1; encoded as form texts, any two texts are such a user
and a password.  Main statement: every request for a token carries the credentials of its metric,
and its form the scopes, so that both can be read from it again.
-/

namespace HttpGauge.Text

/-- The bytes of a text in Latin-1, which has the first 256 characters only. -/
def Latin1.encode? : List Char → Option (List UInt8)
  | [] => some []
  | c :: rest =>
      if c.toNat < 0x100 then (Latin1.encode? rest).map (UInt8.ofNat c.toNat :: ·) else none

/-- The bytes of an ASCII text are the same in Latin-1 and in UTF-8. -/
theorem Latin1.encode?_of_ascii {text : List Char} (ascii : ∀ c ∈ text, c.toNat < 0x80) :
    Latin1.encode? text = some (Utf8.encodeChars text) := by
  induction text with
  | nil => rfl
  | cons c rest ih =>
      obtain ⟨small, more⟩ := List.forall_mem_cons.mp ascii
      rw [encode?, if_pos (Nat.lt_trans small (by decide)), ih more, Option.map_some]
      rw [Utf8.encodeChars, Utf8.encodeChars, List.flatMap_cons, Utf8.encodeChar, if_pos small]
      rfl

/-! ## The basic scheme -/

namespace Basic

/-- The name of the scheme and the blank after it. -/
def scheme : String := "Basic "

/-- The header value of a user and a password.  There is none for a user with a colon, who could
not be told from the password, nor for what Latin-1 has no bytes for. -/
def header? (user password : String) : Option String :=
  if ':' ∈ user.toList then none
  else
    (Latin1.encode? (user ++ ":" ++ password).toList).map fun bytes =>
      scheme ++ String.ofList (Base64.encode bytes)

/-- A user and a password, encoded and with a colon between them. -/
def splitPair? (text : List Char) : Option (String × String) :=
  match text.dropWhile (· != ':') with
  | [] => none
  | _ :: password =>
      some (FormEncoding.read (text.takeWhile (· != ':')), FormEncoding.read password)

/-- The user and the password of a header value: what follows the scheme is decoded, split at its
first colon, and decoded again on both sides. -/
def read? (header : String) : Option (String × String) :=
  if scheme.toList.isPrefixOf header.toList then do
    let bytes ← Base64.decode? (header.toList.drop scheme.toList.length)
    let text ← (Utf8.decode bytes).toOption
    splitPair? text.toList
  else none

/-- Two encoded texts are told apart at the colon. -/
theorem splitPair?_write (user password : String) :
    splitPair? (FormEncoding.write user ++ ":" ++ FormEncoding.write password).toList =
      some (user, password) := by
  obtain ⟨front, back⟩ :=
    takeWhile_append_separator
      (FormEncoding.notMem_write (by decide : ':' ∈ FormEncoding.separators) user)
      (FormEncoding.write password).toList
  have joined : (FormEncoding.write user ++ ":" ++ FormEncoding.write password).toList =
      (FormEncoding.write user).toList ++ ':' :: (FormEncoding.write password).toList := by
    rw [String.toList_append, String.toList_append, List.append_assoc]
    rfl
  rw [splitPair?, joined, front, back]
  dsimp only
  rw [FormEncoding.read_write, FormEncoding.read_write]

/-- A header value of a text that is a pair is read as the pair. -/
theorem read?_scheme_append {text : String} {pair : String × String}
    (split : splitPair? text.toList = some pair) :
    read? (scheme ++ String.ofList (Base64.encode (Utf8.encode text))) = some pair := by
  rw [read?, String.toList_append, if_pos (List.isPrefixOf_iff_prefix.mpr (List.prefix_append ..)),
    List.drop_left, String.toList_ofList, Base64.decode?_encode]
  simp [Utf8.decode_encode, split, Except.toOption]

end Basic

end HttpGauge.Text

namespace HttpGauge

open HttpGauge.Number HttpGauge.Text

/-! ## Credentials of sources -/

namespace TokenSource

variable (source : TokenSource)

/-- Encoded credentials are ASCII. -/
theorem lt_of_mem_credentials : ∀ c ∈ source.credentials.toList, c.toNat < 0x80 := by
  intro c member
  rw [credentials, String.toList_append, String.toList_append, List.mem_append,
    List.mem_append] at member
  rcases member with (inUser | colon) | inPassword
  · exact (FormEncoding.of_mem_write inUser).1
  · rw [List.mem_singleton.mp colon]
    decide
  · exact (FormEncoding.of_mem_write inPassword).1

/-- There is a header value of the basic scheme for the encoded texts: the source's. -/
theorem header?_eq_authorization :
    Basic.header? (FormEncoding.write source.clientId) (FormEncoding.write source.clientSecret) =
      some source.authorization := by
  have noColon : ':' ∉ (FormEncoding.write source.clientId).toList :=
    FormEncoding.notMem_write (by decide) _
  have bytes := Latin1.encode?_of_ascii source.lt_of_mem_credentials
  rw [credentials] at bytes
  rw [Basic.header?, if_neg noColon, bytes]
  rfl

/-- The credentials are read from the header value. -/
theorem read?_authorization :
    Basic.read? source.authorization = some (source.clientId, source.clientSecret) :=
  Basic.read?_scheme_append (Basic.splitPair?_write source.clientId source.clientSecret)

/-- Sources with the same header value have the same credentials. -/
theorem eq_of_authorization_eq {source other : TokenSource}
    (same : source.authorization = other.authorization) :
    source.clientId = other.clientId ∧ source.clientSecret = other.clientSecret := by
  have read := source.read?_authorization
  rw [same, read?_authorization] at read
  exact Prod.mk.inj (Option.some.inj read).symm

/-- The form has an entry for scopes exactly when there are some. -/
theorem scope_mem_form_iff : (∃ entry, ("scope", entry) ∈ source.form) ↔ source.scopes ≠ [] := by
  unfold form
  cases source.scopes <;> simp

/-- The entry is split into the scopes at its blanks. -/
theorem splitAt_of_scope_mem_form (separate : ∀ scope ∈ source.scopes, ' ' ∉ scope.toList)
    {entry : String} (member : ("scope", entry) ∈ source.form) :
    (splitAt ' ' entry.toList).map String.ofList = source.scopes := by
  have nonempty : source.scopes ≠ [] := source.scope_mem_form_iff.mp ⟨entry, member⟩
  have joined : entry = " ".intercalate source.scopes := by
    rw [form, if_neg (by simpa using nonempty)] at member
    simpa using member
  have pieces : source.scopes.map String.toList ≠ [] := by simpa using nonempty
  have apart : ∀ piece ∈ source.scopes.map String.toList, ' ' ∉ piece := by
    simpa using separate
  have blank : " ".toList = [' '] := rfl
  rw [joined, String.toList_intercalate, blank, ← joinWith_eq_intercalate,
    splitAt_joinWith pieces apart, List.map_map]
  simp [Function.comp_def]

end TokenSource

/-! ## Requests for tokens -/

/-- A request for a token that carries the credentials and the scopes of a grant. -/
structure TokenRequest.Carries (asked : TokenRequest) (grant : OAuth2) : Prop where
  address : asked.url = grant.tokenUrl
  /-- The header value is one of the basic scheme. -/
  basic : Basic.header? (FormEncoding.write grant.clientId)
    (FormEncoding.write grant.clientSecret) = some asked.authorization
  credentials : Basic.read? asked.authorization = some (grant.clientId, grant.clientSecret)
  scopeEntry : (∃ entry, ("scope", entry) ∈ asked.form) ↔ grant.scopes ≠ []
  scopes : (∀ scope ∈ grant.scopes, ' ' ∉ scope.toList) →
    ∀ entry, ("scope", entry) ∈ asked.form →
      (splitAt ' ' entry.toList).map String.ofList = grant.scopes

/-- The source of a complete grant. -/
def OAuth2.completeSource (grant : OAuth2) : TokenSource :=
  ⟨grant.tokenUrl, grant.clientId, grant.clientSecret, grant.scopes⟩

theorem OAuth2.carries_request (grant : OAuth2) : grant.completeSource.request.Carries grant where
  address := rfl
  basic := grant.completeSource.header?_eq_authorization
  credentials := grant.completeSource.read?_authorization
  scopeEntry := grant.completeSource.scope_mem_form_iff
  scopes separate _ member := grant.completeSource.splitAt_of_scope_mem_form separate member

namespace Client

/-- A client of a metric with a complete grant has its source. -/
theorem ofMetric_of_complete (timeout : Int) {metric : Metric}
    (url : metric.web.oauth2.tokenUrl ≠ "") (id : metric.web.oauth2.clientId ≠ "")
    (secret : metric.web.oauth2.clientSecret ≠ "") :
    ofMetric timeout metric =
      .ok ⟨metric.web.connection timeout, some metric.web.oauth2.completeSource⟩ := by
  rw [ofMetric, OAuth2.source?, if_neg url, if_neg (by simp [id, secret])]
  rfl

/-- What is sent to the token endpoint is the request of the client's source. -/
theorem of_token_mem_sent_send {client : Client} {cache : Option Token} {now : Binary64}
    {answers : Answers} {request : Request} {asked : TokenRequest} {connection : Connection}
    (member : .token asked connection ∈ (client.send cache now answers request).trace.sent) :
    ∃ source, client.source = some source ∧ asked = source.request := by
  rw [sent_send, List.mem_append] at member
  rcases member with forToken | forValue
  · simp only [Option.mem_toList, Option.map_eq_some_iff, Sent.token.injEq] at forToken
    obtain ⟨source, needed, rfl, -⟩ := forToken
    exact ⟨source, (asked_eq_some_iff.mp needed).1, rfl⟩
  · split at forValue <;> simp at forValue

/-- Unless a token is cached that can be used, one is asked for. -/
theorem exists_token_mem_sent_send {client : Client} {source : TokenSource}
    (owned : client.source = some source) {cache : Option Token} {now : Binary64}
    (unusable : ∀ token, cache = some token → token.isValid now = false) (answers : Answers)
    (request : Request) :
    .token source.request client.connection ∈
      (client.send cache now answers request).trace.sent := by
  have asked : client.asked cache now = some source := asked_eq_some_iff.mpr ⟨owned, unusable⟩
  rw [sent_send, asked]
  exact List.mem_append_left _ List.mem_cons_self

/-- Whatever texts the credentials of a metric are, the metric has a client.  It asks for a token
whenever none is cached that can be used, and what it asks with carries the credentials and the
scopes; no other credentials have the same header value. -/
theorem token_requests_carry_credentials (timeout : Int) (metric : Metric)
    (url : metric.web.oauth2.tokenUrl ≠ "") (id : metric.web.oauth2.clientId ≠ "")
    (secret : metric.web.oauth2.clientSecret ≠ "") :
    ∃ client, ofMetric timeout metric = .ok client ∧
      ∀ cache now answers request,
        ((∀ token, cache = some token → token.isValid now = false) →
          ∃ asked connection, .token asked connection ∈
            (client.send cache now answers request).trace.sent) ∧
        ∀ asked connection, .token asked connection ∈
            (client.send cache now answers request).trace.sent →
          asked.Carries metric.web.oauth2 ∧
          ∀ other : TokenSource, other.authorization = asked.authorization →
            other.clientId = metric.web.oauth2.clientId ∧
              other.clientSecret = metric.web.oauth2.clientSecret := by
  refine ⟨_, ofMetric_of_complete timeout url id secret, ?_⟩
  intro cache now answers request
  constructor
  · intro unusable
    exact ⟨_, _, exists_token_mem_sent_send rfl unusable answers request⟩
  · intro asked connection member
    obtain ⟨source, owned, rfl⟩ := of_token_mem_sent_send member
    cases owned
    refine ⟨metric.web.oauth2.carries_request, fun other same => ?_⟩
    exact TokenSource.eq_of_authorization_eq same

/-- Credentials with a colon, a percent sign, a plus sign, blanks and letters beyond ASCII. -/
theorem token_requests_carry_marks :
    let grant : OAuth2 := ⟨"http://h/token", "a:b%41", "p+q é☃", ["read", "write:all"]⟩
    let metric : Metric := ⟨"m", "", "", { url := "http://h/m", oauth2 := grant }⟩
    let answers : Answers := ⟨.error (.host ⟨.timeout, none⟩), .error (.host ⟨.timeout, none⟩)⟩
    (grant.tokenUrl ≠ "" ∧ grant.clientId ≠ "" ∧ grant.clientSecret ≠ "") ∧
      ∃ client asked connection, ofMetric 10 metric = .ok client ∧
        .token asked connection ∈ (client.send none Binary64.zero answers
          ⟨.get, "http://h/m", none, []⟩).trace.sent ∧
        asked.Carries grant := by
  intro grant metric answers
  have complete : grant.tokenUrl ≠ "" ∧ grant.clientId ≠ "" ∧ grant.clientSecret ≠ "" := by decide
  obtain ⟨url, id, secret⟩ := complete
  obtain ⟨client, made, sends⟩ := token_requests_carry_credentials 10 metric url id secret
  obtain ⟨asks, carries⟩ := sends none Binary64.zero answers ⟨.get, "http://h/m", none, []⟩
  obtain ⟨asked, connection, member⟩ := asks nofun
  exact ⟨⟨url, id, secret⟩, client, asked, connection, made, member,
    (carries asked connection member).1⟩

end Client

end HttpGauge
