import HttpGauge.Proofs.Sending
import HttpGauge.Proofs.Session

/-!
# Access tokens

An access token is used for one thing only, to authorise requests for values.  Runs in which the
token endpoint grants different access tokens under the same conditions are alike for all who do
not see these authorisations, and what is cached afterwards differs in the access token only.
-/

namespace HttpGauge

open HttpGauge.Json HttpGauge.Manifest HttpGauge.Number

/-! ## Redaction -/

/-- A grant without its access token. -/
def Grant.redacted (grant : Grant) : Grant :=
  { grant with access := "" }

/-- A token without its access token. -/
def Token.redacted (token : Token) : Token :=
  { token with access := "" }

theorem Token.redacted_eq_iff {first second : Token} :
    first.redacted = second.redacted ↔
      first.type = second.type ∧ first.expiresAt = second.expiresAt := by
  simp [redacted]

/-- Both nothing, or tokens that differ at most in their access tokens. -/
def TokensAlike (first second : Option Token) : Prop :=
  first.map Token.redacted = second.map Token.redacted

theorem TokensAlike.cases {first second : Option Token} (tokens : TokensAlike first second) :
    (first = none ∧ second = none) ∨
      ∃ token other, first = some token ∧ second = some other ∧
        token.redacted = other.redacted := by
  unfold TokensAlike at tokens
  cases first with
  | none => exact .inl ⟨rfl, Option.map_eq_none_iff.mp tokens.symm⟩
  | some token =>
      obtain ⟨other, isOther, same⟩ := Option.map_eq_some_iff.mp tokens.symm
      exact .inr ⟨token, other, rfl, isOther, same.symm⟩

/-- The headers without the values of a key. -/
def HeaderSet.without (key : String) (headers : HeaderSet) : HeaderSet :=
  headers.map fun header => if header.1 = key then (key, "") else header

/-- An event without access tokens: only requests for values authorise themselves with them. -/
def Event.withoutToken : Event → Event
  | .sent (.metric request skipped connection) =>
      .sent (.metric { request with headers := request.headers.without Client.authorizationKey }
        skipped connection)
  | event => event

/-- Two answers that grant tokens and, as documents, differ in these at most. -/
structure TokenAnswer.SameButToken (first second : TokenAnswer) : Prop where
  status : first.status = second.status
  contentType : first.contentType = second.contentType
  accepted : ∃ grant, first.grant = .ok grant
  otherAccepted : ∃ grant, second.grant = .ok grant
  /-- The members of the documents agree, but for the access token. -/
  documents : ∃ body document otherBody otherDocument,
    first.body = .ok body ∧ TokenAnswer.document first.contentType body = .ok (.obj document) ∧
    second.body = .ok otherBody ∧
    TokenAnswer.document second.contentType otherBody = .ok (.obj otherDocument) ∧
      ∀ key, key ≠ "access_token" → Members.get? key document = Members.get? key otherDocument

/-- A token endpoint answers the same, or grants tokens both times. -/
inductive AnswersAlike : Except Failure TokenAnswer → Except Failure TokenAnswer → Prop where
  | same (answer : Except Failure TokenAnswer) : AnswersAlike answer answer
  | granted {first second : TokenAnswer} (alike : first.SameButToken second) :
      AnswersAlike (.ok first) (.ok second)

/-- Two orders that differ at most in the access tokens that are granted while they run. -/
structure RunOrder.SameButToken (first second : RunOrder) : Prop where
  name : first.name = second.name
  metric : first.metric = second.metric
  evaluator : first.evaluator = second.evaluator
  now : first.scene.now = second.scene.now
  response : first.scene.answers.response = second.scene.answers.response
  token : AnswersAlike first.scene.answers.token second.scene.answers.token

/-- Only the answers of the token endpoint may differ. -/
theorem RunOrder.sameButToken_of_alike (name : String) (metric : Metric) (evaluator : Evaluator)
    (now : Binary64) (response : Except Failure Response)
    {answer other : Except Failure TokenAnswer} (alike : AnswersAlike answer other) :
    SameButToken ⟨name, metric, evaluator, ⟨now, ⟨answer, response⟩⟩⟩
      ⟨name, metric, evaluator, ⟨now, ⟨other, response⟩⟩⟩ :=
  ⟨rfl, rfl, rfl, rfl, rfl, alike⟩

/-! ## Grants -/

/-- A part depends on nothing but the members of its two spellings. -/
theorem Field.orElse_congr {β : Type} {field : Field} {document other : Members}
    (key : document.get? field.key = other.get? field.key)
    (name : document.get? field.name = other.get? field.name) (absent : β)
    (read : Value → Checked β) :
    field.orElse absent read document = field.orElse absent read other := by
  unfold Field.orElse Field.find?
  rw [key, name]

namespace Grant

/-- The parts of a grant besides its access token. -/
theorem parts_of_read {document : Members} {grant : Grant}
    (reads : Grant.read (.obj document) = .ok grant) :
    Field.orElse ⟨"token_type", "token_type"⟩ Token.bearer readString document =
        .ok grant.type ∧
      Field.orElse ⟨"expires_in", "expires_in"⟩ none (readOptional readInt) document =
        .ok grant.lifetime := by
  unfold Grant.read readObject at reads
  obtain ⟨withType, lifetime, started, lifetimeReads, rfl⟩ := Checked.also_eq_ok_iff.mp reads
  obtain ⟨withAccess, type, begun, typeReads, rfl⟩ := Checked.also_eq_ok_iff.mp started
  obtain ⟨build, access, made, -, rfl⟩ := Checked.also_eq_ok_iff.mp begun
  cases made
  exact ⟨typeReads, lifetimeReads⟩

/-- A grant that is accepted is the one that is read from the document. -/
theorem read_of_accepted {answer : TokenAnswer} {body : List UInt8} {document : Members}
    {grant : Grant} (arrived : answer.body = .ok body)
    (isDocument : TokenAnswer.document answer.contentType body = .ok (.obj document))
    (accepted : answer.grant = .ok grant) : Grant.read (.obj document) = .ok grant := by
  unfold TokenAnswer.grant TokenAnswer.grantOf at accepted
  rw [arrived] at accepted
  dsimp only at accepted
  rw [isDocument] at accepted
  cases success : isSuccess answer.status with
  | false => simp [success] at accepted
  | true =>
      cases reads : Grant.read (.obj document) with
      | error problems => simp [success, reads] at accepted
      | ok other => simpa [success, reads] using accepted

variable {first second : Grant}

theorem redacted_eq_iff :
    first.redacted = second.redacted ↔
      first.type = second.type ∧ first.lifetime = second.lifetime := by
  simp [redacted]

/-- Grants that differ in their access tokens are of tokens that do, too. -/
theorem token_redacted (same : first.redacted = second.redacted) (requestedAt : Binary64) :
    (first.token requestedAt).map Token.redacted =
      (second.token requestedAt).map Token.redacted := by
  obtain ⟨type, lifetime⟩ := redacted_eq_iff.mp same
  unfold Grant.token
  rw [type, lifetime]
  cases second.lifetime with
  | none => rfl
  | some seconds =>
      dsimp only
      by_cases zero : seconds = 0
      · rw [if_pos zero, if_pos zero]
        rfl
      · rw [if_neg zero, if_neg zero]
        cases Binary64.ofInt? seconds <;> rfl

end Grant

/-- Answers that differ in the access tokens that they grant have grants that do, too. -/
theorem TokenAnswer.SameButToken.redacted {first second : TokenAnswer}
    (alike : first.SameButToken second) :
    ∃ grant other, first.grant = .ok grant ∧ second.grant = .ok other ∧
      grant.redacted = other.redacted := by
  obtain ⟨grant, accepted⟩ := alike.accepted
  obtain ⟨other, otherAccepted⟩ := alike.otherAccepted
  obtain ⟨_, document, _, otherDocument, arrived, isDocument, otherArrived, isOther, agree⟩ :=
    alike.documents
  obtain ⟨type, lifetime⟩ :=
    Grant.parts_of_read (Grant.read_of_accepted arrived isDocument accepted)
  obtain ⟨otherType, otherLifetime⟩ :=
    Grant.parts_of_read (Grant.read_of_accepted otherArrived isOther otherAccepted)
  have agreeType := agree "token_type" (by decide)
  have agreeLifetime := agree "expires_in" (by decide)
  rw [Field.orElse_congr agreeType agreeType, otherType] at type
  rw [Field.orElse_congr agreeLifetime agreeLifetime, otherLifetime] at lifetime
  refine ⟨grant, other, accepted, otherAccepted, Grant.redacted_eq_iff.mpr ⟨?_, ?_⟩⟩
  · exact (Except.ok.inj type).symm
  · exact (Except.ok.inj lifetime).symm

/-! ## Sending -/

namespace TokenSource

/-- A cached token can be used as long, whatever its access token. -/
theorem check_tokensAlike {first second : Option Token} (caches : TokensAlike first second)
    (now : Binary64) : TokensAlike (check now first) (check now second) := by
  obtain ⟨rfl, rfl⟩ | ⟨token, other, rfl, rfl, same⟩ := caches.cases
  · rfl
  · obtain ⟨-, expiry⟩ := Token.redacted_eq_iff.mp same
    have validity : token.isValid now = other.isValid now := by
      unfold Token.isValid
      rw [expiry]
    unfold check
    dsimp only
    rw [validity]
    split
    · exact caches
    · rfl

/-- Answers that differ in the access tokens that they grant are accepted alike. -/
theorem receive_withoutToken (source : TokenSource) (requestedAt : Binary64)
    {first second : Except Failure TokenAnswer}
    (alike : AnswersAlike first second) :
    (source.receive requestedAt first).Alike Event.withoutToken
      (fun token other => token.redacted = other.redacted)
      (source.receive requestedAt second) := by
  cases alike with
  | same answer => exact (Traced.Alike.refl _).imp fun _ _ same => congrArg Token.redacted same
  | granted alike =>
      obtain ⟨grant, otherGrant, accepted, otherAccepted, same⟩ := alike.redacted
      have tokens := Grant.token_redacted same requestedAt
      have summaries : source.grantSummary grant = source.grantSummary otherGrant := by
        unfold grantSummary
        rw [(Grant.redacted_eq_iff.mp same).2]
      unfold receive
      dsimp only
      rw [accepted, otherAccepted]
      dsimp only
      rw [summaries]
      generalize grant.token requestedAt = one at tokens ⊢
      generalize otherGrant.token requestedAt = two at tokens ⊢
      cases one with
      | error fault =>
          cases two with
          | error otherFault =>
              cases tokens
              exact Traced.Alike.fail _
          | ok token => contradiction
      | ok token =>
          cases two with
          | error fault => contradiction
          | ok otherToken =>
              exact Traced.Alike.after rfl (Traced.Alike.ok (Except.ok.inj tokens))

/-- A token is obtained alike from alike caches and answers. -/
theorem token_withoutToken (source : TokenSource) (connection : Connection) (now : Binary64)
    {first second : Option Token} (caches : TokensAlike first second)
    {answer other : Except Failure TokenAnswer}
    (alike : AnswersAlike answer other) :
    (source.token connection first now answer).Alike Event.withoutToken
      (fun token other => token.redacted = other.redacted)
      (source.token connection second now other) := by
  unfold token
  obtain ⟨one, two⟩ | ⟨token, otherToken, one, two, same⟩ := (check_tokensAlike caches now).cases
  · rw [one, two]
    apply Traced.Alike.after rfl
    apply Traced.Alike.after rfl
    exact source.receive_withoutToken now alike
  · rw [one, two]
    exact Traced.Alike.ok same

end TokenSource

namespace HeaderSet

/-- Without its value it does not matter what a key is set to. -/
theorem without_set (key value other : String) (headers : HeaderSet) :
    (headers.set key value).without key = (headers.set key other).without key := by
  induction headers with
  | nil => simp [set, without]
  | cons header rest ih =>
      by_cases same : header.1 = key
      · simp [set, without, same]
      · rw [without, without] at ih
        rw [set, set, if_neg same, if_neg same, without, without, List.map_cons, List.map_cons, ih]

theorem hasKey_without (name key : String) (headers : HeaderSet) :
    (headers.without key).hasKey name = headers.hasKey name := by
  rw [hasKey, hasKey, without, List.any_map]
  apply congrArg headers.any
  funext header
  by_cases same : header.1 = key
  · simp [same]
  · simp [same]

end HeaderSet

namespace Client

variable (client : Client) {first second : Option Token}

/-- A request is authorised alike from alike caches and answers. -/
theorem authorize_withoutToken (caches : TokensAlike first second) (now : Binary64)
    {answer other : Except Failure TokenAnswer}
    (alike : AnswersAlike answer other) :
    (client.authorize first now answer).Alike Event.withoutToken TokensAlike
      (client.authorize second now other) := by
  unfold authorize
  cases client.source with
  | none => exact Traced.Alike.ok rfl
  | some source =>
      apply (source.token_withoutToken client.connection now caches alike).andThen
      intro token otherToken same
      exact Traced.Alike.ok (congrArg some same)

/-- What is logged of a request says nothing of its token. -/
theorem requestSummary_attach (token : Option Token) (request : Request) :
    requestSummary (attach token request) = requestSummary request := by
  unfold requestSummary
  rw [method_attach, url_attach]

/-- Requests with different tokens are delivered alike. -/
theorem deliver_withoutToken (tokens : TokensAlike first second) (request : Request)
    (response : Except Failure Response) :
    (client.deliver (attach first request) response).Alike Event.withoutToken Eq
      (client.deliver (attach second request) response) := by
  obtain ⟨rfl, rfl⟩ | ⟨token, other, rfl, rfl, -⟩ := tokens.cases
  · exact Traced.Alike.refl _
  · have headers := request.headers.without_set authorizationKey token.authorization
      other.authorization
    have skipped :
        skippedHeaders (request.headers.set authorizationKey token.authorization) =
          skippedHeaders (request.headers.set authorizationKey other.authorization) := by
      unfold skippedHeaders
      rw [← HeaderSet.hasKey_without _ authorizationKey, headers, HeaderSet.hasKey_without]
    unfold deliver
    rw [requestSummary_attach, requestSummary_attach, url_attach, url_attach]
    apply Traced.Alike.after rfl
    apply Traced.Alike.after
    · simp only [attach, Event.withoutToken, headers, skipped]
    · exact Traced.Alike.refl _

/-- A request is sent alike from alike caches and answers. -/
theorem send_withoutToken (caches : TokensAlike first second) (now : Binary64)
    {answers other : Answers} (responses : answers.response = other.response)
    (alike : AnswersAlike answers.token other.token) (request : Request) :
    (client.send first now answers request).Alike Event.withoutToken Eq
      (client.send second now other request) := by
  apply (client.authorize_withoutToken caches now alike).andThen
  intro token otherToken tokens
  rw [responses]
  exact client.deliver_withoutToken tokens request other.response

theorem cacheAfter_tokensAlike (caches : TokensAlike first second) (now : Binary64)
    {answers other : Answers}
    (alike : AnswersAlike answers.token other.token) :
    TokensAlike (client.cacheAfter first now answers) (client.cacheAfter second now other) := by
  have outcome := (client.authorize_withoutToken caches now alike).outcome
  unfold cacheAfter
  generalize (client.authorize first now answers.token).outcome = one at outcome ⊢
  generalize (client.authorize second now other.token).outcome = two at outcome ⊢
  cases outcome with
  | failed failure => exact caches
  | @succeeded token otherToken tokens =>
      obtain ⟨rfl, rfl⟩ | ⟨carried, otherCarried, rfl, rfl, -⟩ := tokens.cases
      · exact caches
      · exact tokens

end Client

/-! ## Runs -/

/-- Runs in which different tokens are granted are alike. -/
theorem Provider.run_withoutToken (provider : Provider) {state other : State}
    (states : State.Alike TokensAlike state other) {order otherOrder : RunOrder}
    (orders : order.SameButToken otherOrder) :
    (provider.run state order).Alike Event.withoutToken TokensAlike
      (provider.run other otherOrder) := by
  apply run_alike states.ticks orders.name
  · apply pipeline_alike (by rw [orders.metric])
    · intro request
      rw [orders.now]
      exact provider.client.send_withoutToken states.cache _ orders.response orders.token request
    · intro response
      rw [orders.evaluator, orders.metric]
      exact Traced.Alike.refl _
  · unfold cacheAfter
    rw [orders.metric, orders.now]
    cases otherOrder.metric.web.request with
    | error fault => exact states.cache
    | ok request => exact provider.client.cacheAfter_tokensAlike states.cache _ orders.token

end HttpGauge
