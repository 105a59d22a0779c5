import HttpGauge.Proofs.Session

/-!
# The client secret

The secret of a client is used for one thing only, to authorise its requests for tokens.  Metrics
that differ in their secrets have providers that differ in theirs, and such providers run alike for
all who do not see these authorisations.
-/

namespace HttpGauge

open HttpGauge.Json HttpGauge.Number

/-! ## Redaction -/

/-- Credentials without their secret. -/
def OAuth2.redacted (grant : OAuth2) : OAuth2 :=
  { grant with clientSecret := "" }

/-- A metric without its client secret. -/
def Metric.redacted (metric : Metric) : Metric :=
  { metric with web.oauth2 := metric.web.oauth2.redacted }

/-- A source without its secret. -/
def TokenSource.redacted (source : TokenSource) : TokenSource :=
  { source with clientSecret := "" }

/-- A client without the secret of its source. -/
def Client.redacted (client : Client) : Client :=
  { client with source := client.source.map TokenSource.redacted }

/-- A provider without the secret of its client. -/
def Provider.redacted (provider : Provider) : Provider :=
  { provider with client := provider.client.redacted }

/-- An event without the secret: only requests for tokens authorise themselves with it, and only
evaluators are given the metric that it belongs to. -/
def Event.withoutSecret : Event → Event
  | .sent (.token request connection) =>
      .sent (.token { request with authorization := "" } connection)
  | .evaluated value metric => .evaluated value metric.redacted
  | event => event

/-- An evaluator whose verdict does not depend on the authentication of the metric. -/
def Evaluator.IgnoresAuthentication (evaluator : Evaluator) : Prop :=
  ∀ value metric oauth2,
    evaluator value { metric with web.oauth2 := oauth2 } = evaluator value metric

/-! ## Sending -/

namespace TokenSource

variable {first second : TokenSource}

theorem redacted_eq_iff :
    first.redacted = second.redacted ↔
      first.url = second.url ∧ first.clientId = second.clientId ∧ first.scopes = second.scopes := by
  simp [redacted]

theorem receive_eq (same : first.redacted = second.redacted) (requestedAt : Binary64)
    (answer : Except Failure TokenAnswer) :
    first.receive requestedAt answer = second.receive requestedAt answer := by
  obtain ⟨url, -, -⟩ := redacted_eq_iff.mp same
  unfold receive grantSummary
  rw [url]

/-- Sources that differ in their secrets obtain the same tokens. -/
theorem token_withoutSecret (same : first.redacted = second.redacted) (connection : Connection)
    (cache : Option Token) (now : Binary64) (answer : Except Failure TokenAnswer) :
    (first.token connection cache now answer).Alike Event.withoutSecret Eq
      (second.token connection cache now answer) := by
  unfold token
  cases check now cache with
  | some token => exact Traced.Alike.refl _
  | none =>
      obtain ⟨url, -, scopes⟩ := redacted_eq_iff.mp same
      unfold exchange Traced.logging
      rw [receive_eq same, url]
      apply Traced.Alike.after rfl
      apply Traced.Alike.after
      · simp only [Event.withoutSecret, request, form, url, scopes]
      · exact Traced.Alike.refl _

end TokenSource

namespace Client

variable {first second : Client}

theorem redacted_eq_iff :
    first.redacted = second.redacted ↔
      first.connection = second.connection ∧
        first.source.map TokenSource.redacted = second.source.map TokenSource.redacted := by
  simp [redacted]

theorem authorize_withoutSecret (same : first.redacted = second.redacted) (cache : Option Token)
    (now : Binary64) (answer : Except Failure TokenAnswer) :
    (first.authorize cache now answer).Alike Event.withoutSecret Eq
      (second.authorize cache now answer) := by
  obtain ⟨connection, sources⟩ := redacted_eq_iff.mp same
  unfold authorize
  rw [connection]
  cases one : first.source with
  | none =>
      rw [one] at sources
      rw [Option.map_eq_none_iff.mp sources.symm]
      exact Traced.Alike.refl _
  | some source =>
      rw [one] at sources
      obtain ⟨other, two, redacted⟩ := Option.map_eq_some_iff.mp sources.symm
      rw [two]
      apply (source.token_withoutSecret redacted.symm second.connection cache now answer).andThen
      rintro token _ rfl
      exact Traced.Alike.refl _

theorem deliver_eq (same : first.redacted = second.redacted) (request : Request)
    (response : Except Failure Response) :
    first.deliver request response = second.deliver request response := by
  obtain ⟨connection, -⟩ := redacted_eq_iff.mp same
  have failures : first.sendFailure request.url = second.sendFailure request.url := by
    funext failure
    unfold sendFailure
    rw [connection]
  unfold deliver
  rw [connection, failures]

/-- Clients that differ in their secrets send the same requests. -/
theorem send_withoutSecret (same : first.redacted = second.redacted) (cache : Option Token)
    (now : Binary64) (answers : Answers) (request : Request) :
    (first.send cache now answers request).Alike Event.withoutSecret Eq
      (second.send cache now answers request) := by
  apply (authorize_withoutSecret same cache now answers.token).andThen
  rintro token _ rfl
  rw [deliver_eq same]
  exact Traced.Alike.refl _

theorem cacheAfter_of_redacted (same : first.redacted = second.redacted) (cache : Option Token)
    (now : Binary64) (answers : Answers) :
    first.cacheAfter cache now answers = second.cacheAfter cache now answers := by
  have authorized := (authorize_withoutSecret same cache now answers.token).outcome
  unfold cacheAfter
  rw [resultsAlike_eq_iff.mp authorized]

end Client

/-! ## Runs -/

namespace Metric

variable {first second : Metric}

/-- Nothing that a metric says of its request has to do with its secret. -/
theorem eq_of_redacted {β : Type} (part : Metric → β)
    (free : ∀ metric, part metric.redacted = part metric)
    (same : first.redacted = second.redacted) : part first = part second := by
  rw [← free first, same, free second]

theorem request_of_redacted (same : first.redacted = second.redacted) :
    first.web.request = second.web.request :=
  eq_of_redacted (·.web.request) (fun _ => rfl) same

theorem verdict_of_redacted {evaluator : Evaluator} (ignores : evaluator.IgnoresAuthentication)
    (same : first.redacted = second.redacted) (value : Value) :
    evaluator value first = evaluator value second :=
  calc evaluator value first = evaluator value first.redacted := (ignores value first _).symm
    _ = evaluator value second.redacted := by rw [same]
    _ = evaluator value second := ignores value second _

end Metric

/-- Two orders that differ at most in the secrets of their metrics, for an evaluator that does not
look at them. -/
structure RunOrder.SameButSecret (first second : RunOrder) : Prop where
  name : first.name = second.name
  metric : first.metric.redacted = second.metric.redacted
  evaluator : first.evaluator = second.evaluator
  ignores : first.evaluator.IgnoresAuthentication
  scene : first.scene = second.scene

namespace Provider

variable {first second : Provider}

theorem redacted_eq_iff :
    first.redacted = second.redacted ↔
      first.metricName = second.metricName ∧ first.client.redacted = second.client.redacted ∧
        first.extractor = second.extractor := by
  simp [redacted]

/-- Providers that differ in their secrets run the same. -/
theorem run_withoutSecret (same : first.redacted = second.redacted) {state other : State}
    (states : State.Alike Eq state other) {order otherOrder : RunOrder}
    (orders : order.SameButSecret otherOrder) :
    (first.run state order).Alike Event.withoutSecret Eq (second.run other otherOrder) := by
  obtain ⟨-, clients, extractors⟩ := redacted_eq_iff.mp same
  have builds := Metric.request_of_redacted orders.metric
  apply run_alike states.ticks orders.name
  · rw [states.cache]
    apply pipeline_alike builds
    · intro request
      rw [orders.scene]
      exact Client.send_withoutSecret clients _ _ _ request
    · intro response
      rw [extractors, ← orders.evaluator]
      apply response.classify_alike (Metric.verdict_of_redacted orders.ignores orders.metric)
      intro value
      rw [Event.withoutSecret, Event.withoutSecret, orders.metric]
  · unfold cacheAfter
    rw [builds, states.cache, orders.scene]
    cases otherOrder.metric.web.request with
    | error fault => rfl
    | ok request => exact Client.cacheAfter_of_redacted clients _ _ _

end Provider

/-! ## Building -/

namespace OAuth2

variable {first second : OAuth2}

theorem redacted_eq_iff :
    first.redacted = second.redacted ↔
      first.tokenUrl = second.tokenUrl ∧ first.clientId = second.clientId ∧
        first.scopes = second.scopes := by
  simp [redacted]

/-- Whether there is a source is decided by whether there is a secret, not by the secret. -/
theorem source?_withoutSecret (same : first.redacted = second.redacted)
    (secret : first.clientSecret ≠ "") (other : second.clientSecret ≠ "") :
    first.source?.map (Option.map TokenSource.redacted) =
      second.source?.map (Option.map TokenSource.redacted) := by
  obtain ⟨url, id, scopes⟩ := redacted_eq_iff.mp same
  unfold source?
  rw [url, id, scopes]
  by_cases noUrl : second.tokenUrl = ""
  · rw [if_pos noUrl, if_pos noUrl]
  · rw [if_neg noUrl, if_neg noUrl]
    by_cases noId : second.clientId = ""
    · rw [if_pos (by simp [noId]), if_pos (by simp [noId])]
    · rw [if_neg (by simp [noId, secret]), if_neg (by simp [noId, other])]
      rfl

end OAuth2

variable {first second : Metric}

theorem Client.map_redacted_ofMetric (timeout : Int) (metric : Metric) :
    (Client.ofMetric timeout metric).map Client.redacted =
      (metric.web.oauth2.source?.map (Option.map TokenSource.redacted)).map
        (⟨metric.web.connection timeout, ·⟩) := by
  unfold Client.ofMetric
  cases metric.web.oauth2.source? <;> rfl

/-- Metrics that differ in their secrets have clients that do, too. -/
theorem Client.ofMetric_withoutSecret (timeout : Int) (same : first.redacted = second.redacted)
    (secret : first.web.oauth2.clientSecret ≠ "") (other : second.web.oauth2.clientSecret ≠ "") :
    (Client.ofMetric timeout first).map Client.redacted =
      (Client.ofMetric timeout second).map Client.redacted := by
  have connection : first.web.connection timeout = second.web.connection timeout :=
    Metric.eq_of_redacted (·.web.connection timeout) (fun _ => rfl) same
  have grants : first.web.oauth2.redacted = second.web.oauth2.redacted :=
    Metric.eq_of_redacted (·.web.oauth2.redacted) (fun _ => rfl) same
  rw [map_redacted_ofMetric, map_redacted_ofMetric, connection,
    OAuth2.source?_withoutSecret grants secret other]

/-- Metrics that differ in their secrets have providers that do, too. -/
theorem Provider.build_withoutSecret (language : PathLanguage) (settings : Settings)
    (same : first.redacted = second.redacted)
    (secret : first.web.oauth2.clientSecret ≠ "") (other : second.web.oauth2.clientSecret ≠ "") :
    (build language settings first).Alike Event.withoutSecret
      (fun provider otherProvider => provider.redacted = otherProvider.redacted)
      (build language settings second) := by
  have name : first.name = second.name := Metric.eq_of_redacted (·.name) (fun _ => rfl) same
  have path : first.web.jsonPath = second.web.jsonPath :=
    Metric.eq_of_redacted (·.web.jsonPath) (fun _ => rfl) same
  have clients := Client.ofMetric_withoutSecret settings.defaultTimeout same secret other
  unfold build
  rw [path, name]
  cases one : Client.ofMetric settings.defaultTimeout first with
  | error fault =>
      cases two : Client.ofMetric settings.defaultTimeout second with
      | error otherFault =>
          rw [one, two] at clients
          cases clients
          exact Traced.Alike.fail _
      | ok client =>
          rw [one, two] at clients
          contradiction
  | ok client =>
      cases two : Client.ofMetric settings.defaultTimeout second with
      | error fault =>
          rw [one, two] at clients
          contradiction
      | ok otherClient =>
          rw [one, two] at clients
          have redacted : client.redacted = otherClient.redacted := Except.ok.inj clients
          apply (Traced.Alike.refl _).andThen
          rintro extractor _ rfl
          apply Traced.Alike.after rfl
          exact Traced.Alike.ok (redacted_eq_iff.mpr ⟨rfl, redacted, rfl⟩)

end HttpGauge
