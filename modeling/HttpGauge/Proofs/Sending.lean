import HttpGauge.Proofs.Authorization

/-!
# Sending requests

One statement about each part of sending: how it ends, which requests it takes, what is evaluated
meanwhile and who writes the log.
-/

namespace HttpGauge

open HttpGauge.Number

/-! ## Endpoints -/

/-- The endpoints that are asked. -/
inductive Endpoint where
  | token
  | metric
  deriving DecidableEq, Repr

/-- The endpoint that a request goes to. -/
@[simp]
def Sent.endpoint : Sent → Endpoint
  | .token _ _ => .token
  | .metric _ _ _ => .metric

/-- How a request is sent. -/
@[simp]
def Sent.connection : Sent → Connection
  | .token _ connection => connection
  | .metric _ _ connection => connection

/-! ## Sending -/

namespace Client

variable (client : Client) (cache : Option Token) (now : Binary64) (answers : Answers)
  (request : Request)

@[simp]
theorem method_attach (token : Option Token) : (attach token request).method = request.method := by
  cases token <;> rfl

@[simp]
theorem url_attach (token : Option Token) : (attach token request).url = request.url := by
  cases token <;> rfl

@[simp]
theorem body_attach (token : Option Token) : (attach token request).body = request.body := by
  cases token <;> rfl

/-- A request fails when its authorisation does, and otherwise when its delivery does. -/
theorem outcome_send :
    (client.send cache now answers request).outcome =
      match (client.authorize cache now answers.token).outcome with
      | .ok _ => answers.response.mapError (client.sendFailure request.url)
      | .error failure => .error failure := by
  unfold send
  cases ended : (client.authorize cache now answers.token).outcome with
  | ok token => simp [Traced.andThen_of_ok ended, deliver, Traced.logging]
  | error failure => rw [Traced.andThen_of_error ended]

/-- What is sent for a request: the request for a token, if one has to be asked for, and then the
request itself, if it is authorised. -/
theorem sent_send :
    (client.send cache now answers request).trace.sent =
      ((client.asked cache now).map fun source =>
        Sent.token source.request client.connection).toList ++
      match (client.authorize cache now answers.token).outcome with
      | .ok token =>
          [.metric (attach token request) (skippedHeaders (attach token request).headers)
            client.connection]
      | .error _ => [] := by
  unfold send
  cases ended : (client.authorize cache now answers.token).outcome with
  | ok token =>
      simp [Traced.andThen_of_ok ended, sent_authorize, deliver, Traced.logging]
  | error failure => simp [Traced.andThen_of_error ended, sent_authorize]

/-- Sending evaluates nothing. -/
theorem evaluations_send : (client.send cache now answers request).trace.evaluations = [] := by
  unfold send
  cases ended : (client.authorize cache now answers.token).outcome with
  | ok token =>
      simp [Traced.andThen_of_ok ended, evaluations_authorize, deliver, Traced.logging]
  | error failure => simp [Traced.andThen_of_error ended, evaluations_authorize]

variable {client cache now answers request}

/-- A request is answered exactly when it is authorised and its delivery is answered. -/
theorem outcome_send_eq_ok_iff {response : Response} :
    (client.send cache now answers request).outcome = .ok response ↔
      client.Authorises cache now answers.token ∧ answers.response = .ok response := by
  rw [outcome_send, authorises_iff]
  cases (client.authorize cache now answers.token).outcome with
  | error failure => simp
  | ok token => cases answers.response <;> simp

/-- Nothing is held of a request that fails. -/
theorem hold_of_unsent {α : Type} {failure : Failure}
    (unsent : (client.send cache now answers request).outcome = .error failure)
    (holder : Response → Traced α) :
    client.hold cache now answers request holder =
      ⟨.error failure, (client.send cache now answers request).trace⟩ :=
  Traced.andThen_of_error unsent holder

/-- The holder goes on with the response. -/
theorem hold_of_answered {α : Type} {response : Response}
    (answered : (client.send cache now answers request).outcome = .ok response)
    (holder : Response → Traced α) :
    client.hold cache now answers request holder =
      ⟨(holder response).outcome,
        (client.send cache now answers request).trace ++ (holder response).trace⟩ :=
  Traced.andThen_of_ok answered holder

/-- Sending logs under the names of sources and of clients. -/
theorem logger_of_mem_entries_send {entry : Log.Entry}
    (member : entry ∈ (client.send cache now answers request).trace.entries) :
    entry.logger = TokenSource.logger ∨ entry.logger = logger := by
  unfold send at member
  cases ended : (client.authorize cache now answers.token).outcome with
  | error failure =>
      rw [Traced.andThen_of_error ended] at member
      exact Or.inl (logger_of_mem_entries_authorize member)
  | ok token =>
      rw [Traced.andThen_of_ok ended, Trace.entries_append, List.mem_append] at member
      rcases member with authorized | delivered
      · exact Or.inl (logger_of_mem_entries_authorize authorized)
      · have same : entry = ⟨logger, .debug, requestSummary (attach token request)⟩ := by
          simpa [deliver, Traced.logging] using delivered
        exact Or.inr (by rw [same])

/-! ## What is sent -/

/-- A token is asked for exactly when there is a source to ask. -/
theorem token_mem_endpoints_send :
    .token ∈ (client.send cache now answers request).trace.sent.map Sent.endpoint ↔
      client.source ≠ none ∧ ¬ ∃ token, cache = some token ∧ token.isValid now = true := by
  have source_iff : (client.asked cache now).isSome ↔
      client.source ≠ none ∧ ¬ ∃ token, cache = some token ∧ token.isValid now = true := by
    rw [Option.isSome_iff_exists]
    simp only [asked_eq_some_iff, ne_eq, Option.ne_none_iff_exists', exists_and_right, not_exists,
      not_and, Bool.not_eq_true]
  rw [← source_iff, sent_send]
  cases client.asked cache now <;> cases (client.authorize cache now answers.token).outcome <;>
    simp

/-- The request itself is sent exactly when it is authorised. -/
theorem metric_mem_endpoints_send :
    .metric ∈ (client.send cache now answers request).trace.sent.map Sent.endpoint ↔
      client.Authorises cache now answers.token := by
  rw [authorises_iff, sent_send]
  cases client.asked cache now <;> cases (client.authorize cache now answers.token).outcome <;>
    simp

/-- Something is sent, for an unauthorised request the one for the token that it lacks. -/
theorem endpoints_send (client : Client) (cache : Option Token) (now : Binary64)
    (answers : Answers) (request : Request) :
    (client.send cache now answers request).trace.sent.map Sent.endpoint ∈
      [[.token], [.metric], [.token, .metric]] := by
  rw [sent_send]
  cases asked : client.asked cache now with
  | some source => cases (client.authorize cache now answers.token).outcome <;> simp
  | none =>
      rw [outcome_authorize, exchanged, asked]
      simp

/-- An authorised request is sent once, with its token. -/
theorem filter_metric_sent_send (request : Request) {token : Option Token}
    (authorized : (client.authorize cache now answers.token).outcome = .ok token) :
    (client.send cache now answers request).trace.sent.filter (·.endpoint = .metric) =
      [.metric (attach token request) (skippedHeaders (attach token request).headers)
        client.connection] := by
  rw [sent_send, authorized]
  cases client.asked cache now <;> simp

/-- What is sent is the request with or without a token, and everything is sent alike. -/
theorem of_mem_sent_send {sent : Sent}
    (member : sent ∈ (client.send cache now answers request).trace.sent) :
    sent.connection = client.connection ∧
      ∀ complete skipped connection, sent = .metric complete skipped connection →
        ∃ token, complete = attach token request := by
  rw [sent_send, List.mem_append] at member
  rcases member with forToken | forValue
  · cases asked : client.asked cache now with
    | none => simp [asked] at forToken
    | some source =>
        have same : sent = .token source.request client.connection := by
          simpa [asked] using forToken
        rw [same]
        exact ⟨rfl, fun _ _ _ impossible => by contradiction⟩
  · cases authorized : (client.authorize cache now answers.token).outcome with
    | error failure => simp [authorized] at forValue
    | ok token =>
        have same : sent = .metric (attach token request)
            (skippedHeaders (attach token request).headers) client.connection := by
          simpa [authorized] using forValue
        rw [same]
        refine ⟨rfl, ?_⟩
        rintro _ _ _ ⟨⟩
        exact ⟨token, rfl⟩

end Client

end HttpGauge
