import HttpGauge.Client

/-!
# Authorisation of requests

When a client asks for a token before it sends a request, what it sends for it, and how that ends.
It asks exactly when it has a source of tokens and no cached token that can still be used; a token
that it has asked for is the one that its request carries.
-/

namespace HttpGauge

open HttpGauge.Number

/-! ## Sources -/

namespace TokenSource

/-- A check finds nothing but the cached token, and that only while it can be used. -/
theorem check_eq_some_iff {now : Binary64} {cache : Option Token} {token : Token} :
    check now cache = some token ↔ cache = some token ∧ token.isValid now = true := by
  cases cache with
  | none => simp [check]
  | some cached =>
      by_cases valid : cached.isValid now = true
      · constructor
        · intro found
          have same : cached = token := by simpa [check, valid] using found
          exact ⟨congrArg some same, same ▸ valid⟩
        · rintro ⟨same, -⟩
          simpa [check, valid] using same
      · constructor
        · intro found
          simp [check, valid] at found
        · rintro ⟨same, stillValid⟩
          cases same
          contradiction

/-- A check fails where nothing is cached or the cached token cannot be used any more. -/
theorem check_eq_none_iff {now : Binary64} {cache : Option Token} :
    check now cache = none ↔ ∀ token, cache = some token → token.isValid now = false := by
  rw [Option.eq_none_iff_forall_ne_some]
  simp only [ne_eq, check_eq_some_iff, not_and, Bool.not_eq_true]

/-- Accepting an answer leaves at most a record behind. -/
theorem trace_receive (source : TokenSource) (requestedAt : Binary64)
    (answer : Except Failure TokenAnswer) :
    (source.receive requestedAt answer).trace = [] ∨
      ∃ message, (source.receive requestedAt answer).trace =
        [.logged ⟨logger, .debug, message⟩] := by
  unfold receive
  cases answer with
  | error failure => exact Or.inl rfl
  | ok answer =>
      cases granted : answer.grant with
      | error failure => exact Or.inl (by simp [granted])
      | ok grant =>
          cases issued : grant.token requestedAt with
          | error fault => exact Or.inl (by simp [granted, issued])
          | ok token =>
              exact Or.inr ⟨source.grantSummary grant, by simp [granted, issued, Traced.logging]⟩

variable (source : TokenSource) (connection : Connection) (cache : Option Token) (now : Binary64)
  (answer : Except Failure TokenAnswer)

/-- A token comes from the cache if it can be used, and from an exchange otherwise. -/
theorem outcome_token :
    (source.token connection cache now answer).outcome =
      match check now cache with
      | some token => .ok token
      | none => (source.receive now answer).outcome := by
  unfold token
  cases check now cache <;> rfl

/-- At most one request is sent for a token. -/
theorem sent_token :
    (source.token connection cache now answer).trace.sent =
      match check now cache with
      | some _ => []
      | none => [.token source.request connection] := by
  unfold token
  cases check now cache with
  | some token => rfl
  | none =>
      rcases source.trace_receive now answer with silent | ⟨message, logged⟩
      · simp [exchange, Traced.logging, silent]
      · simp [exchange, Traced.logging, logged]

/-- Obtaining a token evaluates nothing. -/
theorem evaluations_token : (source.token connection cache now answer).trace.evaluations = [] := by
  unfold token
  cases check now cache with
  | some token => rfl
  | none =>
      rcases source.trace_receive now answer with silent | ⟨message, logged⟩
      · simp [exchange, Traced.logging, silent]
      · simp [exchange, Traced.logging, logged]

variable {source connection cache now answer}

/-- Obtaining a token logs under one name. -/
theorem logger_of_mem_entries_token {entry : Log.Entry}
    (member : entry ∈ (source.token connection cache now answer).trace.entries) :
    entry.logger = logger := by
  unfold token at member
  cases found : check now cache with
  | some token => simp [found] at member
  | none =>
      have parts : entry = ⟨logger, .debug, "Requesting OAuth2 token from " ++ source.url⟩ ∨
          entry ∈ (source.receive now answer).trace.entries := by
        simpa [found, exchange, Traced.logging] using member
      rcases parts with same | received
      · rw [same]
      · rcases source.trace_receive now answer with silent | ⟨message, logged⟩
        · simp [silent] at received
        · have same : entry = ⟨logger, .debug, message⟩ := by simpa [logged] using received
          rw [same]

end TokenSource

/-! ## Clients -/

namespace Client

/-- The source that has to be asked for a token before a request is sent. -/
def asked (client : Client) (cache : Option Token) (now : Binary64) : Option TokenSource :=
  match TokenSource.check now cache with
  | some _ => none
  | none => client.source

/-- How the exchange ends that has to precede a request, if one has to. -/
def exchanged (client : Client) (cache : Option Token) (now : Binary64)
    (answer : Except Failure TokenAnswer) : Option (Except Failure Token) :=
  (client.asked cache now).map fun source => (source.receive now answer).outcome

/-- The cached token that a request carries without an exchange. -/
def kept (client : Client) (cache : Option Token) (now : Binary64) : Option Token :=
  client.source.bind fun _ => TokenSource.check now cache

/-- A source is asked exactly when it is the client's and no usable token is cached. -/
theorem asked_eq_some_iff {client : Client} {cache : Option Token} {now : Binary64}
    {source : TokenSource} :
    client.asked cache now = some source ↔
      client.source = some source ∧ ∀ token, cache = some token → token.isValid now = false := by
  rw [asked, ← TokenSource.check_eq_none_iff]
  cases TokenSource.check now cache <;> simp

variable (client : Client) (cache : Option Token) (now : Binary64)
  (answer : Except Failure TokenAnswer)

/-- Without a source there is nothing to authorise with, and otherwise the source decides. -/
theorem authorize_eq :
    client.authorize cache now answer =
      match client.source with
      | none => .ok none
      | some source =>
          ⟨(source.token client.connection cache now answer).outcome.map some,
            (source.token client.connection cache now answer).trace⟩ := by
  unfold authorize
  cases client.source with
  | none => rfl
  | some source => exact Traced.andThen_ok_comp _ some

/-- A request is authorised by an exchange where one is needed and by the cache otherwise. -/
theorem outcome_authorize :
    (client.authorize cache now answer).outcome =
      match client.exchanged cache now answer with
      | some result => result.map some
      | none => .ok (client.kept cache now) := by
  rw [authorize_eq, exchanged, asked, kept]
  cases client.source with
  | none => cases TokenSource.check now cache <;> rfl
  | some source =>
      simp only [TokenSource.outcome_token]
      cases TokenSource.check now cache <;> rfl

/-- Authorisation sends nothing but the request for a token. -/
theorem sent_authorize :
    (client.authorize cache now answer).trace.sent =
      ((client.asked cache now).map fun source =>
        Sent.token source.request client.connection).toList := by
  rw [authorize_eq, asked]
  cases client.source with
  | none => cases TokenSource.check now cache <;> rfl
  | some source =>
      simp only [TokenSource.sent_token]
      cases TokenSource.check now cache <;> rfl

/-- Authorisation evaluates nothing. -/
theorem evaluations_authorize : (client.authorize cache now answer).trace.evaluations = [] := by
  rw [authorize_eq]
  cases client.source with
  | none => rfl
  | some source => exact source.evaluations_token client.connection cache now answer

variable {client cache now answer}

/-- Authorisation logs under the name of sources. -/
theorem logger_of_mem_entries_authorize {entry : Log.Entry}
    (member : entry ∈ (client.authorize cache now answer).trace.entries) :
    entry.logger = TokenSource.logger := by
  rw [authorize_eq] at member
  cases owner : client.source with
  | none => simp [owner] at member
  | some source =>
      rw [owner] at member
      exact TokenSource.logger_of_mem_entries_token member

/-- The token cached after a request is the one from its exchange, and the one before otherwise. -/
theorem cacheAfter_eq (client : Client) (cache : Option Token) (now : Binary64)
    (answers : Answers) :
    client.cacheAfter cache now answers =
      match client.exchanged cache now answers.token with
      | some (.ok token) => some token
      | _ => cache := by
  rw [cacheAfter, outcome_authorize]
  cases client.exchanged cache now answers.token with
  | some result => cases result <;> rfl
  | none =>
      cases held : client.kept cache now with
      | none => rfl
      | some token =>
          obtain ⟨source, -, found⟩ := Option.bind_eq_some_iff.mp held
          exact (TokenSource.check_eq_some_iff.mp found).1.symm

/-- A request can be authorised: no token is needed, the cached one can be used, or an exchange
yields one. -/
def Authorises (client : Client) (cache : Option Token) (now : Binary64)
    (answer : Except Failure TokenAnswer) : Prop :=
  client.source = none ∨ (∃ token, cache = some token ∧ token.isValid now = true) ∨
    ∃ source token, client.source = some source ∧
      (source.receive now answer).outcome = .ok token

/-- Authorisation succeeds exactly where a request can be authorised. -/
theorem authorises_iff :
    client.Authorises cache now answer ↔
      ∃ token, (client.authorize cache now answer).outcome = .ok token := by
  rw [authorize_eq, Authorises]
  cases owner : client.source with
  | none => simp
  | some source =>
      simp only [reduceCtorEq, false_or, Option.some.injEq, TokenSource.outcome_token]
      cases found : TokenSource.check now cache with
      | some token =>
          have usable := TokenSource.check_eq_some_iff.mp found
          constructor
          · intro _
            exact ⟨some token, rfl⟩
          · intro _
            exact Or.inl ⟨token, usable⟩
      | none =>
          have unusable := TokenSource.check_eq_none_iff.mp found
          constructor
          · rintro (⟨token, cached, valid⟩ | ⟨_, token, rfl, issued⟩)
            · rw [unusable token cached] at valid
              contradiction
            · exact ⟨some token, by simp [issued, Except.map]⟩
          · rintro ⟨token, issued⟩
            cases ended : (source.receive now answer).outcome with
            | error failure => simp [ended, Except.map] at issued
            | ok fresh => exact Or.inr ⟨source, fresh, rfl, ended⟩

end Client

end HttpGauge
