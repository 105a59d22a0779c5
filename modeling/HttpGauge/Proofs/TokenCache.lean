import HttpGauge.Proofs.Sending

/-!
# The cached token

Uses of one client, one after another.  The cached token is always that of the last exchange that
succeeded, whatever became of the requests that it was used for, and every use is decided by it
and by its own exchange.
-/

namespace HttpGauge

open HttpGauge.Number HttpGauge.Number.Binary64

/-! ## Uses -/

/-- One use of a client. -/
structure Use (α : Type) where
  /-- The time in seconds. -/
  now : Binary64
  answers : Answers
  request : Request
  /-- What the holder of the response makes of it, which may be a failure. -/
  holder : Response → Except Failure α

/-- A use that is over. -/
structure Step (α : Type) where
  use : Use α
  /-- The token that was cached before it. -/
  before : Option Token
  result : Traced α
  /-- The token that was cached after it. -/
  after : Option Token

namespace Client

variable {α : Type}

/-- Use a client. -/
def step (client : Client) (cache : Option Token) (use : Use α) : Step α where
  use := use
  before := cache
  result := client.hold cache use.now use.answers use.request fun response =>
    ⟨use.holder response, []⟩
  after := client.cacheAfter cache use.now use.answers

/-- Use a client several times. -/
def run (client : Client) : Option Token → List (Use α) → List (Step α)
  | _, [] => []
  | cache, use :: rest =>
      client.step cache use :: client.run (client.step cache use).after rest

end Client

/-! ## Exchanges -/

namespace Step

variable {α : Type}

/-- The endpoints that were asked, in order. -/
def endpoints (step : Step α) : List Endpoint :=
  step.result.trace.sent.map Sent.endpoint

/-- The token that a source issued in a step, if it was asked for one and issued it. -/
def issued? (source : TokenSource) (step : Step α) : Option Token :=
  if .token ∈ step.endpoints then
    (source.receive step.use.now step.use.answers.token).outcome.toOption
  else none

/-- The token of the last exchange that succeeded. -/
def lastIssued (source : TokenSource) (steps : List (Step α)) : Option Token :=
  (steps.filterMap (issued? source)).getLast?

end Step

namespace Client

variable {α : Type} {client : Client} {cache : Option Token} {use : Use α}

@[simp]
theorem use_step : (client.step cache use).use = use :=
  rfl

/-- A step sends what its request takes. -/
theorem sent_step :
    (client.step cache use).result.trace.sent =
      (client.send cache use.now use.answers use.request).trace.sent := by
  unfold step
  cases sent : (client.send cache use.now use.answers use.request).outcome with
  | error failure => rw [hold_of_unsent sent]
  | ok response => simp [hold_of_answered sent]

/-- A step asks for at most one token. -/
theorem count_token_step : (client.step cache use).endpoints.count .token ≤ 1 := by
  have endpoints := client.endpoints_send cache use.now use.answers use.request
  rw [← sent_step] at endpoints
  simp only [List.mem_cons, List.not_mem_nil, or_false] at endpoints
  rw [Step.endpoints]
  rcases endpoints with same | same | same <;> rw [same] <;> decide

/-- A step ends as its request does or, if that is answered, as the holder does. -/
theorem outcome_step :
    (client.step cache use).result.outcome =
      (client.send cache use.now use.answers use.request).outcome.bind use.holder := by
  unfold step
  cases sent : (client.send cache use.now use.answers use.request).outcome with
  | error failure =>
      rw [hold_of_unsent sent]
      rfl
  | ok response =>
      rw [hold_of_answered sent]
      rfl

variable {source : TokenSource}

/-- A token is asked for in a step exactly when no usable one is cached. -/
theorem token_mem_endpoints_step (owner : client.source = some source) :
    .token ∈ (client.step cache use).endpoints ↔
      ¬ ∃ token, cache = some token ∧ token.isValid use.now = true := by
  rw [Step.endpoints, sent_step, token_mem_endpoints_send, owner]
  simp

/-- A step that asks for no token can use the cached one. -/
theorem usable_of_not_mem (owner : client.source = some source)
    (silent : .token ∉ (client.step cache use).endpoints) :
    ∃ token, cache = some token ∧ token.isValid use.now = true :=
  Classical.not_not.mp (mt (token_mem_endpoints_step owner).mpr silent)

/-- The source is asked exactly when a token is asked for. -/
theorem asked_eq_ite (owner : client.source = some source) :
    client.asked cache use.now =
      if .token ∈ (client.step cache use).endpoints then some source else none := by
  by_cases asks : .token ∈ (client.step cache use).endpoints
  · rw [if_pos asks, asked_eq_some_iff]
    have unusable := (token_mem_endpoints_step owner).mp asks
    refine ⟨owner, fun token cached => ?_⟩
    cases valid : token.isValid use.now with
    | false => rfl
    | true => exact absurd ⟨token, cached, valid⟩ unusable
  · rw [if_neg asks]
    obtain ⟨token, cached, valid⟩ := usable_of_not_mem owner asks
    rw [asked, TokenSource.check_eq_some_iff.mpr ⟨cached, valid⟩]

/-- A request carries the token that its step is issued, and the cached one if it asks for none. -/
theorem outcome_authorize_eq_ite (owner : client.source = some source) (cache : Option Token)
    (use : Use α) :
    (client.authorize cache use.now use.answers.token).outcome =
      if .token ∈ (client.step cache use).endpoints then
        (source.receive use.now use.answers.token).outcome.map some
      else .ok cache := by
  rw [outcome_authorize, exchanged, asked_eq_ite owner]
  by_cases asks : .token ∈ (client.step cache use).endpoints
  · rw [if_pos asks, if_pos asks, Option.map_some]
  · rw [if_neg asks, if_neg asks, Option.map_none]
    obtain ⟨token, cached, valid⟩ := usable_of_not_mem owner asks
    rw [kept, owner, Option.bind_some, TokenSource.check_eq_some_iff.mpr ⟨cached, valid⟩, cached]

/-- A step leaves the token that was issued in it, or else the one before. -/
theorem after_step (owner : client.source = some source) (cache : Option Token) (use : Use α) :
    (client.step cache use).after = ((client.step cache use).issued? source).or cache := by
  have after : (client.step cache use).after = client.cacheAfter cache use.now use.answers := rfl
  rw [after, cacheAfter_eq, exchanged, asked_eq_ite owner, Step.issued?, use_step]
  by_cases asks : .token ∈ (client.step cache use).endpoints
  · rw [if_pos asks, if_pos asks, Option.map_some]
    cases (source.receive use.now use.answers.token).outcome <;> rfl
  · rw [if_neg asks, if_neg asks]
    rfl

/-- Unless an exchange fails, the request of a step carries the token that is cached afterwards. -/
theorem carried_of_issues (owner : client.source = some source)
    (issues : .token ∈ (client.step cache use).endpoints → ∃ token,
      (source.receive use.now use.answers.token).outcome = .ok token) :
    ∃ token, (client.authorize cache use.now use.answers.token).outcome = .ok (some token) ∧
      (client.step cache use).after = some token ∧
      if .token ∈ (client.step cache use).endpoints then
        (source.receive use.now use.answers.token).outcome = .ok token
      else cache = some token := by
  rw [after_step owner, Step.issued?, outcome_authorize_eq_ite owner, use_step]
  by_cases asks : .token ∈ (client.step cache use).endpoints
  · obtain ⟨token, issued⟩ := issues asks
    refine ⟨token, ?_, ?_, ?_⟩
    · rw [if_pos asks, issued]
      rfl
    · rw [if_pos asks, issued]
      rfl
    · rwa [if_pos asks]
  · obtain ⟨token, cached, -⟩ := usable_of_not_mem owner asks
    refine ⟨token, ?_, ?_, ?_⟩
    · rw [if_neg asks, cached]
    · rw [if_neg asks, cached]
      rfl
    · rwa [if_neg asks]

/-- Before a step of a run, the token of the last exchange that succeeded is cached. -/
theorem of_run_eq_append_cons (owner : client.source = some source) {uses : List (Use α)}
    {earlier later : List (Step α)} {step : Step α}
    (split : client.run cache uses = earlier ++ step :: later) :
    step = client.step step.before step.use ∧
      step.before = (Step.lastIssued source earlier).or cache := by
  induction earlier generalizing cache uses with
  | nil =>
      cases uses with
      | nil => contradiction
      | cons use rest =>
          obtain ⟨rfl, -⟩ := List.cons.inj split
          exact ⟨rfl, rfl⟩
  | cons first earlier ih =>
      cases uses with
      | nil => contradiction
      | cons use rest =>
          obtain ⟨rfl, splitRest⟩ := List.cons.inj split
          obtain ⟨same, before⟩ := ih splitRest
          refine ⟨same, ?_⟩
          rw [before, after_step owner, Step.lastIssued, Step.lastIssued, List.filterMap_cons]
          cases (client.step cache use).issued? source with
          | none => rfl
          | some token =>
              rw [List.getLast?_cons]
              cases (earlier.filterMap (Step.issued? source)).getLast? <;> rfl

end Client

/-! ## What every step obeys -/

/-- What a step of a client obeys, given the token of the last exchange that succeeded before. -/
structure Step.Obeys {α : Type} (client : Client) (source : TokenSource) (last : Option Token)
    (step : Step α) : Prop where
  cached : step.before = last
  /-- A token is asked for exactly when there is no last one or it cannot be used any more. -/
  asks : .token ∈ step.endpoints ↔
    ¬ ∃ token, last = some token ∧ token.isValid step.use.now = true
  asksOnce : step.endpoints.count .token ≤ 1
  /-- If none is issued, nothing else is sent and the cache stays as it was. -/
  refused : .token ∈ step.endpoints → ∀ failure,
    (source.receive step.use.now step.use.answers.token).outcome = .error failure →
      .metric ∉ step.endpoints ∧ step.after = step.before ∧
        step.result.outcome = .error failure
  /-- Otherwise one request is sent with the token that is cached afterwards: the one that was
  issued, if one was asked for, and else the last one. -/
  sends : (.token ∈ step.endpoints → ∃ token,
      (source.receive step.use.now step.use.answers.token).outcome = .ok token) →
    ∃ token request skipped connection,
      step.result.trace.sent.filter (·.endpoint = .metric) =
        [.metric request skipped connection] ∧
      request.headers.get? Client.authorizationKey = some token.authorization ∧
      step.after = some token ∧
      if .token ∈ step.endpoints then
        (source.receive step.use.now step.use.answers.token).outcome = .ok token
      else last = some token
  /-- Neither the answer to the request nor its holder has a say in what is cached. -/
  unaffected : ∀ response (holder : Response → Except Failure α),
    (client.step step.before
      { step.use with answers.response := response, holder := holder }).after = step.after
  /-- A request that is answered ends as its holder does. -/
  propagates : .metric ∈ step.endpoints → ∀ response,
    step.use.answers.response = .ok response →
      step.result.outcome = step.use.holder response

namespace Client

variable {α : Type} {client : Client} {source : TokenSource}

/-- A single step obeys this, given the token that is cached before it. -/
theorem step_obeys (owner : client.source = some source) (cache : Option Token) (use : Use α) :
    (client.step cache use).Obeys client source cache := by
  have authorized := outcome_authorize_eq_ite owner cache use
  have left := after_step owner cache use
  constructor
  case cached => rfl
  case asks => exact token_mem_endpoints_step owner
  case asksOnce => exact count_token_step
  case refused =>
    intro asks failure refused
    rw [use_step] at refused
    rw [if_pos asks, refused] at authorized
    refine ⟨?_, ?_, ?_⟩
    · rw [Step.endpoints, sent_step, metric_mem_endpoints_send, authorises_iff]
      rintro ⟨token, issued⟩
      rw [issued] at authorized
      contradiction
    · rw [left, Step.issued?, if_pos asks, use_step, refused]
      rfl
    · rw [outcome_step, outcome_send, authorized]
      rfl
  case sends =>
    intro issues
    obtain ⟨token, carried, after, origin⟩ := carried_of_issues owner issues
    have filtered := filter_metric_sent_send use.request carried
    rw [← sent_step] at filtered
    exact ⟨token, _, _, _, filtered, HeaderSet.get?_set_self _ _ _, after, origin⟩
  case unaffected =>
    intro response holder
    rfl
  case propagates =>
    intro sends response answered
    rw [Step.endpoints, sent_step, metric_mem_endpoints_send] at sends
    rw [outcome_step, outcome_send_eq_ok_iff.mpr ⟨sends, answered⟩]
    rfl

/-- Every step of every run obeys this, given the token of the last exchange that succeeded before
it. -/
theorem run_obeys (owner : client.source = some source) (uses : List (Use α))
    (earlier later : List (Step α)) (step : Step α)
    (split : client.run none uses = earlier ++ step :: later) :
    step.Obeys client source (Step.lastIssued source earlier) := by
  obtain ⟨same, before⟩ := of_run_eq_append_cons owner split
  rw [Option.or_none] at before
  rw [same, before]
  exact step_obeys owner _ _

/-- The law of the last of four uses.  A token is issued to the first one and used again by the
second, whose holder fails; it has run out before the third, whose exchange fails, and another one
is issued to the fourth. -/
theorem run_obeys_of_renewal :
    let source : TokenSource := ⟨"http://h/token", "id", "secret", []⟩
    let client : Client := ⟨⟨10, .verify⟩, some source⟩
    let granted (access : String) : Except Failure TokenAnswer :=
      .ok ⟨200, "application/json", .ok (Text.Utf8.encode
        ("\x7b\"access_token\":\"" ++ access ++ "\",\"expires_in\":100\x7d")), ""⟩
    let refused : Except Failure TokenAnswer := .error (.host ⟨.timeout, none⟩)
    let use (seconds : Int) (answer : Except Failure TokenAnswer)
        (held : Except Failure Unit) : Use Unit :=
      ⟨ofInt seconds, ⟨answer, .ok ⟨200, .ok []⟩⟩, ⟨.get, "http://h/m", none, []⟩, fun _ => held⟩
    let uses :=
      [use 0 (granted "a") (.ok ()), use 50 refused (.error (.host ⟨.timeout, none⟩)),
        use 90 refused (.ok ()), use 91 (granted "b") (.ok ())]
    ∃ first second third fourth,
      client.run none uses = [first, second, third] ++ fourth :: [] ∧
      [first, second, third, fourth].map Step.endpoints =
        [[.token, .metric], [.metric], [.token], [.token, .metric]] ∧
      Step.lastIssued source [first, second, third] =
        some ⟨"a", "Bearer", some ((ofInt 0).add (ofInt 100))⟩ ∧
      fourth.after = some ⟨"b", "Bearer", some ((ofInt 91).add (ofInt 100))⟩ ∧
      fourth.Obeys client source (Step.lastIssued source [first, second, third]) := by
  intro source client granted refused use uses
  refine ⟨_, _, _, _, rfl, ?endpoints, ?last, ?after, run_obeys rfl uses [_, _, _] [] _ rfl⟩
  case endpoints => decide +kernel
  case last => decide +kernel
  case after => decide +kernel

end Client

end HttpGauge
