import HttpGauge.Proofs.Session

/-!
# The two roles of a metric

A metric says how its provider is built, that is how requests are sent and authorised and which
value is extracted, and it says what a run asks for and how the value is judged.  A run takes the
former from the metric of its provider, the latter from its own metric, and nothing else from
either.
-/

namespace HttpGauge

open HttpGauge.Number

/-! ## Parts of metrics -/

/-- Two metrics whose providers are built alike. -/
structure Metric.BuildAlike (first second : Metric) : Prop where
  timeoutSeconds : first.web.timeoutSeconds = second.web.timeoutSeconds
  jsonPath : first.web.jsonPath = second.web.jsonPath
  insecure : first.web.insecure = second.web.insecure
  oauth2 : first.web.oauth2 = second.web.oauth2

/-- Two metrics for which runs ask, and are judged, alike. -/
structure Metric.RunAlike (first second : Metric) : Prop where
  name : first.name = second.name
  successCondition : first.successCondition = second.successCondition
  failureCondition : first.failureCondition = second.failureCondition
  method : first.web.method = second.web.method
  url : first.web.url = second.web.url
  headers : first.web.headers = second.web.headers
  body : first.web.body = second.web.body
  jsonBody : first.web.jsonBody = second.web.jsonBody

/-- A metric without what its provider is built by. -/
def Metric.forRun (metric : Metric) : Metric :=
  { metric with web := { metric.web with
      timeoutSeconds := 0, jsonPath := "", insecure := false, oauth2 := { } } }

/-- An event without what providers are built by: it shows in the metric that an evaluator is
given. -/
def Event.forRun : Event → Event
  | .evaluated value metric => .evaluated value metric.forRun
  | event => event

/-- An evaluator whose verdict does not depend on what providers are built by. -/
def Evaluator.IgnoresBuilding (evaluator : Evaluator) : Prop :=
  ∀ value first second, Metric.RunAlike first second →
    evaluator value first = evaluator value second

namespace Metric

variable {first second : Metric}

theorem RunAlike.forRun_eq (same : first.RunAlike second) : first.forRun = second.forRun := by
  simp only [forRun, same.name, same.successCondition, same.failureCondition, same.method,
    same.url, same.headers, same.body, same.jsonBody]

theorem RunAlike.request_eq (same : first.RunAlike second) :
    first.web.request = second.web.request :=
  calc first.web.request = first.forRun.web.request := rfl
    _ = second.forRun.web.request := by rw [same.forRun_eq]
    _ = second.web.request := rfl

theorem BuildAlike.client_eq (same : first.BuildAlike second) (timeout : Int) :
    Client.ofMetric timeout first = Client.ofMetric timeout second := by
  unfold Client.ofMetric WebMetric.connection
  rw [same.timeoutSeconds, same.insecure, same.oauth2]

end Metric

/-! ## Runs -/

/-- Two orders that differ at most in what the providers of their metrics are built by, for an
evaluator that does not look at it. -/
structure RunOrder.RunAlike (first second : RunOrder) : Prop where
  name : first.name = second.name
  metric : first.metric.RunAlike second.metric
  evaluator : first.evaluator = second.evaluator
  ignores : first.evaluator.IgnoresBuilding
  scene : first.scene = second.scene

namespace Provider

/-- Such orders have the same run. -/
theorem run_forRun (provider : Provider) {state other : State}
    (states : State.Alike Eq state other) {order otherOrder : RunOrder}
    (orders : order.RunAlike otherOrder) :
    (provider.run state order).Alike Event.forRun Eq (provider.run other otherOrder) := by
  have builds := orders.metric.request_eq
  apply run_alike states.ticks orders.name
  · rw [states.cache]
    apply pipeline_alike builds
    · intro request
      rw [orders.scene]
      exact Traced.Alike.refl _
    · intro response
      rw [← orders.evaluator]
      apply response.classify_alike
      · intro value
        exact orders.ignores value _ _ orders.metric
      · intro value
        rw [Event.forRun, Event.forRun, orders.metric.forRun_eq]
  · unfold cacheAfter
    rw [builds, states.cache, orders.scene]

/-! ## Building -/

/-- A provider is built by its part of a metric; beside it, it is named. -/
theorem build_of_buildAlike (language : PathLanguage) (settings : Settings)
    {first second : Metric} (same : first.BuildAlike second) :
    ResultsAlike (fun provider other => { provider with metricName := second.name } = other)
      (build language settings first).outcome (build language settings second).outcome := by
  unfold build
  rw [same.client_eq, same.jsonPath]
  cases Client.ofMetric settings.defaultTimeout second with
  | error fault => exact ResultsAlike.failed _
  | ok client =>
      cases compiled : (Extractor.compile language second.web.jsonPath).outcome with
      | error failure =>
          simp only [Traced.andThen_of_error compiled]
          exact ResultsAlike.failed _
      | ok extractor =>
          simp only [Traced.andThen_of_ok compiled]
          exact ResultsAlike.succeeded rfl

/-- The name of a provider shows in no step. -/
theorem session_renamed (provider : Provider) (name : String) (state : State)
    (steps : List Step) :
    ({ provider with metricName := name } : Provider).session state steps =
      provider.session state steps := by
  induction steps generalizing state with
  | nil => rfl
  | cons step rest ih =>
      have same : ({ provider with metricName := name } : Provider).step state step =
          provider.step state step := by
        cases step <;> rfl
      rw [session, session, same, ih]

/-! ## Separation -/

/-- A run takes from each metric its own part.  What providers are built by does not show in the
metrics of runs: sessions whose runs agree on the rest are alike.  And nothing else shows in the
metrics that providers are built for: where these agree on it, both or neither are built, and their
sessions are the same. -/
theorem session_separates_roles :
    (∀ (provider : Provider) state steps otherSteps,
      List.Forall₂ (Step.Alike RunOrder.RunAlike) steps otherSteps →
        List.Forall₂ (Outcome.Alike Event.forRun Eq) (provider.session state steps)
          (provider.session state otherSteps)) ∧
    ∀ language settings (first second : Metric), first.BuildAlike second →
      ResultsAlike
        (fun provider other => ∀ state steps,
          provider.session state steps = other.session state steps)
        (build language settings first).outcome (build language settings second).outcome := by
  constructor
  · intro provider state steps otherSteps asked
    apply session_alike _ asked ⟨rfl, rfl, rfl⟩
    intro state otherState order otherOrder states orders
    exact provider.run_forRun states orders
  · intro language settings first second same
    apply (build_of_buildAlike language settings same).imp
    rintro provider _ rfl state steps
    exact (provider.session_renamed second.name state steps).symm

/-- Runs of two metrics that differ in all that providers are built by, and of the providers of two
metrics that differ in everything else. -/
theorem session_separates_roles_of_run :
    let judge : Evaluator := fun _ metric => .ok (.value (.str metric.successCondition))
    let plain : Metric := ⟨"m", "Failed", "", { url := "http://h/m" }⟩
    let secured : Metric :=
      ⟨"m", "Failed", "", {
        url := "http://h/m"
        timeoutSeconds := 5
        jsonPath := "\x7b.a\x7d"
        insecure := true
        oauth2 := ⟨"http://h/token", "id", "secret", []⟩ }⟩
    let posted : Metric :=
      ⟨"n", "Successful", "Failed", {
        method := some .post, url := "http://h/n", headers := [⟨"x-trace-id", "1"⟩],
        jsonBody := some .null }⟩
    let steps (metric : Metric) : List Step :=
      [.run ⟨"run-1", metric, judge,
        ⟨Binary64.ofInt 0, ⟨.error (.host ⟨.timeout, none⟩), .ok ⟨200, .ok [0x31]⟩⟩⟩⟩]
    plain.RunAlike secured ∧ plain.BuildAlike posted ∧ judge.IgnoresBuilding ∧
      ∃ provider other, (build Path.Query.language { } plain).outcome = .ok provider ∧
        (build Path.Query.language { } posted).outcome = .ok other ∧
        List.Forall₂ (Outcome.Alike Event.forRun Eq) (provider.session { } (steps plain))
          (provider.session { } (steps secured)) ∧
        provider.session { } (steps plain) = other.session { } (steps plain) := by
  intro judge plain secured posted steps
  have asked : plain.RunAlike secured := ⟨rfl, rfl, rfl, rfl, rfl, rfl, rfl, rfl⟩
  have built : plain.BuildAlike posted := ⟨rfl, rfl, rfl, rfl⟩
  have ignores : judge.IgnoresBuilding := by
    intro value first second same
    dsimp only [judge]
    rw [same.successCondition]
  have sessions := session_separates_roles.2 Path.Query.language { } plain posted built
  obtain ⟨provider, one⟩ : ∃ provider,
      (build Path.Query.language { } plain).outcome = .ok provider := by
    dsimp only [plain]
    exact ⟨_, rfl⟩
  rw [one] at sessions
  generalize (build Path.Query.language { } posted).outcome = result at sessions ⊢
  cases sessions with
  | @succeeded _ other same =>
      refine ⟨asked, built, ignores, provider, other, one, rfl, ?_, same _ _⟩
      apply session_separates_roles.1
      exact List.Forall₂.cons (Step.Alike.run ⟨rfl, asked, rfl, ignores, rfl⟩) List.Forall₂.nil

end Provider

end HttpGauge
