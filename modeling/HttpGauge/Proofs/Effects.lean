import HttpGauge.Proofs.LabelledBodies

/-!
# Effects of a run

What one run sends and which value it has evaluated, for the provider of a metric: never more than
one request for a token and one for a value, both sent as the metric asks for, and never more than
one evaluation.
-/

namespace HttpGauge

open HttpGauge.Json HttpGauge.Number HttpGauge.Text

/-! ## Requests -/

/-- A metric misuses bodies when it has two of them or sends one with a method that takes none. -/
def WebMetric.MisusesBody (web : WebMetric) : Prop :=
  (web.body ≠ "" ∧ web.jsonBody ≠ none) ∨
    ((web.body ≠ "" ∨ web.jsonBody ≠ none) ∧ web.effectiveMethod = .get)

/-- A metric is rejected when it misuses bodies or has one that cannot be written. -/
def WebMetric.IsRejected (web : WebMetric) : Prop :=
  web.MisusesBody ∨ web.hasLongBody = true

/-- No request is built for a metric that is rejected, and for no other. -/
theorem WebMetric.isRejected_iff {web : WebMetric} :
    web.IsRejected ↔ ∃ fault, web.request = .error fault := by
  unfold IsRejected MisusesBody request
  simp only [hasTextBody, hasJsonBody, Bool.and_eq_true, Bool.or_eq_true,
    bne_iff_ne, ne_eq, Option.isSome_iff_ne_none, decide_eq_true_eq]
  constructor
  · intro rejected
    by_cases both : ¬web.body = "" ∧ ¬web.jsonBody = none
    · exact ⟨.twoBodies, if_pos both⟩
    · by_cases withGet : (¬web.body = "" ∨ ¬web.jsonBody = none) ∧ web.effectiveMethod = .get
      · exact ⟨.bodyWithGet, by rw [if_neg both, if_pos withGet]⟩
      · have long := rejected.resolve_left (not_or_intro both withGet)
        exact ⟨.unwritableBody, by rw [if_neg both, if_neg withGet, if_pos long]⟩
  · rintro ⟨fault, rejected⟩
    split at rejected
    · exact Or.inl (Or.inl ‹_›)
    · split at rejected
      · exact Or.inl (Or.inr ‹_›)
      · split at rejected
        · exact Or.inr ‹_›
        · contradiction

/-- The request of a metric that is not rejected. -/
theorem WebMetric.not_isRejected_iff {web : WebMetric} :
    ¬ web.IsRejected ↔ ∃ request, web.request = .ok request := by
  rw [isRejected_iff]
  cases web.request <;> simp

/-- A metric that is read from a manifest is only rejected for its misuse of bodies. -/
theorem WebMetric.isRejected_iff_of_readMetric {text : String} {document : Value}
    {metric : Metric} (decoded : readText true text = .ok document)
    (valid : Manifest.readMetric document = .ok metric) :
    metric.web.IsRejected ↔ metric.web.MisusesBody := by
  have short : metric.web.hasLongBody = false := by
    unfold hasLongBody
    cases given : metric.web.jsonBody with
    | none => rfl
    | some value =>
        exact Manifest.hasLongInt_of_readMetric valid (hasLongInt_of_readText decoded) given
  simp [IsRejected, short]

/-! ## Built providers -/

namespace Provider

/-- A provider sends as its metric asks for, and asks for tokens if its metric names a place where
they are issued. -/
theorem client_of_build {language : PathLanguage} {settings : Settings} {metric : Metric}
    {provider : Provider} (built : (build language settings metric).outcome = .ok provider) :
    provider.client.connection = metric.web.connection settings.defaultTimeout ∧
      (provider.client.source = none ↔ metric.web.oauth2.tokenUrl = "") := by
  unfold build at built
  cases made : Client.ofMetric settings.defaultTimeout metric with
  | error fault =>
      rw [made] at built
      contradiction
  | ok client =>
      have kept : provider.client = client := by
        rw [made] at built
        cases compiled : (Extractor.compile language metric.web.jsonPath).outcome with
        | error failure => simp [Traced.andThen_of_error compiled] at built
        | ok extractor =>
            simp only [Traced.andThen_of_ok compiled, Traced.logging, Traced.outcome_after,
              Traced.outcome_ok, Except.ok.injEq] at built
            rw [← built]
      rw [kept]
      unfold Client.ofMetric OAuth2.source? at made
      split at made
      · cases made
        exact ⟨rfl, by simp [*]⟩
      · split at made
        · contradiction
        · cases made
          exact ⟨rfl, by simp [*]⟩

/-! ## What one run does -/

variable {provider : Provider} {state : State} {order : RunOrder}

/-- A run does what its pipeline does and then logs. -/
theorem trace_run (provider : Provider) (state : State) (order : RunOrder) :
    ∃ entry, (provider.run state order).trace =
      (provider.pipeline state.cache order).trace ++ [.logged entry] := by
  cases ended : (provider.pipeline state.cache order).outcome with
  | error failure => exact ⟨failureEntry order.name failure, by simp only [run, ended]⟩
  | ok result =>
      exact ⟨successEntry order.name result.1 result.2, by simp only [run, ended]⟩

theorem sent_run :
    (provider.run state order).trace.sent = (provider.pipeline state.cache order).trace.sent := by
  obtain ⟨entry, same⟩ := trace_run provider state order
  simp [same]

theorem evaluations_run :
    (provider.run state order).trace.evaluations =
      (provider.pipeline state.cache order).trace.evaluations := by
  obtain ⟨entry, same⟩ := trace_run provider state order
  simp [same]

/-- What a run of a rejected metric sends. -/
theorem sent_run_of_rejected (provider : Provider) (state : State) {fault : ConfigurationFault}
    (rejected : order.metric.web.request = .error fault) :
    (provider.run state order).trace.sent = [] := by
  rw [sent_run, sent_pipeline_of_rejected rejected]

/-- For any other metric the request is sent with a token, if there is one. -/
theorem sent_run_of_built (provider : Provider) (state : State) {request : Request}
    (built : order.metric.web.request = .ok request) :
    (provider.run state order).trace.sent =
      (provider.client.send state.cache order.scene.now order.scene.answers
        request).trace.sent := by
  rw [sent_run, sent_pipeline built]

/-- Nothing is sent for a metric that is rejected, and for no other. -/
theorem sent_run_eq_nil_iff :
    (provider.run state order).trace.sent = [] ↔ order.metric.web.IsRejected := by
  cases built : order.metric.web.request with
  | error fault =>
      exact iff_of_true (sent_run_of_rejected provider state built)
        (WebMetric.isRejected_iff.mpr ⟨fault, built⟩)
  | ok request =>
      refine iff_of_false ?_ (WebMetric.not_isRejected_iff.mpr ⟨request, built⟩)
      intro silent
      have endpoints := provider.client.endpoints_send state.cache order.scene.now
        order.scene.answers request
      rw [← sent_run_of_built provider state built, silent] at endpoints
      simp at endpoints

/-- The value is asked for exactly when the request for it is built and authorised. -/
theorem metric_mem_endpoints_run :
    .metric ∈ (provider.run state order).trace.sent.map Sent.endpoint ↔
      ¬ order.metric.web.IsRejected ∧
        provider.client.Authorises state.cache order.scene.now order.scene.answers.token := by
  cases built : order.metric.web.request with
  | error fault =>
      have rejects := WebMetric.isRejected_iff.mpr ⟨fault, built⟩
      simp [sent_run_of_rejected provider state built, rejects]
  | ok request =>
      have well := WebMetric.not_isRejected_iff.mpr ⟨request, built⟩
      rw [sent_run_of_built provider state built, Client.metric_mem_endpoints_send]
      simp [well]

/-- At most one request is sent for a token, and then at most one for the value. -/
theorem endpoints_run (provider : Provider) (state : State) (order : RunOrder) :
    (provider.run state order).trace.sent.map Sent.endpoint ∈
      [[], [.token], [.metric], [.token, .metric]] := by
  cases built : order.metric.web.request with
  | error fault =>
      rw [sent_run_of_rejected provider state built]
      exact List.mem_cons_self
  | ok request =>
      rw [sent_run_of_built provider state built]
      exact List.mem_cons_of_mem _ (provider.client.endpoints_send ..)

/-- A token is asked for exactly when the request is built, there is a source to ask and no cached
token can be used. -/
theorem token_mem_endpoints_run :
    .token ∈ (provider.run state order).trace.sent.map Sent.endpoint ↔
      ¬ order.metric.web.IsRejected ∧ provider.client.source ≠ none ∧
        ¬ ∃ token, state.cache = some token ∧ token.isValid order.scene.now = true := by
  cases built : order.metric.web.request with
  | error fault =>
      have rejects := WebMetric.isRejected_iff.mpr ⟨fault, built⟩
      simp [sent_run_of_rejected provider state built, rejects]
  | ok request =>
      have well := WebMetric.not_isRejected_iff.mpr ⟨request, built⟩
      rw [sent_run_of_built provider state built, Client.token_mem_endpoints_send]
      exact (and_iff_right well).symm

/-- Whatever is sent belongs to the request that is built. -/
theorem built_of_mem_sent_run {sent : Sent}
    (member : sent ∈ (provider.run state order).trace.sent) :
    ∃ request, order.metric.web.request = .ok request ∧
      sent ∈ (provider.client.send state.cache order.scene.now order.scene.answers
        request).trace.sent := by
  cases built : order.metric.web.request with
  | error fault =>
      rw [sent_run_of_rejected provider state built] at member
      contradiction
  | ok request =>
      rw [sent_run_of_built provider state built] at member
      exact ⟨request, rfl, member⟩

/-- A value is evaluated when the request for it is sent and answered, the answer offers the value
and the value has a text. -/
theorem mem_evaluations_run_iff {value : Value} {metric : Metric} :
    (value, metric) ∈ (provider.run state order).trace.evaluations ↔
      metric = order.metric ∧ ¬ order.metric.web.IsRejected ∧
        provider.client.Authorises state.cache order.scene.now order.scene.answers.token ∧
        ∃ response, order.scene.answers.response = .ok response ∧
          response.Offers provider.extractor value ∧ value.hasLongInt = false := by
  rw [evaluations_run]
  have course := provider.course_pipeline state.cache order
  generalize provider.pipeline state.cache order = result at course ⊢
  cases course with
  | rejected rejected =>
      have rejects := WebMetric.isRejected_iff.mpr ⟨_, rejected⟩
      constructor
      · intro asked
        contradiction
      · rintro ⟨-, well, -⟩
        exact absurd rejects well
  | @unsent request failure built unsent =>
      rw [Client.evaluations_send]
      constructor
      · intro asked
        contradiction
      · rintro ⟨-, -, authorised, response, answered, -⟩
        rw [Client.outcome_send_eq_ok_iff.mpr ⟨authorised, answered⟩] at unsent
        contradiction
  | @answered request response built sent =>
      have well := WebMetric.not_isRejected_iff.mpr ⟨request, built⟩
      obtain ⟨authorised, answered⟩ := Client.outcome_send_eq_ok_iff.mp sent
      rw [Trace.evaluations_append, Client.evaluations_send, List.nil_append,
        Response.mem_evaluations_classify_iff]
      constructor
      · rintro ⟨same, offers, short⟩
        exact ⟨same, well, authorised, response, answered, offers, short⟩
      · rintro ⟨same, -, -, given, arrives, offers, short⟩
        cases Except.ok.inj (answered.symm.trans arrives)
        exact ⟨same, offers, short⟩

/-- At most one value is evaluated. -/
theorem length_evaluations_run_le : (provider.run state order).trace.evaluations.length ≤ 1 := by
  rw [evaluations_run]
  have course := provider.course_pipeline state.cache order
  generalize provider.pipeline state.cache order = result at course ⊢
  cases course with
  | rejected => exact Nat.zero_le 1
  | unsent =>
      rw [Client.evaluations_send]
      exact Nat.zero_le 1
  | @answered request response =>
      rw [Trace.evaluations_append, Client.evaluations_send, List.nil_append]
      rcases response.evaluations_classify provider.extractor order.evaluator order.metric with
        ⟨_, -, -, asked⟩ | ⟨-, silent⟩
      · rw [asked]
        exact Nat.le_refl 1
      · rw [silent]
        exact Nat.zero_le 1

/-- What one run does.  The metric of the run need not be the one that its provider was built
for. -/
structure Effects (settings : Settings) (metric : Metric) (provider : Provider) (state : State)
    (order : RunOrder) (trace : Trace) : Prop where
  /-- At most one request is sent for a token, and then at most one for the value. -/
  sequence : trace.sent.map Sent.endpoint ∈ [[], [.token], [.metric], [.token, .metric]]
  /-- Nothing is sent exactly when the run's metric is rejected. -/
  silent : trace.sent = [] ↔ order.metric.web.IsRejected
  /-- Nothing is sent for a metric that is read from a manifest exactly when it misuses bodies. -/
  silentOfManifest : ∀ text document, readText true text = .ok document →
    Manifest.readMetric document = .ok order.metric →
    (trace.sent = [] ↔ order.metric.web.MisusesBody)
  /-- A token is asked for when tokens are issued and no cached one can be used. -/
  asksToken : .token ∈ trace.sent.map Sent.endpoint ↔
    ¬ order.metric.web.IsRejected ∧ metric.web.oauth2.tokenUrl ≠ "" ∧
      ¬ ∃ token, state.cache = some token ∧ token.isValid order.scene.now = true
  /-- The value is asked for when no token is needed, a cached one can be used or one is issued. -/
  asksValue : .metric ∈ trace.sent.map Sent.endpoint ↔
    ¬ order.metric.web.IsRejected ∧ (metric.web.oauth2.tokenUrl = "" ∨
      (∃ token, state.cache = some token ∧ token.isValid order.scene.now = true) ∨
      ∃ source token, provider.client.source = some source ∧
        (source.receive order.scene.now order.scene.answers.token).outcome = .ok token)
  /-- The value is asked for as the run's metric says. -/
  request : ∀ request skipped connection, .metric request skipped connection ∈ trace.sent →
    ∃ built, order.metric.web.request = .ok built ∧ request.method = built.method ∧
      request.url = built.url ∧ request.body = built.body
  /-- Everything is sent with the settings of the provider's metric. -/
  connection : ∀ request ∈ trace.sent,
    request.connection = metric.web.connection settings.defaultTimeout
  atMostOnce : trace.evaluations.length ≤ 1
  /-- A value is evaluated for the run's metric when the answered request for it offers the value
  and the value has a text. -/
  evaluated : ∀ value judged, (value, judged) ∈ trace.evaluations ↔
    judged = order.metric ∧ .metric ∈ trace.sent.map Sent.endpoint ∧
      ∃ response, order.scene.answers.response = .ok response ∧
        response.Offers provider.extractor value ∧ value.hasLongInt = false

/-- A run has these effects, whatever happens before and during it. -/
theorem run_effects {language : PathLanguage} {settings : Settings} {metric : Metric}
    {provider : Provider} (built : (build language settings metric).outcome = .ok provider)
    (state : State) (order : RunOrder) :
    Effects settings metric provider state order (provider.run state order).trace := by
  obtain ⟨sameConnection, noSource_iff⟩ := client_of_build built
  constructor
  case sequence => exact provider.endpoints_run state order
  case silent => exact sent_run_eq_nil_iff
  case silentOfManifest =>
    intro text document decoded valid
    rw [sent_run_eq_nil_iff, WebMetric.isRejected_iff_of_readMetric decoded valid]
  case asksToken => rw [token_mem_endpoints_run, ne_eq, noSource_iff]
  case asksValue => rw [metric_mem_endpoints_run, Client.Authorises, noSource_iff]
  case request =>
    intro complete skipped connection member
    obtain ⟨request, requested, sends⟩ := built_of_mem_sent_run member
    obtain ⟨token, rfl⟩ := (Client.of_mem_sent_send sends).2 complete skipped connection rfl
    exact ⟨request, requested, Client.method_attach _ _, Client.url_attach _ _,
      Client.body_attach _ _⟩
  case connection =>
    intro sent member
    obtain ⟨request, -, sends⟩ := built_of_mem_sent_run member
    exact (Client.of_mem_sent_send sends).1.trans sameConnection
  case atMostOnce => exact length_evaluations_run_le
  case evaluated =>
    intro value judged
    rw [mem_evaluations_run_iff, metric_mem_endpoints_run, and_assoc]

/-- The effects of a first run that needs a token and gets none. -/
theorem run_effects_without_token :
    let metric : Metric :=
      ⟨"m", "", "", { url := "http://h/m", oauth2 := ⟨"http://h/token", "id", "secret", []⟩ }⟩
    let order : RunOrder :=
      ⟨"run-1", metric, fun _ _ => .ok (.phase .successful),
        ⟨Binary64.ofInt 0, ⟨.error (.host ⟨.timeout, none⟩), .ok ⟨200, .ok []⟩⟩⟩⟩
    ∃ provider, (build Path.Query.language { } metric).outcome = .ok provider ∧
      Effects { } metric provider { } order (provider.run { } order).trace :=
  ⟨_, rfl, @run_effects Path.Query.language _ _ _ rfl { } _⟩

end Provider

end HttpGauge
