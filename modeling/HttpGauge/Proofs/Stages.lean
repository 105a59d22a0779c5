import HttpGauge.Proofs.Course

/-!
# Stages

A run passes through eight stages, each of which looks at its own part of what happens.  The run
ends with the failure of the first stage that fails and completes when none does.
-/

namespace HttpGauge

open HttpGauge.Json HttpGauge.Number HttpGauge.Text

/-- The failure of a result that is one. -/
def failure? {α : Type} : Except Failure α → Option Failure
  | .ok _ => none
  | .error failure => some failure

@[simp]
theorem failure?_ok {α : Type} (result : α) : failure? (.ok result : Except Failure α) = none :=
  rfl

@[simp]
theorem failure?_error {α : Type} (failure : Failure) :
    failure? (.error failure : Except Failure α) = some failure :=
  rfl

/-! ## What the stages look at -/

namespace RunOrder

/-- The response that the endpoint of the metric gives, if it gives one. -/
def response? (order : RunOrder) : Option Response :=
  order.scene.answers.response.toOption

/-- The document that the body of the response is, if it arrives and is one. -/
def document? (order : RunOrder) : Option Value := do
  let response ← order.response?
  let body ← response.body.toOption
  (readBytes false body).toOption

end RunOrder

namespace Provider

/-- What is selected from the document, if the extraction succeeds. -/
def selected? (provider : Provider) (order : RunOrder) : Option (List (List Value)) := do
  let document ← order.document?
  (provider.extractor.find document).toOption

/-- The value measured in what is selected, if there is one. -/
def measured? (provider : Provider) (order : RunOrder) : Option (Value × String) := do
  let sets ← provider.selected? order
  (firstValue sets).toOption

/-- The stages of a run. -/
inductive Stage where
  | build
  | token
  | send
  | status
  | read
  /-- Values are extracted from the document that the body is. -/
  | extract
  | select
  | evaluate
  deriving DecidableEq, Repr

/-- All stages, in the order in which a run passes through them. -/
def Stage.all : List Stage :=
  [.build, .token, .send, .status, .read, .extract, .select, .evaluate]

/-- How a stage fails on its part of what happens, if it does: a stage that has nothing to look at
does not fail. -/
def failureAt (provider : Provider) (cache : Option Token) (order : RunOrder) :
    Stage → Option Failure
  | .build => failure? (order.metric.web.request.mapError .configuration)
  | .token => do
      failure? (← provider.client.exchanged cache order.scene.now order.scene.answers.token)
  | .send =>
      failure? (order.scene.answers.response.mapError
        (provider.client.sendFailure order.metric.web.url))
  | .status => do failure? (checkStatus (← order.response?).status)
  | .read => do failure? (← order.response?).readBody
  | .extract => do failure? (provider.extractor.find (← order.document?))
  | .select => do failure? (firstValue (← provider.selected? order))
  | .evaluate => do
      failure? (order.evaluator.judge (← provider.measured? order).1 order.metric)

/-- The failure of the first stage that fails. -/
def firstFailure (provider : Provider) (cache : Option Token) (order : RunOrder) :
    Option Failure :=
  Stage.all.findSome? (provider.failureAt cache order)

/-- The stages before there is a response to look at. -/
def Stage.sending : List Stage :=
  [.token, .send]

/-- The stages that look at a document. -/
def Stage.judging : List Stage :=
  [.extract, .select, .evaluate]

/-- The stages that look at a response. -/
def Stage.classifying : List Stage :=
  .status :: .read :: Stage.judging

theorem Stage.all_eq : Stage.all = .build :: (Stage.sending ++ Stage.classifying) :=
  rfl

/-! ## The first failure decides -/

/-- A request goes to the address of its metric. -/
theorem url_of_request {web : WebMetric} {request : Request} (built : web.request = .ok request) :
    request.url = web.url := by
  rw [WebMetric.eq_of_request built]

variable {provider : Provider} {cache : Option Token} {order : RunOrder}

/-- Sending fails as the first of its stages does. -/
theorem failure?_outcome_send {request : Request}
    (built : order.metric.web.request = .ok request) :
    failure? (provider.client.send cache order.scene.now order.scene.answers request).outcome =
      Stage.sending.findSome? (provider.failureAt cache order) := by
  rw [Client.outcome_send, Client.outcome_authorize, url_of_request built]
  unfold Stage.sending
  cases exchanged : provider.client.exchanged cache order.scene.now order.scene.answers.token with
  | none =>
      cases answered : order.scene.answers.response <;>
        simp [failureAt, exchanged, answered]
  | some result =>
      cases result with
      | error failure => simp [failureAt, exchanged, Except.map]
      | ok token =>
          cases answered : order.scene.answers.response <;>
            simp [failureAt, exchanged, answered, Except.map]

/-- Judging a document fails as the first of its stages does. -/
theorem failure?_outcome_judgeDocument {document : Value}
    (holds : order.document? = some document) :
    failure? (Response.judgeDocument provider.extractor order.evaluator order.metric
        document).outcome =
      Stage.judging.findSome? (provider.failureAt cache order) := by
  unfold Stage.judging
  cases found : provider.extractor.find document with
  | error failure =>
      have unmeasured : Response.measured provider.extractor document = .error failure := by
        rw [Response.measured, found]
      rw [Response.judgeDocument_of_unmeasured unmeasured]
      simp [failureAt, holds, found]
  | ok sets =>
      have selects : provider.selected? order = some sets := by
        simp [selected?, holds, found, Except.toOption]
      have measures : Response.measured provider.extractor document = firstValue sets := by
        rw [Response.measured, found]
      cases first : firstValue sets with
      | error failure =>
          rw [Response.judgeDocument_of_unmeasured (measures.trans first)]
          simp [failureAt, holds, found, selects, first]
      | ok result =>
          have measured : provider.measured? order = some result := by
            simp [measured?, selects, first, Except.toOption]
          rw [Response.judgeDocument_of_measured (measures.trans first)]
          cases judged : order.evaluator.judge result.1 order.metric <;>
            simp [failureAt, holds, found, selects, first, measured, judged, Except.map]

/-- No stage of judging fails without a document. -/
theorem findSome?_judging_of_none (nothing : order.document? = none) :
    Stage.judging.findSome? (provider.failureAt cache order) = none := by
  have unselected : provider.selected? order = none := by
    rw [selected?, nothing]
    rfl
  have unmeasured : provider.measured? order = none := by
    rw [measured?, unselected]
    rfl
  simp [Stage.judging, failureAt, nothing, unselected, unmeasured]

/-- Classifying fails as the first of its stages does. -/
theorem failure?_outcome_classify {response : Response}
    (answered : order.scene.answers.response = .ok response) :
    failure? (response.classify provider.extractor order.evaluator order.metric).outcome =
      Stage.classifying.findSome? (provider.failureAt cache order) := by
  have given : order.response? = some response := by
    rw [RunOrder.response?, answered]
    rfl
  unfold Stage.classifying
  rw [List.findSome?_cons, List.findSome?_cons]
  cases success : isSuccess response.status with
  | false =>
      rw [Response.classify_of_refused success]
      simp [failureAt, given, checkStatus, success]
  | true =>
      have accepts : provider.failureAt cache order .status = none := by
        simp [failureAt, given, checkStatus, success]
      rw [accepts]
      cases arrived : response.readBody with
      | error failure =>
          rw [Response.classify_of_unread success arrived]
          simp [failureAt, given, arrived]
      | ok body =>
          have reads : provider.failureAt cache order .read = none := by
            simp [failureAt, given, arrived]
          have present := Response.readBody_eq_ok_iff.mp arrived
          rw [reads, Response.classify_of_read success arrived]
          cases read : readBytes false body with
          | error reason =>
              have nothing : order.document? = none := by
                simp [RunOrder.document?, given, present, read, Except.toOption]
              rw [Response.judgeBody_of_raw read]
              exact (findSome?_judging_of_none nothing).symm
          | ok document =>
              have holds : order.document? = some document := by
                simp [RunOrder.document?, given, present, read, Except.toOption]
              rw [Response.judgeBody_of_document read]
              exact failure?_outcome_judgeDocument holds

/-- A run fails as the first of its stages does. -/
theorem failure?_outcome_pipeline (provider : Provider) (cache : Option Token)
    (order : RunOrder) :
    failure? (provider.pipeline cache order).outcome = provider.firstFailure cache order := by
  rw [firstFailure, Stage.all_eq, List.findSome?_cons, List.findSome?_append]
  have builds (request : Request) (built : order.metric.web.request = .ok request) :
      provider.failureAt cache order .build = none := by
    rw [failureAt, built]
    rfl
  have course := provider.course_pipeline cache order
  generalize provider.pipeline cache order = result at course ⊢
  cases course with
  | rejected rejected =>
      rw [failureAt, rejected]
      rfl
  | unsent built unsent =>
      rw [builds _ built, ← failure?_outcome_send built, unsent]
      rfl
  | answered built sent =>
      rw [builds _ built, ← failure?_outcome_send built, sent,
        failure?_outcome_classify (Client.outcome_send_eq_ok_iff.mp sent).2]
      rfl

/-! ## Success -/

/-- All stages of a run succeed: the request is built and authorised, the endpoint answers with a
success, the body is read, and either it is no document, or every segment of the extractor finds
what it looks for, a value is found first, it has a text, and the evaluator yields a phase for
it. -/
def Succeeds (provider : Provider) (cache : Option Token) (order : RunOrder) : Prop :=
  (∃ request, order.metric.web.request = .ok request) ∧
  provider.client.Authorises cache order.scene.now order.scene.answers.token ∧
  ∃ response body, order.scene.answers.response = .ok response ∧
    (200 ≤ response.status ∧ response.status < 300) ∧ response.body = .ok body ∧
    ((∀ document, readBytes false body ≠ .ok document) ∨
      ∃ document sets value phase, readBytes false body = .ok document ∧
        provider.extractor.find document = .ok sets ∧ IsFirst value sets ∧
        value.hasLongInt = false ∧
        order.evaluator.judge value order.metric = .ok phase)

/-- The result of a run is that of its response. -/
theorem response_of_outcome_pipeline {result : String × Phase}
    (ended : (provider.pipeline cache order).outcome = .ok result) :
    ∃ response, order.scene.answers.response = .ok response ∧
      (response.classify provider.extractor order.evaluator order.metric).outcome =
        .ok result := by
  have course := provider.course_pipeline cache order
  generalize provider.pipeline cache order = traced at course ended
  cases course with
  | rejected => contradiction
  | unsent => contradiction
  | @answered request response built sent =>
      exact ⟨response, (Client.outcome_send_eq_ok_iff.mp sent).2, ended⟩

/-- The run completes exactly when all of its stages succeed. -/
theorem succeeds_iff :
    provider.Succeeds cache order ↔
      ∃ result, (provider.pipeline cache order).outcome = .ok result := by
  unfold Succeeds
  have course := provider.course_pipeline cache order
  generalize provider.pipeline cache order = traced at course ⊢
  cases course with
  | rejected rejected =>
      constructor
      · rintro ⟨⟨request, built⟩, -⟩
        rw [rejected] at built
        contradiction
      · rintro ⟨_, ended⟩
        contradiction
  | unsent built unsent =>
      constructor
      · rintro ⟨-, authorised, response, -, answered, -⟩
        rw [Client.outcome_send_eq_ok_iff.mpr ⟨authorised, answered⟩] at unsent
        contradiction
      · rintro ⟨_, ended⟩
        contradiction
  | @answered request response built sent =>
      obtain ⟨authorised, answered⟩ := Client.outcome_send_eq_ok_iff.mp sent
      rw [Response.outcome_classify_eq_ok_iff, isSuccess_iff]
      constructor
      · rintro ⟨-, -, given, body, arrives, success, present, judged⟩
        cases Except.ok.inj (answered.symm.trans arrives)
        exact ⟨success, body, present, judged⟩
      · rintro ⟨success, body, present, judged⟩
        exact ⟨⟨request, built⟩, authorised, response, body, answered, success, present, judged⟩

/-! ## Shapes of measurements -/

/-- The records of what a run does on the way come from its parts. -/
theorem logger_ne_of_mem_entries_pipeline {entry : Log.Entry}
    (member : entry ∈ (provider.pipeline cache order).trace.entries) : entry.logger ≠ logger := by
  have parts : entry.logger = TokenSource.logger ∨ entry.logger = Client.logger ∨
      entry.logger = Response.logger := by
    have course := provider.course_pipeline cache order
    generalize provider.pipeline cache order = traced at course member
    cases course with
    | rejected => contradiction
    | unsent =>
        rcases Client.logger_of_mem_entries_send member with token | client
        · exact Or.inl token
        · exact Or.inr (Or.inl client)
    | answered =>
        rw [Trace.entries_append, List.mem_append] at member
        rcases member with sending | classifying
        · rcases Client.logger_of_mem_entries_send sending with token | client
          · exact Or.inl token
          · exact Or.inr (Or.inl client)
        · exact Or.inr (Or.inr (Response.logger_of_mem_entries_classify classifying))
  rcases parts with same | same | same <;> rw [same] <;> decide

/-- The record that a run ends with is the only one of its own. -/
theorem recordsBy_logger {entry : Log.Entry} (own : entry.logger = logger) :
    Trace.recordsBy logger ((provider.pipeline cache order).trace ++ [.logged entry]) =
      [entry] := by
  have others : (provider.pipeline cache order).trace.entries.filter (·.logger = logger) = [] := by
    rw [List.filter_eq_nil_iff]
    intro other member
    simpa using logger_ne_of_mem_entries_pipeline member
  simp [Trace.recordsBy, others, own]

/-- The shape of a run that completes: the clock is read twice, the measurement has the given value
and phase and no message, and the run logs them. -/
structure Completed (state : State) (order : RunOrder) (value : String) (phase : Phase)
    (outcome : Outcome Measurement) : Prop where
  /-- The measurement begins and ends at the next two ticks. -/
  answer : outcome.answer = {
    startedAt := some ↑(state.ticks + 1)
    finishedAt := some ↑(state.ticks + 2)
    value := value
    phase := some phase
    message := "" }
  ticks : outcome.state.ticks = state.ticks + 2
  record : outcome.trace.recordsBy logger =
    [⟨logger, .debug,
      "Measurement for run " ++ quote order.name ++ ": value=" ++ value ++ " phase="
        ++ phase.name⟩]

/-- The shape of a run that fails: the clock is read once, the measurement has a message and
neither an end nor a value, and the run logs a warning of a failure that is recognised and an error
of any other. -/
structure Errored (state : State) (order : RunOrder) (failure : Failure)
    (outcome : Outcome Measurement) : Prop where
  /-- The measurement begins at the next tick and does not end. -/
  answer : outcome.answer = {
    startedAt := some ↑(state.ticks + 1)
    finishedAt := none
    value := ""
    phase := some .error
    message := failure.message }
  ticks : outcome.state.ticks = state.ticks + 1
  /-- The run logs one record, whose level is that of the failure. -/
  record : outcome.trace.recordsBy logger =
    [if failure.failureClass?.isSome then
      ⟨logger, .warning,
        "Measurement for run " ++ quote order.name ++ " failed: " ++ failure.message⟩
    else
      ⟨logger, .error,
        "Unexpected error measuring run " ++ quote order.name ++ ": " ++ failure.message⟩]

/-- A run whose stages yield a value and a phase completes with them. -/
theorem completed_run {state : State} {value : String} {phase : Phase}
    (ended : (provider.pipeline state.cache order).outcome = .ok (value, phase)) :
    Completed state order value phase (provider.run state order) := by
  simp only [run, ended]
  exact ⟨rfl, rfl, recordsBy_logger rfl⟩

/-- A run in which a stage fails ends with its failure. -/
theorem errored_run {state : State} {failure : Failure}
    (ended : (provider.pipeline state.cache order).outcome = .error failure) :
    Errored state order failure (provider.run state order) := by
  simp only [run, ended]
  refine ⟨rfl, rfl, recordsBy_logger ?_⟩
  unfold failureEntry
  split <;> rfl

/-- No run has both shapes. -/
theorem Errored.not_completed {state : State} {failure : Failure} {value : String} {phase : Phase}
    {outcome : Outcome Measurement} (errored : Errored state order failure outcome) :
    ¬ Completed state order value phase outcome := by
  intro completed
  have same := congrArg Measurement.finishedAt (errored.answer.symm.trans completed.answer)
  contradiction

/-- A run has one of two shapes.  It completes exactly when all of its stages succeed, with the
value and the phase of its response, and otherwise ends with the failure of the first stage that
fails. -/
theorem run_completes_or_errs (provider : Provider) (state : State) (order : RunOrder) :
    (provider.Succeeds state.cache order ↔
      ∃ response value phase, order.scene.answers.response = .ok response ∧
        (response.classify provider.extractor order.evaluator order.metric).outcome =
          .ok (value, phase) ∧
        Completed state order value phase (provider.run state order)) ∧
    (¬ provider.Succeeds state.cache order ↔
      ∃ failure, provider.firstFailure state.cache order = some failure ∧
        Errored state order failure (provider.run state order)) := by
  rw [succeeds_iff, ← failure?_outcome_pipeline]
  constructor
  · constructor
    · rintro ⟨⟨value, phase⟩, ended⟩
      obtain ⟨response, answered, judged⟩ := response_of_outcome_pipeline ended
      exact ⟨response, value, phase, answered, judged, completed_run ended⟩
    · rintro ⟨_, value, phase, -, -, completed⟩
      cases ended : (provider.pipeline state.cache order).outcome with
      | ok result => exact ⟨result, rfl⟩
      | error failure => exact absurd completed (errored_run ended).not_completed
  · cases ended : (provider.pipeline state.cache order).outcome with
    | ok result =>
        constructor
        · intro fails
          exact absurd ⟨result, rfl⟩ fails
        · rintro ⟨failure, first, -⟩
          contradiction
    | error failure =>
        constructor
        · intro _
          exact ⟨failure, rfl, errored_run ended⟩
        · rintro - ⟨_, succeeded⟩
          contradiction

end Provider

end HttpGauge
