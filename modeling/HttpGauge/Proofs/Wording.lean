import HttpGauge.Proofs.JsonBody
import HttpGauge.Proofs.Stages

/-!
# What failures say

The pipeline has words for whatever goes wrong inside it, and puts words of its own before those
of a failure of the network.  It passes on what else the host raises, and repeats what an evaluator
raises.  So the message of a measurement is empty exactly when the host said nothing.
-/

namespace HttpGauge

open HttpGauge.Json HttpGauge.Number

theorem failure?_eq_some_iff {α : Type} {result : Except Failure α} {failure : Failure} :
    failure? result = some failure ↔ result = .error failure := by
  cases result <;> simp

theorem mapError_eq_error_iff {ε ε' α : Type} {present : ε → ε'} {result : Except ε α}
    {failure : ε'} :
    result.mapError present = .error failure ↔
      ∃ raised, result = .error raised ∧ present raised = failure := by
  cases result <;> simp

/-! ## Own words -/

namespace Failure

theorem longIntMessage_ne_empty : longIntMessage ≠ "" := by
  decide +kernel

/-- A failure that is worded by the pipeline, and not by whoever raised it. -/
def IsWorded : Failure → Prop
  | .configuration _ | .transport _ | .protocol _ _ | .extraction _ | .internal _ => True
  | .evaluation (.notAPhase _) => True
  | .evaluation (.evaluator _) | .reported _ _ | .host _ => False

/-- The pipeline is never at a loss for words. -/
theorem IsWorded.message_ne_empty {failure : Failure} (worded : failure.IsWorded) :
    failure.message ≠ "" := by
  unfold message
  cases failure with
  | configuration fault =>
      unfold ConfigurationFault.message
      cases fault <;> simp
  | transport fault =>
      unfold TransportFault.message
      cases fault <;> simp
  | protocol status fault =>
      unfold ProtocolFault.message
      cases fault <;> simp
  | extraction fault =>
      unfold ExtractionFault.message
      cases fault <;> simp
  | internal fault =>
      unfold InternalFault.message
      cases fault with
      | integerTooLong => exact longIntMessage_ne_empty
      | lifetimeTooLarge => simp
  | evaluation fault =>
      unfold EvaluationFault.message
      cases fault with
      | notAPhase value => simp
      | evaluator detail => contradiction
  | reported failureClass detail => contradiction
  | host failure => contradiction

/-- A failure presents what the host raised: in the words of the pipeline if that is a failure of
the network, and otherwise as it is. -/
def Presents (failure raised : Failure) : Prop :=
  (raised.network? = none ∧ failure = raised) ∨ (raised.network? ≠ none ∧ failure.IsWorded)

/-- A failure presents what the host raised, if it raised anything, and is worded by the pipeline
if it did not. -/
def ArisesFrom (failure : Failure) : Option Failure → Prop
  | some raised => failure.Presents raised
  | none => failure.IsWorded

/-- A failure that arises so says nothing exactly when the host said nothing and is not spoken
for. -/
theorem ArisesFrom.message_eq_empty_iff {failure : Failure} {raised? : Option Failure}
    (arises : failure.ArisesFrom raised?) :
    failure.message = "" ↔
      ∃ raised, raised? = some raised ∧ raised.network? = none ∧ raised.message = "" := by
  cases raised? with
  | none => exact iff_of_false (IsWorded.message_ne_empty arises) (by simp)
  | some raised =>
      rcases arises with ⟨foreign, rfl⟩ | ⟨network, worded⟩
      · simp [foreign]
      · exact iff_of_false worded.message_ne_empty (by simp [network])

/-! ## Failures of the network -/

/-- Words for the failures of the network present whatever is raised. -/
theorem presents_of_network (words : HostFailure → Failure)
    (worded : ∀ cause, (words cause).IsWorded) (raised : Failure) :
    (match raised.network? with
      | some cause => words cause
      | none => raised).Presents raised := by
  cases network : raised.network? with
  | none => exact Or.inl ⟨network, rfl⟩
  | some cause => exact Or.inr ⟨by simp [network], worded cause⟩

theorem presents_exchangeFailure (raised : Failure) :
    (exchangeFailure raised).Presents raised :=
  presents_of_network (fun cause => .transport (.tokenExchange cause)) (fun _ => trivial) raised

theorem presents_sendFailure (client : Client) (url : String) (raised : Failure) :
    (client.sendFailure url raised).Presents raised := by
  cases raised with
  | host cause =>
      have network : (Failure.host cause).network? =
          if cause.kind.isTimeout || cause.kind.isClient then some cause else none := rfl
      simp only [Client.sendFailure, Presents, network]
      cases cause.kind.isTimeout with
      | true => exact Or.inr ⟨by simp, trivial⟩
      | false =>
          cases cause.kind.isClient with
          | true => exact Or.inr ⟨by simp, trivial⟩
          | false => exact Or.inl ⟨rfl, rfl⟩
  | _ => exact Or.inl ⟨rfl, rfl⟩

end Failure

theorem Response.readBody_arises {response : Response} {failure : Failure}
    (unread : response.readBody = .error failure) :
    failure.ArisesFrom (failure? response.body) := by
  obtain ⟨raised, arrived, rfl⟩ := mapError_eq_error_iff.mp unread
  rw [arrived]
  exact Failure.presents_of_network (fun cause => .extraction (.unreadBody cause))
    (fun _ => trivial) raised

/-! ## Exchanges -/

/-- What the host raises during an exchange. -/
def raisedBy (answer : Except Failure TokenAnswer) : Option Failure :=
  match answer with
  | .error failure => some failure
  | .ok answer => failure? answer.body

theorem TokenAnswer.grant_arises {answer : TokenAnswer} {failure : Failure}
    (failed : answer.grant = .error failure) : failure.ArisesFrom (failure? answer.body) := by
  unfold grant at failed
  cases arrived : answer.body with
  | error raised =>
      rw [arrived] at failed
      cases failed
      exact raised.presents_exchangeFailure
  | ok body =>
      simp only [arrived] at failed
      split at failed
      · obtain ⟨fault, -, rfl⟩ := mapError_eq_error_iff.mp failed
        trivial
      · cases failed
        trivial

/-- The body of an answer that holds a grant has arrived. -/
theorem TokenAnswer.failure?_body_of_grant {answer : TokenAnswer} {grant : Grant}
    (granted : answer.grant = .ok grant) : failure? answer.body = none := by
  unfold TokenAnswer.grant at granted
  cases arrived : answer.body with
  | ok body => rfl
  | error raised =>
      rw [arrived] at granted
      contradiction

theorem TokenSource.receive_arises {source : TokenSource} {requestedAt : Binary64}
    {answer : Except Failure TokenAnswer} {failure : Failure}
    (failed : (source.receive requestedAt answer).outcome = .error failure) :
    failure.ArisesFrom (raisedBy answer) := by
  unfold receive at failed
  cases answer with
  | error raised =>
      cases failed
      exact raised.presents_exchangeFailure
  | ok answer =>
      cases granted : answer.grant with
      | error other =>
          simp only [granted] at failed
          cases failed
          exact answer.grant_arises granted
      | ok grant =>
          simp only [granted] at failed
          rw [raisedBy, answer.failure?_body_of_grant granted]
          cases issued : grant.token requestedAt with
          | error fault =>
              simp only [issued] at failed
              cases failed
              trivial
          | ok token =>
              simp only [issued] at failed
              contradiction

/-! ## Stages -/

theorem checkStatus_worded {status : Int} {failure : Failure}
    (refused : checkStatus status = .error failure) : failure.IsWorded := by
  unfold checkStatus at refused
  split at refused
  · contradiction
  · cases refused
    trivial

theorem firstValue_worded {selected : List (List Value)} {failure : Failure}
    (unmeasured : firstValue selected = .error failure) : failure.IsWorded := by
  unfold firstValue canonicalText at unmeasured
  cases first : firstValue? selected with
  | none =>
      rw [first] at unmeasured
      cases unmeasured
      trivial
  | some value =>
      simp only [first] at unmeasured
      split at unmeasured
      · cases unmeasured
        trivial
      · contradiction

theorem Verdict.toPhase_worded {verdict : Verdict} {fault : EvaluationFault}
    (refused : verdict.toPhase = .error fault) : (Failure.evaluation fault).IsWorded := by
  unfold toPhase at refused
  split at refused
  · contradiction
  · split at refused
    · contradiction
    · cases refused
      trivial
  · cases refused
    trivial

namespace Provider

variable {provider : Provider} {cache : Option Token} {order : RunOrder}

/-- What the host raises at a stage, if the stage comes to ask something of it. -/
def raisedAt (provider : Provider) (cache : Option Token) (order : RunOrder) :
    Stage → Option Failure
  | .token => do
      let _ ← provider.client.asked cache order.scene.now
      raisedBy order.scene.answers.token
  | .send => failure? order.scene.answers.response
  | .read => do failure? (← order.response?).body
  | .evaluate => do failure? (order.evaluator (← provider.measured? order).1 order.metric)
  | .build | .status | .extract | .select => none

/-- Failures before an evaluator is asked arise from what the host raises. -/
theorem failureAt_arises {stage : Stage} {failure : Failure} (early : stage ≠ .evaluate)
    (fails : provider.failureAt cache order stage = some failure) :
    failure.ArisesFrom (provider.raisedAt cache order stage) := by
  cases stage with
  | build =>
      obtain ⟨fault, -, rfl⟩ := mapError_eq_error_iff.mp (failure?_eq_some_iff.mp fails)
      trivial
  | token =>
      obtain ⟨result, exchanged, failed⟩ := Option.bind_eq_some_iff.mp fails
      obtain ⟨source, asked, rfl⟩ := Option.map_eq_some_iff.mp exchanged
      rw [raisedAt, asked]
      exact source.receive_arises (failure?_eq_some_iff.mp failed)
  | send =>
      obtain ⟨raised, answered, rfl⟩ := mapError_eq_error_iff.mp (failure?_eq_some_iff.mp fails)
      rw [raisedAt, answered]
      exact Failure.presents_sendFailure _ _ raised
  | status =>
      obtain ⟨response, -, refused⟩ := Option.bind_eq_some_iff.mp fails
      exact checkStatus_worded (failure?_eq_some_iff.mp refused)
  | read =>
      obtain ⟨response, given, unread⟩ := Option.bind_eq_some_iff.mp fails
      rw [raisedAt, given]
      exact response.readBody_arises (failure?_eq_some_iff.mp unread)
  | extract =>
      obtain ⟨document, -, failed⟩ := Option.bind_eq_some_iff.mp fails
      obtain ⟨reason, rfl⟩ := Extractor.find_error (failure?_eq_some_iff.mp failed)
      trivial
  | select =>
      obtain ⟨sets, -, unmeasured⟩ := Option.bind_eq_some_iff.mp fails
      exact firstValue_worded (failure?_eq_some_iff.mp unmeasured)
  | evaluate => contradiction

/-- The failure of an evaluation says what the evaluator raises, if it raises anything, and is
worded by the pipeline if it does not. -/
theorem message_failureAt_evaluate {failure : Failure}
    (fails : provider.failureAt cache order .evaluate = some failure) :
    failure.message = "" ↔
      ∃ raised, provider.raisedAt cache order .evaluate = some raised ∧ raised.message = "" := by
  obtain ⟨⟨value, text⟩, measures, judged⟩ := Option.bind_eq_some_iff.mp fails
  have unjudged := failure?_eq_some_iff.mp judged
  rw [raisedAt, measures]
  unfold Evaluator.judge at unjudged
  cases answered : order.evaluator value order.metric with
  | ok verdict =>
      simp only [answered] at unjudged
      cases phase : verdict.toPhase with
      | ok result =>
          rw [phase] at unjudged
          contradiction
      | error fault =>
          rw [phase] at unjudged
          cases unjudged
          exact iff_of_false (Verdict.toPhase_worded phase).message_ne_empty (by simp [answered])
  | error raised =>
      simp only [answered] at unjudged
      have same : failure.message = raised.message := by
        split at unjudged <;> cases unjudged <;> rfl
      simp [answered, same]

/-! ## Silence -/

/-- A run fails at a stage: the stage fails, and none before it does. -/
structure FailsAt (provider : Provider) (cache : Option Token) (order : RunOrder)
    (stage : Stage) : Prop where
  first : ∃ earlier later, Stage.all = earlier ++ stage :: later ∧
    ∀ before ∈ earlier, provider.failureAt cache order before = none
  fails : provider.failureAt cache order stage ≠ none

/-- The failure of a run is that of the stage at which it fails. -/
theorem firstFailure_eq_some_iff {failure : Failure} :
    provider.firstFailure cache order = some failure ↔
      ∃ stage, provider.FailsAt cache order stage ∧
        provider.failureAt cache order stage = some failure := by
  rw [firstFailure, List.findSome?_eq_some_iff]
  constructor
  · rintro ⟨earlier, stage, later, split, fails, before⟩
    exact ⟨stage, ⟨⟨earlier, later, split, before⟩, by simp [fails]⟩, fails⟩
  · rintro ⟨stage, ⟨⟨earlier, later, split, before⟩, -⟩, fails⟩
    exact ⟨earlier, stage, later, split, fails, before⟩

/-- A stage repeats what the host raises there: an evaluator is repeated in any case, and everyone
else unless the network fails. -/
def Stage.Repeats (stage : Stage) (raised : Failure) : Prop :=
  stage = .evaluate ∨ raised.network? = none

theorem message_failureAt_eq_empty_iff {stage : Stage} {failure : Failure}
    (fails : provider.failureAt cache order stage = some failure) :
    failure.message = "" ↔ ∃ raised, provider.raisedAt cache order stage = some raised ∧
      stage.Repeats raised ∧ raised.message = "" := by
  by_cases last : stage = .evaluate
  · subst last
    rw [message_failureAt_evaluate fails]
    simp [Stage.Repeats]
  · rw [(failureAt_arises last fails).message_eq_empty_iff]
    simp [Stage.Repeats, last]

/-- A run that does not complete has an empty message exactly when, at the stage where it fails, the
host raises something that says nothing and that the stage repeats. -/
theorem run_message_eq_empty_iff (provider : Provider) (state : State) (order : RunOrder) :
    ((provider.run state order).answer.finishedAt = none ∧
        (provider.run state order).answer.message = "") ↔
      ∃ stage raised, provider.FailsAt state.cache order stage ∧
        provider.raisedAt state.cache order stage = some raised ∧ stage.Repeats raised ∧
        raised.message = "" := by
  have first := provider.failure?_outcome_pipeline state.cache order
  cases ended : (provider.pipeline state.cache order).outcome with
  | ok result =>
      have completes := congrArg Measurement.finishedAt (completed_run ended).answer
      constructor
      · rintro ⟨unfinished, -⟩
        rw [completes] at unfinished
        contradiction
      · rintro ⟨stage, raised, fails, -⟩
        obtain ⟨failure, failed⟩ := Option.ne_none_iff_exists'.mp fails.fails
        rw [ended, firstFailure_eq_some_iff.mpr ⟨stage, fails, failed⟩] at first
        contradiction
  | error failure =>
      have answer := (errored_run ended).answer
      rw [ended] at first
      rw [answer]
      constructor
      · rintro ⟨-, silent⟩
        obtain ⟨stage, fails, failed⟩ := firstFailure_eq_some_iff.mp first.symm
        obtain ⟨raised, raises, repeats, nothing⟩ :=
          (message_failureAt_eq_empty_iff failed).mp silent
        exact ⟨stage, raised, fails, raises, repeats, nothing⟩
      · rintro ⟨stage, raised, fails, raises, repeats, nothing⟩
        obtain ⟨other, failed⟩ := Option.ne_none_iff_exists'.mp fails.fails
        have same := first.trans (firstFailure_eq_some_iff.mpr ⟨stage, fails, failed⟩)
        cases Option.some.inj same
        exact ⟨rfl, (message_failureAt_eq_empty_iff failed).mpr ⟨raised, raises, repeats, nothing⟩⟩

/-- An evaluator that runs into a time limit says nothing, and so does the measurement. -/
theorem run_message_eq_empty_of_timeout :
    let metric : Metric := ⟨"m", "", "", { url := "http://h/m" }⟩
    let order : RunOrder :=
      ⟨"run-1", metric, fun _ _ => .error (.host ⟨.timeout, none⟩),
        ⟨Binary64.ofInt 0, ⟨.error (.host ⟨.timeout, none⟩), .ok ⟨200, .ok [0x31]⟩⟩⟩⟩
    ∃ provider, (build Path.Query.language { } metric).outcome = .ok provider ∧
      (provider.run { } order).answer =
        ⟨some 1, none, "", some .error, ""⟩ ∧
      ∃ stage raised, provider.FailsAt none order stage ∧
        provider.raisedAt none order stage = some raised ∧ stage.Repeats raised ∧
        raised.message = "" :=
  ⟨_, rfl, rfl, (run_message_eq_empty_iff _ { } _).mp ⟨rfl, rfl⟩⟩

end Provider

end HttpGauge
