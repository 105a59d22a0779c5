import HttpGauge.Provider
import Mathlib.Data.List.Forall2

/-!
# Sessions side by side

A session is what a controller asks of one provider, one thing after another.  Two sessions are
alike when an observer cannot tell them apart who sees the answers and of each event what a view
leaves of it.  Whole sessions are alike because their parts are: everything here goes from the
parts of a run to runs, and from there to sessions of any length.
-/

namespace HttpGauge

open HttpGauge.Json

/-! ## Results -/

variable {α β γ δ : Type}

/-- Two results that both fail in the same way or are related. -/
inductive ResultsAlike (related : α → β → Prop) : Except Failure α → Except Failure β → Prop where
  | failed (failure : Failure) : ResultsAlike related (.error failure) (.error failure)
  | succeeded {first : α} {second : β} (alike : related first second) :
      ResultsAlike related (.ok first) (.ok second)

theorem resultsAlike_eq_iff {first second : Except Failure α} :
    ResultsAlike Eq first second ↔ first = second := by
  constructor
  · intro alike
    cases alike with
    | failed failure => rfl
    | succeeded same => rw [same]
  · rintro rfl
    cases first with
    | error failure => exact ResultsAlike.failed failure
    | ok result => exact ResultsAlike.succeeded rfl

theorem ResultsAlike.imp {related weaker : α → β → Prop} {first : Except Failure α}
    {second : Except Failure β} (alike : ResultsAlike related first second)
    (implies : ∀ a b, related a b → weaker a b) : ResultsAlike weaker first second := by
  cases alike with
  | failed failure => exact ResultsAlike.failed failure
  | succeeded related => exact ResultsAlike.succeeded (implies _ _ related)

namespace Traced

/-- Two steps whose results are related and whose events look the same. -/
structure Alike (view : Event → Event) (related : α → β → Prop) (first : Traced α)
    (second : Traced β) : Prop where
  outcome : ResultsAlike related first.outcome second.outcome
  trace : first.trace.map view = second.trace.map view

variable {view : Event → Event} {related : α → β → Prop}

theorem Alike.refl (step : Traced α) : step.Alike view Eq step :=
  ⟨resultsAlike_eq_iff.mpr rfl, rfl⟩

theorem Alike.ok {first : α} {second : β} (alike : related first second) :
    (Traced.ok first).Alike view related (Traced.ok second) :=
  ⟨ResultsAlike.succeeded alike, rfl⟩

theorem Alike.fail (failure : Failure) :
    (Traced.fail failure : Traced α).Alike view related (Traced.fail failure : Traced β) :=
  ⟨ResultsAlike.failed failure, rfl⟩

theorem Alike.imp {weaker : α → β → Prop} {first : Traced α} {second : Traced β}
    (alike : first.Alike view related second) (implies : ∀ a b, related a b → weaker a b) :
    first.Alike view weaker second :=
  ⟨alike.outcome.imp implies, alike.trace⟩

/-- Events that look the same may come before steps that are alike. -/
theorem Alike.after {first : Traced α} {second : Traced β} {event other : Event}
    (same : view event = view other) (alike : first.Alike view related second) :
    (Traced.after event first).Alike view related (Traced.after other second) := by
  refine ⟨alike.outcome, ?_⟩
  rw [trace_after, trace_after, List.map_cons, List.map_cons, same, alike.trace]

/-- Steps that are alike go on alike. -/
theorem Alike.andThen {first : Traced α} {second : Traced β} {next : α → Traced γ}
    {other : β → Traced δ} {continued : γ → δ → Prop} (alike : first.Alike view related second)
    (goOn : ∀ a b, related a b → (next a).Alike view continued (other b)) :
    (first.andThen next).Alike view continued (second.andThen other) := by
  obtain ⟨outcome, trace⟩ := alike
  generalize resultFirst : first.outcome = one at outcome
  generalize resultSecond : second.outcome = two at outcome
  cases outcome with
  | failed failure =>
      rw [andThen_of_error resultFirst, andThen_of_error resultSecond]
      exact ⟨ResultsAlike.failed failure, trace⟩
  | @succeeded a b related =>
      rw [andThen_of_ok resultFirst, andThen_of_ok resultSecond]
      refine ⟨(goOn a b related).outcome, ?_⟩
      rw [List.map_append, List.map_append, trace, (goOn a b related).trace]

end Traced

/-! ## Runs -/

/-- A response is classified alike for metrics that get the same verdicts and look the same. -/
theorem Response.classify_alike {view : Event → Event} {evaluator : Evaluator}
    {first second : Metric} (verdicts : ∀ value, evaluator value first = evaluator value second)
    (looks : ∀ value, view (.evaluated value first) = view (.evaluated value second))
    (response : Response) (extractor : Extractor) :
    (response.classify extractor evaluator first).Alike view Eq
      (response.classify extractor evaluator second) := by
  unfold classify
  cases checkStatus response.status with
  | error failure => exact Traced.Alike.fail failure
  | ok _ =>
      cases response.readBody with
      | error failure => exact Traced.Alike.fail failure
      | ok body =>
          dsimp only
          unfold judgeBody
          cases readBytes false body with
          | error reason => exact Traced.Alike.refl _
          | ok document =>
              dsimp only
              unfold judgeDocument
              cases measured extractor document with
              | error failure => exact Traced.Alike.fail failure
              | ok result =>
                  have judged :
                      evaluator.judge result.1 first = evaluator.judge result.1 second := by
                    rw [Evaluator.judge, Evaluator.judge, verdicts]
                  dsimp only
                  rw [judged]
                  exact Traced.Alike.after (looks result.1) (Traced.Alike.refl _)

namespace Provider

/-- Two states that differ at most in what is cached. -/
structure State.Alike (cached : Option Token → Option Token → Prop) (first second : State) :
    Prop where
  cache : cached first.cache second.cache
  ticks : first.ticks = second.ticks
  last : first.last = second.last

/-- Two steps of providers with the same answer whose events look the same. -/
structure Outcome.Alike (view : Event → Event) (cached : Option Token → Option Token → Prop)
    (first second : Outcome α) : Prop where
  answer : first.answer = second.answer
  trace : first.trace.map view = second.trace.map view
  state : first.state.Alike cached second.state

variable {view : Event → Event} {cached : Option Token → Option Token → Prop}
  {first second : Provider} {state other : State}

/-- Runs are alike when their requests are built alike, sent alike and, if they are answered,
classified alike. -/
theorem pipeline_alike {cache otherCache : Option Token} {order otherOrder : RunOrder}
    (builds : order.metric.web.request = otherOrder.metric.web.request)
    (sends : ∀ request,
      (first.client.send cache order.scene.now order.scene.answers request).Alike view Eq
        (second.client.send otherCache otherOrder.scene.now otherOrder.scene.answers request))
    (classifies : ∀ response : Response,
      (response.classify first.extractor order.evaluator order.metric).Alike view Eq
        (response.classify second.extractor otherOrder.evaluator otherOrder.metric)) :
    (first.pipeline cache order).Alike view Eq (second.pipeline otherCache otherOrder) := by
  unfold pipeline
  rw [builds]
  cases otherOrder.metric.web.request with
  | error fault => exact Traced.Alike.fail _
  | ok request =>
      apply (sends request).andThen
      rintro response _ rfl
      exact classifies response

/-- A run adds to its pipeline what depends on the name and the result only. -/
theorem run_alike {order otherOrder : RunOrder} (ticks : state.ticks = other.ticks)
    (name : order.name = otherOrder.name)
    (pipelines : (first.pipeline state.cache order).Alike view Eq
      (second.pipeline other.cache otherOrder))
    (caches : cached (first.cacheAfter state.cache order)
      (second.cacheAfter other.cache otherOrder)) :
    (first.run state order).Alike view cached (second.run other otherOrder) := by
  have results := resultsAlike_eq_iff.mp pipelines.outcome
  unfold run
  dsimp only
  rw [results, ticks, name]
  cases (second.pipeline other.cache otherOrder).outcome with
  | error failure =>
      exact ⟨rfl, by simp [pipelines.trace], ⟨caches, rfl, rfl⟩⟩
  | ok result =>
      exact ⟨rfl, by simp [pipelines.trace], ⟨caches, rfl, rfl⟩⟩

/-! ## Sessions -/

/-- What a provider answers and does, step by step. -/
def session (provider : Provider) : State → List Step → List (Outcome Reply)
  | _, [] => []
  | state, step :: rest =>
      provider.step state step :: provider.session (provider.step state step).state rest

/-- The same is asked for twice, with related orders for runs. -/
inductive Step.Alike (orders : RunOrder → RunOrder → Prop) : Step → Step → Prop where
  | run {order other : RunOrder} (alike : orders order other) :
      Alike orders (.run order) (.run other)
  | resume : Alike orders .resume .resume
  | terminate : Alike orders .terminate .terminate
  | collect (limit : Int) : Alike orders (.collect limit) (.collect limit)
  | type : Alike orders .type .type
  | metadata : Alike orders .metadata .metadata

variable {orders : RunOrder → RunOrder → Prop}

/-- Steps are alike where runs are. -/
theorem step_alike
    (runs : ∀ state other order otherOrder, State.Alike cached state other →
      orders order otherOrder →
        (first.run state order).Alike view cached (second.run other otherOrder))
    (states : State.Alike cached state other) {step otherStep : Step}
    (steps : step.Alike orders otherStep) :
    (first.step state step).Alike view cached (second.step other otherStep) := by
  cases steps with
  | run alike =>
      have outcomes := runs state other _ _ states alike
      exact ⟨congrArg Reply.measured outcomes.answer, outcomes.trace, outcomes.state⟩
  | resume => exact ⟨congrArg Reply.unchanged states.last, rfl, states⟩
  | terminate => exact ⟨congrArg Reply.unchanged states.last, rfl, states⟩
  | collect limit => exact ⟨rfl, rfl, states⟩
  | type => exact ⟨rfl, rfl, states⟩
  | metadata => exact ⟨rfl, rfl, states⟩

/-- Sessions of any length are alike where runs are. -/
theorem session_alike
    (runs : ∀ state other order otherOrder, State.Alike cached state other →
      orders order otherOrder →
        (first.run state order).Alike view cached (second.run other otherOrder))
    {steps otherSteps : List Step} (asked : List.Forall₂ (Step.Alike orders) steps otherSteps)
    (states : State.Alike cached state other) :
    List.Forall₂ (Outcome.Alike view cached) (first.session state steps)
      (second.session other otherSteps) := by
  induction asked generalizing state other with
  | nil => exact List.Forall₂.nil
  | cons alike _ ih =>
      have outcomes := step_alike runs states alike
      exact List.Forall₂.cons outcomes (ih outcomes.state)

end Provider

end HttpGauge
