import HttpGauge.Proofs.Effects
import HttpGauge.Proofs.Stages

/-!
# Phases of measurements

A run ends in a phase.  Evaluators are meant to choose among the verdicts, success, failure and
error, but nothing holds them to it: whichever phase an evaluator returns is that of the
measurement.  Without an answer of the evaluator the phase is a verdict in any case.
-/

namespace HttpGauge

open HttpGauge.Json HttpGauge.Number

/-! ## Verdicts -/

/-- The phases that are verdicts; the others are for what has yet to be decided. -/
def Phase.verdicts : List Phase := [.successful, .failed, .error]

/-- A phase is found by its name alone. -/
theorem Phase.ofName?_eq_some_iff {name : String} {phase : Phase} :
    ofName? name = some phase ↔ name = phase.name := by
  constructor
  · intro found
    have same : phase.name = name := by simpa using List.find?_some found
    exact same.symm
  · rintro rfl
    cases phase <;> decide

/-- What an evaluator returns stands for a phase if it is the phase or its name. -/
def Verdict.StandsFor (verdict : Verdict) (phase : Phase) : Prop :=
  verdict = .phase phase ∨ verdict = .value (.str phase.name)

theorem Verdict.toPhase_eq_ok_iff {verdict : Verdict} {phase : Phase} :
    verdict.toPhase = .ok phase ↔ verdict.StandsFor phase := by
  constructor
  · intro read
    unfold toPhase at read
    split at read
    · cases read
      exact Or.inl rfl
    · split at read
      · rename_i named
        cases read
        rw [Phase.ofName?_eq_some_iff.mp named]
        exact Or.inr rfl
      · contradiction
    · contradiction
  · rintro (rfl | rfl)
    · rfl
    · rw [toPhase, Phase.ofName?_eq_some_iff.mpr rfl]

theorem Evaluator.judge_eq_ok_iff {evaluator : Evaluator} {value : Value} {metric : Metric}
    {phase : Phase} :
    evaluator.judge value metric = .ok phase ↔
      ∃ verdict, evaluator value metric = .ok verdict ∧ verdict.StandsFor phase := by
  unfold judge
  cases evaluator value metric with
  | error failure =>
      dsimp only
      split <;> simp
  | ok verdict =>
      simp only [Except.ok.injEq, exists_eq_left', ← Verdict.toPhase_eq_ok_iff]
      cases verdict.toPhase <;> simp

/-! ## Runs -/

namespace Provider

variable {provider : Provider} {state : State} {order : RunOrder}

/-- In a run, the evaluator is asked about a value and answers with a phase. -/
def EvaluatesTo (provider : Provider) (state : State) (order : RunOrder) (phase : Phase) : Prop :=
  ∃ value verdict, (value, order.metric) ∈ (provider.run state order).trace.evaluations ∧
    order.evaluator value order.metric = .ok verdict ∧ verdict.StandsFor phase

/-- Evaluating to a phase is being judged in it. -/
theorem evaluatesTo_iff {phase : Phase} :
    provider.EvaluatesTo state order phase ↔
      ∃ value, (value, order.metric) ∈ (provider.pipeline state.cache order).trace.evaluations ∧
        order.evaluator.judge value order.metric = .ok phase := by
  simp only [EvaluatesTo, evaluations_run, Evaluator.judge_eq_ok_iff, exists_and_left]

/-- A run completes with the phase that the evaluator answers with; without an answer it completes
as successful, or it fails. -/
theorem evaluatesTo_cases (provider : Provider) (state : State) (order : RunOrder) :
    (∃ text phase, (provider.pipeline state.cache order).outcome = .ok (text, phase) ∧
      ∀ other, provider.EvaluatesTo state order other ↔ other = phase) ∨
    ((∀ other, ¬ provider.EvaluatesTo state order other) ∧
      ((∃ text, (provider.pipeline state.cache order).outcome = .ok (text, .successful)) ∨
        ∃ failure, (provider.pipeline state.cache order).outcome = .error failure)) := by
  simp only [evaluatesTo_iff]
  have course := provider.course_pipeline state.cache order
  generalize provider.pipeline state.cache order = traced at course ⊢
  cases course with
  | rejected => exact Or.inr ⟨by simp, Or.inr ⟨_, rfl⟩⟩
  | unsent => exact Or.inr ⟨by simp [Client.evaluations_send], Or.inr ⟨_, rfl⟩⟩
  | @answered request response =>
      rw [Trace.evaluations_append, Client.evaluations_send, List.nil_append]
      have course := response.course_classify provider.extractor order.evaluator order.metric
      generalize response.classify provider.extractor order.evaluator order.metric = result
        at course ⊢
      cases course with
      | unread => exact Or.inr ⟨by simp, Or.inr ⟨_, rfl⟩⟩
      | unmeasured => exact Or.inr ⟨by simp, Or.inr ⟨_, rfl⟩⟩
      | raw => exact Or.inr ⟨by simp [Response.rawTrace], Or.inl ⟨_, rfl⟩⟩
      | @measured _ _ value text =>
          cases judged : order.evaluator.judge value order.metric with
          | error failure => exact Or.inr ⟨by simp [judged], Or.inr ⟨failure, rfl⟩⟩
          | ok phase => exact Or.inl ⟨text, phase, rfl, by simp [judged, eq_comm]⟩

/-- A run ends in a verdict unless the evaluator answers with a phase that is none; whatever it
answers with becomes the phase of the measurement, which is complete with it. -/
theorem run_ends_in_verdict_iff (provider : Provider) (state : State) (order : RunOrder) :
    ((∃ phase ∈ Phase.verdicts, (provider.run state order).answer.phase = some phase) ↔
      ∀ phase, provider.EvaluatesTo state order phase → phase ∈ Phase.verdicts) ∧
    ∀ phase, provider.EvaluatesTo state order phase →
      (provider.run state order).answer.phase = some phase ∧
        (provider.run state order).answer.finishedAt ≠ none := by
  rcases provider.evaluatesTo_cases state order with
    ⟨text, result, ended, answers⟩ | ⟨silent, ⟨text, ended⟩ | ⟨failure, ended⟩⟩
  · have answer := (completed_run ended).answer
    simp [answer, answers]
  · have answer := (completed_run ended).answer
    simp [answer, silent, Phase.verdicts]
  · have answer := (errored_run ended).answer
    simp [answer, silent, Phase.verdicts]

/-- An evaluator that is not done leaves a measurement that is complete and pending. -/
theorem run_ends_pending :
    let metric : Metric := ⟨"m", "", "", { url := "http://h/m" }⟩
    let order : RunOrder :=
      ⟨"run-1", metric, fun _ _ => .ok (.phase .pending),
        ⟨Binary64.ofInt 0, ⟨.error (.host ⟨.timeout, none⟩), .ok ⟨200, .ok [0x31]⟩⟩⟩⟩
    ∃ provider, (build Path.Query.language { } metric).outcome = .ok provider ∧
      provider.EvaluatesTo { } order .pending ∧
      (¬ ∃ phase ∈ Phase.verdicts, (provider.run { } order).answer.phase = some phase) ∧
      (provider.run { } order).answer.phase = some .pending ∧
      (provider.run { } order).answer.finishedAt ≠ none := by
  intro metric order
  obtain ⟨provider, built, asked⟩ : ∃ provider,
      (build Path.Query.language { } metric).outcome = .ok provider ∧
      (.int 1, metric) ∈ (provider.run { } order).trace.evaluations := by
    dsimp only [metric, order]
    exact ⟨_, rfl, List.mem_singleton.mpr rfl⟩
  have answers : provider.EvaluatesTo { } order .pending :=
    ⟨.int 1, .phase .pending, asked, rfl, Or.inl rfl⟩
  obtain ⟨verdict_iff, becomes⟩ := provider.run_ends_in_verdict_iff { } order
  refine ⟨provider, built, answers, ?_, becomes .pending answers⟩
  rw [verdict_iff]
  intro verdicts
  exact absurd (verdicts .pending answers) (by decide)

end Provider

end HttpGauge
