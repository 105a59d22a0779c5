import HttpGauge.Proofs.Effects
import HttpGauge.Proofs.Session
import Mathlib.Data.List.Nodup

/-!
# What a provider remembers

A provider carries three things from one step to the next: its cached token, how often it has read
the clock, and its last measurement.  A run looks at the first two, and at the clock only to say
when it begins and ends.  After any history it is therefore the run of a provider that is new but
for its cached token, later by the ticks that the runs of the history took.
-/

namespace HttpGauge

open HttpGauge.Number

namespace Measurement

/-- The same measurement some ticks later. -/
def delayed (ticks : Nat) (measurement : Measurement) : Measurement :=
  { measurement with
    startedAt := measurement.startedAt.map (· + (ticks : Int))
    finishedAt := measurement.finishedAt.map (· + (ticks : Int)) }

/-- The readings of the clock that a measurement shows, in order. -/
def readings (measurement : Measurement) : List Int :=
  measurement.startedAt.toList ++ measurement.finishedAt.toList

end Measurement

namespace Provider

/-! ## Later runs -/

/-- The same outcome some ticks later. -/
def Outcome.delayed (ticks : Nat) (outcome : Outcome Measurement) : Outcome Measurement where
  answer := outcome.answer.delayed ticks
  trace := outcome.trace
  state :=
    { outcome.state with
      ticks := outcome.state.ticks + ticks
      last := outcome.state.last.delayed ticks }

/-- A run looks at nothing but the cached token and the clock. -/
theorem run_eq_delayed (provider : Provider) (state : State) (order : RunOrder) :
    provider.run state order =
      (provider.run { cache := state.cache } order).delayed state.ticks := by
  cases ended : (provider.pipeline state.cache order).outcome with
  | error failure =>
      simp [run, ended, Outcome.delayed, Measurement.delayed, Measurement.fail, Int.add_comm,
        Nat.add_comm]
  | ok result =>
      simp [run, ended, Outcome.delayed, Measurement.delayed, Int.add_comm, Nat.add_comm]

/-! ## Histories -/

/-- The measurement of a run. -/
def Reply.measured? : Reply → Option Measurement
  | .measured measurement => some measurement
  | _ => none

/-- The measurements of the runs among some steps, in order. -/
def measurements (provider : Provider) (state : State) (steps : List Step) : List Measurement :=
  (provider.session state steps).filterMap fun outcome => outcome.answer.measured?

/-- The state that steps leave behind. -/
def after (provider : Provider) (state : State) (steps : List Step) : State :=
  steps.foldl (fun state step => (provider.step state step).state) state

/-- How often runs read the clock: once each, and once more each that completes. -/
def elapsed (runs : List Measurement) : Nat :=
  runs.length + runs.countP (·.finishedAt.isSome)

variable (provider : Provider) (state : State)

theorem after_cons (step : Step) (rest : List Step) :
    provider.after state (step :: rest) = provider.after (provider.step state step).state rest :=
  rfl

theorem measurements_cons (step : Step) (rest : List Step) :
    provider.measurements state (step :: rest) =
      (provider.step state step).answer.measured?.toList ++
        provider.measurements (provider.step state step).state rest := by
  unfold measurements
  rw [session, List.filterMap_cons]
  cases (provider.step state step).answer.measured? <;> rfl

/-! ## What is kept -/

/-- A state that follows another after some runs: each reading of the clock is the next tick, and
the last measurement is kept. -/
structure Follows (before : State) (runs : List Measurement) (after : State) : Prop where
  ticks : after.ticks = before.ticks + elapsed runs
  readings : runs.flatMap Measurement.readings =
    (List.range' (before.ticks + 1) (elapsed runs)).map Int.ofNat
  last : after.last = runs.getLast?.getD before.last

theorem elapsed_append (runs later : List Measurement) :
    elapsed (runs ++ later) = elapsed runs + elapsed later := by
  simp only [elapsed, List.length_append, List.countP_append]
  omega

theorem Follows.refl : Follows state [] state :=
  ⟨rfl, rfl, rfl⟩

theorem Follows.trans {first second third : State} {runs later : List Measurement}
    (one : Follows first runs second) (other : Follows second later third) :
    Follows first (runs ++ later) third where
  ticks := by rw [other.ticks, one.ticks, elapsed_append, Nat.add_assoc]
  readings := by
    rw [List.flatMap_append, one.readings, other.readings, one.ticks, elapsed_append,
      Nat.add_right_comm, ← List.map_append, List.range'_append_1]
  last := by rw [other.last, one.last, List.getLast?_append, Option.getD_or]

/-- A step reads the clock, and remembers a measurement, only if it is a run. -/
theorem follows_step (step : Step) :
    Follows state (provider.step state step).answer.measured?.toList
      (provider.step state step).state := by
  cases step with
  | run order =>
      cases ended : (provider.pipeline state.cache order).outcome with
      | error failure =>
          simp only [Provider.step, run, ended]
          exact ⟨rfl, rfl, rfl⟩
      | ok result =>
          simp only [Provider.step, run, ended]
          exact ⟨rfl, rfl, rfl⟩
  | resume => exact Follows.refl state
  | terminate => exact Follows.refl state
  | collect limit => exact Follows.refl state
  | type => exact Follows.refl state
  | metadata => exact Follows.refl state

/-- So it is for all steps of a history. -/
theorem follows_after (steps : List Step) :
    Follows state (provider.measurements state steps) (provider.after state steps) := by
  induction steps generalizing state with
  | nil => exact Follows.refl state
  | cons step rest ih =>
      rw [measurements_cons, after_cons]
      exact (follows_step provider state step).trans (ih _)

variable {provider}

/-- A provider that issues no tokens keeps the cache that it has. -/
theorem cache_step_of_noSource (noSource : provider.client.source = none) (step : Step) :
    (provider.step state step).state.cache = state.cache := by
  cases step with
  | run order =>
      have kept : provider.cacheAfter state.cache order = state.cache := by
        unfold cacheAfter
        cases order.metric.web.request with
        | error fault => rfl
        | ok request => simp [Client.cacheAfter, Client.authorize, noSource]
      cases ended : (provider.pipeline state.cache order).outcome with
      | error failure => simp only [Provider.step, run, ended, kept]
      | ok result => simp only [Provider.step, run, ended, kept]
  | resume => rfl
  | terminate => rfl
  | collect limit => rfl
  | type => rfl
  | metadata => rfl

theorem cache_after_of_noSource (noSource : provider.client.source = none) (steps : List Step) :
    (provider.after state steps).cache = state.cache := by
  induction steps generalizing state with
  | nil => rfl
  | cons step rest ih => rw [after_cons, ih, cache_step_of_noSource state noSource]

/-! ## History independence -/

/-- The provider of a metric forgets its history: the history shows in the cached token and in the
time, and in nothing else that a run does or answers. -/
structure ForgetsHistory (metric : Metric) (provider : Provider) : Prop where
  /-- Without tokens, a run after a history is that of a new provider, later by the ticks that the
  runs of the history took. -/
  fresh : metric.web.oauth2.tokenUrl = "" → ∀ history order,
    provider.run (provider.after { } history) order =
      (provider.run { } order).delayed (elapsed (provider.measurements { } history))
  /-- With tokens, runs after two histories are the same but for the time if these leave the same
  token. -/
  cached : ∀ history other order,
    (provider.after { } history).cache = (provider.after { } other).cache →
      ∃ outcome : Outcome Measurement,
        provider.run (provider.after { } history) order =
          outcome.delayed (elapsed (provider.measurements { } history)) ∧
        provider.run (provider.after { } other) order =
          outcome.delayed (elapsed (provider.measurements { } other))
  /-- The runs of a history begin and end at the ticks from the first one on, each at its own. -/
  clock : ∀ history,
    (provider.measurements { } history).flatMap Measurement.readings =
      (List.range' 1 (elapsed (provider.measurements { } history))).map Int.ofNat ∧
    ((provider.measurements { } history).flatMap Measurement.readings).Nodup
  /-- Resuming and terminating answer the measurement of the last run, send nothing and are
  forgotten, too. -/
  inert : ∀ history, ∀ step ∈ [Step.resume, Step.terminate],
    (provider.step (provider.after { } history) step).answer =
      .unchanged ((provider.measurements { } history).getLast?.getD { }) ∧
    (provider.step (provider.after { } history) step).trace.sent = [] ∧
    (provider.step (provider.after { } history) step).state = provider.after { } history

/-- A run after a history is that of a provider with the cached token that the history leaves. -/
theorem run_after (provider : Provider) (history : List Step) (order : RunOrder) :
    provider.run (provider.after { } history) order =
      (provider.run { cache := (provider.after { } history).cache } order).delayed
        (elapsed (provider.measurements { } history)) := by
  have ticks := (follows_after provider { } history).ticks
  rw [Nat.zero_add] at ticks
  rw [run_eq_delayed, ticks]

/-- Every provider that is built forgets its history. -/
theorem run_forgets_history {language : PathLanguage} {settings : Settings} {metric : Metric}
    {provider : Provider} (built : (build language settings metric).outcome = .ok provider) :
    ForgetsHistory metric provider := by
  have noSource_iff := (client_of_build built).2
  constructor
  case fresh =>
    intro noTokens history order
    rw [run_after, cache_after_of_noSource _ (noSource_iff.mpr noTokens)]
  case cached =>
    intro history other order same
    refine ⟨_, run_after provider history order, ?_⟩
    rw [same]
    exact run_after provider other order
  case clock =>
    intro history
    have readings := (follows_after provider { } history).readings
    rw [Nat.zero_add] at readings
    refine ⟨readings, ?_⟩
    rw [readings]
    exact List.Nodup.map (fun _ _ => Int.ofNat.inj) List.nodup_range'
  case inert =>
    intro history step member
    have last := (follows_after provider { } history).last
    simp only [List.mem_cons, List.not_mem_nil, or_false] at member
    rcases member with rfl | rfl
    · exact ⟨congrArg Reply.unchanged last, rfl, rfl⟩
    · exact ⟨congrArg Reply.unchanged last, rfl, rfl⟩

/-- A run after one that failed, one that completed and a vain attempt to resume begins three ticks
later than it would have as the first. -/
theorem run_forgets_failed_history :
    let metric : Metric := ⟨"m", "", "", { url := "http://h/m" }⟩
    let order (response : Except Failure Response) : RunOrder :=
      ⟨"run-1", metric, fun _ _ => .ok (.phase .successful),
        ⟨Binary64.ofInt 0, ⟨.error (.host ⟨.timeout, none⟩), response⟩⟩⟩
    let completes := order (.ok ⟨200, .ok []⟩)
    let history := [.run (order (.error (.host ⟨.timeout, none⟩))), .resume, .run completes]
    ∃ provider, (build Path.Query.language { } metric).outcome = .ok provider ∧
      ForgetsHistory metric provider ∧ metric.web.oauth2.tokenUrl = "" ∧
      provider.run (provider.after { } history) completes =
        (provider.run { } completes).delayed 3 := by
  intro metric order completes history
  obtain ⟨provider, built⟩ : ∃ provider,
      (build Path.Query.language { } metric).outcome = .ok provider := by
    dsimp only [metric]
    exact ⟨_, rfl⟩
  have forgets := run_forgets_history built
  refine ⟨provider, built, forgets, rfl, ?_⟩
  rw [forgets.fresh rfl]
  -- The number of ticks does not hang on the extractor: nothing is extracted from an empty body.
  have noSource : provider.client.source = none := (client_of_build built).2.mpr rfl
  obtain ⟨name, ⟨connection, source⟩, extractor⟩ := provider
  cases noSource
  rfl

end Provider

end HttpGauge
