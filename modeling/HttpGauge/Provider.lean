import HttpGauge.Client
import HttpGauge.Measurement
import HttpGauge.Settings

/-!
# Providers

A provider runs measurements of a metric.  A run always ends in a measurement: what goes wrong on
the way is its message.  Runs end by themselves, so there is nothing to resume, to terminate or to
collect.
-/

namespace HttpGauge

open HttpGauge.Number HttpGauge.Text

/-- A provider. -/
structure Provider where
  /-- The metric that it was built for. -/
  metricName : String
  client : Client
  extractor : Extractor

/-- What the endpoints and the clock do during one run. -/
structure Scene where
  /-- The time in seconds. -/
  now : Binary64
  answers : Answers

/-- A request to run a measurement. -/
structure RunOrder where
  name : String
  metric : Metric
  evaluator : Evaluator
  scene : Scene

namespace Provider

/-! ## Building -/

/-- The logger of building. -/
def factoryLogger : String := "webmetric.factory"

/-- The provider of a metric. -/
def build (language : PathLanguage) (settings : Settings) (metric : Metric) : Traced Provider :=
  match Client.ofMetric settings.defaultTimeout metric with
  | .error fault => .fail (.configuration fault)
  | .ok client =>
      (Extractor.compile language metric.web.jsonPath).andThen fun extractor =>
        .logging factoryLogger .debug
          ("Built web metric provider for metric " ++ quote metric.name)
          (.ok ⟨metric.name, client, extractor⟩)

/-! ## Measuring -/

/-- What changes from step to step. -/
structure State where
  cache : Option Token := none
  /-- How often the clock was read. -/
  ticks : Nat := 0
  last : Measurement := { }
  deriving DecidableEq

/-- The value and the phase that a request results in. -/
def pipeline (provider : Provider) (cache : Option Token) (order : RunOrder) :
    Traced (String × Phase) :=
  match order.metric.web.request with
  | .error fault => .fail (.configuration fault)
  | .ok request =>
      provider.client.hold cache order.scene.now order.scene.answers request fun response =>
        response.classify provider.extractor order.evaluator order.metric

/-- The cached token after a run: only a request that was built asks for one. -/
def cacheAfter (provider : Provider) (cache : Option Token) (order : RunOrder) : Option Token :=
  match order.metric.web.request with
  | .error _ => cache
  | .ok _ => provider.client.cacheAfter cache order.scene.now order.scene.answers

/-- The logger of runs. -/
def logger : String := "webmetric.provider"

/-- The record of a run that failed: a failure of a recognised class is expected. -/
def failureEntry (run : String) (failure : Failure) : Log.Entry :=
  if failure.failureClass?.isSome then
    ⟨logger, .warning, "Measurement for run " ++ quote run ++ " failed: " ++ failure.message⟩
  else
    ⟨logger, .error,
      "Unexpected error measuring run " ++ quote run ++ ": " ++ failure.message⟩

/-- The record of a run that was judged. -/
def successEntry (run value : String) (phase : Phase) : Log.Entry :=
  ⟨logger, .debug,
    "Measurement for run " ++ quote run ++ ": value=" ++ value ++ " phase=" ++ phase.name⟩

/-- A step of a provider: what it answers, what it did, and what it leaves behind. -/
structure Outcome (α : Type) where
  answer : α
  trace : Trace := []
  state : State

/-- Run a measurement; the clock is read when it begins and when it is judged. -/
def run (provider : Provider) (state : State) (order : RunOrder) : Outcome Measurement :=
  let started : Measurement := { startedAt := some (state.ticks + 1 : Nat) }
  let result := provider.pipeline state.cache order
  let cache := provider.cacheAfter state.cache order
  match result.outcome with
  | .error failure =>
      let measurement := started.fail failure
      ⟨measurement, result.trace ++ [.logged (failureEntry order.name failure)],
        ⟨cache, state.ticks + 1, measurement⟩⟩
  | .ok (value, phase) =>
      let measurement :=
        { started with value, phase := some phase, finishedAt := some (state.ticks + 2 : Nat) }
      ⟨measurement, result.trace ++ [.logged (successEntry order.name value phase)],
        ⟨cache, state.ticks + 2, measurement⟩⟩

/-! ## Everything else -/

/-- The type of these providers. -/
def type : String := "Web"

/-- A request for something that a run has done already: it is logged and changes nothing. -/
def refuse (method : String) (state : State) (measurement : Measurement) : Outcome Measurement :=
  let message := "WebMetric provider should not execute the " ++ method ++ " method"
  ⟨measurement, [.logged ⟨logger, .warning, message⟩], state⟩

/-- Go on with a measurement. -/
def resume (state : State) (measurement : Measurement) : Outcome Measurement :=
  refuse "Resume" state measurement

/-- Stop a measurement. -/
def terminate (state : State) (measurement : Measurement) : Outcome Measurement :=
  refuse "Terminate" state measurement

/-- What a controller asks a provider for. -/
inductive Step where
  | run (order : RunOrder)
  | resume
  | terminate
  /-- Remove all but some old measurements. -/
  | collect (limit : Int)
  | type
  /-- Tell what else is known of the metric. -/
  | metadata

/-- What a provider answers. -/
inductive Reply where
  | measured (measurement : Measurement)
  | unchanged (measurement : Measurement)
  | text (text : String)
  | nothing
  deriving DecidableEq, Repr

/-- Do what a controller asks for. -/
def step (provider : Provider) (state : State) : Step → Outcome Reply
  | .run order =>
      let outcome := provider.run state order
      ⟨.measured outcome.answer, outcome.trace, outcome.state⟩
  | .resume =>
      let outcome := resume state state.last
      ⟨.unchanged outcome.answer, outcome.trace, outcome.state⟩
  | .terminate =>
      let outcome := terminate state state.last
      ⟨.unchanged outcome.answer, outcome.trace, outcome.state⟩
  | .type => ⟨.text type, [], state⟩
  | .collect _ | .metadata => ⟨.nothing, [], state⟩

end Provider

end HttpGauge
