import HttpGauge.Failure
import HttpGauge.Metric

/-!
# Verdicts

The phases that a measurement is in, and the host's evaluators, which judge a value.  An evaluator
may return a phase or the name of one; nothing else is a verdict.
-/

namespace HttpGauge

/-- The phases of a measurement. -/
inductive Phase where
  | pending
  | running
  | successful
  /-- Ended with a value that is a failure. -/
  | failed
  | error
  | inconclusive
  deriving DecidableEq, Repr

namespace Phase

/-- All phases. -/
def all : List Phase := [.pending, .running, .successful, .failed, .error, .inconclusive]

/-- The name of a phase. -/
def name : Phase → String
  | .pending => "Pending"
  | .running => "Running"
  | .successful => "Successful"
  | .failed => "Failed"
  | .error => "Error"
  | .inconclusive => "Inconclusive"

/-- The phase of a name. -/
def ofName? (name : String) : Option Phase :=
  all.find? (·.name == name)

end Phase

/-- What an evaluator returns. -/
inductive Verdict where
  | phase (result : Phase)
  | value (result : Json.Value)
  deriving DecidableEq

/-- The phase of a verdict: a name stands for its phase. -/
def Verdict.toPhase : Verdict → Except EvaluationFault Phase
  | .phase result => .ok result
  | .value (.str name) =>
      match Phase.ofName? name with
      | some result => .ok result
      | none => .error (.notAPhase (.str name))
  | .value result => .error (.notAPhase result)

/-- An evaluator of the host: it judges a value by the conditions of a metric. -/
abbrev Evaluator := Json.Value → Metric → Except Failure Verdict

/-- Judge a value: a failure of a recognised class is passed on, any other is wrapped. -/
def Evaluator.judge (evaluator : Evaluator) (value : Json.Value) (metric : Metric) :
    Except Failure Phase :=
  match evaluator value metric with
  | .ok verdict => verdict.toPhase.mapError .evaluation
  | .error failure =>
      if failure.failureClass?.isSome then .error failure
      else .error (.evaluation (.evaluator failure.message))

end HttpGauge
