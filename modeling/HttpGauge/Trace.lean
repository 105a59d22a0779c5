import HttpGauge.Failure
import HttpGauge.Header
import HttpGauge.Log

/-!
# What a step does

A step of the pipeline succeeds or fails, and either way leaves a trace: the requests that it
sent, the records that it logged and the values that it had evaluated, in the order in which these
things happened.
-/

namespace HttpGauge

/-! ## Requests on their way -/

/-- What is checked of a server's certificate. -/
inductive Tls where
  | verify
  | insecure
  deriving DecidableEq, Repr

/-- How requests are sent. -/
structure Connection where
  /-- The time limit of a request in seconds. -/
  timeout : Int
  /-- What is checked of certificates. -/
  tls : Tls
  deriving DecidableEq, Repr

/-- A request for the value of a metric. -/
structure Request where
  method : Method
  url : String
  /-- The body, which is sent in UTF-8. -/
  body : Option String
  headers : HeaderSet
  deriving DecidableEq, Repr

/-- A request for a token. -/
structure TokenRequest where
  url : String
  form : List (String × String)
  /-- The credentials as a header value. -/
  authorization : String
  deriving DecidableEq, Repr

/-- A request as it is sent. -/
inductive Sent where
  | token (request : TokenRequest) (connection : Connection)
  /-- To the endpoint of a metric; the headers that must not be added on the way. -/
  | metric (request : Request) (skipped : List String) (connection : Connection)
  deriving DecidableEq, Repr

/-! ## Traces -/

/-- Something that a step did. -/
inductive Event where
  | sent (request : Sent)
  | logged (entry : Log.Entry)
  /-- It had a value evaluated for a metric. -/
  | evaluated (value : Json.Value) (metric : Metric)
  deriving DecidableEq

/-- The request that an event sent. -/
@[simp]
def Event.sent? : Event → Option Sent
  | .sent request => some request
  | _ => none

/-- The record that an event logged. -/
@[simp]
def Event.entry? : Event → Option Log.Entry
  | .logged entry => some entry
  | _ => none

/-- The evaluation that an event was. -/
@[simp]
def Event.evaluation? : Event → Option (Json.Value × Metric)
  | .evaluated value metric => some (value, metric)
  | _ => none

/-- What happened, in order. -/
abbrev Trace := List Event

namespace Trace

/-- The requests of a trace. -/
def sent (trace : Trace) : List Sent :=
  trace.filterMap Event.sent?

/-- The records of a trace. -/
def entries (trace : Trace) : List Log.Entry :=
  trace.filterMap Event.entry?

/-- The evaluations of a trace. -/
def evaluations (trace : Trace) : List (Json.Value × Metric) :=
  trace.filterMap Event.evaluation?

/-- The records of a trace that one logger wrote. -/
def recordsBy (logger : String) (trace : Trace) : List Log.Entry :=
  trace.entries.filter (·.logger = logger)

@[simp]
theorem sent_append (a b : Trace) : sent (a ++ b) = sent a ++ sent b :=
  List.filterMap_append

@[simp]
theorem entries_append (a b : Trace) : entries (a ++ b) = entries a ++ entries b :=
  List.filterMap_append

@[simp]
theorem evaluations_append (a b : Trace) :
    evaluations (a ++ b) = evaluations a ++ evaluations b :=
  List.filterMap_append

@[simp]
theorem sent_cons (event : Event) (trace : Trace) :
    sent (event :: trace) = event.sent?.toList ++ sent trace := by
  cases event <;> rfl

@[simp]
theorem entries_cons (event : Event) (trace : Trace) :
    entries (event :: trace) = event.entry?.toList ++ entries trace := by
  cases event <;> rfl

@[simp]
theorem evaluations_cons (event : Event) (trace : Trace) :
    evaluations (event :: trace) = event.evaluation?.toList ++ evaluations trace := by
  cases event <;> rfl

@[simp]
theorem sent_nil : sent [] = [] :=
  rfl

@[simp]
theorem entries_nil : entries [] = [] :=
  rfl

@[simp]
theorem evaluations_nil : evaluations [] = [] :=
  rfl

end Trace

/-! ## Traced results -/

/-- A result or a failure, with what happened on the way to it. -/
structure Traced (α : Type) where
  outcome : Except Failure α
  trace : Trace := []

namespace Traced

/-- A result without events. -/
def ok {α : Type} (result : α) : Traced α :=
  ⟨.ok result, []⟩

/-- A failure without events. -/
def fail {α : Type} (failure : Failure) : Traced α :=
  ⟨.error failure, []⟩

/-- Put an event before what happens next. -/
def after {α : Type} (event : Event) (next : Traced α) : Traced α :=
  ⟨next.outcome, event :: next.trace⟩

/-- Go on with the result; a failure ends the step. -/
def andThen {α β : Type} (step : Traced α) (next : α → Traced β) : Traced β :=
  match step.outcome with
  | .ok result => ⟨(next result).outcome, step.trace ++ (next result).trace⟩
  | .error failure => ⟨.error failure, step.trace⟩

/-- Log a record before what happens next. -/
def logging {α : Type} (logger : String) (level : Log.Level) (message : String)
    (next : Traced α) : Traced α :=
  after (.logged ⟨logger, level, message⟩) next

@[simp]
theorem andThen_ok {α β : Type} (result : α) (trace : Trace) (next : α → Traced β) :
    andThen ⟨.ok result, trace⟩ next
      = ⟨(next result).outcome, trace ++ (next result).trace⟩ :=
  rfl

@[simp]
theorem andThen_error {α β : Type} (failure : Failure) (trace : Trace) (next : α → Traced β) :
    andThen ⟨.error failure, trace⟩ next = ⟨.error failure, trace⟩ :=
  rfl

variable {α β : Type}

@[simp]
theorem outcome_ok (result : α) : (ok result).outcome = .ok result :=
  rfl

@[simp]
theorem trace_ok (result : α) : (ok result).trace = [] :=
  rfl

@[simp]
theorem outcome_fail (failure : Failure) : (fail failure : Traced α).outcome = .error failure :=
  rfl

@[simp]
theorem trace_fail (failure : Failure) : (fail failure : Traced α).trace = [] :=
  rfl

@[simp]
theorem outcome_after (event : Event) (next : Traced α) :
    (after event next).outcome = next.outcome :=
  rfl

@[simp]
theorem trace_after (event : Event) (next : Traced α) :
    (after event next).trace = event :: next.trace :=
  rfl

/-- What follows a success comes after the trace of the step. -/
theorem andThen_of_ok {step : Traced α} {result : α} (succeeded : step.outcome = .ok result)
    (next : α → Traced β) :
    step.andThen next = ⟨(next result).outcome, step.trace ++ (next result).trace⟩ := by
  rw [andThen, succeeded]

/-- Nothing follows a failure. -/
theorem andThen_of_error {step : Traced α} {failure : Failure}
    (failed : step.outcome = .error failure) (next : α → Traced β) :
    step.andThen next = ⟨.error failure, step.trace⟩ := by
  rw [andThen, failed]

/-- A step whose result is only adapted afterwards. -/
@[simp]
theorem andThen_ok_comp (step : Traced α) (adapt : α → β) :
    step.andThen (fun result => ok (adapt result)) = ⟨step.outcome.map adapt, step.trace⟩ := by
  cases ended : step.outcome with
  | ok result => simp [andThen_of_ok ended, Except.map]
  | error failure => simp [andThen_of_error ended, Except.map]

end Traced

end HttpGauge
