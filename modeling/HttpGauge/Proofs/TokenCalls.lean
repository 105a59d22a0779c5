import HttpGauge.Proofs.Authorization
import Mathlib.Data.List.Basic
import Mathlib.Data.List.Induction
import Mathlib.Logic.Function.Basic

/-!
# Concurrent calls for a token

Any number of calls ask one source for a token at the same time.  Each of them checks the cache,
asks the endpoint if it finds nothing that it can use, receives the answer and settles, and the
steps of the others may come between any two of its own.  Nothing is locked: several calls may
have requests under way, and they settle in any order.  Still every call returns what it found
itself or was issued itself, the cache is always that of the last call that settled with a token,
and a call whose exchange fails might as well not have been made.
-/

namespace HttpGauge.TokenSource

open HttpGauge.Number

universe u

/-! ## Calls -/

/-- Where a call stands. -/
inductive Call where
  | begun
  /-- Its check found no token that can be used. -/
  | unserved
  /-- It has asked for a token at some time. -/
  | waiting (requestedAt : Binary64)
  /-- Its request is answered, and nothing has been made of the answer yet. -/
  | answered (requestedAt : Binary64) (answer : Except Failure TokenAnswer)
  | ended (result : Except Failure Token)

/-- What a call does in one step. -/
inductive Action where
  /-- Read the cache and the clock. -/
  | check (now : Binary64)
  /-- Read the clock and send a request for a token. -/
  | ask (now : Binary64)
  | receive (answer : Except Failure TokenAnswer)
  /-- Store and return the token that was issued, or raise why none was. -/
  | settle

namespace Action

/-- The action sends a request. -/
def asks : Action → Bool
  | .ask _ => true
  | _ => false

/-- The action makes something of an answer. -/
def settles : Action → Bool
  | .settle => true
  | _ => false

end Action

/-- The call and the cache after an action, if the call can take it. -/
def Call.next (source : TokenSource) (cache : Option Token) :
    Call → Action → Option (Call × Option Token)
  | .begun, .check now =>
      match check now cache with
      | some token => some (.ended (.ok token), cache)
      | none => some (.unserved, cache)
  | .unserved, .ask now => some (.waiting now, cache)
  | .waiting requestedAt, .receive answer => some (.answered requestedAt answer, cache)
  | .answered requestedAt answer, .settle =>
      match (source.receive requestedAt answer).outcome with
      | .ok token => some (.ended (.ok token), some token)
      | .error failure => some (.ended (.error failure), cache)
  | _, _ => none

/-- What a call can do: only one that settles with a token writes the cache. -/
inductive Call.Turn (source : TokenSource) (cache : Option Token) :
    Call → Action → Call → Option Token → Prop where
  | served {now : Binary64} {token : Token} (found : check now cache = some token) :
      Turn source cache .begun (.check now) (.ended (.ok token)) cache
  | unserved {now : Binary64} (missed : check now cache = none) :
      Turn source cache .begun (.check now) .unserved cache
  | asked {now : Binary64} : Turn source cache .unserved (.ask now) (.waiting now) cache
  | answered {requestedAt : Binary64} {answer : Except Failure TokenAnswer} :
      Turn source cache (.waiting requestedAt) (.receive answer) (.answered requestedAt answer)
        cache
  | issued {requestedAt : Binary64} {answer : Except Failure TokenAnswer} {token : Token}
      (issues : (source.receive requestedAt answer).outcome = .ok token) :
      Turn source cache (.answered requestedAt answer) .settle (.ended (.ok token)) (some token)
  | refused {requestedAt : Binary64} {answer : Except Failure TokenAnswer} {failure : Failure}
      (refuses : (source.receive requestedAt answer).outcome = .error failure) :
      Turn source cache (.answered requestedAt answer) .settle (.ended (.error failure)) cache

/-- Every step of a call is one of these. -/
theorem Call.turn_of_next {source : TokenSource} {cache after : Option Token} {call next : Call}
    {action : Action} (taken : call.next source cache action = some (next, after)) :
    Turn source cache call action next after := by
  cases call with
  | begun =>
      cases action with
      | check now =>
          cases found : TokenSource.check now cache with
          | some token =>
              simp only [Call.next, found, Option.some.injEq, Prod.mk.injEq] at taken
              obtain ⟨rfl, rfl⟩ := taken
              exact Turn.served found
          | none =>
              simp only [Call.next, found, Option.some.injEq, Prod.mk.injEq] at taken
              obtain ⟨rfl, rfl⟩ := taken
              exact Turn.unserved found
      | ask | receive | settle => contradiction
  | unserved =>
      cases action with
      | ask now =>
          cases taken
          exact Turn.asked
      | check | receive | settle => contradiction
  | waiting requestedAt =>
      cases action with
      | receive answer =>
          cases taken
          exact Turn.answered
      | check | ask | settle => contradiction
  | answered requestedAt answer =>
      cases action with
      | settle =>
          cases result : (source.receive requestedAt answer).outcome with
          | ok token =>
              simp only [Call.next, result, Option.some.injEq, Prod.mk.injEq] at taken
              obtain ⟨rfl, rfl⟩ := taken
              exact Turn.issued result
          | error failure =>
              simp only [Call.next, result, Option.some.injEq, Prod.mk.injEq] at taken
              obtain ⟨rfl, rfl⟩ := taken
              exact Turn.refused result
      | check | ask | receive => contradiction
  | ended result => cases action <;> contradiction

/-! ## Calls side by side -/

/-- The calls of one source, by who makes them, with the cache that they share. -/
structure Calls (ι : Type u) where
  cache : Option Token := none
  /-- Where each call stands. -/
  call : ι → Call := fun _ => .begun

/-- A step of one of the calls. -/
structure Move (ι : Type u) where
  caller : ι
  action : Action

variable {ι : Type u} [DecidableEq ι]

namespace Calls

/-- Take one step, if the call can take it. -/
def step (source : TokenSource) (calls : Calls ι) (move : Move ι) : Option (Calls ι) :=
  ((calls.call move.caller).next source calls.cache move.action).map fun turn =>
    ⟨turn.2, Function.update calls.call move.caller turn.1⟩

/-- Take one step after another. -/
def run (source : TokenSource) : Calls ι → List (Move ι) → Option (Calls ι)
  | calls, [] => some calls
  | calls, move :: rest => (calls.step source move).bind fun after => after.run source rest

variable {source : TokenSource} {calls before after final : Calls ι} {move : Move ι}

/-- A step is a turn of its caller and leaves every other call where it stands. -/
theorem turn_of_step (taken : before.step source move = some after) :
    Call.Turn source before.cache (before.call move.caller) move.action (after.call move.caller)
        after.cache ∧
      ∀ other, other ≠ move.caller → after.call other = before.call other := by
  obtain ⟨⟨next, cache⟩, turn, rfl⟩ := Option.map_eq_some_iff.mp taken
  constructor
  · simpa only [Function.update_self] using Call.turn_of_next turn
  · intro other differs
    exact Function.update_of_ne differs _ _

theorem run_append (calls : Calls ι) (first second : List (Move ι)) :
    calls.run source (first ++ second) =
      (calls.run source first).bind fun middle => middle.run source second := by
  induction first generalizing calls with
  | nil => rfl
  | cons move rest ih =>
      rw [List.cons_append, run, run]
      cases calls.step source move with
      | none => rfl
      | some after => exact ih after

/-- The last step of a run. -/
theorem run_concat_eq_some_iff {history : List (Move ι)} :
    calls.run source (history ++ [move]) = some final ↔
      ∃ before, calls.run source history = some before ∧ before.step source move = some final := by
  rw [run_append, Option.bind_eq_some_iff]
  simp only [run, Option.bind_fun_some]

/-- A step in the middle of a run. -/
theorem of_run_eq_append_cons {earlier later : List (Move ι)}
    (reached : calls.run source (earlier ++ move :: later) = some final) :
    ∃ before after, calls.run source earlier = some before ∧
      before.step source move = some after ∧ after.run source later = some final := by
  rw [run_append, Option.bind_eq_some_iff] at reached
  obtain ⟨before, start, rest⟩ := reached
  obtain ⟨after, taken, finish⟩ := Option.bind_eq_some_iff.mp rest
  exact ⟨before, after, start, taken, finish⟩

/-- A call that has ended takes no step any more. -/
theorem run_of_ended {caller : ι} {result : Except Failure Token} {later : List (Move ι)}
    (ended : calls.call caller = .ended result) (reached : calls.run source later = some final) :
    (∀ move ∈ later, move.caller ≠ caller) ∧ final.call caller = .ended result := by
  induction later generalizing calls with
  | nil =>
      cases reached
      exact ⟨fun _ member => absurd member List.not_mem_nil, ended⟩
  | cons move rest ih =>
      obtain ⟨after, taken, finish⟩ := Option.bind_eq_some_iff.mp reached
      obtain ⟨turn, others⟩ := turn_of_step taken
      have differs : move.caller ≠ caller := by
        rintro rfl
        rw [ended] at turn
        cases turn
      obtain ⟨none, stays⟩ := ih ((others caller differs.symm).trans ended) finish
      exact ⟨List.forall_mem_cons.mpr ⟨differs, none⟩, stays⟩

end Calls

/-! ## Histories -/

/-- What one caller did. -/
def actionsOf (caller : ι) (history : List (Move ι)) : List Action :=
  (history.filter (·.caller = caller)).map (·.action)

/-- How the exchange of a caller ends, if its request is answered. -/
def exchangeOf (source : TokenSource) (caller : ι) (history : List (Move ι)) :
    Option (Except Failure Token) :=
  match actionsOf caller history with
  | .check _ :: .ask requestedAt :: .receive answer :: _ =>
      some (source.receive requestedAt answer).outcome
  | _ => none

/-- The token with which a step completes an exchange, if it does. -/
def completion? (source : TokenSource) (history : List (Move ι)) (move : Move ι) : Option Token :=
  if move.action.settles then (exchangeOf source move.caller history).bind Except.toOption else none

/-- The tokens of the exchanges that succeeded, in the order in which these were completed. -/
def completed (source : TokenSource) (history : List (Move ι)) : List Token :=
  history.filterMap (completion? source history)

variable {source : TokenSource} {caller : ι} {history : List (Move ι)} {move : Move ι}

@[simp]
theorem actionsOf_append (caller : ι) (first second : List (Move ι)) :
    actionsOf caller (first ++ second) = actionsOf caller first ++ actionsOf caller second := by
  simp only [actionsOf, List.filter_append, List.map_append]

theorem actionsOf_own (move : Move ι) : actionsOf move.caller [move] = [move.action] := by
  simp [actionsOf]

theorem actionsOf_other (differs : move.caller ≠ caller) : actionsOf caller [move] = [] := by
  simp [actionsOf, differs]

/-- An exchange that has ended stays as it ended. -/
theorem exchangeOf_append {result : Except Failure Token}
    (ended : exchangeOf source caller history = some result) (later : List (Move ι)) :
    exchangeOf source caller (history ++ later) = some result := by
  unfold exchangeOf at ended ⊢
  split at ended
  · rename_i taken
    rw [actionsOf_append, taken]
    exact ended
  · contradiction

/-- How a call came to where it stands.  What a caller did decides it, except that a call which
was served ended with the token that was cached when it checked. -/
inductive Course (source : TokenSource) (history : List (Move ι)) (caller : ι) : Call → Prop where
  | begun (taken : actionsOf caller history = []) : Course source history caller .begun
  | unserved {now : Binary64} (taken : actionsOf caller history = [.check now]) :
      Course source history caller .unserved
  | waiting {now requestedAt : Binary64}
      (taken : actionsOf caller history = [.check now, .ask requestedAt]) :
      Course source history caller (.waiting requestedAt)
  | answered {now requestedAt : Binary64} {answer : Except Failure TokenAnswer}
      (taken : actionsOf caller history = [.check now, .ask requestedAt, .receive answer]) :
      Course source history caller (.answered requestedAt answer)
  | served {now : Binary64} {token : Token} {earlier later : List (Move ι)} {before : Calls ι}
      (split : history = earlier ++ ⟨caller, .check now⟩ :: later)
      (reached : Calls.run source { } earlier = some before)
      (found : check now before.cache = some token)
      (taken : actionsOf caller history = [.check now]) :
      Course source history caller (.ended (.ok token))
  | settled {now requestedAt : Binary64} {answer : Except Failure TokenAnswer}
      {result : Except Failure Token}
      (taken : actionsOf caller history =
        [.check now, .ask requestedAt, .receive answer, .settle])
      (outcome : (source.receive requestedAt answer).outcome = result) :
      Course source history caller (.ended result)

/-- The steps of others do not change the course of a call. -/
theorem Course.of_other {call : Call} (course : Course source history caller call)
    (differs : move.caller ≠ caller) : Course source (history ++ [move]) caller call := by
  have same : actionsOf caller (history ++ [move]) = actionsOf caller history := by
    rw [actionsOf_append, actionsOf_other differs, List.append_nil]
  cases course with
  | begun taken => exact .begun (same.trans taken)
  | unserved taken => exact .unserved (same.trans taken)
  | waiting taken => exact .waiting (same.trans taken)
  | answered taken => exact .answered (same.trans taken)
  | @served now token earlier later before split reached found taken =>
      have extended : history ++ [move] =
          earlier ++ ⟨caller, .check now⟩ :: (later ++ [move]) := by
        rw [split, List.append_assoc, List.cons_append]
      exact .served extended reached found (same.trans taken)
  | settled taken outcome => exact .settled (same.trans taken) outcome

/-- Every call of a run has such a course. -/
theorem course_of_run {final : Calls ι} (reached : Calls.run source { } history = some final)
    (caller : ι) : Course source history caller (final.call caller) := by
  induction history using List.reverseRecOn generalizing final with
  | nil =>
      cases reached
      exact .begun rfl
  | append_singleton history move ih =>
      obtain ⟨before, start, last⟩ := Calls.run_concat_eq_some_iff.mp reached
      obtain ⟨turn, others⟩ := Calls.turn_of_step last
      have course := ih start
      by_cases same : move.caller = caller
      · subst same
        have taken : actionsOf move.caller (history ++ [move]) =
            actionsOf move.caller history ++ [move.action] := by
          rw [actionsOf_append, actionsOf_own]
        obtain ⟨caller, action⟩ := move
        generalize before.call caller = standing at turn course
        generalize final.call caller = next at turn ⊢
        generalize final.cache = cache at turn
        cases turn with
        | served found =>
            cases course with
            | begun idle => exact .served rfl start found (by rw [taken, idle]; rfl)
        | unserved missed =>
            cases course with
            | begun idle => exact .unserved (by rw [taken, idle]; rfl)
        | asked =>
            cases course with
            | unserved before => exact .waiting (by rw [taken, before]; rfl)
        | answered =>
            cases course with
            | waiting before => exact .answered (by rw [taken, before]; rfl)
        | issued issues =>
            cases course with
            | answered before => exact .settled (by rw [taken, before]; rfl) issues
        | refused refuses =>
            cases course with
            | answered before => exact .settled (by rw [taken, before]; rfl) refuses
      · rw [others caller (Ne.symm same)]
        exact course.of_other same

/-- What an answered call was answered is how its exchange ends. -/
theorem Course.exchangeOf_eq {requestedAt : Binary64} {answer : Except Failure TokenAnswer}
    (course : Course source history caller (.answered requestedAt answer)) :
    exchangeOf source caller history = some (source.receive requestedAt answer).outcome := by
  cases course with
  | answered taken => rw [exchangeOf, taken]

/-- Who has settled has had an exchange. -/
theorem exchangeOf_of_settled {final : Calls ι}
    (reached : Calls.run source { } history = some final) (member : move ∈ history)
    (settled : move.action.settles = true) :
    ∃ result, exchangeOf source move.caller history = some result := by
  have taken : move.action ∈ actionsOf move.caller history := by
    apply List.mem_map_of_mem
    exact List.mem_filter.mpr ⟨member, decide_eq_true rfl⟩
  have course := course_of_run reached move.caller
  generalize final.call move.caller = standing at course
  cases course with
  | settled all => exact ⟨_, by rw [exchangeOf, all]⟩
  | begun all | unserved all | waiting all | answered all | served _ _ _ all =>
      rw [all] at taken
      generalize move.action = action at taken settled
      cases action with
      | settle => simp at taken
      | check | ask | receive => contradiction

/-- One more step completes at most one more exchange. -/
theorem completed_concat {before : Calls ι}
    (reached : Calls.run source { } history = some before) (move : Move ι) :
    completed source (history ++ [move]) =
      completed source history ++ (completion? source (history ++ [move]) move).toList := by
  have same : ∀ earlier ∈ history,
      completion? source (history ++ [move]) earlier = completion? source history earlier := by
    intro earlier member
    unfold completion?
    cases settles : earlier.action.settles with
    | false => rfl
    | true =>
        obtain ⟨result, ended⟩ := exchangeOf_of_settled reached member settles
        rw [ended, exchangeOf_append ended]
  rw [completed, completed, List.filterMap_append, List.filterMap_congr same]
  cases completion : completion? source (history ++ [move]) move <;> simp [completion]

/-! ## What holds of every run -/

/-- The cache holds the token of the exchange that was completed last. -/
theorem cache_of_run {final : Calls ι} (reached : Calls.run source { } history = some final) :
    final.cache = (completed source history).getLast? := by
  induction history using List.reverseRecOn generalizing final with
  | nil =>
      cases reached
      rfl
  | append_singleton history move ih =>
      obtain ⟨before, start, last⟩ := Calls.run_concat_eq_some_iff.mp reached
      obtain ⟨turn, -⟩ := Calls.turn_of_step last
      have course := course_of_run start move.caller
      rw [completed_concat start, completion?]
      have held := ih start
      generalize before.call move.caller = standing at turn course
      generalize final.call move.caller = next at turn
      generalize final.cache = cache at turn ⊢
      generalize move.action = action at turn ⊢
      cases turn with
      | served | unserved | asked | answered => simpa [Action.settles] using held
      | issued issues =>
          have ended := exchangeOf_append course.exchangeOf_eq [move]
          rw [issues] at ended
          simp [Action.settles, ended, Except.toOption]
      | refused refuses =>
          have ended := exchangeOf_append course.exchangeOf_eq [move]
          rw [refuses] at ended
          simpa [Action.settles, ended, Except.toOption] using held

/-- A call that is issued no token might as well not have been made. -/
theorem run_without {final : Calls ι} (reached : Calls.run source { } history = some final)
    (unissued : ∀ token, exchangeOf source caller history ≠ some (.ok token)) :
    ∃ without, Calls.run source { } (history.filter (·.caller ≠ caller)) = some without ∧
      without.cache = final.cache ∧
      ∀ other, other ≠ caller → without.call other = final.call other := by
  induction history using List.reverseRecOn generalizing final with
  | nil => exact ⟨{ }, rfl, by cases reached; rfl, by cases reached; intros; rfl⟩
  | append_singleton history move ih =>
      obtain ⟨before, start, last⟩ := Calls.run_concat_eq_some_iff.mp reached
      obtain ⟨turn, others⟩ := Calls.turn_of_step last
      obtain ⟨without, erased, sameCache, sameCalls⟩ :=
        ih start fun token issued => unissued token (exchangeOf_append issued _)
      rw [List.filter_append]
      by_cases same : move.caller = caller
      · have nothing : [move].filter (·.caller ≠ caller) = [] := by simp [same]
        rw [nothing, List.append_nil]
        refine ⟨without, erased, ?_, fun other differs => ?_⟩
        · rw [sameCache]
          have course := course_of_run start move.caller
          generalize before.call move.caller = standing at turn course
          generalize final.call move.caller = next at turn
          generalize final.cache = cache at turn ⊢
          generalize move.action = action at turn
          cases turn with
          | served | unserved | asked | answered | refused => rfl
          | issued issues =>
              have ended := exchangeOf_append course.exchangeOf_eq [move]
              rw [issues, same] at ended
              exact absurd ended (unissued _)
        · rw [sameCalls other differs]
          exact (others other (same ▸ differs)).symm
      · have kept : [move].filter (·.caller ≠ caller) = [move] := by simp [same]
        obtain ⟨⟨next, cache⟩, taken, rfl⟩ := Option.map_eq_some_iff.mp last
        refine ⟨⟨cache, Function.update without.call move.caller next⟩, ?_, rfl, ?_⟩
        · rw [kept]
          refine Calls.run_concat_eq_some_iff.mpr ⟨without, erased, ?_⟩
          rw [Calls.step, sameCache, sameCalls move.caller same, taken]
          rfl
        · intro other differs
          by_cases own : other = move.caller
          · subst own
            simp only [Function.update_self]
          · simp only [Function.update_of_ne own, sameCalls other differs]

/-- What holds of the calls of one source after any steps of theirs. -/
structure Sound (source : TokenSource) (history : List (Move ι)) (final : Calls ι) : Prop where
  /-- A token that a call returns was cached and could be used when the call checked, or it is the
  one that the call's own exchange ended with. -/
  returns : ∀ caller token, final.call caller = .ended (.ok token) →
    (∃ earlier now later before, history = earlier ++ ⟨caller, .check now⟩ :: later ∧
      Calls.run source { } earlier = some before ∧
      before.cache = some token ∧ token.isValid now = true) ∨
    exchangeOf source caller history = some (.ok token)
  /-- A call that has had an exchange ends as that did, if it has ended. -/
  ends : ∀ caller outcome result, exchangeOf source caller history = some outcome →
    final.call caller = .ended result → result = outcome
  /-- The cache holds the token of the exchange that was completed last, if one was. -/
  cached : final.cache = (completed source history).getLast?
  /-- A call that finds a token that it can use asks for none. -/
  silent : ∀ caller earlier now later before,
    history = earlier ++ ⟨caller, .check now⟩ :: later →
    Calls.run source { } earlier = some before →
    (∃ token, before.cache = some token ∧ token.isValid now = true) →
      (actionsOf caller history).countP Action.asks = 0
  /-- No call asks more than once. -/
  atMostOnce : ∀ caller, (actionsOf caller history).countP Action.asks ≤ 1
  /-- If the exchange of a call fails, the cache and every other call are as they would be without
  that call. -/
  apart : ∀ caller failure, exchangeOf source caller history = some (.error failure) →
    ∃ without, Calls.run source { } (history.filter (·.caller ≠ caller)) = some without ∧
      without.cache = final.cache ∧
      ∀ other, other ≠ caller → without.call other = final.call other

/-- A call that finds a token that it can use does nothing else. -/
theorem actionsOf_of_found {final before : Calls ι} {earlier later : List (Move ι)}
    {now : Binary64} {token : Token}
    (reached : Calls.run source { } (earlier ++ ⟨caller, .check now⟩ :: later) = some final)
    (start : Calls.run source { } earlier = some before)
    (found : check now before.cache = some token) :
    actionsOf caller (earlier ++ ⟨caller, .check now⟩ :: later) = [.check now] := by
  obtain ⟨_, after, starts, taken, finish⟩ := Calls.of_run_eq_append_cons reached
  cases Option.some.inj (start.symm.trans starts)
  obtain ⟨turn, -⟩ := Calls.turn_of_step taken
  have course := course_of_run start caller
  generalize before.call caller = standing at turn course
  generalize stands : after.call caller = next at turn
  generalize after.cache = cache at turn
  cases turn with
  | unserved missed =>
      rw [found] at missed
      contradiction
  | served =>
      have idle : actionsOf caller later = [] := by
        have none := (Calls.run_of_ended stands finish).1
        rw [actionsOf, List.filter_eq_nil_iff.mpr fun move member => by simp [none move member]]
        rfl
      cases course with
      | begun before =>
          rw [actionsOf_append, before, List.nil_append, ← List.singleton_append,
            actionsOf_append, idle, List.append_nil]
          exact actionsOf_own _

/-- Whatever steps the calls of a source take, in whatever order, this holds of them. -/
theorem run_sound {final : Calls ι} (reached : Calls.run source { } history = some final) :
    Sound source history final where
  returns := by
    intro caller token returned
    have course := course_of_run reached caller
    rw [returned] at course
    cases course with
    | @served now token earlier later before split start found taken =>
        obtain ⟨cached, valid⟩ := check_eq_some_iff.mp found
        exact Or.inl ⟨earlier, now, later, before, split, start, cached, valid⟩
    | settled taken outcome => exact Or.inr (by rw [exchangeOf, taken]; exact congrArg some outcome)
  ends := by
    intro caller outcome result ended returned
    have course := course_of_run reached caller
    rw [returned] at course
    rw [exchangeOf] at ended
    cases course with
    | served _ _ _ taken =>
        rw [taken] at ended
        contradiction
    | settled taken settled =>
        rw [taken] at ended
        exact settled.symm.trans (Option.some.inj ended)
  cached := cache_of_run reached
  silent := by
    rintro caller earlier now later before rfl start ⟨token, usable⟩
    rw [actionsOf_of_found reached start (check_eq_some_iff.mpr usable)]
    rfl
  atMostOnce := by
    intro caller
    have course := course_of_run reached caller
    generalize final.call caller = standing at course
    cases course with
    | begun taken | unserved taken | waiting taken | answered taken | served _ _ _ taken
    | settled taken =>
        simp [taken, List.countP_cons, Action.asks]
  apart := by
    intro caller failure failed
    apply run_without reached
    intro token issued
    cases failed.symm.trans issued

/-- Two calls that ask at the same time: the endpoint refuses the one that checked first, and the
other stores what it was issued. -/
theorem run_sound_of_race :
    let source : TokenSource := ⟨"http://h/token", "id", "secret", []⟩
    let granted : Except Failure TokenAnswer :=
      .ok ⟨200, "application/json", .ok (Text.Utf8.encode "\x7b\"access_token\":\"a\"\x7d"), ""⟩
    let history : List (Move Bool) :=
      [⟨true, .check (Binary64.ofInt 0)⟩, ⟨false, .check (Binary64.ofInt 1)⟩,
        ⟨true, .ask (Binary64.ofInt 2)⟩, ⟨false, .ask (Binary64.ofInt 3)⟩,
        ⟨false, .receive granted⟩, ⟨true, .receive (.error (.host ⟨.timeout, none⟩))⟩,
        ⟨false, .settle⟩, ⟨true, .settle⟩]
    ∃ final, Calls.run source { } history = some final ∧ Sound source history final := by
  intro source granted history
  have runs : (Calls.run source { } history).isSome = true := by decide +kernel
  obtain ⟨final, reached⟩ := Option.isSome_iff_exists.mp runs
  exact ⟨final, reached, run_sound reached⟩

/-! ## A call by itself -/

/-- The steps of a call that nobody interferes with and for which time stands still. -/
def alone (cache : Option Token) (now : Binary64) (answer : Except Failure TokenAnswer) :
    List Action :=
  match check now cache with
  | some _ => [.check now]
  | none => [.check now, .ask now, .receive answer, .settle]

/-- Such a call obtains a token as a client does: it ends the same way, sends as many requests and
leaves its token in the cache. -/
theorem run_alone (source : TokenSource) (connection : Connection) (cache : Option Token)
    (now : Binary64) (answer : Except Failure TokenAnswer) (caller : ι) :
    ∃ final, Calls.run source ⟨cache, fun _ => .begun⟩
        ((alone cache now answer).map (⟨caller, ·⟩)) = some final ∧
      final.call caller = .ended (source.token connection cache now answer).outcome ∧
      final.cache = (source.token connection cache now answer).outcome.toOption.or cache ∧
      (alone cache now answer).countP Action.asks =
        (source.token connection cache now answer).trace.sent.length := by
  rw [outcome_token, sent_token, alone]
  let ending (result : Except Failure Token) : Calls ι :=
    ⟨result.toOption.or cache, Function.update (fun _ => .begun) caller (.ended result)⟩
  have ends (result : Except Failure Token) : (ending result).call caller = .ended result := by
    simp [ending]
  cases found : check now cache with
  | some token =>
      obtain ⟨rfl, -⟩ := check_eq_some_iff.mp found
      refine ⟨ending (.ok token), ?_, ends _, rfl, rfl⟩
      simp [Calls.run, Calls.step, Call.next, found, ending, Except.toOption]
  | none =>
      refine ⟨ending (source.receive now answer).outcome, ?_, ends _, rfl, rfl⟩
      cases result : (source.receive now answer).outcome <;>
        simp [Calls.run, Calls.step, Call.next, found, result, ending, Except.toOption]

end HttpGauge.TokenSource
