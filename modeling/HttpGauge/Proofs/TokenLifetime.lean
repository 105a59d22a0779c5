import HttpGauge.Proofs.Number.Rounding
import HttpGauge.Proofs.TokenCache
import Mathlib.Data.List.Induction

/-!
# The lifetime of tokens

A token that is used again was issued by the last exchange that succeeded, and more than ten
seconds are left until its end.  Its end is a double and may have been rounded, but the margin is
exact: rounding the difference never makes a token usable that is not.
-/

namespace HttpGauge

open HttpGauge.Number HttpGauge.Number.Binary64

/-! ## Ends of tokens -/

/-- A stated lifetime counts from the request for the token. -/
theorem Grant.expiresAt_of_token {grant : Grant} {requestedAt : Binary64} {token : Token}
    {lifetime : Int} (issued : grant.token requestedAt = .ok token)
    (stated : grant.lifetime = some lifetime) (nonzero : lifetime ≠ 0) :
    ∃ seconds, ofInt? lifetime = some seconds ∧
      token.expiresAt = some (requestedAt.add seconds) := by
  simp only [Grant.token, stated, if_neg nonzero] at issued
  cases converted : ofInt? lifetime with
  | none =>
      rw [converted] at issued
      contradiction
  | some seconds =>
      rw [converted] at issued
      cases Except.ok.inj issued
      exact ⟨seconds, rfl, rfl⟩

theorem Token.extended?_refreshMargin :
    Token.refreshMargin.extended? = some (extendedOfInt 10) := by
  decide +kernel

/-- A token with an end can be used while exactly that end is more than ten seconds away. -/
theorem Token.lt_of_isValid {token : Token} {now expiry : Binary64}
    (valid : token.isValid now = true) (ends : token.expiresAt = some expiry) :
    ∃ present later, now.extended? = some present ∧ expiry.extended? = some later ∧
      present.lt (later.add (-10)) = true := by
  rw [Token.isValid, ends] at valid
  exact lt_of_lt_sub Token.extended?_refreshMargin valid

/-! ## Exchanges -/

/-- An exchange issues the token of the grant that it is answered. -/
theorem TokenSource.outcome_receive_eq_ok_iff {source : TokenSource} {requestedAt : Binary64}
    {answer : Except Failure TokenAnswer} {token : Token} :
    (source.receive requestedAt answer).outcome = .ok token ↔
      ∃ given grant, answer = .ok given ∧ given.grant = .ok grant ∧
        grant.token requestedAt = .ok token := by
  unfold receive
  cases answer with
  | error failure => simp
  | ok given =>
      cases granted : given.grant with
      | error failure => simp [granted]
      | ok grant =>
          cases issued : grant.token requestedAt <;> simp [granted, issued, Traced.logging]

namespace Step

variable {α : Type} {source : TokenSource}

/-- A token is issued in a step that asks for one and whose exchange succeeds. -/
theorem issued?_eq_some_iff {step : Step α} {token : Token} :
    step.issued? source = some token ↔ .token ∈ step.endpoints ∧
      (source.receive step.use.now step.use.answers.token).outcome = .ok token := by
  unfold issued?
  split
  · rename_i asks
    cases (source.receive step.use.now step.use.answers.token).outcome <;>
      simp [asks, Except.toOption]
  · rename_i silent
    simp [silent]

/-- The token issued last is that of a step after which none is issued. -/
theorem exists_of_lastIssued {steps : List (Step α)} {token : Token}
    (last : lastIssued source steps = some token) :
    ∃ front fetch back, steps = front ++ fetch :: back ∧ fetch.issued? source = some token ∧
      ∀ other ∈ back, other.issued? source = none := by
  induction steps using List.reverseRecOn with
  | nil => contradiction
  | append_singleton steps step ih =>
      rw [lastIssued, List.filterMap_append] at last
      cases issued : step.issued? source with
      | some newest =>
          have same : newest = token := by simpa [issued] using last
          exact ⟨steps, step, [], rfl, by rw [issued, same], by simp⟩
      | none =>
          obtain ⟨front, fetch, back, rfl, found, silent⟩ :=
            ih (by simpa [issued, lastIssued] using last)
          refine ⟨front, fetch, back ++ [step], by simp, found, ?_⟩
          rw [List.forall_mem_append]
          exact ⟨silent, List.forall_mem_singleton.mpr issued⟩

/-- A step uses a token that was issued in an earlier one. -/
structure Reuses (source : TokenSource) (earlier : List (Step α)) (step fetch : Step α)
    (grant : Grant) : Prop where
  /-- No token was issued in between. -/
  last : ∃ front back, earlier = front ++ fetch :: back ∧
    ∀ other ∈ back, other.issued? source = none
  asked : .token ∈ fetch.endpoints
  granted : ∃ answer, fetch.use.answers.token = .ok answer ∧ answer.grant = .ok grant
  /-- One request is sent, with the token of the grant. -/
  carried : ∃ token request skipped connection, grant.token fetch.use.now = .ok token ∧
    step.result.trace.sent.filter (·.endpoint = .metric) = [.metric request skipped connection] ∧
    request.headers.get? Client.authorizationKey = some token.authorization
  /-- The end of the token, if it has one, is exactly more than ten seconds away. -/
  fresh : ∀ lifetime, grant.lifetime = some lifetime → lifetime ≠ 0 →
    ∃ seconds now expiry, ofInt? lifetime = some seconds ∧ step.use.now.extended? = some now ∧
      (fetch.use.now.add seconds).extended? = some expiry ∧ now.lt (expiry.add (-10)) = true
  /-- Where the lifetime and the end are doubles, nothing is rounded at all. -/
  exact : ∀ lifetime, grant.lifetime = some lifetime → lifetime ≠ 0 →
    ∀ requestedAt, fetch.use.now.extended? = some requestedAt →
      IsDouble (extendedOfInt lifetime) → IsDouble (requestedAt.add lifetime) →
        ∃ now, step.use.now.extended? = some now ∧
          now.lt (requestedAt.add (lifetime - 10)) = true

end Step

namespace Client

variable {α : Type} {client : Client} {source : TokenSource}

/-- A token is used again only while, in exact terms, more than ten seconds of it are left. -/
theorem run_reuses (owner : client.source = some source) (uses : List (Use α))
    (earlier later : List (Step α)) (step : Step α)
    (split : client.run none uses = earlier ++ step :: later)
    (keeps : .token ∉ step.endpoints) :
    ∃ fetch grant, step.Reuses source earlier fetch grant := by
  obtain ⟨same, before⟩ := of_run_eq_append_cons owner split
  rw [Option.or_none] at before
  have obeys : step.Obeys client source (Step.lastIssued source earlier) := by
    rw [same, before]
    exact step_obeys owner _ _
  obtain ⟨token, last, valid⟩ := Classical.not_not.mp (mt obeys.asks.mpr keeps)
  obtain ⟨sent, request, skipped, connection, filtered, carries, -, origin⟩ :=
    obeys.sends fun asks => absurd asks keeps
  rw [if_neg keeps] at origin
  obtain rfl := Option.some.inj (last.symm.trans origin)
  obtain ⟨front, fetch, back, position, issued, silent⟩ := Step.exists_of_lastIssued last
  obtain ⟨asked, received⟩ := Step.issued?_eq_some_iff.mp issued
  obtain ⟨given, grant, answered, granted, made⟩ :=
    TokenSource.outcome_receive_eq_ok_iff.mp received
  refine ⟨fetch, grant, ?_⟩
  have fresh : ∀ lifetime, grant.lifetime = some lifetime → lifetime ≠ 0 →
      ∃ seconds now expiry, ofInt? lifetime = some seconds ∧
        step.use.now.extended? = some now ∧
        (fetch.use.now.add seconds).extended? = some expiry ∧
        now.lt (expiry.add (-10)) = true := by
    intro lifetime stated nonzero
    obtain ⟨seconds, converted, ends⟩ := Grant.expiresAt_of_token made stated nonzero
    obtain ⟨now, expiry, placeNow, placeExpiry, less⟩ := Token.lt_of_isValid valid ends
    exact ⟨seconds, now, expiry, converted, placeNow, placeExpiry, less⟩
  constructor
  case last => exact ⟨front, back, position, silent⟩
  case asked => exact asked
  case granted => exact ⟨given, answered, granted⟩
  case carried => exact ⟨token, request, skipped, connection, made, filtered, carries⟩
  case fresh => exact fresh
  case exact =>
    intro lifetime stated nonzero requestedAt place whole double
    obtain ⟨seconds, now, expiry, converted, placeNow, placeExpiry, less⟩ :=
      fresh lifetime stated nonzero
    have integer : seconds.extended? = some (extendedOfInt lifetime) := by
      rw [← ofInt_of_ofInt? converted]
      exact extended?_ofInt whole
    obtain rfl := Option.some.inj (placeExpiry.symm.trans (extended?_add place integer double))
    rw [Extended.add_add] at less
    exact ⟨now, placeNow, less⟩

/-- A token for a hundred seconds is used again after fifty. -/
theorem run_reuses_at_half_time :
    let source : TokenSource := ⟨"http://h/token", "id", "secret", []⟩
    let client : Client := ⟨⟨10, .verify⟩, some source⟩
    let granted : Except Failure TokenAnswer :=
      .ok ⟨200, "application/json",
        .ok (Text.Utf8.encode "\x7b\"access_token\":\"a\",\"expires_in\":100\x7d"), ""⟩
    let use (seconds : Int) : Use Unit :=
      ⟨ofInt seconds, ⟨granted, .ok ⟨200, .ok []⟩⟩, ⟨.get, "http://h/m", none, []⟩,
        fun _ => .ok ()⟩
    ∃ first second, client.run none [use 0, use 50] = [first] ++ second :: [] ∧
      .token ∉ second.endpoints ∧ ∃ fetch grant, second.Reuses source [first] fetch grant := by
  intro source client granted use
  have keeps : .token ∉ (client.step (client.step none (use 0)).after (use 50)).endpoints := by
    decide +kernel
  exact ⟨_, _, rfl, keeps, run_reuses rfl [use 0, use 50] [_] [] _ rfl keeps⟩

/-- Rounding the end of a token can make its lifetime longer: one for ten seconds, asked for at
0.3, is used again at once.  So is one for no time at all. -/
theorem run_outlives_lifetime :
    let source : TokenSource := ⟨"http://h/token", "id", "secret", []⟩
    let client : Client := ⟨⟨10, .verify⟩, some source⟩
    let now := ofDecimal false 3 (-1)
    ∀ lifetime ∈ ([10, 0] : List Int),
      let given : TokenAnswer := ⟨200, "application/json", .ok (Text.Utf8.encode
        ("\x7b\"access_token\":\"a\",\"expires_in\":" ++ intText lifetime ++ "\x7d")), ""⟩
      let use : Use Unit :=
        ⟨now, ⟨.ok given, .ok ⟨200, .ok []⟩⟩, ⟨.get, "http://h/m", none, []⟩, fun _ => .ok ()⟩
      given.grant.toOption = some ⟨"a", "Bearer", some lifetime⟩ ∧
        (client.run none [use, use]).map Step.endpoints = [[.token, .metric], [.metric]] ∧
        now.extended?.map (fun place => place.lt (place.add (lifetime - 10))) = some false := by
  decide +kernel

end Client

end HttpGauge
