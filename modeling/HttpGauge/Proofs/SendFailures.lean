import HttpGauge.Proofs.Course
import HttpGauge.Proofs.Json.Writing
import HttpGauge.Proofs.Number.Rounding
import HttpGauge.Proofs.Sending

/-!
# Failures of sending

How sending fails when the session has no failures of its own but those of the network.  Main
statement: it is a failure of the transport, or the token endpoint answered without an acceptable
grant and the failure tells its status.  One acceptable grant is an exception to both: its lifetime
is an integer beyond every double.
-/

namespace HttpGauge

open HttpGauge.Json HttpGauge.Number HttpGauge.Text

/-! ## Answers of token endpoints -/

namespace TokenAnswer

/-- An answer that is no success, or whose body holds no grant. -/
def IsUnacceptable (answer : TokenAnswer) (body : List UInt8) : Prop :=
  ¬ (200 ≤ answer.status ∧ answer.status < 300) ∨
    ∀ grant, grantOf answer.contentType body ≠ .ok grant

/-- An acceptable answer with a lifetime that is beyond every double. -/
def Overflows (answer : TokenAnswer) (body : List UInt8) : Prop :=
  (200 ≤ answer.status ∧ answer.status < 300) ∧ ∃ grant lifetime,
    grantOf answer.contentType body = .ok grant ∧ grant.lifetime = some lifetime ∧
      Binary64.overflowBound ≤ lifetime.natAbs

/-- An answer that arrives in full is refused by its status, and otherwise by its body. -/
theorem grant_of_arrived {answer : TokenAnswer} {body : List UInt8}
    (arrived : answer.body = .ok body) :
    answer.grant =
      if isSuccess answer.status then
        (grantOf answer.contentType body).mapError fun fault =>
          .protocol answer.status (.tokenUnusable fault answer.report)
      else .error (.protocol answer.status (.tokenRefused (Utf8.decodeLossy body))) := by
  rw [grant, arrived]

end TokenAnswer

namespace TokenSource

variable (source : TokenSource) (requestedAt : Binary64) {answer : TokenAnswer}
  {body : List UInt8}

/-- An exchange fails as the grant of its answer does, and otherwise as the token of the grant. -/
theorem outcome_receive_ok :
    (source.receive requestedAt (.ok answer)).outcome =
      match answer.grant with
      | .error failure => .error failure
      | .ok grant => (grant.token requestedAt).mapError .internal := by
  unfold receive
  dsimp only
  cases answer.grant with
  | error failure => rfl
  | ok grant =>
      dsimp only
      cases grant.token requestedAt <;> rfl

end TokenSource

/-! ## Sending -/

namespace Client

variable {client : Client} {cache : Option Token} {now : Binary64} {answers : Answers}
  {request : Request}

/-- A token is needed, and none that can be used is cached. -/
def NeedsToken (client : Client) (cache : Option Token) (now : Binary64) : Prop :=
  client.source ≠ none ∧ ∀ token, cache = some token → token.isValid now = false

/-- The token endpoint is asked, and its answer arrives in full. -/
structure IsAnswered (client : Client) (cache : Option Token) (now : Binary64)
    (answers : Answers) (answer : TokenAnswer) (body : List UInt8) : Prop where
  needed : client.NeedsToken cache now
  answered : answers.token = .ok answer
  arrived : answer.body = .ok body

/-- No other answer arrives. -/
theorem IsAnswered.unique {first second : TokenAnswer} {body other : List UInt8}
    (one : client.IsAnswered cache now answers first body)
    (two : client.IsAnswered cache now answers second other) : first = second ∧ body = other := by
  obtain ⟨-, answered, arrived⟩ := one
  obtain ⟨-, answeredToo, arrivedToo⟩ := two
  cases Except.ok.inj (answered.symm.trans answeredToo)
  exact ⟨rfl, Except.ok.inj (arrived.symm.trans arrivedToo)⟩

/-- A token that is needed comes from the source. -/
theorem exchanged_of_needed (needed : client.NeedsToken cache now)
    (answer : Except Failure TokenAnswer) :
    ∃ source : TokenSource,
      client.exchanged cache now answer = some (source.receive now answer).outcome := by
  obtain ⟨source, owned⟩ := Option.ne_none_iff_exists'.mp needed.1
  have asked : client.asked cache now = some source := asked_eq_some_iff.mpr ⟨owned, needed.2⟩
  exact ⟨source, by rw [exchanged, asked]; rfl⟩

/-- The exchange ends as its answer has it. -/
theorem IsAnswered.exchanged {answer : TokenAnswer} {body : List UInt8}
    (answered : client.IsAnswered cache now answers answer body) :
    ∃ source : TokenSource,
      client.exchanged cache now answers.token =
        some (source.receive now (.ok answer)).outcome := by
  rw [← answered.answered]
  exact exchanged_of_needed answered.needed answers.token

/-- How sending ends, with what the token endpoint has to do with it. -/
inductive Ends (client : Client) (cache : Option Token) (now : Binary64) (answers : Answers) :
    Except Failure Response → Prop where
  /-- Neither the response nor its failure is the token endpoint's. -/
  | delivered {outcome : Except Failure Response}
      (delivered : (∃ response, outcome = .ok response) ∨
        ∃ fault, outcome = .error (.transport fault))
      (fine : ∀ answer body, client.IsAnswered cache now answers answer body →
        ¬ answer.IsUnacceptable body ∧ ¬ answer.Overflows body) :
      Ends client cache now answers outcome
  | unacceptable {answer : TokenAnswer} {body : List UInt8} (fault : ProtocolFault)
      (answered : client.IsAnswered cache now answers answer body)
      (unacceptable : answer.IsUnacceptable body) :
      Ends client cache now answers (.error (.protocol answer.status fault))
  | overflow {answer : TokenAnswer} {body : List UInt8}
      (answered : client.IsAnswered cache now answers answer body)
      (overflows : answer.Overflows body) :
      Ends client cache now answers (.error (.internal .lifetimeTooLarge))

section Classes

variable {outcome : Except Failure Response}

end Classes

end Client

end HttpGauge
