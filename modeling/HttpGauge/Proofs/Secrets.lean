import HttpGauge.Proofs.Secrets.AccessToken
import HttpGauge.Proofs.Secrets.ClientSecret

/-!
# Secrets

The two secrets of a session, the client secret and the access token, are seen nowhere but in the
authorisation of the requests that they are for.
-/

namespace HttpGauge

open HttpGauge.Json HttpGauge.Number

/-- Sessions keep both secrets.  Two metrics that differ in their client secrets have providers
whose sessions are alike, for evaluators that do not look at them; and the sessions of one provider
to which different access tokens are granted are alike. -/
theorem Provider.session_keeps_secrets :
    (∀ language settings (first second : Metric), first.redacted = second.redacted →
      first.web.oauth2.clientSecret ≠ "" → second.web.oauth2.clientSecret ≠ "" →
        (build language settings first).Alike Event.withoutSecret
          (fun provider other => ∀ state steps otherSteps,
            List.Forall₂ (Step.Alike RunOrder.SameButSecret) steps otherSteps →
              List.Forall₂ (Outcome.Alike Event.withoutSecret Eq) (provider.session state steps)
                (other.session state otherSteps))
          (build language settings second)) ∧
    ∀ (provider : Provider) state steps otherSteps,
      List.Forall₂ (Step.Alike RunOrder.SameButToken) steps otherSteps →
        List.Forall₂ (Outcome.Alike Event.withoutToken TokensAlike) (provider.session state steps)
          (provider.session state otherSteps) := by
  constructor
  · intro language settings first second same secret other
    apply (build_withoutSecret language settings same secret other).imp
    intro provider otherProvider redacted state steps otherSteps asked
    apply session_alike _ asked ⟨rfl, rfl, rfl⟩
    intro state otherState order otherOrder states orders
    exact run_withoutSecret redacted states orders
  · intro provider state steps otherSteps asked
    have start : State.Alike TokensAlike state state := ⟨rfl, rfl, rfl⟩
    apply session_alike _ asked start
    intro state otherState order otherOrder states orders
    exact provider.run_withoutToken states orders

theorem ok_of_toOption_eq_some {ε α : Type} {result : Except ε α} {value : α}
    (found : result.toOption = some value) : result = .ok value := by
  cases result with
  | error failure => contradiction
  | ok other => exact congrArg Except.ok (Option.some.inj found)

/-- A session of one run, with another client secret and with another access token. -/
theorem Provider.session_keeps_secrets_of_run :
    let judge : Evaluator := fun _ _ => .ok (.phase .successful)
    let metric (secret : String) : Metric :=
      ⟨"m", "", "", { url := "http://h/m", oauth2 := ⟨"http://h/token", "id", secret, []⟩ }⟩
    let answer (access : String) : TokenAnswer :=
      ⟨200, "application/json",
        .ok (Text.Utf8.encode ("\x7b\"access_token\":\"" ++ access ++ "\"\x7d")), ""⟩
    let scene (access : String) : Scene :=
      ⟨Binary64.ofInt 0, ⟨.ok (answer access), .ok ⟨200, .ok []⟩⟩⟩
    let steps (secret access : String) : List Step :=
      [.run ⟨"run-1", metric secret, judge, scene access⟩]
    (answer "a").SameButToken (answer "b") ∧
      ∃ provider other, (build Path.Query.language { } (metric "one")).outcome = .ok provider ∧
        (build Path.Query.language { } (metric "two")).outcome = .ok other ∧
        List.Forall₂ (Outcome.Alike Event.withoutSecret Eq)
          (provider.session { } (steps "one" "a")) (other.session { } (steps "two" "a")) ∧
        List.Forall₂ (Outcome.Alike Event.withoutToken TokensAlike)
          (provider.session { } (steps "one" "a")) (provider.session { } (steps "one" "b")) := by
  intro judge metric answer scene steps
  have accepted : (answer "a").grant.toOption = some ⟨"a", "Bearer", none⟩ := by
    decide +kernel
  have otherAccepted : (answer "b").grant.toOption = some ⟨"b", "Bearer", none⟩ := by
    decide +kernel
  have granted : (answer "a").SameButToken (answer "b") := by
    constructor
    case status => rfl
    case contentType => rfl
    case accepted => exact ⟨_, ok_of_toOption_eq_some accepted⟩
    case otherAccepted => exact ⟨_, ok_of_toOption_eq_some otherAccepted⟩
    case documents =>
      refine ⟨_, [("access_token", .str "a")], _, [("access_token", .str "b")], rfl,
        ok_of_toOption_eq_some ?_, rfl, ok_of_toOption_eq_some ?_, ?_⟩
      · decide +kernel
      · decide +kernel
      · intro key differs
        simp [Members.get?, differs.symm]
  have built := (session_keeps_secrets.1 Path.Query.language { } (metric "one") (metric "two") rfl
    (by decide) (by decide)).outcome
  obtain ⟨provider, one⟩ : ∃ provider,
      (build Path.Query.language { } (metric "one")).outcome = .ok provider := by
    dsimp only [metric]
    exact ⟨_, rfl⟩
  obtain ⟨other, two⟩ : ∃ provider,
      (build Path.Query.language { } (metric "two")).outcome = .ok provider := by
    dsimp only [metric]
    exact ⟨_, rfl⟩
  rw [one, two] at built
  refine ⟨granted, provider, other, one, two, ?_, ?_⟩
  · cases built with
    | succeeded alike =>
        apply alike
        exact List.Forall₂.cons (Step.Alike.run ⟨rfl, rfl, rfl, fun _ _ _ => rfl, rfl⟩)
          List.Forall₂.nil
  · apply session_keeps_secrets.2
    have orders := RunOrder.sameButToken_of_alike "run-1" (metric "one") judge (Binary64.ofInt 0)
      (.ok ⟨200, .ok []⟩) (AnswersAlike.granted granted)
    exact List.Forall₂.cons (Step.Alike.run orders) List.Forall₂.nil

end HttpGauge
