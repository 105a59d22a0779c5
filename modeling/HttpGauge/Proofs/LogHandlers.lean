import HttpGauge.Proofs.LogLevels

/-!
# Handlers of calls that fail

Every call that sets up the log installs a handler, and the name of the level is looked at only
after that.  Main statement: a call that fails leaves its handler behind, while the levels are those
of the other calls alone, if there are any.
-/

namespace HttpGauge.Log.Registry

open HttpGauge.Text

variable {registry other : Registry}

theorem after_cons (level : String) (later : List String) :
    registry.after (level :: later) = (registry.configure level).2.after later := by
  rw [after, List.foldl_cons, after]

theorem after_append (levels later : List String) :
    registry.after (levels ++ later) = (registry.after levels).after later :=
  List.foldl_append

/-! ## Handlers -/

theorem handlers_configure (level : String) :
    (registry.configure level).2.handlers = registry.handlers + 1 := by
  cases named : numberOfName? (upper level) with
  | none => rw [configure_of_unnamed named]; rfl
  | some number => rw [configure_of_named named]; rfl

/-- Each call installs one handler, whether or not it fails. -/
theorem handlers_after (levels : List String) :
    (registry.after levels).handlers = registry.handlers + levels.length := by
  induction levels using List.reverseRecOn with
  | nil => rfl
  | append_singleton levels level ih =>
      rw [after_concat, handlers_configure, ih, List.length_append, List.length_singleton,
        Nat.add_assoc]

/-! ## Outcomes -/

theorem outcome_configure_eq_error_iff {level : String} {fault : UnknownLevel} :
    (registry.configure level).1 = .error fault ↔
      numberOfName? (upper level) = none ∧ fault = ⟨upper level⟩ := by
  cases named : numberOfName? (upper level) with
  | none => simp [configure_of_unnamed named, eq_comm]
  | some number => simp [configure_of_named named]

/-- How a call ends does not depend on what was set up before. -/
theorem outcome_configure_eq (level : String) :
    (registry.configure level).1 = (other.configure level).1 := by
  cases named : numberOfName? (upper level) with
  | none => rw [configure_of_unnamed named, configure_of_unnamed named]
  | some number => rw [configure_of_named named, configure_of_named named]

theorem calls_eq (levels : List String) : registry.calls levels = other.calls levels := by
  induction levels generalizing registry other with
  | nil => rfl
  | cons level rest ih =>
      rw [calls, calls, outcome_configure_eq level, ih]

/-! ## Levels -/

/-- Two registries have the same levels, with any number of handlers. -/
structure SameLevels (registry other : Registry) : Prop where
  roots : registry.root = other.root
  loggers : ∀ name, registry.level name = other.level name

/-- The root and the libraries that say too much have the levels that each call gives them. -/
structure IsPrepared (registry : Registry) : Prop where
  informs : registry.root = Level.info.number
  quiets : ∀ name ∈ quiet, registry.level name = Level.warning.number

theorem isPrepared_prepare : registry.prepare.IsPrepared := by
  constructor
  · rfl
  · intro name quieted
    rw [level_prepare, if_pos quieted]

theorem IsPrepared.setLevel {name : String} (prepared : registry.IsPrepared) (number : Int)
    (loud : name ∉ quiet) : (registry.setLevel name number).IsPrepared := by
  constructor
  · exact prepared.informs
  · intro quieted member
    have apart : name ≠ quieted := fun same => loud (same ▸ member)
    rw [level_setLevel, if_neg apart, prepared.quiets quieted member]

theorem isPrepared_configure (level : String) : (registry.configure level).2.IsPrepared := by
  cases named : numberOfName? (upper level) with
  | none =>
      rw [configure_of_unnamed named]
      exact isPrepared_prepare
  | some number =>
      rw [configure_of_named named]
      exact isPrepared_prepare.setLevel number (by decide)

theorem isPrepared_after_iff (levels : List String) :
    (registry.after levels).IsPrepared ↔ levels ≠ [] ∨ registry.IsPrepared := by
  cases levels using List.reverseRecOn with
  | nil => simp [after]
  | append_singleton levels level =>
      rw [after_concat]
      simp [isPrepared_configure]

/-- To set up what is set up changes no level. -/
theorem sameLevels_prepare_iff : SameLevels registry.prepare registry ↔ registry.IsPrepared := by
  constructor
  · intro same
    constructor
    · exact same.roots.symm
    · intro name quieted
      rw [← same.loggers, level_prepare, if_pos quieted]
  · intro prepared
    constructor
    · exact prepared.informs.symm
    · intro name
      rw [level_prepare]
      split
      · rename_i quieted
        exact (prepared.quiets name quieted).symm
      · rfl

namespace SameLevels

theorem prepare (same : SameLevels registry other) : SameLevels registry.prepare other.prepare := by
  constructor
  · rfl
  · intro name
    rw [level_prepare, level_prepare, same.loggers]

theorem setLevel (same : SameLevels registry other) (name : String) (number : Int) :
    SameLevels (registry.setLevel name number) (other.setLevel name number) := by
  constructor
  · exact same.roots
  · intro name
    rw [level_setLevel, level_setLevel, same.loggers]

/-- What a call leaves depends on the registry only through what it sets up first. -/
theorem configure_of_prepare (same : SameLevels registry.prepare other.prepare) (level : String) :
    SameLevels (registry.configure level).2 (other.configure level).2 := by
  cases named : numberOfName? (upper level) with
  | none => rwa [configure_of_unnamed named, configure_of_unnamed named]
  | some number =>
      rw [configure_of_named named, configure_of_named named]
      exact same.setLevel application number

theorem after (same : SameLevels registry other) (levels : List String) :
    SameLevels (registry.after levels) (other.after levels) := by
  induction levels generalizing registry other with
  | nil => exact same
  | cons level rest ih =>
      rw [after_cons, after_cons]
      exact ih (same.prepare.configure_of_prepare level)

end SameLevels

/-- To set up everything but this library shows in the levels only until the next call. -/
theorem sameLevels_after_prepare_iff (levels : List String) :
    SameLevels (registry.prepare.after levels) (registry.after levels) ↔
      levels ≠ [] ∨ registry.IsPrepared := by
  cases levels with
  | nil => simpa [Registry.after] using sameLevels_prepare_iff
  | cons level rest =>
      have again : SameLevels registry.prepare.prepare registry.prepare :=
        sameLevels_prepare_iff.mpr isPrepared_prepare
      have same := (again.configure_of_prepare level).after rest
      rw [← after_cons, ← after_cons] at same
      simp [same]

/-! ## Calls that fail -/

/-- A call that fails installs a handler, which stays, and gives levels to the root and to the
libraries that say too much, but to no other logger.  Every call gives them these levels, so that
the failed one shows in the levels only where no call stands before or behind it and they were
others at the start.  How the later calls end does not depend on it. -/
theorem after_failed_call (earlier later : List String) {level : String} {fault : UnknownLevel}
    (fails : ((registry.after earlier).configure level).1 = .error fault) :
    fault.name = upper level ∧
    (registry.after (earlier ++ level :: later)).handlers =
      (registry.after earlier).handlers + (1 + later.length) ∧
    (∀ name ∉ quiet, (registry.after (earlier ++ [level])).level name =
      (registry.after earlier).level name) ∧
    (SameLevels (registry.after (earlier ++ level :: later)) (registry.after (earlier ++ later)) ↔
      earlier ≠ [] ∨ later ≠ [] ∨ registry.IsPrepared) ∧
    (registry.after (earlier ++ [level])).calls later = (registry.after earlier).calls later := by
  obtain ⟨unnamed, rfl⟩ := outcome_configure_eq_error_iff.mp fails
  have behind : registry.after (earlier ++ [level]) = (registry.after earlier).prepare := by
    rw [after_concat, configure_of_unnamed unnamed]
  have whole : registry.after (earlier ++ level :: later) =
      (registry.after earlier).prepare.after later := by
    rw [← behind, ← after_append, List.append_assoc, List.singleton_append]
  refine ⟨rfl, ?_, ?_, ?_, calls_eq later⟩
  · rw [after_append, handlers_after, List.length_cons, Nat.add_comm 1]
  · intro name loud
    rw [behind, level_prepare, if_neg loud]
  · rw [whole, after_append, sameLevels_after_prepare_iff, isPrepared_after_iff, or_left_comm]

/-- The first call fails, and the second one names a level: there are two handlers, and the levels
of the second call. -/
theorem after_failed_call_of_retry :
    ((after { } []).configure "loud").1 = .error ⟨"LOUD"⟩ ∧
    (after { } ["loud", "debug"]).handlers = 2 ∧
    SameLevels (after { } ["loud", "debug"]) (after { } ["debug"]) ∧
    ¬ SameLevels (after { } ["loud"]) (after { } []) := by
  have fails : ((after { } []).configure "loud").1 = .error ⟨"LOUD"⟩ :=
    outcome_configure_eq_error_iff.mpr ⟨by decide +kernel, by decide +kernel⟩
  obtain ⟨-, handlers, -, levels, -⟩ := after_failed_call [] ["debug"] fails
  obtain ⟨-, -, -, alone, -⟩ := after_failed_call [] [] fails
  constructor
  · exact fails
  constructor
  · exact handlers
  constructor
  · exact levels.mpr (Or.inr (Or.inl (List.cons_ne_nil _ _)))
  · intro same
    obtain some | some | prepared := alone.mp same
    · exact some rfl
    · exact some rfl
    · exact absurd prepared.informs (by decide)

end HttpGauge.Log.Registry
