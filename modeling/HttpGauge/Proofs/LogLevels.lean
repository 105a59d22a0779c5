import HttpGauge.Proofs.Log.Ancestors
import Mathlib.Data.List.Induction

/-!
# Levels of loggers

Every call that sets up the log gives the same levels to the root and to the libraries that say too
much; only the level of this library depends on the calls, and a call that fails leaves it as it is.
Main statement: after any calls, the loggers of this library write the records of the level that was
named by the last call that did not fail.
-/

namespace HttpGauge.Log.Registry

open HttpGauge.Text

variable {registry : Registry}

/-! ## Levels that apply -/

/-- The one level that is set among a logger and its ancestors applies. -/
theorem effectiveLevel_of_set {name word : String} (notRoot : isRoot name = false)
    (within : word ∈ name :: ancestors name) (set : registry.level word ≠ unset)
    (alone : ∀ other ∈ name :: ancestors name, registry.level other ≠ unset → other = word) :
    registry.effectiveLevel name = registry.level word := by
  have some : (((name :: ancestors name).map registry.level).find? (· != unset)).isSome := by
    rw [List.find?_isSome]
    exact ⟨registry.level word, List.mem_map_of_mem within, by simpa using set⟩
  obtain ⟨number, found⟩ := Option.isSome_iff_exists.mp some
  obtain ⟨other, member, rfl⟩ := List.mem_map.mp (List.mem_of_find?_eq_some found)
  have differs := List.find?_some found
  have same := alone other member (by simpa using differs)
  rw [effectiveLevel, notRoot, found, same]
  rfl

/-- Where none is set, the level of the root applies. -/
theorem effectiveLevel_of_unset {name : String}
    (none : ∀ other ∈ name :: ancestors name, registry.level other = unset) :
    registry.effectiveLevel name = registry.root := by
  have missing : ((name :: ancestors name).map registry.level).find? (· != unset) = .none := by
    rw [List.find?_eq_none]
    intro number member
    obtain ⟨other, chain, rfl⟩ := List.mem_map.mp member
    simp [none other chain]
  unfold effectiveLevel
  split
  · rfl
  · rw [missing, Option.getD_none]

/-! ## Loggers that are set up -/

/-- The loggers that are set up beside the root. -/
def words : List String := application :: quiet

/-- The words have no dots, and are no names of the root. -/
theorem plain_of_mem_words :
    ∀ word ∈ words, word ≠ "" ∧ '.' ∉ word.toList ∧ isRoot word = false := by
  decide

theorem isRoot_of_within {name word : String} (member : word ∈ words)
    (within : IsWithin word name) : isRoot name = false := by
  obtain ⟨-, dotless, notRoot⟩ := plain_of_mem_words word member
  cases rooted : isRoot name with
  | false => rfl
  | true =>
      have plain : '.' ∉ name.toList := by
        obtain rfl | rfl : name = "" ∨ name = "root" := by simpa [isRoot] using rooted
        · decide
        · decide
      have same := within.unique (Or.inl rfl) dotless plain
      rw [← same, rooted] at notRoot
      cases notRoot

/-- Beside the quiet loggers only that of this library has a level, which is this number. -/
def IsUntouched (registry : Registry) (number : Int) : Prop :=
  ∀ name ∉ quiet, registry.level name = if name = application then number else unset

/-- The log is set up, with this number for this library. -/
structure IsSetUp (registry : Registry) (number : Int) : Prop where
  informs : registry.root = Level.info.number
  quiets : ∀ name ∈ quiet, registry.level name = Level.warning.number
  untouched : registry.IsUntouched number

namespace IsSetUp

variable {number : Int} (setUp : registry.IsSetUp number)
include setUp

theorem mem_words {name : String} (set : registry.level name ≠ unset) : name ∈ words := by
  by_cases quieted : name ∈ quiet
  · exact List.mem_cons_of_mem _ quieted
  · have level := setUp.untouched name quieted
    by_cases ours : name = application
    · exact ours ▸ List.mem_cons_self
    · rw [if_neg ours] at level
      exact absurd level set

/-- A word decides for all names within it, unless its logger has no level. -/
theorem effectiveLevel_of_within {name word : String} (member : word ∈ words)
    (within : IsWithin word name) :
    registry.effectiveLevel name =
      if registry.level word = unset then Level.info.number else registry.level word := by
  obtain ⟨named, dotless, -⟩ := plain_of_mem_words word member
  have alone (other : String) (above : other ∈ name :: ancestors name)
      (set : registry.level other ≠ unset) : other = word := by
    obtain ⟨namedToo, dotlessToo, -⟩ := plain_of_mem_words other (setUp.mem_words set)
    exact within.unique ((mem_chain_iff namedToo).mp above) dotless dotlessToo
  split
  · rename_i missing
    rw [← setUp.informs]
    apply effectiveLevel_of_unset
    intro other above
    by_contra set
    exact set (alone other above set ▸ missing)
  · rename_i set
    exact effectiveLevel_of_set (isRoot_of_within member within) ((mem_chain_iff named).mpr within)
      set alone

/-- Names outside of all words take the level of the root. -/
theorem effectiveLevel_of_outside {name : String}
    (outside : ∀ word ∈ words, ¬ IsWithin word name) :
    registry.effectiveLevel name = Level.info.number := by
  rw [← setUp.informs]
  apply effectiveLevel_of_unset
  intro other above
  by_contra set
  have listed := setUp.mem_words set
  exact outside other listed ((mem_chain_iff (plain_of_mem_words other listed).1).mp above)

end IsSetUp

/-! ## Calls in a row -/

/-- A call and how it ended. -/
structure Call where
  level : String
  outcome : Except UnknownLevel Unit

/-- The calls for these levels, in turn. -/
def calls (registry : Registry) : List String → List Call
  | [] => []
  | level :: rest =>
      ⟨level, (registry.configure level).1⟩ :: (registry.configure level).2.calls rest

/-- The registry behind the calls for these levels. -/
def after (registry : Registry) (levels : List String) : Registry :=
  levels.foldl (fun registry level => (registry.configure level).2) registry

/-- The number of the level that was named by the last call that did not fail. -/
def lastNumber? (calls : List Call) : Option Int :=
  (calls.filter (·.outcome.isOk)).getLast?.bind fun call => numberOfName? (upper call.level)

/-- The number that applies to this library, where that of no level stands for information. -/
def applied (calls : List Call) : Int :=
  match lastNumber? calls with
  | some number => if number = unset then Level.info.number else number
  | none => Level.info.number

theorem after_concat (levels : List String) (level : String) :
    registry.after (levels ++ [level]) = ((registry.after levels).configure level).2 := by
  simp [after]

theorem calls_concat (levels : List String) (level : String) :
    registry.calls (levels ++ [level]) =
      registry.calls levels ++ [⟨level, ((registry.after levels).configure level).1⟩] := by
  induction levels generalizing registry with
  | nil => rfl
  | cons first rest ih => simp [calls, ih, after]

theorem lastNumber?_concat (calls : List Call) (level : String) (number : Int) :
    (lastNumber? (calls ++ [⟨level, (registry.configure level).1⟩])).getD number =
      (numberOfName? (upper level)).getD ((lastNumber? calls).getD number) := by
  unfold lastNumber?
  cases named : numberOfName? (upper level) with
  | none => simp [configure_of_unnamed named, Except.isOk, Except.toBool]
  | some chosen => simp [configure_of_named named, Except.isOk, Except.toBool, named]

/-- A call sets up the log, and gives this library the level that it names, if it names one. -/
theorem isSetUp_configure {number : Int} (untouched : registry.IsUntouched number)
    (level : String) :
    (registry.configure level).2.IsSetUp ((numberOfName? (upper level)).getD number) := by
  cases named : numberOfName? (upper level) with
  | none =>
      rw [configure_of_unnamed named]
      refine ⟨rfl, fun name quieted => ?_, fun name loud => ?_⟩
      · simp [level_prepare, quieted]
      · simpa [level_prepare, loud] using untouched name loud
  | some chosen =>
      rw [configure_of_named named]
      refine ⟨rfl, fun name quieted => ?_, fun name loud => ?_⟩
      · have apart : application ≠ name := fun same => absurd (same ▸ quieted) (by decide)
        simp [level_prepare, quieted, apart]
      · by_cases ours : name = application
        · simp [ours]
        · simp [level_prepare, loud, untouched name loud, ours, Ne.symm ours]

theorem isUntouched_after {number : Int} (untouched : registry.IsUntouched number)
    (levels : List String) :
    (registry.after levels).IsUntouched ((lastNumber? (registry.calls levels)).getD number) := by
  induction levels using List.reverseRecOn with
  | nil => exact untouched
  | append_singleton levels level ih =>
      rw [after_concat, calls_concat, lastNumber?_concat]
      exact (isSetUp_configure ih level).untouched

/-- The last call of any sets up the log, whether or not it fails. -/
theorem isSetUp_after {number : Int} (untouched : registry.IsUntouched number)
    (levels : List String) (some : levels ≠ []) :
    (registry.after levels).IsSetUp ((lastNumber? (registry.calls levels)).getD number) := by
  rw [← List.dropLast_concat_getLast some, after_concat, calls_concat, lastNumber?_concat]
  exact isSetUp_configure (isUntouched_after untouched _) _

/-- After any calls, of which some may have failed, the loggers of this library write from the level
on that the last of the others named, those of the libraries that say too much write warnings, and
all other loggers write what informs. -/
theorem isEnabled_after_calls (first : String) (later : List String) (name : String)
    (number : Int) :
    (IsWithin application name →
      ((after { } (first :: later)).isEnabled name number ↔
        applied (calls { } (first :: later)) ≤ number)) ∧
    (∀ word ∈ quiet, IsWithin word name →
      ((after { } (first :: later)).isEnabled name number ↔ Level.warning.number ≤ number)) ∧
    ((∀ word ∈ words, ¬ IsWithin word name) →
      ((after { } (first :: later)).isEnabled name number ↔ Level.info.number ≤ number)) := by
  have fresh : IsUntouched { } unset := by
    intro name _
    simp [level]
  have setUp := isSetUp_after fresh (first :: later) (List.cons_ne_nil _ _)
  have enabled (level : Int) (applies : (after { } (first :: later)).effectiveLevel name = level) :
      (after { } (first :: later)).isEnabled name number ↔ level ≤ number := by
    simp [isEnabled, applies]
  refine ⟨fun within => enabled _ ?_, fun word member within => enabled _ ?_,
    fun outside => enabled _ ?_⟩
  · rw [setUp.effectiveLevel_of_within List.mem_cons_self within,
      setUp.untouched application (by decide), if_pos rfl, applied]
    cases lastNumber? (calls { } (first :: later)) <;> rfl
  · rw [setUp.effectiveLevel_of_within (List.mem_cons_of_mem _ member) within,
      setUp.quiets word member]
    rfl
  · exact setUp.effectiveLevel_of_outside outside

/-- The second call fails, so that the level of the first still applies. -/
theorem isEnabled_after_calls_of_failure :
    (IsWithin application "webmetric.core" ∧ applied (calls { } ["debug", "loud"]) = 10 ∧
      (after { } ["debug", "loud"]).isEnabled "webmetric.core" 10) ∧
    ("aiohttp" ∈ quiet ∧ IsWithin "aiohttp" "aiohttp.client" ∧
      (after { } ["debug", "loud"]).isEnabled "aiohttp.client" 30) ∧
    ((∀ word ∈ words, ¬ IsWithin word "webmetricx") ∧
      ¬ (after { } ["debug", "loud"]).isEnabled "webmetricx" 10) := by
  have core : IsWithin application "webmetric.core" :=
    Or.inr ⟨0, "core".toList, by decide, by decide⟩
  have client : IsWithin "aiohttp" "aiohttp.client" :=
    Or.inr ⟨0, "client".toList, by decide, by decide⟩
  have applies : applied (calls { } ["debug", "loud"]) = 10 := by decide +kernel
  have outside : ∀ word ∈ words, ¬ IsWithin word "webmetricx" := by
    intro word member within
    obtain ⟨-, dotless, -⟩ := plain_of_mem_words word member
    have other : ∀ word ∈ words, "webmetricx" ≠ word := by decide
    have same := within.unique (Or.inl rfl) dotless (by decide)
    exact other word member same
  refine ⟨⟨core, applies, ?_⟩, ⟨by decide, client, ?_⟩, outside, ?_⟩
  · exact ((isEnabled_after_calls "debug" ["loud"] "webmetric.core" 10).1 core).mpr
      (Int.le_of_eq applies)
  · exact ((isEnabled_after_calls "debug" ["loud"] "aiohttp.client" 30).2.1 "aiohttp" (by decide)
      client).mpr (by decide)
  · exact fun enabled =>
      absurd (((isEnabled_after_calls "debug" ["loud"] "webmetricx" 10).2.2 outside).mp enabled)
        (by decide)

/-- A name that goes on with two dots is not below the word, so that the root decides. -/
theorem not_isEnabled_behind_two_dots :
    "webmetric..x" = application ++ "." ++ ".x" ∧ applied (calls { } ["debug"]) = 10 ∧
      (after { } ["debug"]).isEnabled "webmetric..x" 10 = false := by
  decide +kernel

end HttpGauge.Log.Registry
