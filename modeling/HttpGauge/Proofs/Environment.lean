import HttpGauge.Client
import HttpGauge.Proofs.Number.SettingNumerals
import HttpGauge.Settings

/-!
# Settings of the environment

Two variables are read for settings, the first as a numeral of any script and the second as the
name of a level in any case.  Main statement: the environment holds settings exactly when both
variables, or what stands for them where they are not set, are acceptable; the settings are then
those of their own texts, so that reading them again changes nothing.
-/

namespace HttpGauge

open HttpGauge.Manifest HttpGauge.Number HttpGauge.Text

/-! ## Names of levels -/

namespace Log.Level

/-- A level is found by its name alone. -/
theorem ofName?_eq_some_iff {name : String} {level : Level} :
    ofName? name = some level ↔ name = level.name := by
  constructor
  · intro found
    have same := List.find?_some found
    exact (eq_of_beq same).symm
  · rintro rfl
    cases level <;> decide

/-- The names of levels are in upper case. -/
theorem upper_name (level : Level) : upper level.name = level.name := by
  cases level <;> decide

/-- There are five names. -/
theorem mem_names_iff {name : String} :
    name ∈ ["DEBUG", "INFO", "WARNING", "ERROR", "CRITICAL"] ↔
      ∃ level : Level, name = level.name := by
  constructor
  · intro known
    obtain ⟨level, -, same⟩ := List.mem_map.mp (show name ∈ all.map Level.name from known)
    exact ⟨level, same.symm⟩
  · rintro ⟨level, rfl⟩
    cases level <;> decide

end Log.Level

namespace Settings

variable {timeout? level? : Option String} {settings : Settings}

/-- Settings are told apart by their time limit and their level. -/
theorem eq_of_parts {other : Settings} (timeout : settings.defaultTimeout = other.defaultTimeout)
    (level : settings.logLevel = other.logLevel) : settings = other := by
  cases settings
  cases other
  congr

/-- A level is read from its name in any case. -/
theorem readLevel_eq_ok_iff {name : String} {level : Log.Level} :
    readLevel (.str name) = .ok level ↔ upper name = level.name := by
  rw [← Log.Level.ofName?_eq_some_iff]
  simp only [readLevel, readString, levelOf?]
  cases Log.Level.ofName? (upper name) <;> simp [Checked.fail]

/-- The only problem of a name is that no level has it. -/
theorem readLevel_eq_error_iff {name : String} {problems : List Problem} :
    readLevel (.str name) = .error problems ↔
      (∀ level : Log.Level, upper name ≠ level.name) ∧ problems = [⟨[], .unknownLevel⟩] := by
  constructor
  · intro read
    constructor
    · intro level named
      rw [readLevel_eq_ok_iff.mpr named] at read
      contradiction
    · simp only [readLevel, readString] at read
      split at read
      · contradiction
      · cases read
        rfl
  · rintro ⟨unnamed, rfl⟩
    cases read : readLevel (.str name) with
    | ok level => exact absurd (readLevel_eq_ok_iff.mp read) (unnamed level)
    | error problems =>
        simp only [readLevel, readString] at read
        split at read
        · contradiction
        · exact read.symm

/-- The settings of the environment are those that both variables spell. -/
theorem ofEnvironment_eq_ok_iff :
    ofEnvironment timeout? level? report = .ok settings ↔
      SettingNumeral (timeout?.getD "10").toList settings.defaultTimeout ∧
        upper (level?.getD "INFO") = settings.logLevel.name := by
  rw [← settingInt?_eq_some_iff, ← readLevel_eq_ok_iff, ofEnvironment]
  cases settingInt? (timeout?.getD "10") with
  | none => simp
  | some seconds =>
      dsimp only
      by_cases positive : 0 < seconds
      · rw [dif_pos positive]
        cases readLevel (.str (level?.getD "INFO")) with
        | error problems => simp [Checked.under]
        | ok level =>
            simp only [Checked.under, mapError_ok, Except.ok.injEq, Option.some.injEq]
            constructor
            · rintro rfl
              exact ⟨rfl, rfl⟩
            · rintro ⟨timeout, same⟩
              exact eq_of_parts timeout same
      · rw [dif_neg positive]
        simp only [reduceCtorEq, Option.some.injEq, false_iff, not_and]
        rintro rfl
        exact absurd settings.positive positive

/-- Where the first variable is not acceptable it is at fault, and otherwise the second one. -/
theorem ofEnvironment_eq_error_iff {fault : EnvironmentFault} :
    ofEnvironment timeout? level? report = .error fault ↔
      (∀ seconds, SettingNumeral (timeout?.getD "10").toList seconds → seconds ≤ 0) ∧
          fault = .timeout (timeout?.getD "10") ∨
        (∃ seconds, SettingNumeral (timeout?.getD "10").toList seconds ∧ 0 < seconds) ∧
          (∀ level : Log.Level, upper (level?.getD "INFO") ≠ level.name) ∧
          fault = .invalid [⟨["log_level"], .unknownLevel⟩] report := by
  simp only [← settingInt?_eq_some_iff]
  rw [ofEnvironment]
  cases settingInt? (timeout?.getD "10") with
  | none => simp [eq_comm]
  | some seconds =>
      dsimp only
      by_cases positive : 0 < seconds
      · have above : ¬ seconds ≤ 0 := Int.not_le.mpr positive
        rw [dif_pos positive]
        cases read : readLevel (.str (level?.getD "INFO")) with
        | ok level =>
            have named := readLevel_eq_ok_iff.mp read
            have known : ¬ ∀ other : Log.Level, upper (level?.getD "INFO") ≠ other.name :=
              fun unnamed => unnamed level named
            simp [Checked.under, above, known]
        | error problems =>
            obtain ⟨unnamed, rfl⟩ := readLevel_eq_error_iff.mp read
            simp [Checked.under, above, positive, unnamed, eq_comm]
      · rw [dif_neg positive]
        simp [positive, Int.not_lt.mp positive, eq_comm]

/-- Settings of the environment have texts, and these texts have the same settings. -/
theorem ofEnvironment_of_texts (loaded : ofEnvironment timeout? level? report = .ok settings) :
    ofEnvironment (some (intText settings.defaultTimeout)) (some settings.logLevel.name) report =
      .ok settings := by
  obtain ⟨numeral, -⟩ := ofEnvironment_eq_ok_iff.mp loaded
  apply ofEnvironment_eq_ok_iff.mpr
  exact ⟨settingNumeral_intText numeral.length_le, settings.logLevel.upper_name⟩

/-- A client has a positive time limit where the default is positive. -/
theorem timeout_pos_of_ofMetric {timeout : Int} {metric : Metric} {client : Client}
    (positive : 0 < timeout) (built : Client.ofMetric timeout metric = .ok client) :
    0 < client.connection.timeout := by
  rw [Client.ofMetric] at built
  cases given : metric.web.oauth2.source? with
  | error fault =>
      rw [given] at built
      cases built
  | ok source =>
      rw [given] at built
      cases built
      dsimp only [WebMetric.connection]
      split
      · assumption
      · exact positive

/-- The environment holds settings exactly when its first variable is a numeral of a positive
integer and its second one is the name of a level in some case; any fault is that of one of the
variables.  The settings are those that the variables spell, they are read again from their own
texts, and every client that is built with them has a positive time limit. -/
theorem ofEnvironment_normalises (timeout? level? : Option String) (report : String) :
    let timeout := timeout?.getD "10"
    let level := upper (level?.getD "INFO")
    ((∃ settings, ofEnvironment timeout? level? report = .ok settings) ↔
        (∃ seconds, SettingNumeral timeout.toList seconds ∧ 0 < seconds) ∧
          level ∈ ["DEBUG", "INFO", "WARNING", "ERROR", "CRITICAL"]) ∧
      (∀ fault, ofEnvironment timeout? level? report = .error fault →
        fault = .timeout timeout ∨ fault = .invalid [⟨["log_level"], .unknownLevel⟩] report) ∧
      ∀ settings, ofEnvironment timeout? level? report = .ok settings →
        0 < settings.defaultTimeout ∧ SettingNumeral timeout.toList settings.defaultTimeout ∧
          settings.logLevel.name = level ∧
          ofEnvironment (some (intText settings.defaultTimeout)) (some settings.logLevel.name)
            report = .ok settings ∧
          ∀ metric client, Client.ofMetric settings.defaultTimeout metric = .ok client →
            0 < client.connection.timeout := by
  intro timeout level
  refine ⟨?_, ?_, ?_⟩
  · rw [Log.Level.mem_names_iff]
    constructor
    · rintro ⟨settings, loaded⟩
      obtain ⟨numeral, named⟩ := ofEnvironment_eq_ok_iff.mp loaded
      exact ⟨⟨_, numeral, settings.positive⟩, _, named⟩
    · rintro ⟨⟨seconds, numeral, positive⟩, chosen, named⟩
      exact ⟨ofParts ⟨seconds, positive⟩ chosen, ofEnvironment_eq_ok_iff.mpr ⟨numeral, named⟩⟩
  · intro fault failed
    obtain ⟨-, same⟩ | ⟨-, -, same⟩ := ofEnvironment_eq_error_iff.mp failed
    · exact Or.inl same
    · exact Or.inr same
  · intro settings loaded
    obtain ⟨numeral, named⟩ := ofEnvironment_eq_ok_iff.mp loaded
    exact ⟨settings.positive, numeral, named.symm, ofEnvironment_of_texts loaded,
      fun metric client => timeout_pos_of_ofMetric settings.positive⟩

/-- Digits of two scripts between blanks, and a name with a letter that has no dot. -/
theorem ofEnvironment_normalises_of_scripts :
    let settings : Settings := ⟨15, .info, by decide⟩
    ofEnvironment (some "\u3000+\u0661_5 ") (some "\u0131nfo") "" = .ok settings ∧
      ofEnvironment (some "15") (some "INFO") "" = .ok settings ∧
      ∀ metric client, Client.ofMetric 15 metric = .ok client → 0 < client.connection.timeout := by
  intro settings
  have loaded : ofEnvironment (some "\u3000+\u0661_5 ") (some "\u0131nfo") "" = .ok settings := by
    rfl
  obtain ⟨-, -, normal⟩ :=
    ofEnvironment_normalises (some "\u3000+\u0661_5 ") (some "\u0131nfo") ""
  obtain ⟨-, -, -, again, clients⟩ := normal settings loaded
  have text : intText 15 = "15" := by decide
  exact ⟨loaded, text ▸ again, clients⟩

end Settings

end HttpGauge
