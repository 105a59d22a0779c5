import HttpGauge.Log
import HttpGauge.Manifest.Field
import HttpGauge.Text.Casing

/-!
# Settings

What applies to every provider of a process: the time limit of metrics that set none, and the
level of the log.  Settings come from a document or from two environment variables.
-/

namespace HttpGauge

open HttpGauge.Json HttpGauge.Manifest HttpGauge.Number

/-- Settings, with a positive time limit. -/
structure Settings where
  /-- The time limit in seconds of a metric that sets none. -/
  defaultTimeout : Int := 10
  logLevel : Log.Level := .info
  positive : 0 < defaultTimeout := by decide
  deriving DecidableEq

namespace Settings

/-! ## From a document -/

/-- The level of a name in any case. -/
def levelOf? (name : String) : Option Log.Level :=
  Log.Level.ofName? (Text.upper name)

/-- Read a time limit, which has to be positive. -/
def readTimeout (value : Value) : Checked { seconds : Int // 0 < seconds } :=
  match readInt value with
  | .ok seconds =>
      if positive : 0 < seconds then .ok ⟨seconds, positive⟩ else Checked.fail .notGreater
  | .error problems => .error problems

/-- Read a level. -/
def readLevel (value : Value) : Checked Log.Level :=
  match readString value with
  | .ok name =>
      match levelOf? name with
      | some level => .ok level
      | none => Checked.fail .unknownLevel
  | .error problems => .error problems

/-- Settings from their parts. -/
def ofParts (timeout : { seconds : Int // 0 < seconds }) (level : Log.Level) : Settings where
  defaultTimeout := timeout.val
  logLevel := level
  positive := timeout.property

/-- Read settings from a document. -/
def read : Value → Checked Settings :=
  readObject fun members =>
    Checked.also (.ok ofParts)
        (Field.orElse ⟨"default_timeout_sec", "default_timeout_sec"⟩ ⟨10, by decide⟩ readTimeout
          members)
      |>.also (Field.orElse ⟨"log_level", "log_level"⟩ .info readLevel members)

/-! ## From the environment -/

/-- Why the environment holds no settings. -/
inductive EnvironmentFault where
  | timeout (text : String)
  /-- Settings that do not fit, with the report of their problems. -/
  | invalid (problems : List Problem) (report : String)
  deriving DecidableEq, Repr

/-- The wording of a fault. -/
def EnvironmentFault.message : EnvironmentFault → String
  | .timeout text =>
      "WEB_METRIC_DEFAULT_TIMEOUT_SECONDS must be a positive integer (got: " ++ text ++ ")"
  | .invalid problems report =>
      "Invalid web metric settings: " ++ Manifest.summary problems "ProviderSettings" report

/-- The settings of the variables for the time limit and the level, where they are set, with what
is reported of problems if there are any. -/
def ofEnvironment (timeout? level? : Option String) (report : String) :
    Except EnvironmentFault Settings :=
  let timeout := timeout?.getD "10"
  match settingInt? timeout with
  | none => .error (.timeout timeout)
  | some seconds =>
      if positive : 0 < seconds then
        match readLevel (.str (level?.getD "INFO")) |>.under "log_level" with
        | .ok level => .ok (ofParts ⟨seconds, positive⟩ level)
        | .error problems => .error (.invalid problems report)
      else .error (.timeout timeout)

end Settings

end HttpGauge
