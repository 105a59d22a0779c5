import HttpGauge.Log
import HttpGauge.Number.Notation

/-!
# Written log records

A record is written on one line: the time in universal time with two digits for each of its parts,
the level, the logger with the number of the source line, and the message.
-/

namespace HttpGauge.Log

open HttpGauge.Number

/-! ## Time -/

/-- A day of the calendar. -/
structure Date where
  year : Int
  /-- The month, from one on. -/
  month : Int
  /-- The day of the month, from one on. -/
  day : Int
  deriving DecidableEq, Repr

/-- The date that is so many days after the first of January 1970.  Years are taken to start in
March, so that the day of a leap year comes last, and to repeat every 400 years. -/
def Date.ofDays (days : Int) : Date :=
  let shifted := days + 719468
  let era := shifted / 146097
  let dayOfEra := shifted % 146097
  let yearOfEra := (dayOfEra - dayOfEra / 1460 + dayOfEra / 36524 - dayOfEra / 146096) / 365
  let dayOfYear := dayOfEra - (365 * yearOfEra + yearOfEra / 4 - yearOfEra / 100)
  let march := (5 * dayOfYear + 2) / 153
  let month := if march < 10 then march + 3 else march - 9
  let year := yearOfEra + era * 400
  ⟨if month ≤ 2 then year + 1 else year, month, dayOfYear - (153 * march + 2) / 5 + 1⟩

/-- A number below one hundred with two digits. -/
def twoDigits (n : Int) : String :=
  if n < 10 then "0" ++ intText n else intText n

/-- The time that is so many seconds after the start of 1970. -/
def timeText (seconds : Int) : String :=
  let date := Date.ofDays (seconds / 86400)
  let second := seconds % 86400
  twoDigits date.day ++ "/" ++ twoDigits date.month ++ "/" ++ twoDigits (date.year % 100) ++ " "
    ++ twoDigits (second / 3600) ++ ":" ++ twoDigits (second / 60 % 60) ++ ":"
    ++ twoDigits (second % 60)

/-! ## Records -/

/-- The name of a level's number. -/
def nameOfNumber (number : Int) : String :=
  match Level.all.find? (·.number == number) with
  | some level => level.name
  | none => if number = 0 then "NOTSET" else "Level " ++ intText number

/-- A record with its time and place. -/
structure Record where
  logger : String
  /-- The number of the level. -/
  level : Int
  line : Int
  message : String
  /-- The seconds since the start of 1970. -/
  created : Int
  deriving DecidableEq, Repr

/-- A record on one line. -/
def Record.text (record : Record) : String :=
  timeText record.created ++ " [" ++ nameOfNumber record.level ++ "] " ++ record.logger ++ ":"
    ++ intText record.line ++ " - " ++ record.message

end HttpGauge.Log
