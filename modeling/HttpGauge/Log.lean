/-!
# Log records

The levels of log records and the records that a run leaves behind.
-/

namespace HttpGauge.Log

/-- The levels of log records, from the least severe one up. -/
inductive Level where
  /-- For those who look for errors in the program. -/
  | debug
  | info
  | warning
  | error
  | critical
  deriving DecidableEq, Repr

/-- All levels, in rising order. -/
def Level.all : List Level := [.debug, .info, .warning, .error, .critical]

/-- The name of a level. -/
def Level.name : Level → String
  | .debug => "DEBUG"
  | .info => "INFO"
  | .warning => "WARNING"
  | .error => "ERROR"
  | .critical => "CRITICAL"

/-- The number of a level. -/
def Level.number : Level → Int
  | .debug => 10
  | .info => 20
  | .warning => 30
  | .error => 40
  | .critical => 50

/-- The level of a name. -/
def Level.ofName? (name : String) : Option Level :=
  Level.all.find? (·.name == name)

/-- A record. -/
structure Entry where
  logger : String
  level : Level
  message : String
  deriving DecidableEq, Repr

end HttpGauge.Log
