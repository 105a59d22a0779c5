import HttpGauge.Verdict

/-!
# Measurements

What a run leaves behind: when it began and ended, the value, and how it was judged.
-/

namespace HttpGauge

/-- A measurement; times are ticks of a clock. -/
structure Measurement where
  startedAt : Option Int := none
  /-- When it ended, unless it ended early. -/
  finishedAt : Option Int := none
  /-- The canonical text of the value, or the body as it is. -/
  value : String := ""
  phase : Option Phase := none
  message : String := ""
  deriving DecidableEq, Repr

namespace Measurement

/-- Mark a measurement as ended early; its times stay. -/
def fail (failure : Failure) (measurement : Measurement) : Measurement :=
  { measurement with phase := some .error, message := failure.message }

end Measurement

end HttpGauge
