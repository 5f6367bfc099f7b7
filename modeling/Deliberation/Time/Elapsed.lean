import Deliberation.Numeric.Fixed
import Deliberation.Time.Instant
/-! The time between two instants as it is shown in summaries. -/

namespace Deliberation.Instant

/-- The seconds from one instant to another, from whole milliseconds and with two places. -/
def secondsText (start finish : Instant) : String :=
  Fixed.text 2 (Float.ofInt (millisecondsFrom start finish) / 1000)

end Deliberation.Instant
