import Deliberation.Numeric.Binary64
/-! Spans of time in whole nanoseconds, and their conversions from and to seconds as binary64. -/

namespace Deliberation.Span

def second : Nat := 1000000000

def millisecond : Nat := 1000000

/-- The span of a number of seconds, rounded to the nearest nanosecond with a half going to the even
neighbour. Negative numbers and NaN are no time at all; from `2 ^ 64` seconds on there is no span. -/
def ofSeconds? (seconds : Float) : Option Nat :=
  match Binary64.value seconds with
  | .nan => some 0
  | .infinite negative => if negative then some 0 else none
  | .finite true _ _ => some 0
  | .finite false significand exponent =>
    let scale := Binary64.power 2 exponent
    if UInt64.size * scale.2 ≤ significand * scale.1 then none
    else some (Binary64.roundHalfEven (significand * scale.1 * second) scale.2)

/-- The span in seconds: the whole seconds and the fraction are rounded one after the other. -/
def toSeconds (span : Nat) : Float :=
  Float.ofNat (span / second) + Float.ofNat (span % second) / Float.ofNat second

end Deliberation.Span
