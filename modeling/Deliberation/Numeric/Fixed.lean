import Deliberation.Numeric.Binary64
/-! Decimal text with a fixed number of places. -/

namespace Deliberation.Fixed

/-- A count of units of `10 ^ -places`, with its decimal point. -/
def unitsText (places units : Nat) : String :=
  let digits := toString units
  let padded := "".pushn '0' (places + 1 - digits.length) ++ digits
  let whole := padded.length - places
  if places = 0 then padded
  else String.ofList (padded.toList.take whole) ++ "." ++ String.ofList (padded.toList.drop whole)

/-- The number with the given count of places. The exact value is rounded, a half goes to the even
neighbour, and the sign is kept also where all digits are zero. -/
def text (places : Nat) (x : Float) : String :=
  match Binary64.value x with
  | .nan => "NaN"
  | .infinite negative => if negative then "-inf" else "inf"
  | .finite negative significand exponent =>
    let scale := Binary64.power 2 exponent
    let units := Binary64.roundHalfEven (significand * scale.1 * Nat.pow 10 places) scale.2
    (if negative then "-" else "") ++ unitsText places units

end Deliberation.Fixed
