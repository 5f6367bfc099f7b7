/-! Points in time: a calendar date and a time of day in UTC, to the nanosecond. A leap second is a
59th second whose nanoseconds go on past a thousand million. -/

namespace Deliberation

def isLeapYear (year : Int) : Bool :=
  year % 4 = 0 && (year % 100 ≠ 0 || year % 400 = 0)

/-- The number of days in a month of the Gregorian calendar, and zero for a month that is none. -/
def daysInMonth (year : Int) (month : Nat) : Nat :=
  match month with
  | 1 | 3 | 5 | 7 | 8 | 10 | 12 => 31
  | 4 | 6 | 9 | 11 => 30
  | 2 => if isLeapYear year then 29 else 28
  | _ => 0

/-- A day of the Gregorian calendar, extended to all years between the bounds. -/
structure Date where
  year : Int
  month : Nat
  day : Nat
  year_mem : -262143 ≤ year ∧ year ≤ 262142
  day_mem : 1 ≤ day ∧ day ≤ daysInMonth year month
deriving DecidableEq, Repr

namespace Date

def ofNumbers? (year : Int) (month day : Nat) : Option Date :=
  if h : (-262143 ≤ year ∧ year ≤ 262142) ∧ 1 ≤ day ∧ day ≤ daysInMonth year month then
    some ⟨year, month, day, h.1, h.2⟩
  else none

def next? (d : Date) : Option Date :=
  if d.day < daysInMonth d.year d.month then ofNumbers? d.year d.month (d.day + 1)
  else if d.month < 12 then ofNumbers? d.year (d.month + 1) 1
  else ofNumbers? (d.year + 1) 1 1

def previous? (d : Date) : Option Date :=
  if 1 < d.day then ofNumbers? d.year d.month (d.day - 1)
  else if 1 < d.month then ofNumbers? d.year (d.month - 1) (daysInMonth d.year (d.month - 1))
  else ofNumbers? (d.year - 1) 12 31

def daysBeforeMonth (year : Int) (month : Nat) : Nat :=
  ((List.range (month - 1)).map fun m => daysInMonth year (m + 1)).foldr (· + ·) 0

/-- The number of the day, counted from the last day before the year 1. -/
def dayNumber (d : Date) : Int :=
  let years := d.year - 1
  365 * years + years / 4 - years / 100 + years / 400 + daysBeforeMonth d.year d.month + d.day

end Date

/-- A time of day. The nanoseconds pass a thousand million only in a leap second. -/
structure Clock where
  hour : Nat
  minute : Nat
  second : Nat
  nanosecond : Nat
  hour_lt : hour < 24
  minute_lt : minute < 60
  second_lt : second < 60
  nanosecond_lt : nanosecond < 1000000000 ∨ nanosecond < 2000000000 ∧ second = 59
deriving DecidableEq, Repr

namespace Clock

/-- The time with these numbers, if there is one. The second 60 is the leap second. -/
def ofNumbers? (hour minute second nanosecond : Nat) : Option Clock :=
  if h : hour < 24 ∧ minute < 60 ∧ second < 60 ∧ nanosecond < 1000000000 then
    some ⟨hour, minute, second, nanosecond, h.1, h.2.1, h.2.2.1, .inl h.2.2.2⟩
  else if h : hour < 24 ∧ minute < 60 ∧ second = 60 ∧ nanosecond < 1000000000 then
    some ⟨hour, minute, 59, 1000000000 + nanosecond, h.1, h.2.1, by omega, .inr (by omega)⟩
  else none

/-- The seconds since midnight; a leap second counts as the second before it. -/
def seconds (c : Clock) : Nat :=
  3600 * c.hour + 60 * c.minute + c.second

def minutes (c : Clock) : Nat :=
  60 * c.hour + c.minute

/-- The same second and nanosecond in another minute of the day. -/
def atMinute (c : Clock) (minutes : Nat) : Clock where
  hour := minutes / 60 % 24
  minute := minutes % 60
  second := c.second
  nanosecond := c.nanosecond
  hour_lt := Nat.mod_lt _ (by decide)
  minute_lt := Nat.mod_lt _ (by decide)
  second_lt := c.second_lt
  nanosecond_lt := c.nanosecond_lt

end Clock

/-- A point in time, in UTC. -/
structure Instant where
  date : Date
  clock : Clock
deriving DecidableEq, Repr

namespace Instant

/-- The instant of a local date and time at an offset from UTC in minutes, of less than a day. -/
def ofLocal? (date : Date) (clock : Clock) (offset : Int) : Option Instant :=
  let minutes := (clock.minutes : Int) - offset
  if minutes < 0 then
    date.previous?.map fun date => ⟨date, clock.atMinute (minutes + 1440).toNat⟩
  else if minutes < 1440 then some ⟨date, clock.atMinute minutes.toNat⟩
  else date.next?.map fun date => ⟨date, clock.atMinute (minutes - 1440).toNat⟩

/-- The nanoseconds from one instant to another. A leap second between two times of the same or of
neighbouring days is counted where one of the two lies in it. -/
def nanosecondsFrom (start finish : Instant) : Int :=
  let days := finish.date.dayNumber - start.date.dayNumber
  let seconds : Int := finish.clock.seconds - start.clock.seconds
  let fraction : Int := finish.clock.nanosecond - start.clock.nanosecond
  let leap : Int :=
    if 0 < seconds then if 1000000000 ≤ start.clock.nanosecond then 1 else 0
    else if seconds < 0 then if 1000000000 ≤ finish.clock.nanosecond then -1 else 0
    else 0
  (86400 * days + seconds + leap) * 1000000000 + fraction

/-- The whole milliseconds from one instant to another, cut toward zero. -/
def millisecondsFrom (start finish : Instant) : Int :=
  (nanosecondsFrom start finish).tdiv 1000000

end Instant

end Deliberation
