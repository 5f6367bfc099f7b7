import Deliberation.Numeric.Numeral
import Deliberation.Text.Blank
import Deliberation.Time.Instant
/-! The written form of an instant, after RFC 3339. It is written in UTC with the fewest of 0, 3, 6
or 9 decimals that hold it. Reading is lenient: blanks may stand before a number and around the
separators, the year may have a sign and any length, and the offset may leave out its colon. -/

namespace Deliberation.Timestamp

def padded (width n : Nat) : String :=
  let digits := toString n
  "".pushn '0' (width - digits.length) ++ digits

/-- A year of four digits, with a sign where it has more or is before the year zero. -/
def yearText (year : Int) : String :=
  if 0 ≤ year ∧ year ≤ 9999 then padded 4 year.toNat
  else (if year < 0 then "-" else "+") ++ padded 4 year.natAbs

def fractionText (nanosecond : Nat) : String :=
  if nanosecond = 0 then ""
  else if nanosecond % 1000000 = 0 then "." ++ padded 3 (nanosecond / 1000000)
  else if nanosecond % 1000 = 0 then "." ++ padded 6 (nanosecond / 1000)
  else "." ++ padded 9 nanosecond

/-- The instant in UTC. A leap second is written as the second 60. -/
def text (i : Instant) : String :=
  let leap := i.clock.nanosecond / 1000000000
  yearText i.date.year ++ "-" ++ padded 2 i.date.month ++ "-" ++ padded 2 i.date.day ++ "T" ++
    padded 2 i.clock.hour ++ ":" ++ padded 2 i.clock.minute ++ ":" ++
    padded 2 (i.clock.second + leap) ++ fractionText (i.clock.nanosecond % 1000000000) ++ "Z"

/-- One to `width` digits after optional blanks. -/
def number? (width : Nat) (text : List Char) : Option (Nat × List Char) :=
  let text := Text.trimStart text
  let digits := (text.take width).takeWhile Numeral.isDigit
  if digits = [] then none else some (Numeral.digitsValue digits, text.drop digits.length)

/-- A year after optional blanks: up to four digits, or any number of them behind a sign. -/
def year? (text : List Char) : Option (Int × List Char) :=
  match Text.trimStart text with
  | '-' :: rest => signed rest fun n => -(n : Int)
  | '+' :: rest => signed rest fun n => (n : Int)
  | rest => (number? 4 rest).map fun (n, rest) => ((n : Int), rest)
where
  signed (rest : List Char) (toYear : Nat → Int) : Option (Int × List Char) :=
    let digits := rest.takeWhile Numeral.isDigit
    if digits = [] then none
    else some (toYear (Numeral.digitsValue digits), rest.dropWhile Numeral.isDigit)

/-- The rest after a separator that may have blanks before it. -/
def separator? (c : Char) (text : List Char) : Option (List Char) :=
  match Text.trimStart text with
  | d :: rest => if d = c then some rest else none
  | [] => none

/-- The nanoseconds of an optional decimal fraction. Digits past the ninth are cut. -/
def fraction? : List Char → Option (Nat × List Char)
  | '.' :: rest =>
    let digits := (rest.take 9).takeWhile Numeral.isDigit
    if digits = [] then none
    else some (Numeral.digitsValue digits * Nat.pow 10 (9 - digits.length),
      rest.dropWhile Numeral.isDigit)
  | rest => some (0, rest)

def twoDigits? : List Char → Option (Nat × List Char)
  | a :: b :: rest =>
    if Numeral.isDigit a && Numeral.isDigit b then some (Numeral.digitsValue [a, b], rest) else none
  | _ => none

/-- The minutes of an offset from UTC: a letter or name for none, or a sign, hours and minutes. -/
def offset? (text : List Char) : Option (Int × List Char) :=
  match text with
  | [] => none
  | c :: rest =>
    if (text.take 3).map Char.toUpper = ['U', 'T', 'C'] then some (0, text.drop 3)
    else if c = 'Z' ∨ c = 'z' then some (0, rest)
    else if c = '+' then minutes? rest
    else if c = '-' ∨ c = '−' then (minutes? rest).map fun (n, rest) => (-n, rest)
    else none
where
  minutes? (text : List Char) : Option (Int × List Char) := do
    let (hours, rest) ← twoDigits? text
    let (minutes, rest) ← twoDigits? (rest.dropWhile fun c => c = ':' || Text.isBlank c)
    if hours < 24 ∧ minutes < 60 then some ((60 * hours + minutes : Nat), rest) else none

def read? (text : List Char) : Option Instant := do
  let (year, rest) ← year? text
  let (month, rest) ← number? 2 (← separator? '-' rest)
  let (day, rest) ← number? 2 (← separator? '-' rest)
  let date ← Date.ofNumbers? year month day
  let rest ← match rest with
    | c :: rest => if c = 'T' ∨ c = 't' ∨ c = ' ' then some rest else none
    | [] => none
  let (hour, rest) ← number? 2 rest
  let (minute, rest) ← number? 2 (← separator? ':' rest)
  let (second, rest) ← number? 2 (← separator? ':' rest)
  let (nanosecond, rest) ← fraction? rest
  let clock ← Clock.ofNumbers? hour minute second nanosecond
  let (offset, rest) ← offset? (Text.trimStart rest)
  if Text.trimStart rest = [] then Instant.ofLocal? date clock offset else none

end Deliberation.Timestamp
