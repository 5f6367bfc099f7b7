/-! Reading numbers from text: unsigned numbers with a bound, and binary64 numbers, which are rounded
correctly. Both take a whole text or nothing. -/

namespace Deliberation.Numeral

def isDigit (c : Char) : Bool :=
  '0' ≤ c && c ≤ '9'

def digitValue (c : Char) : Nat :=
  c.toNat - '0'.toNat

def digitsValue (digits : List Char) : Nat :=
  digits.foldl (fun value c => 10 * value + digitValue c) 0

/-- One or more digits, with an optional plus sign before them. -/
def natural? (text : List Char) : Option Nat :=
  let digits := match text with
    | '+' :: rest => rest
    | text => text
  if digits ≠ [] ∧ digits.all isDigit then some (digitsValue digits) else none

def uint32? (text : List Char) : Option UInt32 :=
  match natural? text with
  | some n => if n < UInt32.size then some (UInt32.ofNat n) else none
  | none => none

def uint64? (text : List Char) : Option UInt64 :=
  match natural? text with
  | some n => if n < UInt64.size then some (UInt64.ofNat n) else none
  | none => none

/-- A sign, if there is one, and the rest. The flag says whether the sign is a minus. -/
def splitSign : List Char → Bool × List Char
  | '+' :: rest => (false, rest)
  | '-' :: rest => (true, rest)
  | text => (false, text)

/-- The value of what may follow the digits of a numeral: nothing, or an exponent with its sign. -/
def exponent? : List Char → Option Int
  | [] => some 0
  | c :: rest =>
    if c = 'e' ∨ c = 'E' then
      let (negative, digits) := splitSign rest
      if digits ≠ [] ∧ digits.all isDigit then
        let magnitude : Int := digitsValue digits
        some (if negative then -magnitude else magnitude)
      else none
    else none

/-- The number nearest to `significand * 10 ^ exponent`. -/
def scientific (significand : Nat) (exponent : Int) : Float :=
  Float.ofScientific significand (exponent < 0) exponent.natAbs

/-- A numeral without sign: digits with at most one point, and an exponent. -/
def unsignedFloat? (text : List Char) : Option Float :=
  let whole := text.takeWhile isDigit
  let (fraction, tail) := match text.dropWhile isDigit with
    | '.' :: rest => (rest.takeWhile isDigit, rest.dropWhile isDigit)
    | rest => ([], rest)
  if whole = [] ∧ fraction = [] then none
  else (exponent? tail).map fun exponent =>
    scientific (digitsValue (whole ++ fraction)) (exponent - fraction.length)

/-- A binary64 number: a numeral, an infinity or a NaN, with an optional sign. The names are read
without regard to case. -/
def float? (text : List Char) : Option Float :=
  let (negative, body) := splitSign text
  let name := body.map Char.toLower
  let magnitude :=
    if name = "inf".toList ∨ name = "infinity".toList then some (1 / 0)
    else if name = "nan".toList then some (0 / 0)
    else unsignedFloat? body
  magnitude.map fun x => if negative then -x else x

end Deliberation.Numeral
