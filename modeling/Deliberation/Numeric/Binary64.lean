/-! The exact value of a binary64 number, read off its bits, and exact rounding of fractions. Every
number format of the library starts from here, so that it works on natural numbers alone. -/

namespace Deliberation.Binary64

/-- What a binary64 number stands for; a finite one is `significand * 2 ^ exponent`. -/
inductive Value where
  | nan
  | infinite (negative : Bool)
  | finite (negative : Bool) (significand : Nat) (exponent : Int)
deriving DecidableEq, Repr

/-- The weight of the leading bit of a normal significand, `2 ^ 52`. -/
def leadingBit : Nat := 0x10000000000000

/-- The value of a number. The exponent of a subnormal number is that of the smallest normal one. -/
def value (x : Float) : Value :=
  let bits := x.toBits.toNat
  let negative := bits / 0x8000000000000000 == 1
  let field : Nat := bits / leadingBit % 2048
  let fraction : Nat := bits % leadingBit
  if field = 2047 then if fraction = 0 then .infinite negative else .nan
  else if field = 0 then .finite negative fraction (-1074)
  else .finite negative (leadingBit + fraction) ((field : Int) - 1075)

/-- `base ^ exponent` as a numerator and a denominator. -/
def power (base : Nat) (exponent : Int) : Nat × Nat :=
  if 0 ≤ exponent then (Nat.pow base exponent.toNat, 1) else (1, Nat.pow base (-exponent).toNat)

/-- The natural number nearest to a fraction; a half goes to the even neighbour. -/
def roundHalfEven (numerator denominator : Nat) : Nat :=
  let quotient := numerator / denominator
  let rest := numerator % denominator
  if 2 * rest < denominator then quotient
  else if denominator < 2 * rest then quotient + 1
  else quotient + quotient % 2

/-- The nearest number inside the unit interval. A NaN stays as it is. -/
def clampUnit (x : Float) : Float :=
  if x < 0 then 0 else if 1 < x then 1 else x

/-- The arithmetic mean, summed from the left; zero where there is nothing to average. -/
def mean (xs : List Float) : Float :=
  if xs.isEmpty then 0 else xs.foldl (· + ·) 0 / Float.ofNat xs.length

end Deliberation.Binary64
