import Deliberation.Numeric.Numeral
/-! Hexadecimal digits: of numbers below sixteen, of bytes, and read back in either case. -/

namespace Deliberation.Hexadecimal

def digit (n : Nat) : Char :=
  if n < 10 then Char.ofNat ('0'.toNat + n) else Char.ofNat ('a'.toNat + (n - 10))

def byte (b : UInt8) : List Char :=
  [digit (b.toNat / 16), digit (b.toNat % 16)]

def digit? (c : Char) : Option Nat :=
  if Numeral.isDigit c then some (Numeral.digitValue c)
  else if 'a' ≤ c ∧ c ≤ 'f' then some (c.toNat - 'a'.toNat + 10)
  else if 'A' ≤ c ∧ c ≤ 'F' then some (c.toNat - 'A'.toNat + 10)
  else none

def isDigit (c : Char) : Bool :=
  (digit? c).isSome

def digitsValue (digits : List Char) : Nat :=
  digits.foldl (fun value c => 16 * value + (digit? c).getD 0) 0

def digits (n : Nat) : List Char :=
  if n < 16 then [digit n] else digits (n / 16) ++ [digit (n % 16)]
termination_by n
decreasing_by omega

end Deliberation.Hexadecimal
