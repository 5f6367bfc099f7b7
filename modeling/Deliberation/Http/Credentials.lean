/-! Credentials of a name and a password. They are written in digits of six bits, four of which stand
for three bytes. -/

namespace Deliberation.Http

def sixBits (n : Nat) : Char :=
  if n < 26 then Char.ofNat ('A'.toNat + n)
  else if n < 52 then Char.ofNat ('a'.toNat + (n - 26))
  else if n < 62 then Char.ofNat ('0'.toNat + (n - 52))
  else if n = 62 then '+'
  else '/'

/-- The digits of some bytes. Signs fill up the last four. -/
def sixBitDigits : List UInt8 → List Char
  | a :: b :: c :: rest =>
    let n := 65536 * a.toNat + 256 * b.toNat + c.toNat
    sixBits (n / 262144) :: sixBits (n / 4096 % 64) :: sixBits (n / 64 % 64) ::
      sixBits (n % 64) :: sixBitDigits rest
  | [a, b] =>
    let n := 1024 * a.toNat + 4 * b.toNat
    [sixBits (n / 4096), sixBits (n / 64 % 64), sixBits (n % 64), '=']
  | [a] => [sixBits (a.toNat / 4), sixBits (16 * a.toNat % 64), '=', '=']
  | [] => []

def basic (name password : String) : String :=
  "Basic " ++ String.ofList (sixBitDigits (name ++ ":" ++ password).toUTF8.toList)

end Deliberation.Http
