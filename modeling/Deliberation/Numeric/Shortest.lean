import Deliberation.Numeric.Binary64
/-! The shortest decimal that reads back to a binary64 number, and its two written forms: positional
text for people, and the form with an exponent for records. -/

namespace Deliberation.Shortest

/-- Where a value halfway between two shortest decimals goes. -/
inductive Tie where
  | up
  | toEven
deriving DecidableEq, Repr

/-- `digits * 10 ^ exponent`, without zeros at the end of the digits. -/
structure Decimal where
  digits : Nat
  exponent : Int
deriving DecidableEq, Repr

/-- Moves the zeros at the end of the digits into the exponent. -/
def Decimal.normalize (digits : Nat) (exponent : Int) : Decimal :=
  if h : digits ≠ 0 ∧ digits % 10 = 0 then Decimal.normalize (digits / 10) (exponent + 1)
  else ⟨digits, exponent⟩
termination_by digits
decreasing_by omega

/-- The exponent of the power of ten at or below a positive fraction. -/
def decimalExponent (numerator denominator : Nat) : Int :=
  let guess : Int := (toString numerator).length - (toString denominator).length
  let scale := Binary64.power 10 guess
  if denominator * scale.1 ≤ numerator * scale.2 then guess else guess - 1

/-- The multiple of `10 ^ exponent` that is nearest to `significand * 2 ^ shift` among those that
round to it, if there is one. All bounds are in quarters of `2 ^ shift`: the numbers that round to
the value reach half a unit up and half a unit down, a quarter down from a power of two, and the
ends belong to them where the significand is even. -/
def onGrid? (tie : Tie) (significand : Nat) (shift exponent : Int) : Option Nat :=
  let two := Binary64.power 2 shift
  let ten := Binary64.power 10 exponent
  let unit := ten.1 * (4 * two.2)
  let scaled := fun quarters : Nat => quarters * two.1 * ten.2
  let value := scaled (4 * significand)
  let low := scaled (4 * significand - if significand = Binary64.leadingBit ∧ -1074 < shift then 1 else 2)
  let high := scaled (4 * significand + 2)
  let fits := fun multiple : Nat =>
    let point := multiple * unit
    if significand % 2 = 0 then decide (low ≤ point ∧ point ≤ high)
    else decide (low < point ∧ point < high)
  let below := value / unit
  let above := below + 1
  let nearerAbove :=
    if 2 * (value % unit) = unit then tie = .up || below % 2 = 1 else unit < 2 * (value % unit)
  let nearer := if nearerAbove then above else below
  let farther := if nearerAbove then below else above
  if fits nearer && nearer ≠ 0 then some nearer
  else if fits farther && farther ≠ 0 then some farther
  else none

/-- The decimal with the fewest digits that reads back to `significand * 2 ^ shift`, and the nearest
of those. Seventeen digits always suffice. -/
def decimal (tie : Tie) (significand : Nat) (shift : Int) : Decimal :=
  if significand = 0 then ⟨0, 0⟩
  else
    let two := Binary64.power 2 shift
    let top := decimalExponent (significand * two.1) two.2
    let found := (List.range 17).findSome? fun (count : Nat) =>
      (onGrid? tie significand shift (top - count)).map fun digits =>
        Decimal.normalize digits (top - count)
    found.getD ⟨0, 0⟩

def zeros (count : Nat) : String :=
  "".pushn '0' count

/-- The digits with a decimal point after the first `count` of them, filled up with zeros. -/
def pointAfter (digits : String) (count : Int) : String :=
  if count ≤ 0 then "0." ++ zeros (-count).toNat ++ digits
  else if count < digits.length then
    String.ofList (digits.toList.take count.toNat) ++ "." ++
      String.ofList (digits.toList.drop count.toNat)
  else digits ++ zeros (count - digits.length).toNat

/-- Positional text, with no point in a whole number; a half goes up. -/
def text (x : Float) : String :=
  match Binary64.value x with
  | .nan => "NaN"
  | .infinite negative => if negative then "-inf" else "inf"
  | .finite negative significand shift =>
    let d := decimal .up significand shift
    let digits := toString d.digits
    (if negative then "-" else "") ++
      if d.digits = 0 then "0" else pointAfter digits (digits.length + d.exponent)

/-- The text of a finite number in a record. It always shows a point or an exponent: the exponent
where the first digit stands more than sixteen places before the point or five behind it. A half
goes to the even neighbour. -/
def recordText (negative : Bool) (significand : Nat) (shift : Int) : String :=
  let d := decimal .toEven significand shift
  let digits := toString d.digits
  let count : Int := digits.length + d.exponent
  let magnitude :=
    if d.digits = 0 then "0.0"
    else if 0 ≤ d.exponent ∧ count ≤ 16 then pointAfter digits count ++ ".0"
    else if -5 < count ∧ count ≤ 16 then pointAfter digits count
    else if digits.length = 1 then digits ++ "e" ++ toString (count - 1)
    else pointAfter digits 1 ++ "e" ++ toString (count - 1)
  (if negative then "-" else "") ++ magnitude

end Deliberation.Shortest
