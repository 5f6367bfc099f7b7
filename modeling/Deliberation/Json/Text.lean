import Deliberation.Json.Basic
import Deliberation.Numeric.Hexadecimal
/-! Reading JSON text. A number is read in binary64 as its leading digits, as many as 64 bits hold,
scaled by one power of ten, which may miss the nearest number by a unit in the last place. -/

namespace Deliberation.Json

/-- A number as it is written: the digits before and behind the point, and the exponent. -/
structure Literal where
  negative : Bool
  whole : List Char
  fraction : List Char
  exponent : Option Int

namespace Literal

/-- Appends digits to a significand as long as it stays below `2 ^ 64`; counts the digits taken. -/
def absorb (significand taken : Nat) : List Char → Nat × Nat
  | [] => (significand, taken)
  | c :: digits =>
    let next := 10 * significand + Numeral.digitValue c
    if next < UInt64.size then absorb next (taken + 1) digits else (significand, taken)

/-- `x * 10 ^ exponent`, by one multiplication or division where the power is in range. There is no
value where the result is not finite. -/
def scale? (x : Float) (exponent : Int) : Option Float :=
  if exponent.natAbs ≤ 308 then
    let power := Float.ofScientific 1 false exponent.natAbs
    if 0 ≤ exponent then if (x * power).isInf then none else some (x * power)
    else some (x / power)
  else if x == 0 then some x
  else if h : 0 ≤ exponent then none
  else scale? (x / Float.ofScientific 1 false 308) (exponent + 308)
termination_by exponent.natAbs
decreasing_by omega

def real? (l : Literal) : Option Float :=
  let (front, taken) := absorb 0 0 l.whole
  let (significand, places) := absorb front 0 l.fraction
  let exponent : Int := (l.whole.length - taken : Nat) - (places : Int) + l.exponent.getD 0
  (scale? (Float.ofNat significand) exponent).map fun x => if l.negative then -x else x

/-- The number that is written. Without point and exponent it is whole where 64 bits hold it, signed
or unsigned; negative zero is never whole. -/
def number? (l : Literal) : Option Number :=
  let n := Numeral.digitsValue l.whole
  if l.fraction = [] ∧ l.exponent = none ∧ !l.negative ∧ n < UInt64.size then some (.integer n)
  else if l.fraction = [] ∧ l.exponent = none ∧ l.negative ∧ 0 < n ∧ n ≤ UInt64.size / 2 then
    some (.integer (-n))
  else l.real?.map .real

end Literal

def exponent? (text : List Char) : Option (Int × List Char) :=
  let (negative, rest) := Numeral.splitSign text
  let digits := rest.takeWhile Numeral.isDigit
  if digits = [] then none
  else
    let magnitude : Int := Numeral.digitsValue digits
    some (if negative then -magnitude else magnitude, rest.dropWhile Numeral.isDigit)

/-- A number without its sign. It has no zero in front of another digit, and digits on both sides of
a point. -/
def literal? (negative : Bool) (text : List Char) : Option (Literal × List Char) := do
  let whole := text.takeWhile Numeral.isDigit
  guard (whole = ['0'] ∨ whole ≠ [] ∧ whole.head? ≠ some '0')
  let (fraction, rest) ← match text.dropWhile Numeral.isDigit with
    | '.' :: rest =>
      let digits := rest.takeWhile Numeral.isDigit
      if digits = [] then none else some (digits, rest.dropWhile Numeral.isDigit)
    | rest => some ([], rest)
  match rest with
  | c :: tail =>
    if c = 'e' ∨ c = 'E' then
      let (exponent, rest) ← exponent? tail
      some (⟨negative, whole, fraction, some exponent⟩, rest)
    else some (⟨negative, whole, fraction, none⟩, rest)
  | [] => some (⟨negative, whole, fraction, none⟩, [])

/-- A part of a written string: a character, or an escaped UTF-16 unit. -/
inductive Piece where
  | char (c : Char)
  | unit (value : Nat)

def shortEscape? (c : Char) : Option Char :=
  match c with
  | '"' => some '"'
  | '\\' => some '\\'
  | '/' => some '/'
  | 'b' => some '\x08'
  | 'f' => some '\x0c'
  | 'n' => some '\n'
  | 'r' => some '\r'
  | 't' => some '\t'
  | _ => none

/-- The pieces of a string up to its closing quote. Control characters must be escaped. -/
def pieces? : List Char → Option (List Piece × List Char)
  | [] => none
  | '"' :: rest => some ([], rest)
  | '\\' :: 'u' :: a :: b :: c :: d :: rest => do
    let unit := 4096 * (← Hexadecimal.digit? a) + 256 * (← Hexadecimal.digit? b) +
      16 * (← Hexadecimal.digit? c) + (← Hexadecimal.digit? d)
    let (pieces, rest) ← pieces? rest
    some (.unit unit :: pieces, rest)
  | '\\' :: c :: rest => do
    let char ← shortEscape? c
    let (pieces, rest) ← pieces? rest
    some (.char char :: pieces, rest)
  | c :: rest =>
    if c.toNat < 0x20 ∨ c = '\\' then none
    else do
      let (pieces, rest) ← pieces? rest
      some (.char c :: pieces, rest)

/-- The characters that the pieces stand for. A surrogate must stand in a pair of escapes. -/
def assemble? : List Piece → Option (List Char)
  | [] => some []
  | .char c :: rest => (assemble? rest).map (c :: ·)
  | .unit u :: rest =>
    if 0xD800 ≤ u ∧ u < 0xDC00 then
      match rest with
      | .unit v :: rest =>
        if 0xDC00 ≤ v ∧ v < 0xE000 then
          (assemble? rest).map (Char.ofNat (0x10000 + (u - 0xD800) * 0x400 + (v - 0xDC00)) :: ·)
        else none
      | _ => none
    else if 0xDC00 ≤ u ∧ u < 0xE000 then none
    else (assemble? rest).map (Char.ofNat u :: ·)

def isSpace (c : Char) : Bool :=
  c = ' ' || c = '\n' || c = '\t' || c = '\r'

def skipSpace (text : List Char) : List Char :=
  text.dropWhile isSpace

/-- An object, which is unreadable where one of its keys is. -/
def objectOf (members : List (Option String × Json)) : Json :=
  match members.mapM fun (key, value) => key.map fun key => (key, value) with
  | some members => .object members
  | none => .unreadable

def ofLiteral (parsed : Literal × List Char) : Json × List Char :=
  match parsed.1.number? with
  | some n => (.number n, parsed.2)
  | none => (.unreadable, parsed.2)

mutual

/-- One value and the rest of the text. The depth bounds the recursion. -/
def value? : Nat → List Char → Option (Json × List Char)
  | 0, _ => none
  | depth + 1, text =>
    match skipSpace text with
    | 'n' :: 'u' :: 'l' :: 'l' :: rest => some (.null, rest)
    | 't' :: 'r' :: 'u' :: 'e' :: rest => some (.bool true, rest)
    | 'f' :: 'a' :: 'l' :: 's' :: 'e' :: rest => some (.bool false, rest)
    | '"' :: rest => (pieces? rest).map fun (pieces, rest) =>
      (match assemble? pieces with
        | some chars => .string (String.ofList chars)
        | none => .unreadable, rest)
    | '[' :: rest =>
      match skipSpace rest with
      | ']' :: rest => some (.array [], rest)
      | rest => (items? depth rest).map fun (items, rest) => (.array items, rest)
    | '{' :: rest =>
      match skipSpace rest with
      | '}' :: rest => some (.object [], rest)
      | rest => (members? depth rest).map fun (members, rest) => (objectOf members, rest)
    | '-' :: rest => (literal? true rest).map ofLiteral
    | rest => (literal? false rest).map ofLiteral

def items? : Nat → List Char → Option (List Json × List Char)
  | 0, _ => none
  | depth + 1, text =>
    match value? depth text with
    | none => none
    | some (item, rest) =>
      match skipSpace rest with
      | ']' :: rest => some ([item], rest)
      | ',' :: rest => (items? depth rest).map fun (items, rest) => (item :: items, rest)
      | _ => none

def members? : Nat → List Char → Option (List (Option String × Json) × List Char)
  | 0, _ => none
  | depth + 1, text =>
    match skipSpace text with
    | '"' :: rest =>
      match pieces? rest with
      | none => none
      | some (pieces, rest) =>
        match skipSpace rest with
        | ':' :: rest =>
          match value? depth rest with
          | none => none
          | some (item, rest) =>
            let entry := ((assemble? pieces).map String.ofList, item)
            match skipSpace rest with
            | '}' :: rest => some ([entry], rest)
            | ',' :: rest => (members? depth rest).map fun (members, rest) => (entry :: members, rest)
            | _ => none
        | _ => none
    | _ => none

end

def parse? (text : String) : Option Json :=
  let chars := text.toList
  match value? (2 * chars.length + 2) chars with
  | some (value, rest) => if skipSpace rest = [] then some value else none
  | none => none

end Deliberation.Json
