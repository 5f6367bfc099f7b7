import Deliberation.Idna.Basic
import Deliberation.Url.Escape
/-! Hosts of URLs: names, and numeric addresses of 32 and of 128 bits. -/

namespace Deliberation

inductive Host where
  | name (text : String)
  | ipv4 (address : UInt32)
  /-- An address of eight groups of 16 bits. -/
  | ipv6 (groups : List UInt16)
deriving DecidableEq, Repr

namespace Host

/-- A part of an address of 32 bits: a number in decimal, in hexadecimal after `0x`, or in octal
after a zero. -/
def ipv4Part? : List Char → Option Nat
  | [] => none
  | ['0'] => some 0
  | '0' :: c :: rest =>
    if c = 'x' ∨ c = 'X' then
      if rest.all Hexadecimal.isDigit then some (Hexadecimal.digitsValue rest) else none
    else if (c :: rest).all fun d => '0' ≤ d && d ≤ '7' then
      some ((c :: rest).foldl (fun value d => 8 * value + Numeral.digitValue d) 0)
    else none
  | digits => if digits.all Numeral.isDigit then some (Numeral.digitsValue digits) else none

/-- The address that up to four numbers stand for. The last one covers the bytes that the others
leave, each of which is a byte. -/
def ipv4OfParts? : List Nat → Option UInt32
  | [] => none
  | parts =>
    let last := parts.getLastD 0
    let bytes := parts.dropLast
    if parts.length ≤ 4 ∧ bytes.all (· < 256) ∧ last < Nat.pow 256 (4 - bytes.length) then
      some (UInt32.ofNat (last + bytes.foldr (fun b n => b * Nat.pow 256 3 + n / 256) 0))
    else none

/-- The labels of a name, without the empty one behind a point at its end. -/
def labels (name : List Char) : List (List Char) :=
  let labels := Text.parts (· = '.') name
  if labels.length > 1 ∧ labels.getLast? = some [] then labels.dropLast else labels

/-- Whether the last label of a name is a number, so that the name has to be an address. -/
def endsInNumber (name : List Char) : Bool :=
  match (labels name).getLast? with
  | some label => (label ≠ [] && label.all Numeral.isDigit) || (ipv4Part? label).isSome
  | none => false

def ipv4? (name : List Char) : Option UInt32 := do
  ipv4OfParts? (← (labels name).mapM ipv4Part?)

def group? (text : List Char) : Option UInt16 :=
  if text ≠ [] ∧ text.length ≤ 4 ∧ text.all Hexadecimal.isDigit then
    some (UInt16.ofNat (Hexadecimal.digitsValue text))
  else none

/-- A byte in decimal, without zeros before it. -/
def byte? (text : List Char) : Option Nat :=
  if text ≠ [] ∧ text.all Numeral.isDigit ∧ Numeral.digitsValue text < 256 ∧
      (text.head? = some '0' → text.length = 1) then
    some (Numeral.digitsValue text)
  else none

/-- The groups between colons. The last one may be two groups, written as four bytes. -/
def groups? : List (List Char) → Option (List UInt16)
  | [] => some []
  | [last] =>
    if last.contains '.' then
      match (Text.parts (· = '.') last).mapM byte? with
      | some [a, b, c, d] => some [UInt16.ofNat (256 * a + b), UInt16.ofNat (256 * c + d)]
      | _ => none
    else (group? last).map ([·])
  | first :: rest => do
    let group ← group? first
    some (group :: (← groups? rest))

/-- The groups in a text between colons. An empty text has none. -/
def groupsOf? (text : List Char) : Option (List UInt16) :=
  if text = [] then some [] else groups? (Text.parts (· = ':') text)

/-- The texts before and behind the first pair of colons. -/
def cutGap? : List Char → Option (List Char × List Char)
  | ':' :: ':' :: rest => some ([], rest)
  | c :: rest => (cutGap? rest).map fun parts => (c :: parts.1, parts.2)
  | [] => none

/-- The eight groups of an address. A pair of colons stands for one group of zeros or more. -/
def ipv6? (text : List Char) : Option (List UInt16) :=
  match cutGap? text with
  | none => do
    let groups ← groups? (Text.parts (· = ':') text)
    if groups.length = 8 then some groups else none
  | some (before, behind) => do
    let front ← groupsOf? before
    let back ← groupsOf? behind
    if before.contains '.' ∨ front.length + back.length > 7 then none
    else some (front ++ List.replicate (8 - front.length - back.length) 0 ++ back)

def isForbidden (c : Char) : Bool :=
  Url.isForeign c || " #%/:<>?@[\\]^|".toList.contains c

def bracketed? : List Char → Option (List Char)
  | '[' :: rest => if rest.getLast? = some ']' then some rest.dropLast else none
  | _ => none

def ofWeb? (text : List Char) : Option Host :=
  if text.head? = some '[' then ((bracketed? text).bind ipv6?).map ipv6
  else
    match (Url.unescape? text).bind Idna.toAscii? with
    | none => none
    | some domain =>
      if domain = [] ∨ domain.any isForbidden then none
      else if endsInNumber domain then (ipv4? domain).map ipv4
      else some (.name (String.ofList domain))

def ofOther? (text : List Char) : Option Host :=
  if text.head? = some '[' then ((bracketed? text).bind ipv6?).map ipv6
  else if text.any fun c => "\x00\t\n\r #/:<>?@[\\]^|".toList.contains c then none
  else some (.name (String.ofList (Url.escape [] text)))

def zerosOf (groups : List UInt16) : Nat :=
  (groups.takeWhile (· = 0)).length

def gapOf (groups : List UInt16) : Nat :=
  (List.range groups.length).foldl (fun best place =>
    if zerosOf (groups.drop best) < zerosOf (groups.drop place) then place else best) 0

def groupsText (groups : List UInt16) : String :=
  ":".intercalate (groups.map fun group => String.ofList (Hexadecimal.digits group.toNat))

/-- The groups with their first longest run of zeros left out, where it has more than one. -/
def ipv6Text (groups : List UInt16) : String :=
  let gap := gapOf groups
  let zeros := zerosOf (groups.drop gap)
  if zeros < 2 then groupsText groups
  else groupsText (groups.take gap) ++ "::" ++ groupsText (groups.drop (gap + zeros))

/-- The four bytes of an address, the highest first. -/
def ipv4Text (address : UInt32) : String :=
  let n := address.toNat
  ".".intercalate ([n / Nat.pow 256 3, n / Nat.pow 256 2 % 256, n / 256 % 256, n % 256].map toString)

def bare : Host → String
  | .name text => text
  | .ipv4 address => ipv4Text address
  | .ipv6 groups => ipv6Text groups

def text : Host → String
  | .ipv6 groups => "[" ++ ipv6Text groups ++ "]"
  | host => host.bare

end Host

end Deliberation
