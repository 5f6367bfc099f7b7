import Deliberation.Json.Basic
import Deliberation.Time.Timestamp
/-! Reading typed values out of JSON values. A structure is read from an object, where unknown members
are skipped and a known one may stand only once, or from an array of its fields in order. -/

namespace Deliberation.Json

/-- What a JSON value has to offer for one field: a value, none because the object has no such
member, or none because the array ended before it. -/
inductive Slot where
  | given (value : Json)
  | absent
  | beyond

def slots? (names : List String) : Json → Option (String → Slot)
  | .object members =>
    if names.all fun name => (members.filter fun m => m.1 == name).length ≤ 1 then
      some fun name => match members.find? fun m => m.1 == name with
        | some m => .given m.2
        | none => .absent
    else none
  | .array items =>
    if items.length ≤ names.length then
      some fun name => match (names.zip items).find? fun m => m.1 == name with
        | some m => .given m.2
        | none => .beyond
    else none
  | _ => none

namespace Slot

variable {α : Type}

def required (read? : Json → Option α) : Slot → Option α
  | .given value => read? value
  | _ => none

/-- A field that may be `null` or missing in an object. -/
def optional (read? : Json → Option α) : Slot → Option (Option α)
  | .given .null => some none
  | .given value => (read? value).map some
  | .absent => some none
  | .beyond => none

/-- A field with a default for where it is missing. -/
def withDefault (default : α) (read? : Json → Option α) : Slot → Option α
  | .given value => read? value
  | _ => some default

end Slot

def string? : Json → Option String
  | .string s => some s
  | _ => none

def natBelow? (bound : Nat) : Json → Option Nat
  | .number (.integer n) => if 0 ≤ n ∧ n < bound then some n.toNat else none
  | _ => none

def uint16? (value : Json) : Option UInt16 :=
  (natBelow? UInt16.size value).map UInt16.ofNat

def uint32? (value : Json) : Option UInt32 :=
  (natBelow? UInt32.size value).map UInt32.ofNat

def uint64? (value : Json) : Option UInt64 :=
  (natBelow? UInt64.size value).map UInt64.ofNat

/-- A binary64 number; a whole number is rounded to one. -/
def float? : Json → Option Float
  | .number (.real x) => some x
  | .number (.integer n) => some (Float.ofInt n)
  | _ => none

def nullable? {α : Type} (read? : Json → Option α) : Json → Option (Option α)
  | .null => some none
  | value => (read? value).map some

def list? {α : Type} (read? : Json → Option α) : Json → Option (List α)
  | .array items => items.mapM read?
  | _ => none

/-- A name out of a fixed set: a string, or an object whose only member has the name as its key and
`null` as its value. -/
def name? {α : Type} (ofName? : String → Option α) : Json → Option α
  | .string s => ofName? s
  | .object [(key, .null)] => ofName? key
  | _ => none

def ofInstant (i : Instant) : Json :=
  .string (Timestamp.text i)

def instant? : Json → Option Instant
  | .string s => Timestamp.read? s.toList
  | _ => none

end Deliberation.Json
