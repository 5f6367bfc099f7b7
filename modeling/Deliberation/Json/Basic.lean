import Deliberation.Numeric.Binary64
/-! JSON values: the form of every record that the library writes and reads. -/

namespace Deliberation

/-- A JSON number keeps whether it was a whole number of 64 bits or a binary64 number. -/
inductive Json.Number where
  | integer (value : Int)
  | real (value : Float)
deriving BEq

/-- A JSON value. `unreadable` is what a text denotes that is well formed and has no value: a number
out of range, or a string with half a surrogate pair. It may be skipped, and reading it fails. -/
inductive Json where
  | null
  | bool (value : Bool)
  | number (value : Json.Number)
  | string (value : String)
  | array (items : List Json)
  | object (members : List (String × Json))
  | unreadable
deriving BEq

namespace Json

def ofNat (n : Nat) : Json :=
  .number (.integer n)

def ofUInt32 (n : UInt32) : Json :=
  ofNat n.toNat

def ofUInt64 (n : UInt64) : Json :=
  ofNat n.toNat

/-- A finite number. Infinities and NaN have no JSON form and become `null`. -/
def ofFloat (x : Float) : Json :=
  if x.isFinite then .number (.real x) else .null

def ofOption {α : Type} (toJson : α → Json) : Option α → Json
  | none => .null
  | some a => toJson a

def ofList {α : Type} (toJson : α → Json) (items : List α) : Json :=
  .array (items.map toJson)

/-- An object member that is left out where there is no value. -/
def optionalMember {α : Type} (key : String) (toJson : α → Json) : Option α → List (String × Json)
  | none => []
  | some a => [(key, toJson a)]

end Json

end Deliberation
