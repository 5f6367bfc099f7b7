import Deliberation.Numeric.Hexadecimal
/-! Random session ids, in the form of a version 4 UUID. -/

namespace Deliberation

/-- A session id made of sixteen random bytes, with the marks of its version and variant. -/
def sessionIdOf (bytes : List UInt8) : String :=
  let marked := bytes.mapIdx fun i b =>
    if i = 6 then b &&& 0x0F ||| 0x40 else if i = 8 then b &&& 0x3F ||| 0x80 else b
  String.ofList (marked.mapIdx fun i b =>
    if i = 4 ∨ i = 6 ∨ i = 8 ∨ i = 10 then '-' :: Hexadecimal.byte b else Hexadecimal.byte b).flatten

end Deliberation
