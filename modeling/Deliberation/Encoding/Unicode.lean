import Deliberation.Encoding.Table
/-! The encodings of Unicode: of one to four bytes, and of units of 16 bits. -/

namespace Deliberation.Encoding

/-- The number of bytes that follow the first one of a character, and the least and the greatest of
the one next to it. -/
def utf8Follow? (b : UInt8) : Option (Nat × UInt8 × UInt8) :=
  if 0xC2 ≤ b && b ≤ 0xDF then some (1, 0x80, 0xBF)
  else if b = 0xE0 then some (2, 0xA0, 0xBF)
  else if b = 0xED then some (2, 0x80, 0x9F)
  else if 0xE1 ≤ b && b ≤ 0xEF then some (2, 0x80, 0xBF)
  else if b = 0xF0 then some (3, 0x90, 0xBF)
  else if 0xF1 ≤ b && b ≤ 0xF3 then some (3, 0x80, 0xBF)
  else if b = 0xF4 then some (3, 0x80, 0x8F)
  else none

/-- The piece of a byte in UTF-8. What can begin a character, and does not go on as one, is unreadable
as a whole. -/
def utf8Piece (b : UInt8) (rest : List UInt8) : Piece :=
  if b < 0x80 then .char (ascii b) 0
  else match utf8Follow? b, rest with
    | some (count, least, greatest), second :: more =>
      if least ≤ second && second ≤ greatest then
        let tail := second :: (more.take (count - 1)).takeWhile fun c => 0x80 ≤ c && c ≤ 0xBF
        if tail.length = count then
          let lead := b.toNat % Nat.pow 2 (6 - count)
          .char (Char.ofNat (tail.foldl (fun n c => 64 * n + c.toNat % 64) lead)) count
        else .unreadable tail.length
      else .unreadable 0
    | _, _ => .unreadable 0

/-- The unit of two bytes, of which the flag says whether the high one comes first. -/
def unit (big : Bool) (first second : UInt8) : Nat :=
  if big then 256 * first.toNat + second.toNat else 256 * second.toNat + first.toNat

/-- The piece of a byte in UTF-16. A half of a pair alone is unreadable, and so is what is no whole
unit at the end. -/
def utf16Piece (big : Bool) (b : UInt8) (rest : List UInt8) : Piece :=
  match rest with
  | [] => .unreadable 0
  | second :: rest =>
    let high := unit big b second
    if 0xD800 ≤ high && high < 0xDC00 then
      match rest with
      | third :: fourth :: _ =>
        let low := unit big third fourth
        if 0xDC00 ≤ low && low < 0xE000 then
          .char (Char.ofNat (0x10000 + 0x400 * (high - 0xD800) + (low - 0xDC00))) 3
        else .unreadable 1
      | rest => .unreadable (1 + rest.length)
    else if 0xDC00 ≤ high && high < 0xE000 then .unreadable 1
    else .char (Char.ofNat high) 1

end Deliberation.Encoding
