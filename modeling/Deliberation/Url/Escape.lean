import Deliberation.Numeric.Hexadecimal
/-! Percent escapes: a byte is written as a percent sign and two hexadecimal digits. Controls and
what is not ASCII are escaped in every part of a URL, and other characters where the part says so. -/

namespace Deliberation.Url

/-- Whether a character is escaped in every part: the controls, and all behind ASCII. -/
def isForeign (c : Char) : Bool :=
  c.toNat < 0x20 || 0x7F ≤ c.toNat

def escapeByte (b : UInt8) : List Char :=
  '%' :: (Hexadecimal.byte b).map Char.toUpper

def escape (listed : List Char) (text : List Char) : List Char :=
  text.flatMap fun c =>
    if isForeign c || listed.contains c then (String.utf8EncodeChar c).flatMap escapeByte else [c]

/-- The bytes of a text whose escapes stand for theirs. A percent sign that opens no escape stays. -/
def bytesOf : List Char → List UInt8
  | '%' :: high :: low :: rest =>
    match Hexadecimal.digit? high, Hexadecimal.digit? low with
    | some h, some l => UInt8.ofNat (16 * h + l) :: bytesOf rest
    | _, _ => 0x25 :: bytesOf (high :: low :: rest)
  | c :: rest => String.utf8EncodeChar c ++ bytesOf rest
  | [] => []

def unescape? (text : List Char) : Option (List Char) :=
  (String.fromUTF8? ⟨(bytesOf text).toArray⟩).map String.toList

end Deliberation.Url
