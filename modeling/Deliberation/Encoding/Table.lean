/-! Tables of characters by their numbers, and reading bytes piece by piece. -/

namespace Deliberation.Encoding

/-- Characters by their numbers, in rows of one width. A blank stands for a number without a character,
and so does all behind the end of a row. -/
structure Table where
  width : Nat
  rows : Array (Array Char)

namespace Table

def ofRows (width : Nat) (rows : List String) : Table :=
  ⟨width, (rows.map fun row => row.toList.toArray).toArray⟩

def char? (t : Table) (n : Nat) : Option Char :=
  ((t.rows[n / t.width]?).bind fun row => row[n % t.width]?).filter (· ≠ ' ')

end Table

def replacement : Char :=
  '\ufffd'

/-- The characters that the first byte stands for, together with some that follow it. -/
structure Piece where
  chars : List Char
  /-- The number of bytes behind the first one that belong to it. -/
  further : Nat

def Piece.char (c : Char) (further : Nat) : Piece :=
  ⟨[c], further⟩

def Piece.unreadable (further : Nat) : Piece :=
  .char replacement further

/-- The pair of a byte and the one behind it. Where it is no pair of the encoding, a byte of ASCII
does not belong to it. -/
def Piece.pair (found : Option Char) (second : UInt8) : Piece :=
  match found with
  | some c => .char c 1
  | none => .unreadable (if second < 0x80 then 0 else 1)

def ascii (b : UInt8) : Char :=
  Char.ofNat b.toNat

/-- The characters of some bytes behind others, whose characters stand in reversed order. -/
def readFrom (piece : UInt8 → List UInt8 → Piece) (before : List Char) : List UInt8 → List Char
  | [] => before.reverse
  | b :: rest =>
    let p := piece b rest
    readFrom piece (p.chars.reverse ++ before) (rest.drop p.further)
termination_by bytes => bytes.length
decreasing_by
  rw [List.length_drop, List.length_cons]
  omega

def read (piece : UInt8 → List UInt8 → Piece) (bytes : List UInt8) : List Char :=
  readFrom piece [] bytes

end Deliberation.Encoding
