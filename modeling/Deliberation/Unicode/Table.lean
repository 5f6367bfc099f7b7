import Deliberation.Numeric.Hexadecimal
import Deliberation.Text.Blank
/-! Tables of characters in rows of hexadecimal numbers. The rows hold ranges of characters between
blanks, or texts of numbers between semicolons. -/

namespace Deliberation.Unicode

def fields (separator : Char) (row : List Char) : List (List Char) :=
  (Text.parts (· = separator) row).filter (· ≠ [])

/-- Ranges of numbers, ends included. A number alone is a range of its own. -/
abbrev Ranges := Array (Nat × Nat)

def Ranges.ofRows (rows : List String) : Ranges :=
  (rows.flatMap fun row => (fields ' ' row.toList).map fun field =>
    match Text.cut? '-' field with
    | some (first, last) => (Hexadecimal.digitsValue first, Hexadecimal.digitsValue last)
    | none => (Hexadecimal.digitsValue field, Hexadecimal.digitsValue field)).toArray

def Ranges.has (ranges : Ranges) (c : Char) : Bool :=
  ranges.any fun range => range.1 ≤ c.toNat && c.toNat ≤ range.2

def charsOf (text : List Char) : List Char :=
  (fields ' ' text).map fun field => Char.ofNat (Hexadecimal.digitsValue field)

abbrev Images := Array (Char × List Char)

def Images.ofRows (rows : List String) : Images :=
  (rows.flatMap fun row => (fields ';' row.toList).filterMap fun field =>
    match charsOf field with
    | c :: image => some (c, image)
    | [] => none).toArray

def Images.find? (images : Images) (c : Char) : Option (List Char) :=
  (Array.find? (fun entry => entry.1 = c) images).map Prod.snd

def Images.source? (images : Images) (image : List Char) : Option Char :=
  (Array.find? (fun entry => entry.2 = image) images).map Prod.fst

end Deliberation.Unicode
