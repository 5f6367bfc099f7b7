import Deliberation.Unicode.NormalTable
import Deliberation.Unicode.Table
/-! The normal form of texts in which characters are composed as far as that goes. A text is taken
apart first, then the marks behind each character get their order, and then they are composed. -/

namespace Deliberation.Unicode

def composed : Images :=
  .ofRows composedRows

def equivalent : Images :=
  .ofRows equivalentRows

def combining : List (Nat × Ranges) :=
  combiningRows.map fun entry => (entry.1, .ofRows entry.2)

/-- The combining class, in whose order marks stand. One that is zero ends the marks before it. -/
def combiningClass (c : Char) : Nat :=
  match combining.find? fun entry => entry.2.has c with
  | some entry => entry.1
  | none => 0

def numberFrom? (first length : Nat) (c : Char) : Option Nat :=
  if first ≤ c.toNat ∧ c.toNat < first + length then some (c.toNat - first) else none

def lettersOf (syllable : Nat) : List Char :=
  let letters := [Char.ofNat (0x1100 + syllable / 588), Char.ofNat (0x1161 + syllable % 588 / 28)]
  if syllable % 28 = 0 then letters else letters ++ [Char.ofNat (0x11A7 + syllable % 28)]

/-- The syllable of two letters, or of a syllable without a last letter and a last letter. -/
def syllable? (first second : Char) : Option Char :=
  match numberFrom? 0x1100 19 first, numberFrom? 0x1161 21 second with
  | some lead, some vowel => some (Char.ofNat (0xAC00 + 588 * lead + 28 * vowel))
  | _, _ =>
    match numberFrom? 0xAC00 11172 first, numberFrom? 0x11A8 27 second with
    | some syllable, some last =>
      if syllable % 28 = 0 then some (Char.ofNat (0xAC00 + syllable + last + 1)) else none
    | _, _ => none

def decomposeChar (c : Char) : List Char :=
  match numberFrom? 0xAC00 11172 c with
  | some syllable => lettersOf syllable
  | none => ((composed.find? c).or (equivalent.find? c)).getD [c]

/-- Puts a character before others, and a mark behind those of lower classes. -/
def insertMark (c : Char) : List Char → List Char
  | [] => [c]
  | d :: rest =>
    if 0 < combiningClass d ∧ combiningClass d < combiningClass c then d :: insertMark c rest
    else c :: d :: rest

def order : List Char → List Char
  | [] => []
  | c :: rest => insertMark c (order rest)

def pair? (first second : Char) : Option Char :=
  (syllable? first second).or (composed.source? (decomposeChar first ++ [second]))

/-- Composes a character with what follows it, given the marks that stand between them in reversed
order. A mark is composed where none of its class or a higher one stands before it. -/
def composeFrom (first : Char) (marks : List Char) : List Char → List Char
  | [] => first :: marks.reverse
  | c :: rest =>
    let isFree := match marks with
      | [] => true
      | mark :: _ => combiningClass mark < combiningClass c
    match (if isFree then pair? first c else none) with
    | some pair => composeFrom pair marks rest
    | none =>
      if combiningClass c = 0 then first :: (marks.reverse ++ composeFrom c [] rest)
      else composeFrom first (c :: marks) rest

/-- Composes a text. Marks at its front have no character before them. -/
def compose : List Char → List Char
  | [] => []
  | c :: rest => if combiningClass c = 0 then composeFrom c [] rest else c :: compose rest

def normalize (text : List Char) : List Char :=
  compose (order (text.flatMap decomposeChar))

end Deliberation.Unicode
