import Deliberation.Text.CaseTable
/-! Lowercasing by the full Unicode rules that do not depend on a language: the simple images, the
dotted capital I with its two characters, and the final form of the capital sigma. -/

namespace Deliberation.Text

def isCased (c : Char) : Bool :=
  inRanges casedRanges c.toNat

def isCaseIgnorable (c : Char) : Bool :=
  inRanges caseIgnorableRanges c.toNat

/-- The lowercase letter of a run that holds the code point, and the code point itself otherwise. -/
def simpleLowercase (code : Nat) : Nat :=
  match lowercaseRuns.find? fun run =>
      run.1 ≤ code && code ≤ run.2.1 && (code - run.1) % run.2.2.1 == 0 with
  | some run => run.2.2.2 + (code - run.1)
  | none => code

def lowercaseChar (c : Char) : List Char :=
  if c.toNat < 0x80 then [c.toLower]
  else if c.toNat == 0x130 then ['i', Char.ofNat 0x307]
  else [Char.ofNat (simpleLowercase c.toNat)]

/-- Whether the first character that is not case-ignorable exists and is cased. -/
def meetsCased (text : List Char) : Bool :=
  match text.dropWhile isCaseIgnorable with
  | [] => false
  | c :: _ => isCased c

/-- Lowercases the text that follows the given reversed characters. A capital sigma takes its final
form where a cased letter stands before it and none after it. -/
def lowercaseAfter (before : List Char) : List Char → List Char
  | [] => []
  | c :: rest =>
    let image :=
      if c = 'Σ' then [if meetsCased before && !meetsCased rest then 'ς' else 'σ']
      else lowercaseChar c
    image ++ lowercaseAfter (c :: before) rest

def lowercase (text : List Char) : List Char :=
  lowercaseAfter [] text

def lowercased (text : String) : String :=
  String.ofList (lowercase text.toList)

end Deliberation.Text
