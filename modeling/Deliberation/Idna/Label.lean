import Deliberation.Idna.DirectionTable
import Deliberation.Unicode.JoiningTable
import Deliberation.Unicode.Normal
/-! Rules for the labels of names: marks need a character before them, invisible joiners need letters
that they join, and each label runs in one direction. -/

namespace Deliberation.Idna

open Unicode

def marks : Ranges :=
  .ofRows markRows

def dualJoining : Ranges :=
  .ofRows dualJoiningRows

def leftJoining : Ranges :=
  .ofRows leftJoiningRows

def rightJoining : Ranges :=
  .ofRows rightJoiningRows

def transparent : Ranges :=
  .ofRows transparentRows

/-- Whether a character ends a syllable without its vowel, so that the next one may join it. -/
def isVirama (c : Char) : Bool :=
  combiningClass c = 9

/-- Whether the first character that counts is one of some letters. -/
def meets (isLetter : Char → Bool) (text : List Char) : Bool :=
  match text.dropWhile transparent.has with
  | c :: _ => isLetter c
  | [] => false

/-- Whether a character may stand between others, of which those before it are given in reversed
order. All may but for the two joiners. -/
def mayJoin (before : List Char) (c : Char) (rest : List Char) : Bool :=
  if c ≠ '\u200c' ∧ c ≠ '\u200d' then true
  else (before.head?.any isVirama) || (c = '\u200c' &&
    meets (fun d => leftJoining.has d || dualJoining.has d) before &&
    meets (fun d => rightJoining.has d || dualJoining.has d) rest)

/-- Whether all joiners of a text join something behind the given reversed characters. -/
def areJoinersAllowed (before : List Char) : List Char → Bool
  | [] => true
  | c :: rest => mayJoin before c rest && areJoinersAllowed (c :: before) rest

def directions : List (Direction × Ranges) :=
  directionRows.map fun entry => (entry.1, .ofRows entry.2)

def direction (c : Char) : Direction :=
  match directions.find? fun entry => entry.2.has c with
  | some entry => entry.1
  | none => .left

/-- Whether a character makes a rule of the directions in its name. None of ASCII does. -/
def isFromRight (c : Char) : Bool :=
  0x80 ≤ c.toNat && [Direction.right, .arabicLetter, .arabicNumber].contains (direction c)

def common : List Direction :=
  [.europeanNumber, .europeanSeparator, .commonSeparator, .europeanTerminator, .neutral,
    .neutralBoundary, .mark]

/-- Whether a label runs in one direction, which its first character has. Its last one, but for marks,
is a letter that runs that way or a number. Only one kind of numbers runs from right to left. -/
def runsOneWay (label : List Char) : Bool :=
  let all := label.map direction
  let last := (all.reverse.dropWhile (· = .mark)).head?
  match all with
  | [] => true
  | .left :: _ =>
    all.all (fun d => d = .left || common.contains d) &&
      last.any [Direction.left, .europeanNumber].contains
  | first :: _ =>
    (first = .right || first = .arabicLetter) &&
      all.all (fun d => [Direction.right, .arabicLetter, .arabicNumber].contains d ||
        common.contains d) &&
      last.any [Direction.right, .arabicLetter, .europeanNumber, .arabicNumber].contains &&
      !(all.contains .europeanNumber && all.contains .arabicNumber)

end Deliberation.Idna
