import Deliberation.Text.Blank
import Deliberation.Url.Escape
/-! Paths of URLs. A path is a list of segments; one or two dots are no segment of their own, but
stand for the segments before them and for all but the last of these. -/

namespace Deliberation.Url.Path

def escapes : List Char :=
  " \"#<>?\x60\x7b\x7d".toList

/-- A segment in which escaped points are points. -/
def withPoints : List Char → List Char
  | '%' :: '2' :: 'e' :: rest => '.' :: withPoints rest
  | '%' :: '2' :: 'E' :: rest => '.' :: withPoints rest
  | c :: rest => c :: withPoints rest
  | [] => []

def isHere (segment : List Char) : Bool :=
  withPoints segment = ['.']

def isParent (segment : List Char) : Bool :=
  withPoints segment = ['.', '.']

/-- Whether a segment is the letter of a drive, which has no parent. -/
def isDrive : List Char → Bool
  | [letter, mark] => letter.isAlpha && (mark = ':' || mark = '|')
  | _ => false

/-- Leaves the last segment. The segments stand in reversed order. -/
def parent : List (List Char) → List (List Char)
  | [] => []
  | last :: before => if isDrive last then last :: before else before

/-- Enters a segment that a slash closes. The segments stand in reversed order. -/
def enter (before : List (List Char)) (segment : List Char) : List (List Char) :=
  if isParent segment then parent before
  else if isHere segment then before
  else segment :: before

/-- The segments that remain of some more, given those before them in reversed order. Dots at the
end leave an empty segment. -/
def resolveAfter (before : List (List Char)) : List (List Char) → List (List Char)
  | [] => before.reverse
  | [last] =>
    if isParent last || isHere last then ([] :: enter before last).reverse
    else (last :: before).reverse
  | segment :: rest => resolveAfter (enter before segment) rest

def resolve (segments : List (List Char)) : List (List Char) :=
  resolveAfter [] segments

def segments (isSeparator : Char → Bool) (text : List Char) : List (List Char) :=
  resolve ((Text.parts isSeparator text).map (escape escapes))

def text (segments : List (List Char)) : List Char :=
  segments.flatMap ('/' :: ·)

end Deliberation.Url.Path
