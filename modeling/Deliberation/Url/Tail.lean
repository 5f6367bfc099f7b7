import Deliberation.Text.Blank
/-! What follows the place in an address: a path, a query behind a question mark, and a fragment
behind a number sign. -/

namespace Deliberation.Url

structure Tail where
  path : List Char
  query : Option (List Char)
  fragment : Option (List Char)
deriving DecidableEq, Repr

def endsPath (c : Char) : Bool :=
  c = '?' || c = '#'

/-- What stands before the first mark, and what stands behind it. -/
def cutOff (mark : Char) (text : List Char) : List Char × Option (List Char) :=
  match Text.cut? mark text with
  | some (before, behind) => (before, some behind)
  | none => (text, none)

def marked (mark : Char) (part : Option (List Char)) : List Char :=
  (part.map (mark :: ·)).getD []

def Tail.ofText (text : List Char) : Tail :=
  let (front, fragment) := cutOff '#' text
  let (path, query) := cutOff '?' front
  { path, query, fragment }

def Tail.target (tail : Tail) : List Char :=
  tail.path ++ marked '?' tail.query

def Tail.text (tail : Tail) : List Char :=
  tail.target ++ marked '#' tail.fragment

end Deliberation.Url
