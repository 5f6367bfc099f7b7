import Deliberation.Strategy.Basic
import Deliberation.Text.Occurrences
/-! Grading a task by its description, and the strategy that a session starts with at each grade. -/

namespace Deliberation

/-- How hard a task looks. -/
inductive Complexity where
  | simple
  | moderate
  | complex
  | unknown
deriving DecidableEq, Repr

namespace Complexity

def all : List Complexity :=
  [.simple, .moderate, .complex, .unknown]

def name : Complexity → String
  | .simple => "simple"
  | .moderate => "moderate"
  | .complex => "complex"
  | .unknown => "unknown"

def ofName? (text : String) : Option Complexity :=
  all.find? fun l => l.name == text

theorem ofName?_name (l : Complexity) : ofName? l.name = some l := by
  cases l <;> decide

def initialStrategy : Complexity → Strategy
  | .simple => .fast
  | .moderate => .balanced
  | .complex => .deep
  | .unknown => .balanced

end Complexity

abbrev Classifier := String → Complexity

/-- Signals of hard and of easy tasks, in lowercase. -/
structure Keywords where
  complex : List (List Char)
  simple : List (List Char)

namespace Keywords

/-- The keywords of two lists of texts, in lowercase. Empty ones are left out. -/
def ofTexts (complex simple : List String) : Keywords :=
  let normalize := fun texts : List String =>
    (texts.map fun t => Text.lowercase t.toList).filter fun k => !k.isEmpty
  ⟨normalize complex, normalize simple⟩

def standard : Keywords :=
  ofTexts
    ["analyze", "evaluate", "compare", "assess", "research", "comprehensive", "detailed", "thorough",
      "investigate"]
    ["get", "find", "show", "list", "what is", "tell me"]

def count (keywords : List (List Char)) (text : List Char) : Nat :=
  (keywords.map fun
    | [] => 0
    | k :: ks => Text.occurrences k ks text).foldr (· + ·) 0

/-- Grades a task by which kind of keyword it holds more often. -/
def classify (k : Keywords) : Classifier := fun task =>
  let text := Text.lowercase task.toList
  let complex := count k.complex text
  let simple := count k.simple text
  if simple < complex then .complex
  else if complex < simple then .simple
  else .moderate

end Keywords

end Deliberation
