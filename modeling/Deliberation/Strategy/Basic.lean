import Deliberation.Text.Blank
import Deliberation.Text.Lowercase
/-! The seven reasoning strategies and their names. -/

namespace Deliberation

inductive NameError where
  | strategy (text : String)
  | mode (text : String)
  | status (text : String)
deriving DecidableEq, Repr

def NameError.message : NameError → String
  | .strategy text => "Unknown strategy: " ++ text
  | .mode text => "Unknown reasoning mode: " ++ text
  | .status text => "Unknown branch status: " ++ text

/-- How a task is reasoned about: from a single quick pass to a search among approaches. -/
inductive Strategy where
  | fast
  | balanced
  | deep
  | creative
  | cotExplicit
  | treeOfThought
  | adaptive
deriving DecidableEq, Repr

namespace Strategy

def all : List Strategy :=
  [.fast, .balanced, .deep, .creative, .cotExplicit, .treeOfThought, .adaptive]

theorem mem_all (s : Strategy) : s ∈ all := by
  cases s <;> simp [all]

def name : Strategy → String
  | .fast => "fast"
  | .balanced => "balanced"
  | .deep => "deep"
  | .creative => "creative"
  | .cotExplicit => "cot_explicit"
  | .treeOfThought => "tree_of_thought"
  | .adaptive => "adaptive"

def ofName? (text : String) : Option Strategy :=
  all.find? fun s => s.name == text

theorem ofName?_name (s : Strategy) : ofName? s.name = some s := by
  cases s <;> decide

/-- The form in which names are compared: trimmed, in lowercase, with underscores for hyphens. -/
def normalize (text : String) : String :=
  String.ofList ((Text.lowercase (Text.trim text.toList)).map fun c => if c = '-' then '_' else c)

def parse (text : String) : Except NameError Strategy :=
  match ofName? (normalize text) with
  | some s => .ok s
  | none => .error (.strategy text)

/-- The strategy that an escalation moves to. The last rung leads back to itself. -/
def escalationTarget : Strategy → Strategy
  | .fast => .balanced
  | .balanced => .deep
  | .deep => .treeOfThought
  | .treeOfThought => .treeOfThought
  | .cotExplicit => .treeOfThought
  | .creative => .deep
  | .adaptive => .deep

end Strategy

inductive Mode where
  | adaptive
  | chain
  | tree
deriving DecidableEq, Repr

namespace Mode

def all : List Mode :=
  [.adaptive, .chain, .tree]

def name : Mode → String
  | .adaptive => "adaptive"
  | .chain => "chain"
  | .tree => "tree"

def ofName? (text : String) : Option Mode :=
  all.find? fun m => m.name == text

def parse (text : String) : Except NameError Mode :=
  match ofName? (Text.lowercased text) with
  | some m => .ok m
  | none => .error (.mode text)

end Mode

end Deliberation
