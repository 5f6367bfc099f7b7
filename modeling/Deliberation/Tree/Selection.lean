import Deliberation.Tree.Basic
/-! Scoring the branches of a tree, selecting the best of them, and the path to the selection. -/

namespace Deliberation

/-- Scores a branch that is still exploring, and keeps a failed one at zero. -/
def Branch.assess (scorer : Scorer) (b : Branch) : Branch :=
  match b.status with
  | .exploring => b.evaluate (scorer b)
  | .failed => { b with score := 0 }
  | _ => b

def Branch.lose (b : Branch) : Branch :=
  if b.status = .evaluated ∨ b.status = .selected then { b with status := .rejected } else b

namespace Tree

def evaluateAll (t : Tree) (scorer : Scorer) : Tree :=
  { t with branches := t.branches.map (Branch.assess scorer) }

def beats (b : Branch) (best : Option (Nat × Float)) : Bool :=
  decide (b.status = .evaluated) && match best with
    | none => true
    | some (_, score) => decide (score < b.score)

/-- The position and score of the best evaluated branch among those from a position on, given the
best so far. A later branch has to be better, so that ties go to the earliest. -/
def bestFrom (best : Option (Nat × Float)) (position : Nat) : List Branch → Option (Nat × Float)
  | [] => best
  | b :: rest =>
    bestFrom (if beats b best then some (position, b.score) else best) (position + 1) rest

def best? (branches : List Branch) : Option Nat :=
  (bestFrom none 0 branches).map Prod.fst

/-- Marks the branch at a position as selected and all others as losers. -/
def mark (winner : Nat) (branches : List Branch) : List Branch :=
  branches.mapIdx fun i b => if i = winner then { b with status := .selected } else b.lose

/-- Scores what has no score and selects the best evaluated branch, if there is one. -/
def select (t : Tree) (scorer : Scorer) : Tree × Option Branch :=
  let scored := t.evaluateAll scorer
  match best? scored.branches with
  | none => (scored, none)
  | some winner =>
    let marked := mark winner scored.branches
    let selected := marked[winner]?
    ({ scored with branches := marked, selectedId := selected.map Branch.id }, selected)

def selected? (t : Tree) : Option Branch :=
  t.selectedId.bind t.get?

/-- A branch and its ancestors, upward. The walk ends at a root or an unknown parent, and takes at
most `steps` steps, so that it ends also where parents form a circle. -/
def ancestry (t : Tree) : Nat → Branch → List Branch
  | 0, b => [b]
  | steps + 1, b =>
    match b.parent.bind t.get? with
    | none => [b]
    | some parent => b :: t.ancestry steps parent

/-- The branches from the root to the selected one; empty where none is selected. -/
def selectedPath (t : Tree) : List Branch :=
  match t.selected? with
  | none => []
  | some b => (t.ancestry t.branches.length b).reverse

end Tree

end Deliberation
