import Deliberation.Notice
import Deliberation.Numeric.Binary64
import Deliberation.Numeric.Overflow
import Deliberation.Text.Lowercase
import Deliberation.Time.Instant
/-! Trees of thought: competing branches in one list, in the order of their creation, each with the
id of its parent. The numbers of branches and of levels are limited when a branch is created. -/

namespace Deliberation

inductive BranchStatus where
  | exploring
  | evaluated
  | selected
  | rejected
  | failed
deriving DecidableEq, Repr

namespace BranchStatus

def all : List BranchStatus :=
  [.exploring, .evaluated, .selected, .rejected, .failed]

def name : BranchStatus → String
  | .exploring => "exploring"
  | .evaluated => "evaluated"
  | .selected => "selected"
  | .rejected => "rejected"
  | .failed => "failed"

def ofName? (text : String) : Option BranchStatus :=
  all.find? fun s => s.name == text

theorem ofName?_name (s : BranchStatus) : ofName? s.name = some s := by
  cases s <;> decide

def parse (text : String) : Except NameError BranchStatus :=
  match ofName? (Text.lowercased text) with
  | some s => .ok s
  | none => .error (.status text)

end BranchStatus

/-- One line of reasoning. Actions and observations go together in pairs. -/
structure Branch where
  id : String
  parent : Option String
  thought : String
  actions : List String
  observations : List String
  status : BranchStatus
  score : Float
  depth : UInt32
  createdAt : Instant
deriving DecidableEq

namespace Branch

def addAction (b : Branch) (action observation : String) : Branch :=
  { b with actions := b.actions ++ [action], observations := b.observations ++ [observation] }

/-- Scores a branch, with the score moved into the unit interval. -/
def evaluate (b : Branch) (score : Float) : Branch :=
  { b with score := Binary64.clampUnit score, status := .evaluated }

def markFailed (b : Branch) : Branch :=
  { b with status := .failed, score := 0 }

end Branch

abbrev Scorer := Branch → Float

/-- Rewards depth and recorded actions, up to a full score. -/
def Scorer.heuristic : Scorer := fun b =>
  let raw := 0.5 + 0.1 * b.depth.toNat.toFloat + 0.05 * Float.ofNat b.actions.length
  if raw < 1 then raw else 1

/-- The branches of a task, with their limits and the branch that is selected. -/
structure Tree where
  task : String
  maxBranches : UInt64
  maxDepth : UInt32
  branches : List Branch
  startedAt : Instant
  completedAt : Option Instant
  selectedId : Option String
deriving DecidableEq

namespace Tree

/-- A tree without branches. Limits of zero are raised to one. -/
def start (task : String) (maxBranches : UInt64) (maxDepth : UInt32) (now : Instant) : Tree where
  task := task
  maxBranches := max maxBranches 1
  maxDepth := max maxDepth 1
  branches := []
  startedAt := now
  completedAt := none
  selectedId := none

def get? (t : Tree) (id : String) : Option Branch :=
  t.branches.find? fun b => b.id == id

def modifyFirst (p : Branch → Bool) (f : Branch → Branch) : List Branch → List Branch
  | [] => []
  | b :: rest => if p b then f b :: rest else b :: modifyFirst p f rest

/-- Changes the first branch with an id. -/
def modify (t : Tree) (id : String) (f : Branch → Branch) : Tree :=
  { t with branches := modifyFirst (fun b => b.id == id) f t.branches }

def children (t : Tree) (id : String) : List Branch :=
  t.branches.filter fun b => b.parent == some id

def hasCapacity (t : Tree) : Bool :=
  t.branches.length < t.maxBranches.toNat

/-- The id of the branch at a position, counted from zero. -/
def idAt (position : Nat) : String :=
  "branch_" ++ toString (position + 1)

def nextBranch (t : Tree) (thought : String) (parent : Option Branch) (now : Instant) :
    Except Overflow Branch :=
  let depth := match parent with
    | some p => fit32 (p.depth.toNat + 1)
    | none => .ok 0
  depth.map fun depth =>
    { id := idAt t.branches.length
      parent := parent.map Branch.id
      thought := thought
      actions := []
      observations := []
      status := .exploring
      score := 0
      depth := depth
      createdAt := now }

/-- Creates a branch under a parent, or as a root where the parent is not known, and puts it at the
end in the form that `grow` gives it. It is refused where the tree has as many branches as it may, or
where it would lie too deep. -/
def createWith (grow : Branch → Branch) (t : Tree) (thought : String) (parentId : Option String)
    (now : Instant) : Except Overflow (Noted (Tree × Option Branch)) :=
  if !t.hasCapacity then .ok ⟨(t, none), [.branchLimit t.maxBranches]⟩
  else
    let parent := parentId.bind t.get?
    let lost := match parentId, parent with
      | some id, none => [Notice.unknownParent id]
      | _, _ => []
    (t.nextBranch thought parent now).map fun branch =>
      if t.maxDepth ≤ branch.depth then
        ⟨(t, none), lost ++ [.depthLimit branch.depth t.maxDepth]⟩
      else ⟨({ t with branches := t.branches ++ [grow branch] }, some (grow branch)), lost⟩

def create : Tree → String → Option String → Instant →
    Except Overflow (Noted (Tree × Option Branch)) :=
  createWith id

/-- Ends the exploration. Only the first end counts. -/
def complete (t : Tree) (now : Instant) : Tree :=
  { t with completedAt := t.completedAt.or (some now) }

/-- The depth of the deepest branch; zero where there is none. -/
def maxDepthReached (t : Tree) : UInt32 :=
  t.branches.foldl (fun depth b => max depth b.depth) 0

end Tree

end Deliberation
