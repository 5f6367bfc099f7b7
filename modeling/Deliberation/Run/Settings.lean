import Deliberation.Config
/-! The settings of a run, and the reasons for which one stops. -/

namespace Deliberation

inductive StopReason where
  | completed
  | iterationCeiling
  | timeout
  | treeExhausted
  | backendUnavailable
deriving DecidableEq, Repr

namespace StopReason

def all : List StopReason :=
  [.completed, .iterationCeiling, .timeout, .treeExhausted, .backendUnavailable]

def name : StopReason → String
  | .completed => "completed"
  | .iterationCeiling => "iteration_ceiling"
  | .timeout => "timeout"
  | .treeExhausted => "tree_exhausted"
  | .backendUnavailable => "backend_unavailable"

def ofName? (text : String) : Option StopReason :=
  all.find? fun r => r.name == text

end StopReason

/-- The settings of a run. Without an initial strategy it starts from the one that fits the task. -/
structure RunSettings where
  mode : Mode := .adaptive
  initialStrategy : Option Strategy := none
  maxEscalations : UInt32 := Controller.defaultMaxEscalations
  maxTokens : UInt32 := 2000
  treeMaxBranches : UInt64 := 5
  treeMaxDepth : UInt32 := 3
  cotMinSteps : UInt64 := 2
  maxConsecutiveFailures : UInt32 := 5
deriving DecidableEq, Repr

def RunSettings.ofConfig (c : Config) : RunSettings :=
  { maxEscalations := c.maxEscalations
    maxTokens := c.maxTokens
    treeMaxBranches := c.treeMaxBranches
    treeMaxDepth := c.treeMaxDepth
    cotMinSteps := c.cotMinSteps }

end Deliberation
