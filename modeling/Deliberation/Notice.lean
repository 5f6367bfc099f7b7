import Deliberation.Error
import Deliberation.Json.Basic
import Deliberation.Strategy.Basic
/-! Notices: what an operation has to report beside its result. Each has a severity, a message and
named fields. -/

namespace Deliberation

/-- An event worth a line in a log. -/
inductive Notice where
  | unknownStrategy (requested : String)
  | noStrategyGiven
  | escalationsSpent (strategy : Strategy) (maxEscalations : UInt32) (reason : String)
  | branchLimit (maxBranches : UInt64)
  | unknownParent (id : String)
  | depthLimit (depth maxDepth : UInt32)
  | callFailed (strategy : Strategy) (iteration : UInt32) (error : BackendError)
  | callTimedOut (strategy : Strategy) (iteration : UInt32) (milliseconds : Nat)
  | chainRejected (iteration : UInt32) (minSteps : UInt64)
  | noApproaches (iteration : UInt32)
  | retrying (model : String) (retry : UInt32) (milliseconds : UInt64)
  | attemptFailed (model : String) (error : BackendError) (retry : UInt32)
  | failedForGood (model : String) (error : BackendError)
deriving DecidableEq, Repr

namespace Notice

def isError : Notice → Bool
  | .attemptFailed .. | .failedForGood .. => true
  | _ => false

def severity (n : Notice) : String :=
  if n.isError then "ERROR" else "WARN"

def message : Notice → String
  | .unknownStrategy _ => "Unknown strategy name, falling back to balanced"
  | .noStrategyGiven => "No strategy name given, falling back to balanced"
  | .escalationsSpent .. => "Escalation budget exhausted, keeping current strategy"
  | .branchLimit _ => "Branch limit reached, not creating branch"
  | .unknownParent _ => "Parent branch not found, creating root branch"
  | .depthLimit .. => "Depth limit reached, not creating branch"
  | .callFailed .. => "LLM invocation failed"
  | .callTimedOut .. => "LLM invocation timed out"
  | .chainRejected .. => "Chain-of-thought output failed validation"
  | .noApproaches _ => "Tree-of-thought output contained no approaches"
  | .retrying .. => "Retrying chat completion request"
  | .attemptFailed .. => "Chat completion failed"
  | .failedForGood .. => "Chat completion failed permanently"

def fields : Notice → List (String × Json)
  | .unknownStrategy requested =>
    [("requested", .string requested), ("fallback", .string Strategy.balanced.name)]
  | .noStrategyGiven => [("fallback", .string Strategy.balanced.name)]
  | .escalationsSpent strategy maxEscalations reason =>
    [("strategy", .string strategy.name), ("max_escalations", .ofUInt32 maxEscalations),
      ("reason", .string reason)]
  | .branchLimit maxBranches => [("max_branches", .ofUInt64 maxBranches)]
  | .unknownParent id => [("parent_id", .string id)]
  | .depthLimit depth maxDepth => [("depth", .ofUInt32 depth), ("max_depth", .ofUInt32 maxDepth)]
  | .callFailed strategy iteration error =>
    [("strategy", .string strategy.name), ("iteration", .ofUInt32 iteration),
      ("error", .string error.message)]
  | .callTimedOut strategy iteration milliseconds =>
    [("strategy", .string strategy.name), ("iteration", .ofUInt32 iteration),
      ("remaining_ms", .ofNat milliseconds)]
  | .chainRejected iteration minSteps =>
    [("iteration", .ofUInt32 iteration), ("min_steps", .ofUInt64 minSteps)]
  | .noApproaches iteration => [("iteration", .ofUInt32 iteration)]
  | .retrying model retry milliseconds =>
    [("model", .string model), ("retry", .ofUInt32 retry), ("delay_ms", .ofUInt64 milliseconds)]
  | .attemptFailed model error retry =>
    [("model", .string model), ("error", .string error.message), ("retry", .ofUInt32 retry)]
  | .failedForGood model error =>
    [("model", .string model), ("error", .string error.message)]

def toJson (n : Notice) : Json :=
  .object [
    ("level", .string n.severity),
    ("message", .string n.message),
    ("fields", .object n.fields)]

end Notice

/-- A result together with the notices that arose on the way to it, in order. -/
structure Noted (α : Type) where
  value : α
  notices : List Notice := []

end Deliberation
