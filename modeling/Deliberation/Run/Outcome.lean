import Deliberation.Chain.Record
import Deliberation.Chain.Summary
import Deliberation.Controller.Record
import Deliberation.Run.Session
import Deliberation.Tree.Record
import Deliberation.Tree.Summary
/-! What a finished run leaves: its answer, its totals, and the session that led to them. -/

namespace Deliberation

structure Outcome where
  answer : String
  stopReason : StopReason
  finalStrategy : Strategy
  iterations : UInt32
  errors : UInt32
  usage : Usage
  controller : Controller
  chain : Option Chain
  tree : Option Tree

namespace Session

/-- The best answer of a session that did not finish: the selected path of its tree, the last step of
its chain, or the last output. -/
def fallbackAnswer (s : Session) : String :=
  let output := Text.trimmed s.lastOutput
  match s.workspace with
  | .free => output
  | .chain c =>
    match c.steps.getLast? with
    | some step => step.thought
    | none => output
  | .tree t =>
    match t.selectedPath with
    | [] => output
    | path => " -> ".intercalate (path.map Branch.thought)

def answer (s : Session) : Option Ending → String
  | some (.answered text) => text
  | _ => s.fallbackAnswer

/-- The outcome of a session that stops after a call with some ending, or before a call. -/
def finish (s : Session) (reason : StopReason) (ending : Option Ending) (now : Instant) :
    Outcome where
  answer := s.answer ending
  stopReason := reason
  finalStrategy := s.controller.currentStrategy
  iterations := s.iterations
  errors := s.errors
  usage := s.usage
  controller := s.controller
  chain := match s.workspace with
    | .chain c => some (c.complete now)
    | _ => none
  tree := match s.workspace with
    | .tree t => some (t.complete now)
    | _ => none

end Session

namespace Outcome

def isCompleted (o : Outcome) : Bool :=
  o.stopReason = .completed

def summaryOf (o : Outcome) (controller : String) (chain tree : Option String) : String :=
  "\n\n".intercalate <| [
    "Answer:\n" ++ o.answer,
    "Stopped: " ++ o.stopReason.name ++ " after " ++ toString o.iterations.toNat ++ " iterations (" ++
      toString o.errors.toNat ++ " errors, " ++ toString o.usage.totalTokens.toNat ++ " tokens)",
    controller] ++ chain.toList ++ tree.toList

def summary (o : Outcome) (now : Instant) : String :=
  o.summaryOf (o.controller.summary now) (o.chain.map (·.summary now)) (o.tree.map (·.summary now))

def toJson (o : Outcome) : Json :=
  .object <| [
    ("answer", .string o.answer),
    ("stop_reason", .string o.stopReason.name),
    ("final_strategy", .string o.finalStrategy.name),
    ("iterations", .ofUInt32 o.iterations),
    ("errors", .ofUInt32 o.errors),
    ("usage", o.usage.toJson),
    ("controller", o.controller.toJson)] ++
    Json.optionalMember "chain" Chain.toJson o.chain ++
    Json.optionalMember "tree" Tree.toJson o.tree

def ofJson? (json : Json) : Option Outcome := do
  let slot ← json.slots?
    ["answer", "stop_reason", "final_strategy", "iterations", "errors", "usage", "controller",
      "chain", "tree"]
  let answer ← (slot "answer").required Json.string?
  let stopReason ← (slot "stop_reason").required (Json.name? StopReason.ofName?)
  let finalStrategy ← (slot "final_strategy").required (Json.name? Strategy.ofName?)
  let iterations ← (slot "iterations").required Json.uint32?
  let errors ← (slot "errors").required Json.uint32?
  let usage ← (slot "usage").required Usage.ofJson?
  let controller ← (slot "controller").required Controller.ofJson?
  let chain ← (slot "chain").withDefault none (Json.nullable? Chain.ofJson?)
  let tree ← (slot "tree").withDefault none (Json.nullable? Tree.ofJson?)
  some { answer, stopReason, finalStrategy, iterations, errors, usage, controller, chain, tree }

end Outcome

end Deliberation
