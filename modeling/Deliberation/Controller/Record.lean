import Deliberation.Controller.Basic
/-! The records of sessions. A record leaves out the catalog; a session read from one is on the
built-in catalog until another one is attached. -/

namespace Deliberation

namespace Metrics

def toJson (m : Metrics) : Json :=
  .object [
    ("iterations_used", .ofUInt32 m.iterationsUsed),
    ("time_elapsed", .ofFloat m.timeElapsed),
    ("errors_encountered", .ofUInt32 m.errorsEncountered),
    ("progress_score", .ofFloat m.progress),
    ("confidence_score", .ofFloat m.confidence)]

def ofJson? (json : Json) : Option Metrics := do
  let slot ← json.slots?
    ["iterations_used", "time_elapsed", "errors_encountered", "progress_score", "confidence_score"]
  let iterationsUsed ← (slot "iterations_used").required Json.uint32?
  let timeElapsed ← (slot "time_elapsed").required Json.float?
  let errorsEncountered ← (slot "errors_encountered").required Json.uint32?
  let progress ← (slot "progress_score").required Json.float?
  let confidence ← (slot "confidence_score").required Json.float?
  some { iterationsUsed, timeElapsed, errorsEncountered, progress, confidence }

end Metrics

namespace Transition

def toJson (t : Transition) : Json :=
  .object [
    ("from_strategy", .string t.source.name),
    ("to_strategy", .string t.target.name),
    ("reason", .string t.reason),
    ("iteration", .ofUInt32 t.iteration),
    ("timestamp", .ofInstant t.timestamp)]

def ofJson? (json : Json) : Option Transition := do
  let slot ← json.slots? ["from_strategy", "to_strategy", "reason", "iteration", "timestamp"]
  let source ← (slot "from_strategy").required (Json.name? Strategy.ofName?)
  let target ← (slot "to_strategy").required (Json.name? Strategy.ofName?)
  let reason ← (slot "reason").required Json.string?
  let iteration ← (slot "iteration").required Json.uint32?
  let timestamp ← (slot "timestamp").required Json.instant?
  some { source, target, reason, iteration, timestamp }

end Transition

namespace Controller

def toJson (c : Controller) : Json :=
  .object [
    ("session_id", .string c.sessionId),
    ("task_description", .string c.task),
    ("complexity_estimate", .string c.complexity.name),
    ("initial_strategy", .string c.initialStrategy.name),
    ("current_strategy", .string c.currentStrategy.name),
    ("max_escalations", .ofUInt32 c.maxEscalations),
    ("escalation_count", .ofUInt32 c.escalationCount),
    ("transitions", .ofList Transition.toJson c.transitions),
    ("metrics", c.metrics.toJson),
    ("started_at", .ofInstant c.startedAt),
    ("current_policy", c.currentPolicy.toJson)]

def ofJson? (json : Json) : Option Controller := do
  let slot ← json.slots?
    ["session_id", "task_description", "complexity_estimate", "initial_strategy",
      "current_strategy", "max_escalations", "escalation_count", "transitions", "metrics",
      "started_at", "current_policy"]
  let sessionId ← (slot "session_id").required Json.string?
  let task ← (slot "task_description").required Json.string?
  let complexity ← (slot "complexity_estimate").required (Json.name? Complexity.ofName?)
  let initialStrategy ← (slot "initial_strategy").required (Json.name? Strategy.ofName?)
  let currentStrategy ← (slot "current_strategy").required (Json.name? Strategy.ofName?)
  let maxEscalations ← (slot "max_escalations").required Json.uint32?
  let escalationCount ← (slot "escalation_count").required Json.uint32?
  let transitions ← (slot "transitions").required (Json.list? Transition.ofJson?)
  let metrics ← (slot "metrics").required Metrics.ofJson?
  let startedAt ← (slot "started_at").required Json.instant?
  let currentPolicy ← (slot "current_policy").required Policy.ofJson?
  some {
    sessionId, task, complexity, initialStrategy, currentStrategy, maxEscalations,
    escalationCount, transitions, metrics, startedAt, currentPolicy, catalog := Catalog.builtin }

end Controller

end Deliberation
