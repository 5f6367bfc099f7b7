import Deliberation.Chain.Basic
import Deliberation.Json.Decode
/-! The records of chains. -/

namespace Deliberation

namespace Step

def toJson (s : Step) : Json :=
  .object <| [("step_number", .ofUInt32 s.number), ("thought", .string s.thought)] ++
    Json.optionalMember "action" .string s.action ++
    Json.optionalMember "observation" .string s.observation ++
    [("confidence", .ofFloat s.confidence), ("timestamp", .ofInstant s.timestamp)]

def ofJson? (json : Json) : Option Step := do
  let slot ← json.slots?
    ["step_number", "thought", "action", "observation", "confidence", "timestamp"]
  let number ← (slot "step_number").required Json.uint32?
  let thought ← (slot "thought").required Json.string?
  let action ← (slot "action").optional Json.string?
  let observation ← (slot "observation").optional Json.string?
  let confidence ← (slot "confidence").required Json.float?
  let timestamp ← (slot "timestamp").required Json.instant?
  some { number, thought, action, observation, confidence, timestamp }

end Step

namespace Chain

def toJson (c : Chain) : Json :=
  .object [
    ("task_description", .string c.task),
    ("steps", .ofList Step.toJson c.steps),
    ("started_at", .ofInstant c.startedAt),
    ("completed_at", .ofOption .ofInstant c.completedAt)]

def ofJson? (json : Json) : Option Chain := do
  let slot ← json.slots? ["task_description", "steps", "started_at", "completed_at"]
  let task ← (slot "task_description").required Json.string?
  let steps ← (slot "steps").required (Json.list? Step.ofJson?)
  let startedAt ← (slot "started_at").required Json.instant?
  let completedAt ← (slot "completed_at").optional Json.instant?
  some { task, steps, startedAt, completedAt }

end Chain

end Deliberation
