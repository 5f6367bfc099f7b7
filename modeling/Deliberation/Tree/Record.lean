import Deliberation.Json.Decode
import Deliberation.Tree.Basic
/-! The records of trees. -/

namespace Deliberation

namespace Branch

def toJson (b : Branch) : Json :=
  .object [
    ("branch_id", .string b.id),
    ("parent_id", .ofOption .string b.parent),
    ("thought", .string b.thought),
    ("actions", .ofList .string b.actions),
    ("observations", .ofList .string b.observations),
    ("status", .string b.status.name),
    ("score", .ofFloat b.score),
    ("depth", .ofUInt32 b.depth),
    ("created_at", .ofInstant b.createdAt)]

def ofJson? (json : Json) : Option Branch := do
  let slot ← json.slots?
    ["branch_id", "parent_id", "thought", "actions", "observations", "status", "score", "depth",
      "created_at"]
  let id ← (slot "branch_id").required Json.string?
  let parent ← (slot "parent_id").optional Json.string?
  let thought ← (slot "thought").required Json.string?
  let actions ← (slot "actions").required (Json.list? Json.string?)
  let observations ← (slot "observations").required (Json.list? Json.string?)
  let status ← (slot "status").required (Json.name? BranchStatus.ofName?)
  let score ← (slot "score").required Json.float?
  let depth ← (slot "depth").required Json.uint32?
  let createdAt ← (slot "created_at").required Json.instant?
  some { id, parent, thought, actions, observations, status, score, depth, createdAt }

end Branch

namespace Tree

def toJson (t : Tree) : Json :=
  .object [
    ("task_description", .string t.task),
    ("max_branches", .ofUInt64 t.maxBranches),
    ("max_depth", .ofUInt32 t.maxDepth),
    ("branches", .ofList Branch.toJson t.branches),
    ("started_at", .ofInstant t.startedAt),
    ("completed_at", .ofOption .ofInstant t.completedAt),
    ("selected_branch_id", .ofOption .string t.selectedId)]

def ofJson? (json : Json) : Option Tree := do
  let slot ← json.slots?
    ["task_description", "max_branches", "max_depth", "branches", "started_at", "completed_at",
      "selected_branch_id"]
  let task ← (slot "task_description").required Json.string?
  let maxBranches ← (slot "max_branches").required Json.uint64?
  let maxDepth ← (slot "max_depth").required Json.uint32?
  let branches ← (slot "branches").required (Json.list? Branch.ofJson?)
  let startedAt ← (slot "started_at").required Json.instant?
  let completedAt ← (slot "completed_at").optional Json.instant?
  let selectedId ← (slot "selected_branch_id").optional Json.string?
  some { task, maxBranches, maxDepth, branches, startedAt, completedAt, selectedId }

end Tree

end Deliberation
