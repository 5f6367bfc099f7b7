import Deliberation.Chat.Usage
/-! The messages of a chat: a request for a completion, and the response to one. -/

namespace Deliberation.Chat

inductive Role where
  | system
  | user
  | assistant
deriving DecidableEq, Repr

namespace Role

def all : List Role :=
  [.system, .user, .assistant]

def name : Role → String
  | .system => "system"
  | .user => "user"
  | .assistant => "assistant"

def ofName? (text : String) : Option Role :=
  all.find? fun r => r.name == text

end Role

structure Message where
  role : Role
  content : String
deriving DecidableEq, Repr

namespace Message

def toJson (m : Message) : Json :=
  .object [("role", .string m.role.name), ("content", .string m.content)]

def ofJson? (json : Json) : Option Message := do
  let slot ← json.slots? ["role", "content"]
  let role ← (slot "role").required (Json.name? Role.ofName?)
  let content ← (slot "content").required Json.string?
  some { role, content }

end Message

/-- A request for a completion. The response is always read whole and never as a stream. -/
structure Request where
  model : String
  messages : List Message
  temperature : Float := 0.7
  maxTokens : UInt32 := 2000
deriving DecidableEq

def Request.toJson (r : Request) : Json :=
  .object [
    ("model", .string r.model),
    ("messages", .ofList Message.toJson r.messages),
    ("temperature", .ofFloat r.temperature),
    ("max_tokens", .ofUInt32 r.maxTokens),
    ("stream", .bool false)]

structure Choice where
  index : UInt32
  role : Option String
  content : Option String
  finishReason : Option String
deriving DecidableEq, Repr

/-- The role and content of a choice, each of which may be missing or `null`. -/
def Choice.messageOfJson? (json : Json) : Option (Option String × Option String) := do
  let slot ← json.slots? ["role", "content"]
  let role ← (slot "role").withDefault none (Json.nullable? Json.string?)
  let content ← (slot "content").withDefault none (Json.nullable? Json.string?)
  some (role, content)

def Choice.ofJson? (json : Json) : Option Choice := do
  let slot ← json.slots? ["index", "message", "finish_reason"]
  let index ← (slot "index").withDefault 0 Json.uint32?
  let (role, content) ← (slot "message").required messageOfJson?
  let finishReason ← (slot "finish_reason").withDefault none (Json.nullable? Json.string?)
  some { index, role, content, finishReason }

structure Response where
  id : Option String
  model : Option String
  choices : List Choice
  usage : Option Usage
deriving DecidableEq, Repr

namespace Response

def ofJson? (json : Json) : Option Response := do
  let slot ← json.slots? ["id", "model", "choices", "usage"]
  let id ← (slot "id").withDefault none (Json.nullable? Json.string?)
  let model ← (slot "model").withDefault none (Json.nullable? Json.string?)
  let choices ← (slot "choices").required (Json.list? Choice.ofJson?)
  let usage ← (slot "usage").withDefault none (Json.nullable? Usage.ofJson?)
  some { id, model, choices, usage }

/-- The completion that a response stands for: the content of its first choice, or nothing. -/
def completion (r : Response) : Completion where
  text := (r.choices.head?.bind Choice.content).getD ""
  usage := r.usage

end Response

end Deliberation.Chat
