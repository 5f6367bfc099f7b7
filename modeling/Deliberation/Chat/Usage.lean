import Deliberation.Json.Decode
/-! Token counts, and the completion that a backend call gives. -/

namespace Deliberation

structure Usage where
  promptTokens : UInt32 := 0
  completionTokens : UInt32 := 0
  totalTokens : UInt32 := 0
deriving DecidableEq, Repr

namespace Usage

/-- A sum that stays at the greatest number where it would pass it. -/
def cappedAdd (a b : UInt32) : UInt32 :=
  if a.toNat + b.toNat < UInt32.size then a + b else UInt32.ofNat (UInt32.size - 1)

/-- The usage of one call, with the sum of both parts as its total. -/
def ofParts (prompt completion : UInt32) : Usage :=
  ⟨prompt, completion, cappedAdd prompt completion⟩

def add (u v : Usage) : Usage :=
  ⟨cappedAdd u.promptTokens v.promptTokens, cappedAdd u.completionTokens v.completionTokens,
    cappedAdd u.totalTokens v.totalTokens⟩

instance : Add Usage := ⟨add⟩

def toJson (u : Usage) : Json :=
  .object [
    ("prompt_tokens", .ofUInt32 u.promptTokens),
    ("completion_tokens", .ofUInt32 u.completionTokens),
    ("total_tokens", .ofUInt32 u.totalTokens)]

def ofJson? (json : Json) : Option Usage := do
  let slot ← json.slots? ["prompt_tokens", "completion_tokens", "total_tokens"]
  let promptTokens ← (slot "prompt_tokens").withDefault 0 Json.uint32?
  let completionTokens ← (slot "completion_tokens").withDefault 0 Json.uint32?
  let totalTokens ← (slot "total_tokens").withDefault 0 Json.uint32?
  some { promptTokens, completionTokens, totalTokens }

end Usage

/-- The text that a backend call gives, and what it cost where that is known. -/
structure Completion where
  text : String
  usage : Option Usage := none
deriving DecidableEq, Repr

namespace Completion

def toJson (c : Completion) : Json :=
  .object <| ("text", .string c.text) :: Json.optionalMember "usage" Usage.toJson c.usage

def ofJson? (json : Json) : Option Completion := do
  let slot ← json.slots? ["text", "usage"]
  let text ← (slot "text").required Json.string?
  let usage ← (slot "usage").withDefault none (Json.nullable? Usage.ofJson?)
  some { text, usage }

end Completion

end Deliberation
