import Deliberation.Error
import Deliberation.Json.Decode
import Deliberation.Strategy.Basic
import Deliberation.Time.Span
/-! Policies: the loop parameters of a strategy, and what makes them valid. -/

namespace Deliberation

/-- The parameters under which a strategy calls its backend. -/
structure Policy where
  strategy : Strategy
  maxIterations : UInt32
  temperature : Float
  timeoutSeconds : Float
  description : String
deriving DecidableEq

inductive PolicyFault where
  | noIterations
  | temperature
  | timeout
deriving DecidableEq, Repr

def PolicyFault.reason : PolicyFault → String
  | .noIterations => "max_iterations must be greater than 0"
  | .temperature => "temperature must be within [0, 1]"
  | .timeout => "timeout_seconds must be greater than 0"

namespace Policy

/-- The first fault of a policy. It needs an iteration, a temperature in the unit interval, and a
positive and finite time. A NaN is in no range. -/
def fault? (p : Policy) : Option PolicyFault :=
  if p.maxIterations = 0 then some .noIterations
  else if ¬(0 ≤ p.temperature ∧ p.temperature ≤ 1) then some .temperature
  else if ¬(p.timeoutSeconds.isFinite ∧ 0 < p.timeoutSeconds) then some .timeout
  else none

def validated (p : Policy) : Except CatalogError Policy :=
  match p.fault? with
  | none => .ok p
  | some fault => .error (.invalidPolicy p.strategy.name fault.reason)

/-- The time budget in nanoseconds. There is none from `2 ^ 64` seconds on. -/
def budget? (p : Policy) : Option Nat :=
  Span.ofSeconds? p.timeoutSeconds

def toJson (p : Policy) : Json :=
  .object [
    ("name", .string p.strategy.name),
    ("max_iterations", .ofUInt32 p.maxIterations),
    ("temperature", .ofFloat p.temperature),
    ("timeout_seconds", .ofFloat p.timeoutSeconds),
    ("description", .string p.description)]

def ofJson? (json : Json) : Option Policy := do
  let slot ← json.slots? ["name", "max_iterations", "temperature", "timeout_seconds", "description"]
  let strategy ← (slot "name").required (Json.name? Strategy.ofName?)
  let maxIterations ← (slot "max_iterations").required Json.uint32?
  let temperature ← (slot "temperature").required Json.float?
  let timeoutSeconds ← (slot "timeout_seconds").required Json.float?
  let description ← (slot "description").required Json.string?
  some { strategy, maxIterations, temperature, timeoutSeconds, description }

end Policy

end Deliberation
