import Deliberation.Chat.Retry
import Deliberation.Run.Drive
/-! A chat endpoint as the backend of a run. The attempts at a call and the waits between them go on as
long as the time of the call lasts. -/

namespace Deliberation.Chat

def Endpoint.completion (e : Endpoint) (prompt : String) (temperature : Float) (maxTokens : UInt32) :
    Request where
  model := e.model
  messages := [⟨.user, prompt⟩]
  temperature := temperature
  maxTokens := maxTokens

/-- A network with deadlines, in nanoseconds since the start of a run. -/
structure Network (m : Type → Type) where
  send : Nat → Http.Request → m Http.Exchange
  wait : Nat → UInt64 → m Unit

def inTime {m : Type → Type} [Monad m] (around : Surroundings m) (deadline : Nat) :
    OptionT m Unit := do
  if deadline ≤ (← around.elapsed) then failure

/-- The connection that a call has until its deadline. Each attempt has a time limit of its own. -/
def Endpoint.line {m : Type → Type} [Monad m] (e : Endpoint) (around : Surroundings m)
    (network : Network m) (request : Except HttpFault Http.Request) (deadline : Nat) :
    Line (OptionT m) where
  attempt := do
    inTime around deadline
    let limit := (← around.elapsed) + e.timeoutMs.toNat * Span.millisecond
    let result ← e.attemptWith (fun request => network.send (min limit deadline) request) request
    inTime around deadline
    return result
  wait milliseconds := network.wait deadline milliseconds
  tell notices := around.tell notices

/-- A call of the endpoint, with as many attempts as the endpoint and the time of the call allow. -/
def Endpoint.invoke {m : Type → Type} [Monad m] [MonadExceptOf RunError m] (e : Endpoint)
    (around : Surroundings m) (network : Network m) (call : Call) : m CallResult := do
  let deadline := (← around.elapsed) + call.remaining
  let content := (e.completion call.prompt.text call.policy.temperature call.maxTokens).toJson
  match ← (converseWith e (e.line around network (e.request content) deadline) 0).run with
  | none => return .timedOut
  | some conversation =>
    match conversation.result with
    | .error _ => throw .overflow
    | .ok (.error error) => return .failed error
    | .ok (.ok response) => return .completed response.completion

/-- A network with a state of its own on which silence lasts until the deadline. A wait takes a
millisecond at least. -/
def Network.simulated {σ : Type} (network : σ → Http.Request → Http.Exchange × σ) :
    Network (Simulation σ) where
  send deadline request := do
    let (elapsed, state) ← get
    let (exchange, state) := network state request
    set (if exchange = .hung then deadline else elapsed, state)
    return exchange
  wait deadline milliseconds := modify fun (elapsed, state) =>
    (min (elapsed + max milliseconds.toNat 1 * Span.millisecond) deadline, state)

def Endpoint.drive {σ : Type} (e : Endpoint) (network : σ → Http.Request → Http.Exchange × σ)
    (clock : Nat → Instant) (s : Session) (state : σ) : Except RunError Run × σ :=
  let around : Surroundings (Simulation σ) := .simulated clock
  match (s.driveWith around (e.invoke around (.simulated network))).run (0, state) with
  | .ok run (_, state) => (.ok run, state)
  | .error error (_, state) => (.error error, state)

end Deliberation.Chat
