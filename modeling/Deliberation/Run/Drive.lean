import Deliberation.Run.Outcome
/-! Driving a session against a backend whose replies take time. Only the calls move the clock. A call
that takes longer than the time left for it is cut off there. -/

namespace Deliberation

inductive BackendReply where
  /-- A result after some nanoseconds. -/
  | after (delay : Nat) (result : Except BackendError Completion)
  /-- Nothing in the time of the call. -/
  | never

/-- What a call comes to under its time limit, and when. A reply that takes all of the time left is
still in time. -/
def Call.settle (c : Call) (reply : BackendReply) (elapsed : Nat) : CallResult × Nat :=
  match reply with
  | .never => (.timedOut, elapsed + c.remaining)
  | .after delay result =>
    if c.remaining < delay then (.timedOut, elapsed + c.remaining)
    else match result with
      | .ok completion => (.completed completion, elapsed + delay)
      | .error error => (.failed error, elapsed + delay)

/-- One call of a run: what was asked, what came of it, and the time when it was over. -/
structure Cycle where
  call : Call
  result : CallResult
  elapsed : Nat

/-- A run from some point on: its calls, its notices and its outcome. -/
structure Run where
  cycles : List Cycle
  notices : List Notice
  outcome : Outcome

/-- Why a run breaks off: the time of a policy has no span, or a number has no room in its word. -/
inductive RunError where
  | noSpan
  | overflow
deriving DecidableEq, Repr

/-- What a run has around it: the nanoseconds since its start, the instant that it is, and somebody
who is told of notices. -/
structure Surroundings (m : Type → Type) where
  elapsed : m Nat
  now : m Instant
  tell : List Notice → m Unit

namespace Session

theorem iterations_absorbChain (s : Session) (c : Chain) (text : String) (a : Reply.Assessment)
    (now : Instant) : (s.absorbChain c text a now).value.1.iterations = s.iterations := by
  simp only [absorbChain]
  split
  · rfl
  · split <;> rfl

theorem iterations_absorbTree (s : Session) (t : Tree) (text : String) (a : Reply.Assessment)
    (now : Instant) : (s.absorbTree t text a now).value.1.iterations = s.iterations := by
  simp only [absorbTree]
  split
  · split <;> rfl
  · split
    · rfl
    · split
      · rfl
      · split <;> rfl

theorem iterations_absorbText (s : Session) (text : String) (a : Reply.Assessment) (now : Instant) :
    (s.absorbText text a now).value.1.iterations = s.iterations := by
  simp only [absorbText]
  split
  · rfl
  · exact iterations_absorbChain ..
  · exact iterations_absorbTree ..

theorem iterations_take (s : Session) (call : Call) (result : CallResult) (now : Instant) :
    (s.take call result now).value.1.iterations = s.iterations + 1 := by
  simp only [take]
  split
  · rfl
  · rfl
  · split <;> simp only [iterations_absorbText]

theorem iterations_absorb (s : Session) (call : Call) (result : CallResult) (elapsed : Nat)
    (now : Instant) : (s.absorb call result elapsed now).value.1.iterations = s.iterations + 1 := by
  simp only [absorb]
  split <;> exact iterations_take ..

/-- The room for further calls shrinks with every call that a session makes. -/
theorem room_absorb_lt {s : Session} {elapsed : Nat} {call : Call} (h : s.turn elapsed = .call call)
    (result : CallResult) (later : Nat) (now : Instant) :
    UInt32.size - (s.absorb call result later now).value.1.iterations.toNat <
      UInt32.size - s.iterations.toNat := by
  have hlt := UInt32.lt_iff_toNat_lt.1 (iterations_lt_of_turn_eq_call h)
  have hmax := s.controller.currentPolicy.maxIterations.toNat_lt
  have hone : (1 : UInt32).toNat = 1 := rfl
  rw [iterations_absorb, UInt32.toNat_add, hone, Nat.mod_eq_of_lt (by omega), UInt32.size]
  omega

def driveWith {m : Type → Type} [Monad m] [MonadExceptOf RunError m] (around : Surroundings m)
    (invoke : Call → m CallResult) (s : Session) : m Run := do
  let elapsed ← around.elapsed
  match _h : s.turn elapsed with
  | .noSpan => throw .noSpan
  | .stop reason => return ⟨[], [], s.finish reason none (← around.now)⟩
  | .call call =>
    let result ← invoke call
    let elapsed ← around.elapsed
    let now ← around.now
    let step := s.absorb call result elapsed now
    let cycle : Cycle := ⟨call, result, elapsed⟩
    if step.value.2 = .overflow then throw .overflow
    around.tell step.notices
    match step.value.1.stopAfter? step.value.2 with
    | some reason =>
      return ⟨[cycle], step.notices, step.value.1.finish reason (some step.value.2) now⟩
    | none =>
      let rest ← driveWith around invoke step.value.1
      return ⟨cycle :: rest.cycles, step.notices ++ rest.notices, rest.outcome⟩
termination_by UInt32.size - s.iterations.toNat
decreasing_by exact room_absorb_lt _h ..

end Session

/-- Actions that change a time since the start and a state, and may break a run off. -/
abbrev Simulation (σ : Type) := EStateM RunError (Nat × σ)

def Surroundings.simulated {σ : Type} (clock : Nat → Instant) : Surroundings (Simulation σ) where
  elapsed := return (← get).1
  now := return clock (← get).1
  tell _ := return

/-- A call of a backend with a state of its own. Nothing else moves the time. -/
def Call.simulate {σ : Type} (backend : σ → Call → BackendReply × σ) (call : Call) :
    Simulation σ CallResult := do
  let (elapsed, state) ← get
  let (reply, state) := backend state call
  let (result, elapsed) := call.settle reply elapsed
  set (elapsed, state)
  return result

namespace Session

/-- Drives a session from a time on to its end. The clock gives the instant of a time since the
start, and the backend has a state of its own. -/
def drive {σ : Type} (backend : σ → Call → BackendReply × σ) (clock : Nat → Instant) (s : Session)
    (elapsed : Nat) (state : σ) : Except RunError (Run × σ) :=
  match (s.driveWith (.simulated clock) (Call.simulate backend)).run (elapsed, state) with
  | .ok run (_, state) => .ok (run, state)
  | .error error _ => .error error

end Session

/-- One entry of a script: what a call gives, and the milliseconds that it takes. -/
structure ScriptEntry where
  delayMs : UInt64
  result : Except BackendError Completion

/-- A backend that goes through a script and stays at its last entry. An empty script gives nothing
but errors. -/
def scripted : List ScriptEntry → Call → BackendReply × List ScriptEntry
  | [], _ => (.after 0 (.error (.api 503 "unavailable")), [])
  | [entry], _ => (.after (entry.delayMs.toNat * Span.millisecond) entry.result, [entry])
  | entry :: rest, _ => (.after (entry.delayMs.toNat * Span.millisecond) entry.result, rest)

end Deliberation
