import Deliberation.Chat.Exchange
import Deliberation.Notice
import Deliberation.Numeric.Overflow
/-! Retrying a request. Errors that may pass are tried again, as often as the endpoint allows, and
the wait before a retry doubles each time. -/

namespace Deliberation

/-- Whether a later attempt may succeed. Refusals do not pass, but for time and rate limits, and
neither do responses that cannot be used. -/
def BackendError.isTransient : BackendError → Bool
  | .api status _ => !(400 ≤ status && status < 500) || status == 408 || status == 429
  | .invalidResponse _ => false
  | _ => true

namespace Chat

/-- The milliseconds before a retry, counted from one. The power and the product are numbers of 64
bits. -/
def Endpoint.delayBefore (e : Endpoint) (retry : Nat) : Except Overflow UInt64 := do
  let factor ← fit64 (Nat.pow 2 (retry - 1))
  fit64 (e.retryDelayMs.toNat * factor.toNat)

/-- A request with all its attempts. Where the wait before the next one overflows, there is no
result. -/
structure Conversation where
  /-- The errors of the attempts that were followed by a retry. -/
  failures : List BackendError
  result : Except Overflow (Except BackendError Response)
  notices : List Notice

def Conversation.attempts (c : Conversation) : Nat :=
  c.failures.length + 1

inductive Next where
  | wait (milliseconds : UInt64)
  | give (error : BackendError)
deriving DecidableEq, Repr

def Endpoint.next (e : Endpoint) (retries : Nat) (error : BackendError) : Except Overflow Next :=
  if !error.isTransient then .ok (.give error)
  else if retries < e.maxRetries.toNat then (e.delayBefore (retries + 1)).map .wait
  else .ok (.give (.unavailable error.message (UInt32.ofNat (retries + 1))))

theorem Endpoint.lt_of_next_eq_wait {e : Endpoint} {retries : Nat} {error : BackendError}
    {milliseconds : UInt64} (h : e.next retries error = .ok (.wait milliseconds)) :
    retries < e.maxRetries.toNat := by
  unfold Endpoint.next at h
  split at h
  · simp at h
  · split at h
    · assumption
    · simp at h

def Endpoint.failureNotice (e : Endpoint) (retries : Nat) (error : BackendError) : Notice :=
  if error.isTransient then .attemptFailed e.model error (UInt32.ofNat retries)
  else .failedForGood e.model error

/-- A connection to an endpoint: how an attempt is made and a number of milliseconds waited for, and
somebody who is told of notices. -/
structure Line (m : Type → Type) where
  attempt : m (Except BackendError Response)
  wait : UInt64 → m Unit
  tell : List Notice → m Unit

/-- The attempts from one on, after some retries. -/
def converseWith {m : Type → Type} [Monad m] (e : Endpoint) (line : Line m) (retries : Nat) :
    m Conversation := do
  match ← line.attempt with
  | .ok response => return ⟨[], .ok (.ok response), []⟩
  | .error error =>
    let failed := e.failureNotice retries error
    line.tell [failed]
    match _h : e.next retries error with
    | .error overflow => return ⟨[], .error overflow, [failed]⟩
    | .ok (.give final) => return ⟨[], .ok (.error final), [failed]⟩
    | .ok (.wait milliseconds) =>
      let retrying := .retrying e.model (UInt32.ofNat (retries + 1)) milliseconds
      line.tell [retrying]
      line.wait milliseconds
      let rest ← converseWith e line (retries + 1)
      return ⟨error :: rest.failures, rest.result, failed :: retrying :: rest.notices⟩
termination_by e.maxRetries.toNat - retries
decreasing_by
  have := Endpoint.lt_of_next_eq_wait _h
  omega

/-- A connection on which attempts change a state and waits take no time. -/
def Line.timeless {σ : Type} (attempt : σ → Except BackendError Response × σ) : Line (StateM σ) where
  attempt := attempt
  wait _ := return
  tell _ := return

def converseFrom {σ : Type} (e : Endpoint) (attempt : σ → Except BackendError Response × σ)
    (retries : Nat) (state : σ) : Conversation × σ :=
  (converseWith e (.timeless attempt) retries).run state

def converse {σ : Type} (e : Endpoint) (attempt : σ → Except BackendError Response × σ) (state : σ) :
    Conversation × σ :=
  converseFrom e attempt 0 state

end Chat

end Deliberation
