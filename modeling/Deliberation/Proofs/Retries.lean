import Mathlib.Algebra.Group.Nat.Defs
import Mathlib.Logic.Function.Iterate
import Deliberation.Chat.Retry
/-! Requests that are tried again. The attempts go on to the first result that settles the request, as
long as there are retries left, and the wait before each retry is twice the wait before the last one. -/

namespace Deliberation

/-- Errors that no later attempt mends: responses that cannot be used, and refusals that are not about
time or rates. -/
def BackendError.IsPermanent : BackendError → Prop
  | .invalidResponse _ => True
  | .api status _ =>
    400 ≤ status.toNat ∧ status.toNat ≤ 499 ∧ status.toNat ≠ 408 ∧ status.toNat ≠ 429
  | _ => False

theorem BackendError.isTransient_eq_false_iff {error : BackendError} :
    error.isTransient = false ↔ error.IsPermanent := by
  cases error with
  | invalidResponse => exact iff_of_true rfl trivial
  | unavailable | timeout | http => exact iff_of_false (Ne.symm Bool.false_ne_true) not_false
  | api status message =>
    simp only [isTransient, IsPermanent, Bool.or_eq_false_iff, Bool.not_eq_false', Bool.and_eq_true,
      decide_eq_true_eq, beq_eq_false_iff_ne, ne_eq, ← UInt16.toNat_inj, UInt16.le_iff_toNat_le,
      UInt16.lt_iff_toNat_lt]
    simp only [UInt16.reduceToNat]
    omega

def Notice.wait? : Notice → Option (Nat × Nat)
  | .retrying _ retry milliseconds => some (retry.toNat, milliseconds.toNat)
  | _ => none

namespace Chat

/-- A result after which a request is not tried again, whatever retries are left. -/
def Settles : Except BackendError Response → Prop
  | .ok _ => True
  | .error error => error.IsPermanent

def Conversation.waits (c : Conversation) : List (Nat × Nat) :=
  c.notices.filterMap Notice.wait?

def Conversation.behind (failures : List BackendError) (notices : List Notice) (c : Conversation) :
    Conversation :=
  ⟨failures ++ c.failures, c.result, notices ++ c.notices⟩

section
variable {σ : Type} (attempt : σ → Except BackendError Response × σ) (state : σ)

def stateAfter (count : Nat) : σ :=
  (fun state => (attempt state).2)^[count] state

/-- The result of an attempt, counted from zero. -/
def resultAt (place : Nat) : Except BackendError Response :=
  (attempt (stateAfter attempt state place)).1

/-- A conversation that has made some retries: so many attempts have failed before the last one, there
was a wait before each retry, and the state is that after the attempts and no more. -/
structure Conversation.Retries (e : Endpoint) (retries : Nat) (c : Conversation) (final : σ) : Prop where
  attempts : c.attempts = retries + 1
  failures : c.failures.map Except.error = (List.range retries).map (resultAt attempt state)
  waits : c.waits = (List.range retries).map fun i => (i + 1, e.retryDelayMs.toNat * 2 ^ i)
  final : final = stateAfter attempt state (retries + 1)

end

/-- Whether the wait before a retry has room in its words, where `i` retries came before. The power and its
product with the first wait each have a limit. -/
def Endpoint.Fits (e : Endpoint) (i : Nat) : Prop :=
  2 ^ i < 2 ^ 64 ∧ e.retryDelayMs.toNat * 2 ^ i < 2 ^ 64

instance (e : Endpoint) (i : Nat) : Decidable (e.Fits i) :=
  inferInstanceAs (Decidable (_ ∧ _))

def Endpoint.wait (e : Endpoint) (i : Nat) : UInt64 :=
  UInt64.ofNat (e.retryDelayMs.toNat * 2 ^ i)

section
variable {e : Endpoint} {retries : Nat} {error : BackendError}

theorem Endpoint.toNat_wait (fits : e.Fits retries) :
    (e.wait retries).toNat = e.retryDelayMs.toNat * 2 ^ retries :=
  UInt64.toNat_ofNat_of_lt' fits.2

theorem Endpoint.delayBefore_of_power (power : 2 ^ retries < 2 ^ 64) :
    e.delayBefore (retries + 1) = fit64 (e.retryDelayMs.toNat * 2 ^ retries) := by
  have powered : fit64 (Nat.pow 2 (retries + 1 - 1)) = .ok (UInt64.ofNat (2 ^ retries)) := fit64_of_lt power
  have factor : (UInt64.ofNat (2 ^ retries)).toNat = 2 ^ retries := UInt64.toNat_ofNat_of_lt' power
  rw [delayBefore, powered]
  exact congrArg (fun n => fit64 (e.retryDelayMs.toNat * n)) factor

theorem Endpoint.delayBefore_of_fits (fits : e.Fits retries) :
    e.delayBefore (retries + 1) = .ok (e.wait retries) :=
  (delayBefore_of_power fits.1).trans (fit64_of_lt fits.2)

theorem Endpoint.delayBefore_of_not_fits (overflows : ¬e.Fits retries) :
    e.delayBefore (retries + 1) = .error {} := by
  by_cases power : 2 ^ retries < 2 ^ 64
  · rw [delayBefore_of_power power]
    exact fit64_of_le (Nat.not_lt.mp fun product => overflows ⟨power, product⟩)
  · have powered : fit64 (Nat.pow 2 (retries + 1 - 1)) = .error {} := fit64_of_le (Nat.le_of_not_lt power)
    rw [delayBefore, powered]
    rfl

theorem Endpoint.next_of_permanent (permanent : error.IsPermanent) :
    e.next retries error = .ok (.give error) := by
  simp only [next, BackendError.isTransient_eq_false_iff.mpr permanent, Bool.not_false, if_true]

theorem Endpoint.next_of_room (transient : ¬error.IsPermanent) (room : retries < e.maxRetries.toNat) :
    e.next retries error = (e.delayBefore (retries + 1)).map .wait := by
  rw [← BackendError.isTransient_eq_false_iff, Bool.not_eq_false] at transient
  simp only [next, transient, room, Bool.not_true, Bool.false_eq_true, if_true, if_false]

theorem Endpoint.next_of_spent (transient : ¬error.IsPermanent) (spent : e.maxRetries.toNat ≤ retries) :
    e.next retries error = .ok (.give (.unavailable error.message (UInt32.ofNat (retries + 1)))) := by
  rw [← BackendError.isTransient_eq_false_iff, Bool.not_eq_false] at transient
  simp only [next, transient, Nat.not_lt.mpr spent, Bool.not_true, Bool.false_eq_true, if_false]

theorem wait?_failureNotice : (e.failureNotice retries error).wait? = none := by
  unfold Endpoint.failureNotice
  split <;> rfl

def Endpoint.retryNotices (e : Endpoint) (retries : Nat) (error : BackendError) : List Notice :=
  [e.failureNotice retries error, .retrying e.model (UInt32.ofNat (retries + 1)) (e.wait retries)]

theorem waits_retryNotices (room : retries < e.maxRetries.toNat) (fits : e.Fits retries) :
    (e.retryNotices retries error).filterMap Notice.wait? =
      [(retries + 1, e.retryDelayMs.toNat * 2 ^ retries)] := by
  have number : (UInt32.ofNat (retries + 1)).toNat = retries + 1 :=
    UInt32.toNat_ofNat_of_lt' (Nat.lt_of_le_of_lt room e.maxRetries.toNat_lt)
  have announced : (Notice.retrying e.model (UInt32.ofNat (retries + 1)) (e.wait retries)).wait? =
      some (retries + 1, e.retryDelayMs.toNat * 2 ^ retries) := by
    rw [Notice.wait?, number, Endpoint.toNat_wait fits]
  rw [Endpoint.retryNotices, List.filterMap_cons_none wait?_failureNotice,
    List.filterMap_cons_some announced, List.filterMap_nil]

end

section
variable {σ : Type} {e : Endpoint} {attempt : σ → Except BackendError Response × σ} {retries : Nat}
  {state next : σ} {error : BackendError}

theorem run_bind_of_run_eq {α β : Type} {x : StateM σ α} {f : α → StateM σ β} {a : α}
    (step : x.run state = (a, next)) : (x >>= f).run state = (f a).run next := by
  rw [StateT.run_bind, step]
  rfl

theorem converseFrom_of_ok {response : Response} (made : attempt state = (.ok response, next)) :
    converseFrom e attempt retries state = (⟨[], .ok (.ok response), []⟩, next) := by
  rw [converseFrom, converseWith, run_bind_of_run_eq (x := (Line.timeless attempt).attempt) made]
  rfl

theorem converseFrom_of_give {final : BackendError} (made : attempt state = (.error error, next))
    (given : e.next retries error = .ok (.give final)) :
    converseFrom e attempt retries state =
      (⟨[], .ok (.error final), [e.failureNotice retries error]⟩, next) := by
  rw [converseFrom, converseWith, run_bind_of_run_eq (x := (Line.timeless attempt).attempt) made]
  dsimp only
  generalize e.next retries error = sequel at given ⊢
  subst given
  rfl

/-- There is no result where the wait before the next attempt has no room. -/
theorem converseFrom_of_overflow (made : attempt state = (.error error, next))
    (transient : ¬error.IsPermanent) (room : retries < e.maxRetries.toNat) (overflows : ¬e.Fits retries) :
    converseFrom e attempt retries state = (⟨[], .error {}, [e.failureNotice retries error]⟩, next) := by
  have stuck : e.next retries error = .error {} := by
    rw [Endpoint.next_of_room transient room, Endpoint.delayBefore_of_not_fits overflows]
    rfl
  rw [converseFrom, converseWith, run_bind_of_run_eq (x := (Line.timeless attempt).attempt) made]
  dsimp only
  generalize e.next retries error = sequel at stuck ⊢
  subst stuck
  rfl

/-- An attempt that does not settle its request goes before a retry while there is one left. -/
theorem converseFrom_of_room (made : attempt state = (.error error, next))
    (transient : ¬error.IsPermanent) (room : retries < e.maxRetries.toNat) (fits : e.Fits retries) :
    converseFrom e attempt retries state =
      ((converseFrom e attempt (retries + 1) next).1.behind [error] (e.retryNotices retries error),
        (converseFrom e attempt (retries + 1) next).2) := by
  have waits : e.next retries error = .ok (.wait (e.wait retries)) := by
    rw [Endpoint.next_of_room transient room, Endpoint.delayBefore_of_fits fits]
    rfl
  conv => lhs; rw [converseFrom, converseWith, run_bind_of_run_eq (x := (Line.timeless attempt).attempt) made]
  dsimp only
  generalize e.next retries error = sequel at waits ⊢
  subst waits
  rfl

/-- A result that settles its request is given back as it is. -/
theorem converseFrom_of_settles (e : Endpoint) (retries : Nat) (settles : Settles (attempt state).1) :
    ∃ notices, notices.filterMap Notice.wait? = [] ∧
      converseFrom e attempt retries state =
        (⟨[], .ok (attempt state).1, notices⟩, (attempt state).2) := by
  cases made : attempt state with
  | mk result next =>
    rw [made] at settles
    cases result with
    | ok response => exact ⟨[], rfl, converseFrom_of_ok made⟩
    | error error =>
      refine ⟨[e.failureNotice retries error], by simp [wait?_failureNotice], ?_⟩
      exact converseFrom_of_give made (Endpoint.next_of_permanent settles)

/-- The error of the last attempt that was left is wrapped. -/
theorem converseFrom_of_spent (made : attempt state = (.error error, next))
    (transient : ¬error.IsPermanent) (spent : e.maxRetries.toNat ≤ retries) :
    ∃ notices, notices.filterMap Notice.wait? = [] ∧
      converseFrom e attempt retries state =
        (⟨[], .ok (.error (.unavailable error.message (UInt32.ofNat (retries + 1)))), notices⟩, next) :=
  ⟨[e.failureNotice retries error], by simp [wait?_failureNotice],
    converseFrom_of_give made (Endpoint.next_of_spent transient spent)⟩

theorem exists_error_of_not_settles (unsettled : ¬Settles (attempt state).1) :
    ∃ error, attempt state = (.error error, (attempt state).2) ∧ ¬error.IsPermanent := by
  cases made : attempt state with
  | mk result next =>
    rw [made] at unsettled
    cases result with
    | ok => exact absurd trivial unsettled
    | error error => exact ⟨error, rfl, unsettled⟩

end

section
variable {σ : Type} {e : Endpoint} {attempt : σ → Except BackendError Response × σ} {state : σ}

theorem stateAfter_succ (count : Nat) :
    stateAfter attempt (attempt state).2 count = stateAfter attempt state (count + 1) :=
  rfl

theorem stateAfter_succ_eq (count : Nat) :
    stateAfter attempt state (count + 1) = (attempt (stateAfter attempt state count)).2 :=
  Function.iterate_succ_apply' ..

/-- The attempts that settle nothing come first, with the waits between them. -/
theorem converseFrom_after_failures {retries count : Nat}
    (room : retries + count ≤ e.maxRetries.toNat) (fits : ∀ i < count, e.Fits (retries + i))
    (unsettled : ∀ i < count, ¬Settles (resultAt attempt state i)) :
    ∃ failures notices,
      failures.map Except.error = (List.range count).map (resultAt attempt state) ∧
      notices.filterMap Notice.wait? = (List.range count).map (fun i =>
        (retries + i + 1, e.retryDelayMs.toNat * 2 ^ (retries + i))) ∧
      converseFrom e attempt retries state =
        ((converseFrom e attempt (retries + count) (stateAfter attempt state count)).1.behind failures
          notices,
          (converseFrom e attempt (retries + count) (stateAfter attempt state count)).2) := by
  induction count generalizing retries state with
  | zero => exact ⟨[], [], rfl, rfl, rfl⟩
  | succ count ih =>
    obtain ⟨error, made, transient⟩ := exists_error_of_not_settles (unsettled 0 (Nat.succ_pos count))
    have made : attempt state = (.error error, (attempt state).2) := made
    have below : retries < e.maxRetries.toNat := by omega
    have onward : retries + 1 + count ≤ e.maxRetries.toNat := by omega
    have places (i : Nat) : retries + 1 + i = retries + (i + 1) := by omega
    have first : e.Fits retries := fits 0 (Nat.succ_pos count)
    have further : ∀ i < count, e.Fits (retries + 1 + i) := fun i inside =>
      (places i).symm ▸ fits (i + 1) (Nat.succ_lt_succ inside)
    have later : ∀ i < count, ¬Settles (resultAt attempt (attempt state).2 i) :=
      fun i inside => unsettled (i + 1) (Nat.succ_lt_succ inside)
    obtain ⟨failures, notices, failed, waited, rest⟩ := ih onward further later
    refine ⟨error :: failures, e.retryNotices retries error ++ notices, ?_, ?_, ?_⟩
    · rw [List.range_succ_eq_map, List.map_cons, List.map_cons, List.map_map, failed]
      exact congrArg (· :: _) (congrArg Prod.fst made).symm
    · rw [List.filterMap_append, waits_retryNotices below first, waited, List.range_succ_eq_map,
        List.map_cons, List.map_map]
      simp only [places]
      rfl
    · rw [converseFrom_of_room made transient below first, rest, places, stateAfter_succ]
      rfl

section
variable {retries : Nat} (room : retries ≤ e.maxRetries.toNat) (fits : ∀ i < retries, e.Fits i)
include room fits

/-- After attempts that settle nothing, one more without a retry behind it ends the conversation. -/
theorem converse_of_last {result : Except Overflow (Except BackendError Response)} {notices : List Notice}
    (unsettled : ∀ i < retries, ¬Settles (resultAt attempt state i))
    (quiet : notices.filterMap Notice.wait? = [])
    (last : converseFrom e attempt retries (stateAfter attempt state retries) =
      (⟨[], result, notices⟩, stateAfter attempt state (retries + 1))) :
    (converse e attempt state).1.result = result ∧
      (converse e attempt state).1.Retries attempt state e retries (converse e attempt state).2 := by
  have from_start : 0 + retries ≤ e.maxRetries.toNat := (Nat.zero_add retries).symm ▸ room
  have from_first : ∀ i < retries, e.Fits (0 + i) := fun i inside => (Nat.zero_add i).symm ▸ fits i inside
  obtain ⟨failures, before, failed, waited, whole⟩ :=
    converseFrom_after_failures from_start from_first unsettled
  rw [Nat.zero_add, last] at whole
  have counted : failures.length = retries := by simpa using congrArg List.length failed
  rw [converse, whole]
  refine ⟨rfl, ?_, ?_, ?_, rfl⟩
  · rw [Conversation.attempts, Conversation.behind, List.append_nil, counted]
  · rw [Conversation.behind, List.append_nil, failed]
  · rw [Conversation.waits, Conversation.behind, List.filterMap_append, waited, quiet, List.append_nil]
    simp only [Nat.zero_add]

theorem converse_of_settles (unsettled : ∀ i < retries, ¬Settles (resultAt attempt state i))
    (settles : Settles (resultAt attempt state retries)) :
    (converse e attempt state).1.result = .ok (resultAt attempt state retries) ∧
      (converse e attempt state).1.Retries attempt state e retries (converse e attempt state).2 := by
  obtain ⟨notices, quiet, last⟩ := converseFrom_of_settles e retries settles
  rw [← stateAfter_succ_eq] at last
  exact converse_of_last room fits unsettled quiet last

end

theorem converse_of_spent (fits : ∀ i < e.maxRetries.toNat, e.Fits i)
    (unsettled : ∀ i ≤ e.maxRetries.toNat, ¬Settles (resultAt attempt state i)) :
    (converse e attempt state).1.Retries attempt state e e.maxRetries.toNat (converse e attempt state).2 ∧
      ∃ error, resultAt attempt state e.maxRetries.toNat = .error error ∧
        (converse e attempt state).1.result =
          .ok (.error (.unavailable error.message (UInt32.ofNat (e.maxRetries.toNat + 1)))) := by
  obtain ⟨error, made, transient⟩ := exists_error_of_not_settles (unsettled _ (Nat.le_refl _))
  obtain ⟨notices, quiet, last⟩ := converseFrom_of_spent made transient (Nat.le_refl _)
  rw [← stateAfter_succ_eq] at last
  obtain ⟨given, retried⟩ := converse_of_last (Nat.le_refl _) fits
    (fun i before => unsettled i (Nat.le_of_lt before)) quiet last
  exact ⟨retried, error, congrArg Prod.fst made, given⟩

/-- A wait without room ends a conversation after the attempt before it. -/
theorem converse_of_overflow {retries : Nat} (room : retries < e.maxRetries.toNat)
    (fits : ∀ i < retries, e.Fits i) (overflows : ¬e.Fits retries)
    (unsettled : ∀ i ≤ retries, ¬Settles (resultAt attempt state i)) :
    (converse e attempt state).1.result = .error {} ∧
      (converse e attempt state).1.Retries attempt state e retries (converse e attempt state).2 := by
  obtain ⟨error, made, transient⟩ := exists_error_of_not_settles (unsettled _ (Nat.le_refl _))
  have last := converseFrom_of_overflow made transient room overflows
  rw [← stateAfter_succ_eq] at last
  exact converse_of_last (Nat.le_of_lt room) fits (fun i before => unsettled i (Nat.le_of_lt before))
    (by simp [wait?_failureNotice]) last

end

end Chat

end Deliberation
