import Mathlib.Algebra.Ring.Nat
import Deliberation.Proofs.Overflows
/-! The totals of a run are those of its calls. Every call is counted once, in the one branch that it
takes, and no count reaches the end of its range: the iterations stay below the ceiling of a policy,
and no other count outgrows them. -/

namespace Deliberation

def Cycle.usage? (c : Cycle) : Option Usage :=
  c.result.completion?.bind Completion.usage

def failedStreak (cycles : List Cycle) : Nat :=
  (cycles.reverse.takeWhile fun c => c.result.isFailed).length

def lastText (cycles : List Cycle) : String :=
  ((cycles.filterMap fun c => c.result.completion?).getLast?.map Completion.text).getD ""

theorem failedStreak_concat (past : List Cycle) (c : Cycle) :
    failedStreak (past ++ [c]) = if c.result.isFailed then failedStreak past + 1 else 0 := by
  simp only [failedStreak, List.reverse_concat, List.takeWhile_cons]
  split <;> rfl

theorem failedStreak_le (cycles : List Cycle) : failedStreak cycles ≤ cycles.length := by
  have shorter := (List.takeWhile_prefix (l := cycles.reverse) fun c => c.result.isFailed).length_le
  rwa [List.length_reverse] at shorter

theorem lastText_concat (past : List Cycle) (c : Cycle) :
    lastText (past ++ [c]) = (c.result.completion?.map Completion.text).getD (lastText past) := by
  cases given : c.result.completion? <;> simp [lastText, given]

namespace Usage

end Usage

namespace Session

/-- The totals of a session are those of the calls that it has made, and the controller knows of
them. -/
structure Accounts (given : RunSettings) (past : List Cycle) (t : Session) : Prop where
  settings : t.settings = given
  mode : t.workspace.mode = given.mode
  iterations : t.iterations.toNat = past.length
  errors : t.errors.toNat = past.countP fun c => c.result.isError given.mode given.cotMinSteps
  failures : t.consecutiveFailures.toNat = failedStreak past
  usage : t.usage = (past.filterMap Cycle.usage?).foldl (· + ·) {}
  lastOutput : t.lastOutput = lastText past
  reported : t.controller.metrics.iterationsUsed = t.iterations ∧
    t.controller.metrics.errorsEncountered = t.errors

theorem start_accounts (settings : RunSettings) (catalog : Catalog) (classify : Classifier)
    (task id : String) (now : Instant) :
    Accounts settings [] (start settings catalog classify task id now) where
  settings := rfl
  mode := start_mode ..
  iterations := rfl
  errors := rfl
  failures := rfl
  usage := rfl
  lastOutput := rfl
  reported := by
    simp only [start]
    cases settings.initialStrategy <;> exact ⟨rfl, rfl⟩

variable {clock : Nat → Instant} {given : RunSettings} {past : List Cycle} {t next : Session} {time : Nat}
  {c : Cycle} {ending : Ending}

theorem Makes.reported (made : t.Makes clock time c next ending) :
    next.controller.metrics = next.metrics c.elapsed := by
  rw [made.controller_eq]
  exact Controller.metrics_hear ..

/-- A total that is at most the number of calls can be raised in one more call. -/
theorem Accounts.toNat_succ (h : Accounts given past t) (made : t.Makes clock time c next ending)
    {total : UInt32} (within : total.toNat ≤ past.length) : (total + 1).toNat = total.toNat + 1 := by
  have room := iterations_lt_of_turn_eq_call made.asks
  apply toNat_add_one_of_lt (b := t.controller.currentPolicy.maxIterations)
  rw [UInt32.lt_iff_toNat_lt, h.iterations] at *
  exact Nat.lt_of_le_of_lt within room

theorem Accounts.step (h : Accounts given past t) (made : t.Makes clock time c next ending) :
    Accounts given (past ++ [c]) next := by
  have counts := made.counts
  constructor
  · exact counts.settings.trans h.settings
  · exact counts.mode.trans h.mode
  · rw [counts.iterations, h.toNat_succ made (Nat.le_of_eq h.iterations), h.iterations, List.length_append,
      List.length_singleton]
  · have within := h.errors ▸ List.countP_le_length
    rw [counts.errors, h.mode, h.settings, List.countP_append, List.countP_singleton, ← h.errors]
    split
    · exact h.toNat_succ made within
    · rfl
  · have within := h.failures ▸ failedStreak_le past
    rw [counts.failures, failedStreak_concat, ← h.failures]
    split
    · exact h.toNat_succ made within
    · rfl
  · have same : c.result.completion?.bind Completion.usage = c.usage? := rfl
    rw [counts.usage, h.usage, List.filterMap_append, List.foldl_append, same]
    cases reported : c.usage? <;> simp [reported]
  · rw [counts.lastOutput, h.lastOutput, lastText_concat]
  · rw [made.reported]
    exact ⟨rfl, rfl⟩

end Session

end Deliberation
