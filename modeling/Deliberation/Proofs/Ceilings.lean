import Deliberation.Proofs.Budgets
import Deliberation.Proofs.Listings
import Deliberation.Proofs.Progress
import Deliberation.Proofs.Stopping
/-! Giving up at a ceiling. The rule of escalation has limits of its own, three iterations for the fast
strategy and ten for the balanced one, while the ceilings come from the catalog. Where the ceilings leave
room for the limits, no run stops at a ceiling of these two without progress or before its escalations are
spent. A lower ceiling can come first, and so can a ceiling that a run has passed before it moves to the
strategy. -/

namespace Deliberation

/-- A run has stopped at the ceiling of a strategy although it had escalations left. -/
def Outcome.GivesUpAt (o : Outcome) (s : Strategy) : Prop :=
  o.stopReason = .iterationCeiling ∧ o.finalStrategy = s ∧ o.controller.isSpent = false

instance (o : Outcome) (s : Strategy) : Decidable (o.GivesUpAt s) :=
  inferInstanceAs (Decidable (_ ∧ _ ∧ _))

namespace Controller

/-- Metrics that call for nothing are within the limit of the strategy or show progress. -/
theorem within_of_demand?_eq_none {current : Strategy} {m : Metrics} {limit : UInt32}
    (calm : demand? current m = none) (limited : iterationLimit? current = some limit) :
    m.iterationsUsed < limit ∨ ¬m.progress < exhaustionProgress := by
  unfold demand? at calm
  split at calm
  · contradiction
  · split at calm
    · contradiction
    · simp only [limited] at calm
      split at calm
      · contradiction
      · rename_i within
        by_cases below : m.iterationsUsed < limit
        · exact .inl below
        · exact .inr fun slow => within ⟨UInt32.not_lt.mp below, slow⟩

/-- The only strategy with a limit that an escalation leads to is the balanced one, from the fast one. -/
theorem limited_escalationTarget {s : Strategy} {limit : UInt32}
    (limited : iterationLimit? s.escalationTarget = some limit) : s = .fast := by
  cases s <;> first | rfl | contradiction

/-- After an update with escalations left, a strategy with a limit is within it or shows progress, or it
is the balanced one and the update has just led to it. -/
theorem update_of_limited {c : Controller} {m : Metrics} {now : Instant} {limit : UInt32}
    (left : (c.update m now).value.1.isSpent = false)
    (limited : iterationLimit? (c.update m now).value.1.currentStrategy = some limit) :
    let d := (c.update m now).value.1
    m.iterationsUsed < limit ∨ ¬m.progress < exhaustionProgress ∨
      c.currentStrategy = .fast ∧ d.currentStrategy = .balanced ∧
        ∃ t, d.transitions.getLast? = some t ∧ t.source = .fast ∧ t.iteration = m.iterationsUsed := by
  intro d
  cases h : (c.record m).trigger? with
  | none =>
    have same : d = c.record m := by simp only [d, update_of_calm h]
    have calm : demand? c.currentStrategy m = none := by
      have room : (c.record m).isSpent = false := same ▸ left
      simp only [trigger?, room, Bool.false_eq_true, if_false] at h
      exact h
    have strategy : d.currentStrategy = (c.record m).currentStrategy := congrArg currentStrategy same
    exact (within_of_demand?_eq_none calm (strategy ▸ limited)).imp_right .inl
  | some trigger =>
    have climbed : d = (c.record m).climb trigger.reason now := by simp only [d, update_of_trigger h]
    have target : d.currentStrategy = c.currentStrategy.escalationTarget :=
      congrArg currentStrategy climbed
    have fast : c.currentStrategy = .fast := by
      apply limited_escalationTarget
      rw [← target]
      exact limited
    refine .inr (.inr ⟨fast, ?_, ?_⟩)
    · rw [target, fast]
      rfl
    · rw [climbed]
      exact ⟨_, List.getLast?_concat, fast, rfl⟩

end Controller

namespace Session

variable {clock : Nat → Instant} {fresh t next : Session} {elapsed time : Nat} {past cycles : List Cycle}
  {c : Cycle} {ending : Ending} {o : Outcome}

/-- A call after which a run goes on has no final answer, and the controller is updated with what the
session reports. -/
theorem Makes.updated (made : t.Makes clock time c next ending) (goesOn : next.stopAfter? ending = none) :
    next.controller =
      (t.controller.update (next.metrics c.elapsed) (clock c.elapsed)).value.1 := by
  have unanswered : c.result.answer? = none := by
    cases answered : c.result.answer? with
    | none => rfl
    | some text =>
      have ends := made.ending_eq
      rw [(take_eq_answered made.take_fits).mpr answered] at ends
      rw [← ends] at goesOn
      contradiction
  rw [made.controller_eq, Controller.hear, report, unanswered]
  rfl

/-- A run that stops at a ceiling stops between two calls. -/
theorem Ends.ceiling (ends : Ends clock fresh elapsed cycles o) (stopped : o.stopReason = .iterationCeiling) :
    ∃ t time, Reaches clock fresh elapsed cycles t time ∧
      t.controller.currentPolicy.maxIterations ≤ t.iterations ∧
      o.controller = t.controller ∧ o.finalStrategy = t.controller.currentStrategy ∧
      o.iterations = t.iterations := by
  cases ends with
  | @before _ t time reason reached stops =>
    obtain ⟨-, ceiling⟩ | ⟨timeout, -⟩ := turn_eq_stop stops
    · exact ⟨t, time, reached, ceiling, rfl, rfl, rfl⟩
    · exact nomatch timeout.symm.trans stopped
  | @after _ _ _ _ _ _ reason reached made stops =>
    obtain rfl : reason = .iterationCeiling := stopped
    exact absurd (mem_of_stopAfter? stops) (by simp)

/-- What is known where a run gives up at a strategy with a limit: the strategy is within its limit, or
the progress is enough, or the last report has just led from the fast strategy to the balanced one. -/
theorem Ends.of_givesUpAt (ends : Ends clock fresh elapsed cycles o)
    (coherent : fresh.controller.Coherent) (formed : fresh.controller.catalog.WellFormed)
    (unused : fresh.iterations = 0) (gauged : fresh.Gauged) {s : Strategy} (givesUp : o.GivesUpAt s)
    {limit : UInt32} (limited : Controller.iterationLimit? s = some limit) :
    let ceiling (s : Strategy) := (fresh.controller.catalog.get s).maxIterations
    ceiling s ≤ o.iterations ∧
      (0.8 ≤ o.controller.metrics.progress ∨ o.iterations < limit ∨
        s = .balanced ∧ o.iterations ≤ ceiling .fast ∧
          ∃ t, o.controller.transitions.getLast? = some t ∧ t.source = .fast ∧
            t.iteration = o.iterations) := by
  intro ceiling
  obtain ⟨stopped, rfl, left⟩ := givesUp
  obtain ⟨t, time, reached, passed, controller, strategy, iterations⟩ := ends.ceiling stopped
  obtain ⟨held, catalog⟩ := reached.controller coherent
  rw [held.policy, catalog] at passed
  rw [strategy] at limited
  rw [controller] at left ⊢
  rw [strategy, iterations]
  refine ⟨passed, ?_⟩
  have gauge : t.Gauged := reached.invariant (fun _ t => t.Gauged) gauged fun h made => made.gauged h
  cases reached with
  | start =>
    have valid := Policy.fault?_eq_none.mp (formed.sound fresh.controller.currentStrategy)
    rw [unused] at passed
    exact absurd passed (UInt32.not_le.mpr valid.iterations)
  | @call _ u _ _ _ _ earlier made goesOn =>
    have updated := made.updated goesOn
    rw [updated] at left limited
    obtain within | progress | ⟨fast, balanced, transition⟩ := Controller.update_of_limited left limited
    · exact .inr (.inl within)
    · left
      rw [made.reported]
      exact Binary64.le_of_not_lt gauge.progress.self_le (by decide) progress
    · obtain ⟨source, same⟩ := earlier.controller coherent
      refine .inr (.inr ⟨?_, ?_, ?_⟩)
      · rw [updated]
        exact balanced
      · have below := iterations_lt_of_turn_eq_call made.asks
        rw [source.policy, same, fast] at below
        rw [made.counts.iterations, UInt32.le_iff_toNat_le, toNat_add_one_of_lt below]
        exact UInt32.lt_iff_toNat_lt.mp below
      · rw [updated]
        exact transition

/-- A run does not give up at the fast or at the balanced strategy with less progress than these owe,
unless the ceiling comes before the limit of the strategy or the balanced strategy was entered past its
ceiling. Neither happens where the ceilings leave room for the limits and the balanced one is the
higher. -/
theorem drive_start_climbs {σ : Type} {backend : σ → Call → BackendReply × σ} {state final : σ} {run : Run}
    {settings : RunSettings} {catalog : Catalog} {classify : Classifier} {task id : String}
    (made : catalog.Made)
    (driven : (start settings catalog classify task id (clock 0)).drive backend clock 0 state =
      .ok (run, final))
    {s : Strategy} (givesUp : run.outcome.GivesUpAt s) {limit : UInt32}
    (limited : Controller.iterationLimit? s = some limit) :
    let o := run.outcome
    let ceiling (s : Strategy) := (catalog.get s).maxIterations
    (0.8 ≤ o.controller.metrics.progress ∨
      ceiling s ≤ o.iterations ∧ o.iterations < limit ∨
      s = .balanced ∧ ceiling .balanced ≤ o.iterations ∧ o.iterations ≤ ceiling .fast ∧
        ∃ t, o.controller.transitions.getLast? = some t ∧ t.source = .fast ∧ t.iteration = o.iterations) ∧
    (limit ≤ ceiling s → ceiling .fast < ceiling .balanced → 0.8 ≤ o.controller.metrics.progress) := by
  intro o ceiling
  have ends := ends_of_drive driven
  have formed : (start settings catalog classify task id (clock 0)).controller.catalog.WellFormed := by
    rw [start_catalog]
    exact made.wellFormed
  have known := ends.of_givesUpAt (start_coherent ..) formed rfl (start_gauged ..) givesUp limited
  rw [start_catalog] at known
  obtain ⟨passed, progress | early | ⟨rfl, late, entered⟩⟩ := known
  · exact ⟨.inl progress, fun _ _ => progress⟩
  · refine ⟨.inr (.inl ⟨passed, early⟩), fun room _ => ?_⟩
    exact absurd (UInt32.lt_of_lt_of_le early (UInt32.le_trans room passed)) (UInt32.lt_irrefl _)
  · refine ⟨.inr (.inr ⟨rfl, passed, late, entered⟩), fun _ higher => ?_⟩
    exact absurd (UInt32.lt_of_lt_of_le higher (UInt32.le_trans passed late)) (UInt32.lt_irrefl _)

/-- A run that reports a progress of nine tenths stops at the fast ceiling after three calls. -/
theorem drive_start_climbs_of_scripted :
    let fresh := start { initialStrategy := some .fast } Catalog.builtin (fun _ => .simple) "task" "id"
      Instant.epoch
    let script : List ScriptEntry := [⟨5, .ok ⟨"Progress: 90%", none⟩⟩]
    ∃ run final, fresh.drive scripted (fun _ => Instant.epoch) 0 script = .ok (run, final) ∧
      run.outcome.GivesUpAt .fast ∧ 0.8 ≤ run.outcome.controller.metrics.progress := by
  intro fresh script
  have found : ∃ run final, fresh.drive scripted (fun _ => Instant.epoch) 0 script = .ok (run, final) ∧
      run.outcome.GivesUpAt .fast := exists_run_of_any (by decide +kernel)
  obtain ⟨run, final, driven, givesUp⟩ := found
  obtain ⟨-, progress⟩ := drive_start_climbs .builtin driven givesUp rfl
  exact ⟨run, final, driven, givesUp, progress (by decide) (by decide)⟩

/-- With a fast ceiling of two a run gives up after two calls with a tenth of the work done, and none of its
escalations used. With a fast ceiling of twelve it moves to the balanced strategy after ten calls, and gives
up there at once. -/
theorem drive_start_gives_up_early :
    let low := Catalog.builtin.set .fast { Catalog.builtin.get .fast with maxIterations := 2 }
    let high := Catalog.builtin.set .fast { Catalog.builtin.get .fast with maxIterations := 12 }
    let slow : List ScriptEntry := [⟨5, .ok ⟨"Progress: 10%", none⟩⟩]
    let sinking : List ScriptEntry := List.replicate 9 ⟨5, .ok ⟨"Progress: 90%", none⟩⟩ ++ slow
    let fresh (catalog : Catalog) := start { initialStrategy := some .fast } catalog (fun _ => .simple) "task"
      "id" Instant.epoch
    (low.Made ∧ ∃ run final,
      (fresh low).drive scripted (fun _ => Instant.epoch) 0 slow = .ok (run, final) ∧
        run.outcome.GivesUpAt .fast ∧ ¬0.8 ≤ run.outcome.controller.metrics.progress) ∧
    high.Made ∧ ∃ run final,
      (fresh high).drive scripted (fun _ => Instant.epoch) 0 sinking = .ok (run, final) ∧
        run.outcome.GivesUpAt .balanced ∧ ¬0.8 ≤ run.outcome.controller.metrics.progress := by
  intro low high slow sinking fresh
  have low_made : low.Made := .withOverrides .builtin
    (show Catalog.builtin.withOverrides [{ strategy := some .fast, maxIterations := some 2 }] = .ok low
      from rfl)
  have high_made : high.Made := .withOverrides .builtin
    (show Catalog.builtin.withOverrides [{ strategy := some .fast, maxIterations := some 12 }] = .ok high
      from rfl)
  exact ⟨⟨low_made, exists_run_of_any (by decide +kernel)⟩,
    high_made, exists_run_of_any (by decide +kernel)⟩

end Session

end Deliberation
