import Mathlib.Tactic.Ring
import Deliberation.Proofs.Listings
import Deliberation.Proofs.Magnitudes
import Deliberation.Proofs.Overflows
/-! The time budgets of the policies that catalogs are made of. Every time of a valid policy is a positive
number of seconds, but its budget is a whole number of nanoseconds below a limit. So there is no budget for
the longest times, and no time in it for the shortest ones, and a run makes no call under such a policy. -/

namespace Deliberation

open Binary64 (rational IsNearest)

/-- The span of a positive number of seconds is the nearest one, and is missing from the limit on. -/
theorem Span.ofSeconds?_of_pos {seconds : Float} (finite : seconds.isFinite = true)
    (positive : 0 < seconds) :
    (ofSeconds? seconds = none ↔ 2 ^ 64 ≤ rational seconds) ∧
      ∀ span, ofSeconds? seconds = some span → IsNearest (rational seconds * 10 ^ 9) span := by
  obtain ⟨significand, exponent, -, read⟩ := Binary64.exists_value_of_pos finite positive
  have denominator := Binary64.power_two_pos exponent
  rw [Binary64.rational_of_value read, ← Binary64.power_two_eq, ofSeconds?, read]
  dsimp only
  generalize Binary64.power 2 exponent = scale at *
  have limit : UInt64.size * scale.2 ≤ significand * scale.1 ↔
      (2 ^ 64 : ℚ) ≤ significand * (scale.1 / scale.2) := by
    rw [← mul_div_assoc, le_div_iff₀ (Nat.cast_pos.mpr denominator)]
    exact_mod_cast Iff.rfl
  split
  · rename_i long
    exact ⟨iff_of_true rfl (limit.mp long), nofun⟩
  · rename_i short
    refine ⟨iff_of_false nofun (mt limit.mpr short), fun span same => ?_⟩
    obtain rfl := Option.some.inj same
    have nearest := Binary64.roundHalfEven_isNearest (significand * scale.1 * second) denominator
    have scaled : (significand * (scale.1 / scale.2) * 10 ^ 9 : ℚ) =
        (significand * scale.1 * second : ℕ) / scale.2 := by
      rw [second]
      push_cast
      ring
    rwa [scaled]

/-- What a budget makes of the time of a policy. -/
theorem Policy.Valid.budget {p : Policy} (valid : p.Valid) :
    let seconds := rational p.timeoutSeconds
    0 < seconds ∧ (p.budget? = none ↔ 2 ^ 64 ≤ seconds) ∧
      ∀ span, p.budget? = some span →
        IsNearest (seconds * 10 ^ 9) span ∧ (0 < span ↔ 1 / 2 < seconds * 10 ^ 9) := by
  intro seconds
  have positive : 0 < seconds := Binary64.rational_pos valid.finite valid.positive
  obtain ⟨none_iff, nearest⟩ := Span.ofSeconds?_of_pos valid.finite valid.positive
  refine ⟨positive, none_iff, fun span found => ?_⟩
  have near : IsNearest (seconds * 10 ^ 9) span := nearest span found
  exact ⟨near, near.pos_iff (by positivity)⟩

namespace Session

variable {clock : Nat → Instant} {s : Session} {elapsed : Nat}

theorem turn_of_spanless (below : s.iterations < s.controller.currentPolicy.maxIterations)
    (spanless : s.controller.currentPolicy.budget? = none) : s.turn elapsed = .noSpan := by
  rw [turn, if_neg (UInt32.not_le.mpr below), spanless]

theorem turn_of_late (budget : Nat) (below : s.iterations < s.controller.currentPolicy.maxIterations)
    (span : s.controller.currentPolicy.budget? = some budget) (late : budget ≤ elapsed) :
    s.turn elapsed = .stop .timeout := by
  rw [turn, if_neg (UInt32.not_le.mpr below), span]
  exact if_pos late

theorem Ends.ne_nil {cycles : List Cycle} {o : Outcome} {call : Call} (asks : s.turn elapsed = .call call)
    (ends : Ends clock s elapsed cycles o) : cycles ≠ [] := by
  cases ends with
  | before reached stops =>
    cases reached with
    | start => exact nomatch asks.symm.trans stops
    | call => exact List.append_ne_nil_of_right_ne_nil _ (List.cons_ne_nil _ _)
  | after => exact List.append_ne_nil_of_right_ne_nil _ (List.cons_ne_nil _ _)

/-- A session that has made no call is stopped by its time alone. -/
theorem turn_zero (unused : s.iterations = 0) (valid : s.controller.currentPolicy.Valid) :
    let policy := s.controller.currentPolicy
    policy.budget? = none ∧ s.turn 0 = .noSpan ∨ policy.budget? = some 0 ∧ s.turn 0 = .stop .timeout ∨
      ∃ budget call, policy.budget? = some budget ∧ 0 < budget ∧ s.turn 0 = .call call := by
  obtain ⟨ceiling, -⟩ | ⟨-, ⟨none, stuck⟩ | ⟨budget, span, ⟨late, stops⟩ | ⟨early, asks⟩⟩⟩ := s.turn_cases 0
  · rw [unused] at ceiling
    exact absurd valid.iterations (UInt32.not_lt.mpr ceiling)
  · exact .inl ⟨none, stuck⟩
  · exact .inr (.inl ⟨Nat.le_zero.mp late ▸ span, stops⟩)
  · exact .inr (.inr ⟨budget, _, span, early, asks⟩)

/-- The times of a catalog that was made are positive numbers of seconds. A budget is the number of
nanoseconds nearest to them, so it is missing from `2 ^ 64` seconds on and has no time up to half a
nanosecond. A run comes to its end where no time is too long, and goes nowhere where the time of its first
strategy is. It makes a call unless that time is too short, and then the time is what stops it. -/
theorem drive_start_usable {catalog : Catalog} (made : catalog.Made) (settings : RunSettings)
    (classify : Classifier) (task id : String) {σ : Type} (backend : σ → Call → BackendReply × σ)
    (clock : Nat → Instant) (state : σ) :
    let seconds (s : Strategy) := rational (catalog.get s).timeoutSeconds
    let fresh := start settings catalog classify task id (clock 0)
    let first := seconds fresh.controller.currentStrategy
    let driven := fresh.drive backend clock 0 state
    (∀ s, 0 < seconds s ∧ ((catalog.get s).budget? = none ↔ 2 ^ 64 ≤ seconds s) ∧
      ∀ span, (catalog.get s).budget? = some span →
        IsNearest (seconds s * 10 ^ 9) span ∧ (0 < span ↔ 1 / 2 < seconds s * 10 ^ 9)) ∧
    ((∀ s, seconds s < 2 ^ 64) → (∃ cycles, fresh.Overruns backend clock state cycles) ∨
      ∃ run final, driven = .ok (run, final)) ∧
    (2 ^ 64 ≤ first → driven = .error .noSpan) ∧
    ∀ run final, driven = .ok (run, final) →
      (run.cycles = [] ↔ first * 10 ^ 9 ≤ 1 / 2) ∧ (run.cycles = [] → run.outcome.stopReason = .timeout) := by
  intro seconds fresh first driven
  have valid (s : Strategy) : (catalog.get s).Valid := Policy.fault?_eq_none.mp (made.wellFormed.sound s)
  have current : fresh.controller.currentPolicy = catalog.get fresh.controller.currentStrategy := by
    rw [(start_coherent settings catalog classify task id (clock 0)).policy, start_catalog]
  obtain ⟨-, none_iff, nearest⟩ := (valid fresh.controller.currentStrategy).budget
  have turn := fresh.turn_zero rfl (current ▸ valid _)
  rw [current] at turn
  refine ⟨fun s => (valid s).budget, ?_, ?_, ?_⟩
  · intro short
    apply drive_start_cases
    intro s
    rw [Option.isSome_iff_ne_none]
    exact fun missing => absurd ((valid s).budget.2.1.mp missing) (short s).not_ge
  · intro long
    apply drive_of_noSpan
    obtain ⟨-, stuck⟩ | ⟨span, -⟩ | ⟨budget, call, span, -, -⟩ := turn
    · exact stuck
    · exact nomatch (none_iff.mpr long).symm.trans span
    · exact nomatch (none_iff.mpr long).symm.trans span
  · intro run final ok
    obtain ⟨-, stuck⟩ | ⟨span, stops⟩ | ⟨budget, call, span, some_time, asks⟩ := turn
    · exact nomatch (drive_of_noSpan stuck).symm.trans ok
    · obtain ⟨rfl, -⟩ := Prod.mk.inj (Except.ok.inj ((drive_of_stop stops).symm.trans ok))
      have no_time := mt (nearest 0 span).2.mpr (Nat.lt_irrefl 0)
      exact ⟨iff_of_true rfl (not_lt.mp no_time), fun _ => rfl⟩
    · have called : run.cycles ≠ [] := (ends_of_drive ok).ne_nil asks
      have enough := (nearest budget span).2.mp some_time
      exact ⟨iff_of_false called enough.not_ge, fun none => absurd none called⟩

/-- The built-in times are long enough for a call, and short enough for a run. -/
theorem drive_start_usable_of_builtin :
    let fresh := start { initialStrategy := some .fast } Catalog.builtin (fun _ => .simple) "task" "id"
      Instant.epoch
    ∃ run final, fresh.drive scripted (fun _ => Instant.epoch) 0 [] = .ok (run, final) ∧ run.cycles ≠ [] := by
  intro fresh
  obtain ⟨budgets, ends, -, calls⟩ := drive_start_usable .builtin { initialStrategy := some .fast }
    (fun _ => .simple) "task" "id" scripted (fun _ => Instant.epoch) []
  have short (s : Strategy) : rational (Catalog.builtin.get s).timeoutSeconds < 2 ^ 64 := by
    rw [← not_le, ← (budgets s).2.1]
    exact Option.isSome_iff_ne_none.mp (Catalog.builtin_hasSpans s)
  have span : (Catalog.builtin.get .fast).budget? = some 30000000000 := by decide
  have enough := ((budgets .fast).2.2 _ span).2.mp (by decide)
  obtain ⟨cycles, overruns⟩ | ⟨run, final, ok⟩ := ends short
  · exact nomatch overruns.mode
  · exact ⟨run, final, ok, mt (calls run final ok).1.mp enough.not_ge⟩

/-- Of two catalogs that overrides make, one lets no run come to its end, and the other one no call be
made. -/
theorem exists_made_without_calls :
    let tuned (seconds : Float) :=
      Catalog.builtin.withOverrides [{ strategy := some .fast, timeoutSeconds := some seconds }]
    let driven (c : Catalog) := (start { initialStrategy := some .fast } c (fun _ => .simple) "task" "id"
      Instant.epoch).drive scripted (fun _ => Instant.epoch) 0 []
    (∃ c, tuned 1e20 = .ok c ∧ (c.get .fast).budget? = none ∧ driven c = .error .noSpan) ∧
      ∃ c run final, tuned 1e-10 = .ok c ∧ (c.get .fast).budget? = some 0 ∧
        driven c = .ok (run, final) ∧ run.cycles = [] := by
  intro tuned driven
  constructor
  · refine ⟨_, rfl, ?_, drive_of_noSpan (turn_of_spanless ?_ ?_)⟩
    all_goals decide +kernel
  · refine ⟨_, _, _, rfl, ?_, drive_of_stop (turn_of_late 0 ?_ ?_ (Nat.le_refl 0)), rfl⟩
    all_goals decide +kernel

end Session

end Deliberation
