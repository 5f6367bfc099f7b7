import Deliberation.Proofs.Accounting
/-! Runs keep to their budgets. A call starts below the ceiling and within the time of the policy that
it is made under, and is cut off at the end of that time. The next call is measured against its own
policy, higher or lower, so that the policy of the last call bounds the whole run. -/

namespace Deliberation

/-- Whatever a backend gives, a call is over when the time that was left for it has passed. -/
theorem Call.settle_within {call : Call} {reply : BackendReply} {started later : Nat}
    {result : CallResult} (h : call.settle reply started = (result, later)) :
    started ≤ later ∧ later ≤ started + call.remaining := by
  unfold settle at h
  split at h
  · obtain ⟨-, rfl⟩ := Prod.mk.inj h
    omega
  · split at h
    · obtain ⟨-, rfl⟩ := Prod.mk.inj h
      omega
    · split at h
      all_goals
        obtain ⟨-, rfl⟩ := Prod.mk.inj h
        omega

/-- A call that follows a number of others is made below the ceiling of a policy and before its time
is over. It gets what is left of that time, and takes no more. -/
structure Cycle.Within (policy : Policy) (before started : Nat) (c : Cycle) : Prop where
  under : c.call.policy = policy
  ceiling : before < policy.maxIterations.toNat
  time : ∃ budget, policy.budget? = some budget ∧ started < budget ∧
    c.call.remaining = budget - started ∧ started ≤ c.elapsed ∧ c.elapsed ≤ budget

namespace Session

variable {clock : Nat → Instant} {given : RunSettings} {fresh s t next : Session} {elapsed time : Nat}
  {past cycles : List Cycle} {c : Cycle} {ending : Ending}

theorem Asks.within (asked : t.Asks time c) :
    c.Within t.controller.currentPolicy t.iterations.toNat time := by
  obtain ⟨below, budget, span, early, same⟩ := turn_eq_call asked.asks
  obtain ⟨reply, settled⟩ := asked.settles
  obtain ⟨started, ended⟩ := Call.settle_within settled
  have left : c.call.remaining = budget - time := congrArg Call.remaining same
  refine ⟨congrArg Call.policy same, UInt32.lt_iff_toNat_lt.mp below, budget, span, early, left,
    started, ?_⟩
  omega

/-- Every call keeps to the budgets of the strategy that the calls before it have led to. -/
theorem Reaches.within (reached : Reaches clock fresh 0 past t time) (asked : t.Asks time c)
    (accounts : Accounts given [] fresh) (coherent : fresh.controller.Coherent) :
    ∃ t, Reaches clock fresh 0 past t (timeAfter 0 past) ∧
      c.Within (fresh.controller.catalog.get t.controller.currentStrategy) past.length
        (timeAfter 0 past) := by
  have counted := (reached.invariant (Accounts given) accounts Accounts.step).iterations
  obtain ⟨held, catalog⟩ := reached.controller coherent
  have within := asked.within
  rw [held.policy, catalog, counted] at within
  obtain rfl := reached.time_eq
  exact ⟨t, reached, within⟩

/-- The calls of a run, whether it comes to its end or overruns. -/
theorem drive_start_calls {catalog : Catalog} (spans : catalog.HasSpans) (settings : RunSettings)
    (classify : Classifier) (task id : String) {σ : Type} (backend : σ → Call → BackendReply × σ)
    (clock : Nat → Instant) (state : σ) :
    let fresh := start settings catalog classify task id (clock 0)
    ∃ cycles,
      (∀ past c later, cycles = past ++ c :: later →
        ∃ t time, Reaches clock fresh 0 past t time ∧ t.Asks time c) ∧
      (fresh.Overruns backend clock state cycles ∨
        ∃ run final, fresh.drive backend clock 0 state = .ok (run, final) ∧ run.cycles = cycles ∧
          run.outcome.iterations.toNat = cycles.length) := by
  intro fresh
  obtain ⟨cycles, overruns⟩ | ⟨run, final, driven⟩ :=
    drive_start_cases classify task id spans backend clock state
  · refine ⟨cycles, ?_, .inl overruns⟩
    rintro past c later rfl
    exact overruns.breaks.call_at
  · have ends : Ends clock fresh 0 run.cycles run.outcome := ends_of_drive driven
    have iterations : run.outcome.iterations.toNat = run.cycles.length := by
      obtain ⟨t, reason, ending, time, accounts, finished⟩ :=
        ends.invariant (Accounts settings) (start_accounts ..) Accounts.step
      rw [finished]
      exact accounts.iterations
    refine ⟨run.cycles, ?_, .inr ⟨run, final, driven, rfl, iterations⟩⟩
    intro past c later whole
    obtain ⟨t, time, next, ending, reached, made, -⟩ := (whole ▸ ends).call_at
    exact ⟨t, time, reached, made.toAsks⟩

/-- A run comes to its end, or overruns. Each of its calls is made below the ceiling and within the time of
its own strategy, and so the strategy of the last call alone bounds the calls of the run and the time that
they have taken; no run makes more calls than the largest ceiling of its catalog. -/
theorem drive_start_within {catalog : Catalog} (spans : catalog.HasSpans) (settings : RunSettings)
    (classify : Classifier) (task id : String) {σ : Type} (backend : σ → Call → BackendReply × σ)
    (clock : Nat → Instant) (state : σ) :
    let fresh := start settings catalog classify task id (clock 0)
    ∃ cycles,
      (∀ past c later, cycles = past ++ c :: later →
        ∃ t, Reaches clock fresh 0 past t (timeAfter 0 past) ∧
          c.Within (catalog.get t.controller.currentStrategy) past.length (timeAfter 0 past)) ∧
      (∀ past c, cycles = past ++ [c] →
        cycles.length ≤ c.call.policy.maxIterations.toNat ∧
        ∃ budget, c.call.policy.budget? = some budget ∧ timeAfter 0 cycles ≤ budget) ∧
      (∃ p ∈ catalog.policies, cycles.length ≤ p.maxIterations.toNat) ∧
      (fresh.Overruns backend clock state cycles ∨
        ∃ run final, fresh.drive backend clock 0 state = .ok (run, final) ∧ run.cycles = cycles ∧
          run.outcome.iterations.toNat = cycles.length) := by
  intro fresh
  obtain ⟨cycles, asked, ended⟩ := drive_start_calls spans settings classify task id backend clock state
  have within {past : List Cycle} {c : Cycle} {later : List Cycle} (whole : cycles = past ++ c :: later) :
      ∃ t, Reaches clock fresh 0 past t (timeAfter 0 past) ∧
        c.Within (catalog.get t.controller.currentStrategy) past.length (timeAfter 0 past) := by
    obtain ⟨t, time, reached, asks⟩ := asked past c later whole
    have kept := reached.within asks (start_accounts settings ..) (start_coherent ..)
    rwa [start_catalog] at kept
  have last {past : List Cycle} {c : Cycle} (whole : cycles = past ++ [c]) :
      cycles.length ≤ c.call.policy.maxIterations.toNat := by
    obtain ⟨t, -, kept⟩ := within whole
    rw [whole, kept.under, List.length_append, List.length_singleton]
    exact kept.ceiling
  refine ⟨cycles, fun _ _ _ => within, ?_, ?_, ended⟩
  · intro past c whole
    obtain ⟨t, -, kept⟩ := within whole
    obtain ⟨budget, span, -, -, -, late⟩ := kept.time
    refine ⟨last whole, budget, kept.under ▸ span, ?_⟩
    simpa only [timeAfter, whole, List.getLast?_concat, Option.map_some, Option.getD_some] using late
  · obtain rfl | ⟨past, c, whole⟩ := cycles.eq_nil_or_concat'
    · exact ⟨catalog.get .fast, List.mem_map_of_mem (Strategy.mem_all _), Nat.zero_le _⟩
    · obtain ⟨t, -, kept⟩ := within whole
      exact ⟨_, List.mem_map_of_mem (Strategy.mem_all _), kept.under ▸ last whole⟩

/-- A run whose calls all hang, over a catalog in which the next rung has less time and fewer
iterations than the rung before it. -/
theorem drive_start_within_of_hanging :
    let tuned := Catalog.builtin.set .deep
      { Catalog.builtin.get .deep with maxIterations := 2, timeoutSeconds := 0.5 }
    let fresh := start { initialStrategy := some .adaptive } tuned (fun _ => .simple) "task" "id"
      Instant.epoch
    tuned.HasSpans ∧ ∃ run final,
      fresh.drive (fun calls _ => (.never, calls + 1)) (fun _ => Instant.epoch) 0 0 =
        .ok (run, final) ∧
      ∃ p ∈ tuned.policies, run.outcome.iterations ≤ p.maxIterations := by
  intro tuned fresh
  have spans : tuned.HasSpans := by
    intro s
    cases s <;> decide
  obtain ⟨cycles, -, -, ⟨p, listed, bounded⟩, overruns | ⟨run, final, driven, -, counted⟩⟩ :=
    drive_start_within spans { initialStrategy := some .adaptive } (fun _ => .simple) "task" "id"
      (fun calls _ => (.never, calls + 1)) (fun _ => Instant.epoch) 0
  · exact nomatch overruns.mode
  · refine ⟨spans, run, final, driven, p, listed, ?_⟩
    rw [UInt32.le_iff_toNat_le, counted]
    exact bounded

end Session

end Deliberation
