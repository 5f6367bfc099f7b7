import Deliberation.Proofs.Accounting
/-! Why a run stops, and with which answer. The last call alone decides whether a run stops after it;
only where it does not, the ceiling and the time of the current policy are looked at. -/

namespace Deliberation

namespace Tree

theorem ancestry_complete (t : Tree) (now : Instant) (steps : Nat) (b : Branch) :
    (t.complete now).ancestry steps b = t.ancestry steps b := by
  have same : (t.complete now).get? = t.get? := rfl
  induction steps generalizing b with
  | zero => rfl
  | succ steps ih => simp only [ancestry, same, ih]

theorem selectedPath_complete (t : Tree) (now : Instant) :
    (t.complete now).selectedPath = t.selectedPath := by
  have selected : (t.complete now).selected? = t.selected? := rfl
  have branches : (t.complete now).branches = t.branches := rfl
  simp only [selectedPath, selected, branches, ancestry_complete]

end Tree

/-- The best that an unfinished run has come to: the selected path of its tree, or else the last step
of its chain, or else a text. -/
def Outcome.partialAnswer (o : Outcome) (text : String) : String :=
  match (o.tree.map Tree.selectedPath).getD [] with
  | [] =>
    match o.chain.bind fun chain => chain.steps.getLast? with
    | some step => step.thought
    | none => Text.trimmed text
  | path => " -> ".intercalate (path.map Branch.thought)

namespace Session

theorem fallbackAnswer_eq (s : Session) (reason : StopReason) (ending : Option Ending)
    (now : Instant) :
    s.fallbackAnswer = (s.finish reason ending now).partialAnswer s.lastOutput := by
  simp only [fallbackAnswer, Outcome.partialAnswer, finish]
  cases s.workspace with
  | free => rfl
  | chain c => rfl
  | tree t =>
    simp only [Option.map_some, Option.getD_some, Tree.selectedPath_complete]
    cases t.selectedPath <;> rfl

variable {s : Session} {ending : Ending}

theorem stopAfter?_eq_completed :
    s.stopAfter? ending = some .completed ↔ ∃ text, ending = .answered text := by
  cases ending <;> simp [stopAfter?]

theorem stopAfter?_eq_treeExhausted :
    s.stopAfter? ending = some .treeExhausted ↔ ending = .treeExhausted := by
  cases ending <;> simp [stopAfter?]

theorem stopAfter?_eq_backendUnavailable :
    s.stopAfter? ending = some .backendUnavailable ↔
      ending = .failed ∧ s.settings.maxConsecutiveFailures ≤ s.consecutiveFailures := by
  cases ending <;> simp [stopAfter?]

theorem mem_of_stopAfter? {reason : StopReason} (h : s.stopAfter? ending = some reason) :
    reason ∈ [.completed, .treeExhausted, .backendUnavailable] := by
  cases ending with
  | goOn | overflow => contradiction
  | answered text | treeExhausted =>
    obtain rfl := Option.some.inj h
    simp
  | failed =>
    simp only [stopAfter?] at h
    split at h
    · obtain rfl := Option.some.inj h
      simp
    · contradiction

theorem turn_eq_stop {time : Nat} {reason : StopReason} (h : s.turn time = .stop reason) :
    let policy := s.controller.currentPolicy
    reason = .iterationCeiling ∧ policy.maxIterations ≤ s.iterations ∨
      reason = .timeout ∧ s.iterations < policy.maxIterations ∧
        ∃ budget, policy.budget? = some budget ∧ budget ≤ time := by
  obtain ⟨ceiling, stops⟩ | ⟨below, ⟨-, stuck⟩ | ⟨budget, span, ⟨late, stops⟩ | ⟨-, asks⟩⟩⟩ :=
    s.turn_cases time
  · exact .inl ⟨Turn.stop.inj (h.symm.trans stops), ceiling⟩
  · exact nomatch h.symm.trans stuck
  · exact .inr ⟨Turn.stop.inj (h.symm.trans stops), below, budget, span, late⟩
  · exact nomatch h.symm.trans asks

/-- The last of some calls has finished the task. -/
def Finishes (cycles : List Cycle) : Prop :=
  ∃ c, cycles.getLast? = some c ∧ c.result.answer?.isSome

/-- The last of some calls was in time and left nothing to explore: it has no final answer, but
approaches, and none of them could become a branch. -/
def ExhaustsTree (clock : Nat → Instant) (fresh : Session) (cycles : List Cycle) : Prop :=
  ∃ past c completion, cycles = past ++ [c] ∧ c.result = .completed completion ∧
    c.result.answer? = none ∧ (tally clock fresh past).Exhausts (clock c.elapsed) completion.text

/-- The reason to stop after some calls is the one that they give. -/
structure Judges (clock : Nat → Instant) (given : RunSettings) (fresh : Session) (cycles : List Cycle)
    (reason : Option StopReason) : Prop where
  completed : reason = some .completed ↔ Finishes cycles
  treeExhausted : reason = some .treeExhausted ↔
    given.mode = .tree ∧ ExhaustsTree clock fresh cycles
  backendUnavailable : reason = some .backendUnavailable ↔
    failedStreak cycles = max 1 given.maxConsecutiveFailures.toNat

/-- What a run carries from one call to the next: its totals, and that nothing so far has stopped
it. -/
structure Pending (clock : Nat → Instant) (given : RunSettings) (fresh : Session)
    (past : List Cycle) (t : Session) : Prop where
  totals : t = (tally clock fresh past).withController t.controller
  accounts : Accounts given past t
  unanswered : ∀ c ∈ past, c.result.answer? = none
  short : failedStreak past < max 1 given.maxConsecutiveFailures.toNat
  judges : Judges clock given fresh past none

variable {clock : Nat → Instant} {given : RunSettings} {fresh t next : Session} {elapsed time : Nat}
  {past cycles : List Cycle} {c : Cycle}

theorem finishes_concat : Finishes (past ++ [c]) ↔ c.result.answer?.isSome := by
  simp [Finishes]

theorem Pending.exhausts_iff {text : String} {now : Instant} (h : Pending clock given fresh past t) :
    t.Exhausts now text ↔ given.mode = .tree ∧ (tally clock fresh past).Exhausts now text := by
  have same : t.workspace = (tally clock fresh past).workspace := by
    rw [h.totals]
    rfl
  have mode := h.accounts.mode
  unfold Exhausts
  rw [← same]
  constructor
  · rintro ⟨tree, workspace, refused⟩
    rw [workspace] at mode
    exact ⟨mode.symm, tree, workspace, refused⟩
  · exact And.right

theorem Makes.judges (made : t.Makes clock time c next ending) (h : Pending clock given fresh past t) :
    Judges clock given fresh (past ++ [c]) (next.stopAfter? ending) where
  completed := by
    rw [stopAfter?_eq_completed, ← made.ending_eq, finishes_concat, Option.isSome_iff_exists]
    exact exists_congr fun _ => take_eq_answered made.take_fits
  treeExhausted := by
    rw [stopAfter?_eq_treeExhausted, ← made.ending_eq, take_eq_treeExhausted]
    constructor
    · rintro ⟨completion, result, unanswered, exhausts⟩
      obtain ⟨mode, exhausts⟩ := h.exhausts_iff.mp exhausts
      exact ⟨mode, past, c, completion, rfl, result, unanswered, exhausts⟩
    · rintro ⟨mode, before, last, completion, whole, result, unanswered, exhausts⟩
      obtain ⟨rfl, same⟩ := List.append_inj' whole rfl
      obtain rfl := List.singleton_inj.mp same
      exact ⟨completion, result, unanswered, h.exhausts_iff.mpr ⟨mode, exhausts⟩⟩
  backendUnavailable := by
    have accounts := h.accounts.step made
    have short := h.short
    rw [stopAfter?_eq_backendUnavailable, ← made.ending_eq, take_eq_failed,
      UInt32.le_iff_toNat_le, accounts.settings, accounts.failures, failedStreak_concat]
    cases c.result.isFailed with
    | true =>
      simp only [true_and, if_true]
      omega
    | false =>
      simp only [Bool.false_eq_true, false_and, if_false, false_iff]
      omega

theorem judges_nil : Judges clock given fresh [] none where
  completed := by simp [Finishes]
  treeExhausted := by simp [ExhaustsTree]
  backendUnavailable := by
    have none_failed : failedStreak [] = 0 := rfl
    simp only [reduceCtorEq, none_failed, false_iff]
    omega

theorem Pending.start (accounts : Accounts given [] fresh) : Pending clock given fresh [] fresh where
  totals := rfl
  accounts := accounts
  unanswered := fun _ member => nomatch member
  short := Nat.lt_of_lt_of_le Nat.one_pos (Nat.le_max_left ..)
  judges := judges_nil

theorem Pending.step (h : Pending clock given fresh past t) (made : t.Makes clock time c next ending)
    (goesOn : next.stopAfter? ending = none) : Pending clock given fresh (past ++ [c]) next := by
  have judges := made.judges h
  rw [goesOn] at judges
  refine ⟨made.tally_eq h.totals, h.accounts.step made, ?_, ?_, judges⟩
  · intro d member
    obtain earlier | last := List.mem_append.mp member
    · exact h.unanswered d earlier
    · obtain rfl := List.mem_singleton.mp last
      have unfinished := mt judges.completed.mpr (by simp)
      rw [finishes_concat] at unfinished
      exact Option.not_isSome_iff_eq_none.mp unfinished
  · have short := h.short
    have others := mt judges.backendUnavailable.mpr (by simp)
    rw [failedStreak_concat] at others ⊢
    split
    · rename_i failed
      rw [if_pos failed] at others
      omega
    · omega

theorem Reaches.pending (reached : Reaches clock fresh elapsed past t time)
    (accounts : Accounts given [] fresh) : Pending clock given fresh past t := by
  induction reached with
  | start => exact .start accounts
  | call _ made goesOn ih => exact ih.step made goesOn

variable {o : Outcome}

/-- The reasons for which a run stops after a call are those that its calls give. -/
theorem Ends.judges (ends : Ends clock fresh elapsed cycles o) (accounts : Accounts given [] fresh) :
    Judges clock given fresh cycles (some o.stopReason) := by
  cases ends with
  | @before _ t time reason reached stops =>
    have judges := (reached.pending accounts).judges
    have head : reason = .iterationCeiling ∨ reason = .timeout := by
      obtain ⟨ceiling, -⟩ | ⟨timeout, -⟩ := turn_eq_stop stops
      · exact .inl ceiling
      · exact .inr timeout
    constructor
    · rw [← judges.completed]
      obtain rfl | rfl := head <;> simp [finish]
    · rw [← judges.treeExhausted]
      obtain rfl | rfl := head <;> simp [finish]
    · rw [← judges.backendUnavailable]
      obtain rfl | rfl := head <;> simp [finish]
  | after reached made stops =>
    have judges := made.judges (reached.pending accounts)
    rw [stops] at judges
    exact judges

/-- Where no call gives a reason, the ceiling of the current policy does, or else its time. -/
theorem Ends.head (ends : Ends clock fresh elapsed cycles o)
    (other : o.stopReason ∉ [.completed, .treeExhausted, .backendUnavailable]) :
    let policy := o.controller.currentPolicy
    (o.stopReason = .iterationCeiling ↔ policy.maxIterations ≤ o.iterations) ∧
    (o.stopReason = .timeout ↔ o.iterations < policy.maxIterations ∧
      ∃ budget, policy.budget? = some budget ∧ budget ≤ timeAfter elapsed cycles) := by
  cases ends with
  | @before _ t time reason reached stops =>
    rw [← reached.time_eq]
    obtain ⟨rfl, ceiling⟩ | ⟨rfl, below, late⟩ := turn_eq_stop stops
    · exact ⟨iff_of_true rfl ceiling,
        iff_of_false nofun fun other => UInt32.not_le.mpr other.1 ceiling⟩
    · exact ⟨iff_of_false nofun (UInt32.not_le.mpr below), iff_of_true rfl ⟨below, late⟩⟩
  | after reached made stops => exact absurd (mem_of_stopAfter? stops) other

/-- The answer is the final one of the last call, or else the best that the run has come to. -/
theorem Ends.answer (ends : Ends clock fresh elapsed cycles o) (accounts : Accounts given [] fresh) :
    (∀ c answer, cycles.getLast? = some c → c.result.answer? = some answer → o.answer = answer) ∧
    (∀ c ∈ cycles.dropLast, c.result.answer? = none) ∧
    (o.stopReason ≠ .completed → o.answer = o.partialAnswer (lastText cycles)) := by
  cases ends with
  | @before _ t time reason reached stops =>
    have pending := reached.pending accounts
    refine ⟨?_, fun c member => pending.unanswered c (List.dropLast_subset _ member), ?_⟩
    · intro c answer last answered
      rw [pending.unanswered c (List.mem_of_getLast? last)] at answered
      contradiction
    · intro _
      rw [← pending.accounts.lastOutput]
      exact t.fallbackAnswer_eq reason none (clock time)
  | @after past t next time c ending reason reached made stops =>
    have pending := reached.pending accounts
    refine ⟨?_, ?_, ?_⟩
    · intro d answer last answered
      rw [List.getLast?_concat] at last
      obtain rfl := Option.some.inj last
      have ends := made.ending_eq
      rw [(take_eq_answered made.take_fits).mpr answered] at ends
      obtain rfl := ends
      rfl
    · rw [List.dropLast_concat]
      exact pending.unanswered
    · intro unfinished
      rw [← (pending.accounts.step made).lastOutput]
      cases ending with
      | answered text => exact absurd (Option.some.inj stops).symm unfinished
      | overflow => exact absurd rfl made.fits
      | goOn | treeExhausted | failed => exact next.fallbackAnswer_eq reason _ (clock c.elapsed)

theorem Breaks.unanswered {error : RunError} (breaks : Breaks clock fresh elapsed cycles error)
    (accounts : Accounts given [] fresh) : ∀ c ∈ cycles.dropLast, c.result.answer? = none := by
  cases breaks with
  | noSpan reached =>
    exact fun c member => (reached.pending accounts).unanswered c (List.dropLast_subset _ member)
  | overflow reached =>
    rw [List.dropLast_concat]
    exact (reached.pending accounts).unanswered

theorem Ends.policy (ends : Ends clock fresh elapsed cycles o) (coherent : fresh.controller.Coherent) :
    o.controller.currentPolicy = fresh.controller.catalog.get o.finalStrategy := by
  obtain ⟨t, reason, ending, time, ⟨held, catalog⟩, finished⟩ := ends.invariant
    (fun _ t => t.controller.Coherent ∧ t.controller.catalog = fresh.controller.catalog)
    ⟨coherent, rfl⟩ fun h made => ⟨made.coherent h.1, made.catalog_eq.trans h.2⟩
  rw [finished, ← catalog]
  exact held.policy

end Session

end Deliberation
