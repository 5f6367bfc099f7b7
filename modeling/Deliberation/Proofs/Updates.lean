import Deliberation.Proofs.Resumption
/-! The law of one update. A session climbs one rung where its budget has room and the metrics warrant it,
and is otherwise only told the metrics. Metrics that are no better warrant what the better ones do, whatever
they say of time and confidence. Once the budget is spent, no report and no request moves a session again. -/

namespace Deliberation

/-- Metrics that are no better than others: no fewer errors and iterations, and no more progress. Neither
progress is then a NaN, which compares with nothing. -/
structure Metrics.NoBetter (worse m : Metrics) : Prop where
  errors : m.errorsEncountered ≤ worse.errorsEncountered
  iterations : m.iterationsUsed ≤ worse.iterationsUsed
  progress : worse.progress ≤ m.progress

namespace Controller

/-- Metrics that warrant an escalation: three errors, more than five iterations with a progress below one
fifth, or a progress below four fifths at the limit of the fast or of the balanced strategy. -/
inductive Warrants (current : Strategy) (m : Metrics) : Prop where
  | errors (many : 3 ≤ m.errorsEncountered)
  | stuck (long : 5 < m.iterationsUsed) (slow : m.progress < 0.2)
  | fast (strategy : current = .fast) (limit : 3 ≤ m.iterationsUsed) (slow : m.progress < 0.8)
  | balanced (strategy : current = .balanced) (limit : 10 ≤ m.iterationsUsed) (slow : m.progress < 0.8)

variable {current : Strategy} {m worse : Metrics}

theorem demand?_isSome_iff : (demand? current m).isSome ↔ Warrants current m := by
  unfold demand?
  by_cases many : errorThreshold ≤ m.errorsEncountered
  · rw [if_pos many]
    exact iff_of_true rfl (.errors many)
  by_cases stuck : stuckIterations < m.iterationsUsed ∧ m.progress < stuckProgress
  · rw [if_neg many, if_pos stuck]
    exact iff_of_true rfl (.stuck stuck.1 stuck.2)
  rw [if_neg many, if_neg stuck]
  constructor
  · intro limited
    cases current with
    | fast =>
      have ⟨limit, slow⟩ : 3 ≤ m.iterationsUsed ∧ m.progress < exhaustionProgress := by
        simpa only [iterationLimit?, Option.isSome_ite] using limited
      exact .fast rfl limit slow
    | balanced =>
      have ⟨limit, slow⟩ : 10 ≤ m.iterationsUsed ∧ m.progress < exhaustionProgress := by
        simpa only [iterationLimit?, Option.isSome_ite] using limited
      exact .balanced rfl limit slow
    | deep | creative | cotExplicit | treeOfThought | adaptive => contradiction
  · rintro (errors | ⟨long, slow⟩ | ⟨rfl, limit, slow⟩ | ⟨rfl, limit, slow⟩)
    · exact absurd errors many
    · exact absurd ⟨long, slow⟩ stuck
    all_goals
      simp only [iterationLimit?, Option.isSome_ite]
      exact ⟨limit, slow⟩

theorem warrants_of_isNaN (nan : m.progress.isNaN = true) :
    Warrants current m ↔ 3 ≤ m.errorsEncountered := by
  constructor
  · rintro (many | ⟨_, slow⟩ | ⟨_, _, slow⟩ | ⟨_, _, slow⟩)
    · exact many
    all_goals exact absurd slow (Binary64.not_lt_of_isNaN nan)
  · exact .errors

theorem Warrants.of_noBetter (h : Warrants current m) (noBetter : worse.NoBetter m) :
    Warrants current worse := by
  have below {bound : Float} (slow : m.progress < bound) : worse.progress < bound :=
    Binary64.lt_of_le_of_lt noBetter.progress slow
  cases h with
  | errors many => exact .errors (UInt32.le_trans many noBetter.errors)
  | stuck long slow => exact .stuck (UInt32.lt_of_lt_of_le long noBetter.iterations) (below slow)
  | fast strategy limit slow =>
    exact .fast strategy (UInt32.le_trans limit noBetter.iterations) (below slow)
  | balanced strategy limit slow =>
    exact .balanced strategy (UInt32.le_trans limit noBetter.iterations) (below slow)

def EscalatesOn (c : Controller) (m : Metrics) : Prop :=
  c.escalationCount < c.maxEscalations ∧ Warrants c.currentStrategy m

/-- The session has taken one step up the ladder, and has logged it with what the metrics demand and at
their iterations. -/
structure Climbed (c : Controller) (m : Metrics) (now : Instant) (d : Controller) : Prop where
  strategy : d.currentStrategy = c.currentStrategy.escalationTarget
  policy : d.currentPolicy = c.catalog.get d.currentStrategy
  count : d.escalationCount.toNat = c.escalationCount.toNat + 1
  log : ∃ trigger, demand? c.currentStrategy m = some trigger ∧ d.transitions =
    c.transitions ++ [⟨c.currentStrategy, d.currentStrategy, trigger.reason, m.iterationsUsed, now⟩]

/-- The session stands where it stood, whatever it has been told. -/
structure Unmoved (c d : Controller) : Prop where
  strategy : d.currentStrategy = c.currentStrategy
  policy : d.currentPolicy = c.currentPolicy
  count : d.escalationCount = c.escalationCount
  log : d.transitions = c.transitions

variable {c : Controller}

theorem unmoved_record (c : Controller) (m : Metrics) : c.Unmoved (c.record m) :=
  ⟨rfl, rfl, rfl, rfl⟩

theorem trigger?_record (c : Controller) (m : Metrics) :
    (c.record m).trigger? = if c.isSpent then none else demand? c.currentStrategy m :=
  rfl

theorem trigger?_record_isSome_iff : (c.record m).trigger?.isSome ↔ c.EscalatesOn m := by
  rw [EscalatesOn, ← isSpent_eq_false, ← demand?_isSome_iff, trigger?_record]
  cases c.isSpent <;> simp

theorem EscalatesOn.climbed (h : c.EscalatesOn m) (now : Instant) :
    c.Climbed m now (c.update m now).value.1 := by
  obtain ⟨trigger, triggered⟩ := Option.isSome_iff_exists.mp (trigger?_record_isSome_iff.mpr h)
  have demanded : demand? c.currentStrategy m = some trigger := by
    rw [trigger?_record, isSpent_eq_false.mpr h.1] at triggered
    exact triggered
  rw [update_of_trigger triggered]
  exact ⟨rfl, rfl, toNat_add_one_of_lt h.1, trigger, demanded, rfl⟩

theorem update_of_not_escalatesOn (h : ¬c.EscalatesOn m) (now : Instant) :
    c.update m now = ⟨(c.record m, none), []⟩ := by
  rw [← trigger?_record_isSome_iff, Option.not_isSome_iff_eq_none] at h
  exact update_of_calm h now

theorem update_eq_some_iff {now : Instant} {s : Strategy} : (c.update m now).value.2 = some s ↔
    c.EscalatesOn m ∧ s = (c.catalog.get c.currentStrategy.escalationTarget).strategy := by
  by_cases escalates : c.EscalatesOn m
  · obtain ⟨trigger, h⟩ := Option.isSome_iff_exists.mp (trigger?_record_isSome_iff.mpr escalates)
    rw [update_of_trigger h]
    simp only [escalates, true_and, Option.some.injEq]
    exact eq_comm
  · simp [update_of_not_escalatesOn escalates, escalates]

theorem notices_update (c : Controller) (m : Metrics) (now : Instant) : (c.update m now).notices = [] := by
  cases h : (c.record m).trigger? with
  | none => rw [update_of_calm h]
  | some trigger => rw [update_of_trigger h]

theorem metrics_update (c : Controller) (m : Metrics) (now : Instant) :
    (c.update m now).value.1.metrics = m := by
  obtain same | ⟨-, reason, climbed⟩ := c.update_cases m now
  · rw [same]
    rfl
  · rw [climbed]
    rfl

/-- Whether a command reports metrics or asks for an escalation, and does not put the session on another
catalog or another initial strategy. -/
def Command.IsReport : Command → Prop
  | .update .. | .updateMetrics .. | .record _ | .escalate .. => True
  | .attach _ | .startFrom _ => False

theorem obey_of_spent (spent : c.isSpent = true) {command : Command} (report : command.IsReport) :
    ∃ m, c.obey command = c.record m := by
  have updated (m : Metrics) (now : Instant) : (c.update m now).value.1 = c.record m := by
    obtain same | ⟨room, -⟩ := c.update_cases m now
    · exact same
    · exact absurd (room.symm.trans spent) Bool.false_ne_true
  cases command with
  | update m now => exact ⟨m, updated m now⟩
  | updateMetrics => exact ⟨_, updated _ _⟩
  | record m => exact ⟨m, rfl⟩
  | escalate reason now =>
    refine ⟨c.metrics, ?_⟩
    rw [obey, escalate_of_spent spent]
    rfl
  | attach | startFrom => exact report.elim

theorem obeyAll_of_spent (spent : c.isSpent = true) {commands : List Command}
    (reports : ∀ command ∈ commands, command.IsReport) : ∃ m, c.obeyAll commands = c.record m := by
  induction commands generalizing c with
  | nil => exact ⟨c.metrics, rfl⟩
  | cons command rest ih =>
    obtain ⟨report, others⟩ := List.forall_mem_cons.mp reports
    obtain ⟨m, told⟩ := obey_of_spent spent report
    obtain ⟨n, later⟩ := ih (c := c.record m) spent others
    refine ⟨n, ?_⟩
    rw [obeyAll, List.foldl_cons, told]
    exact later

/-- A session that is read from a record is on the built-in catalog, whatever its counts are. -/
theorem catalog_of_ofJson? {json : Json} (decoded : ofJson? json = some c) : c.catalog = Catalog.builtin := by
  simp only [ofJson?, Option.bind_eq_bind, Option.bind_eq_some_iff, Option.some.injEq] at decoded
  repeat obtain ⟨_, -, decoded⟩ := decoded
  rfl

/-- An update tells a session the metrics and notes nothing. It climbs one rung exactly where the budget has
room and the metrics warrant it, and gives the strategy it has come to; otherwise the session stands where
it stood. A session whose budget is spent stands there for good. -/
theorem update_climbs_iff (made : c.catalog.Made) :
    (∀ m now,
      let step := c.update m now
      let d := step.value.1
      let escalates := c.escalationCount < c.maxEscalations ∧ Warrants c.currentStrategy m
      d.metrics = m ∧ step.notices = [] ∧ (step.value.2.isSome ↔ escalates) ∧
        (escalates → c.Climbed m now d ∧ step.value.2 = some d.currentStrategy) ∧
        (¬escalates → c.Unmoved d ∧ step.value.2 = none) ∧
        (m.progress.isNaN = true →
          (escalates ↔ c.escalationCount < c.maxEscalations ∧ 3 ≤ m.errorsEncountered))) ∧
    (c.maxEscalations ≤ c.escalationCount → ∀ commands : List Command,
      (∀ command ∈ commands, command.IsReport) → c.Unmoved (c.obeyAll commands)) := by
  constructor
  · intro m now step d escalates
    have climbs (h : escalates) : c.Climbed m now d ∧ step.value.2 = some d.currentStrategy := by
      have climbed := EscalatesOn.climbed h now
      refine ⟨climbed, update_eq_some_iff.mpr ⟨h, ?_⟩⟩
      rw [made.wellFormed.named]
      exact climbed.strategy
    have stays (h : ¬escalates) : c.Unmoved d ∧ step.value.2 = none := by
      simp only [d, step, update_of_not_escalatesOn h]
      exact ⟨c.unmoved_record m, trivial⟩
    refine ⟨c.metrics_update m now, c.notices_update m now, ?_, climbs, stays, fun nan => ?_⟩
    · by_cases h : escalates
      · exact iff_of_true (by rw [(climbs h).2]; rfl) h
      · exact iff_of_false (by rw [(stays h).2]; exact Bool.false_ne_true) h
    · exact and_congr_right' (warrants_of_isNaN nan)
  · intro spent commands reports
    obtain ⟨m, told⟩ := obeyAll_of_spent (decide_eq_true spent) reports
    rw [told]
    exact c.unmoved_record m

/-- A session read from a record with more escalations than its budget allows stands still whatever it is
told. With a greater budget the same session moves from the balanced strategy to the deep one. -/
theorem update_climbs_iff_of_decoded :
    let overspent : Controller :=
      { create "task" 2 (fun _ => .moderate) "id" Instant.epoch with escalationCount := 7 }
    let roomy : Controller := { overspent with maxEscalations := 9 }
    let late : Metrics := ⟨10, 60, 0, 0.5, 0.5⟩
    ofJson? overspent.toJson = some overspent ∧ overspent.catalog.Made ∧
      overspent.Unmoved
        (overspent.obeyAll [.update late Instant.epoch, .escalate "by hand" Instant.epoch]) ∧
      roomy.Climbed late Instant.epoch (roomy.update late Instant.epoch).value.1 ∧
      (roomy.update late Instant.epoch).value.2 = some .deep := by
  intro overspent roomy late
  have decoded : ofJson? overspent.toJson = some overspent := by
    rw [ofJson?_toJson]
    exact if_pos (by decide)
  have made : overspent.catalog.Made := by
    rw [catalog_of_ofJson? decoded]
    exact .builtin
  obtain ⟨-, stands⟩ := update_climbs_iff made
  obtain ⟨law, -⟩ := update_climbs_iff (c := roomy) made
  obtain ⟨-, -, -, climbs, -, -⟩ := law late Instant.epoch
  obtain ⟨climbed, given⟩ := climbs ⟨by decide, .balanced rfl (by decide) (by decide)⟩
  refine ⟨decoded, made, stands (by decide) _ ?_, climbed, given.trans (by rw [climbed.strategy]; rfl)⟩
  simp [Command.IsReport]

/-- Metrics that are no better make a session escalate wherever the better ones do, and to the same
strategy. What they say of time and confidence changes nothing about where the session comes to and what it
logs. -/
theorem update_of_noBetter (c : Controller) (m : Metrics) (now later : Instant) :
    (∀ worse : Metrics, worse.NoBetter m → ∀ s, (c.update m now).value.2 = some s →
      (c.update worse later).value.2 = some s ∧
        (c.update worse later).value.1.currentStrategy = (c.update m now).value.1.currentStrategy) ∧
    ∀ timeElapsed confidence,
      let step := c.update m now
      let other := c.update { m with timeElapsed, confidence } later
      other.value.2 = step.value.2 ∧
        other.value.1.currentStrategy = step.value.1.currentStrategy ∧
        other.value.1.currentPolicy = step.value.1.currentPolicy ∧
        other.value.1.escalationCount = step.value.1.escalationCount ∧
        other.value.1.untimed.transitions = step.value.1.untimed.transitions := by
  constructor
  · intro worse noBetter s given
    obtain ⟨escalates, target⟩ := update_eq_some_iff.mp given
    have still : c.EscalatesOn worse := ⟨escalates.1, escalates.2.of_noBetter noBetter⟩
    refine ⟨update_eq_some_iff.mpr ⟨still, target⟩, ?_⟩
    rw [(still.climbed later).strategy, (escalates.climbed now).strategy]
  · intro timeElapsed confidence step other
    have same : (c.record { m with timeElapsed, confidence }).trigger? = (c.record m).trigger? := rfl
    cases h : (c.record m).trigger? with
    | none =>
      simp only [step, other, update_of_calm h, update_of_calm (same.trans h)]
      exact ⟨trivial, rfl, rfl, rfl, rfl⟩
    | some trigger =>
      simp only [step, other, update_of_trigger h, update_of_trigger (same.trans h)]
      refine ⟨rfl, rfl, rfl, rfl, ?_⟩
      simp only [untimed, restamp, climb, record, List.map_append, List.map_cons, List.map_nil]

/-- More errors and less progress lead to the same strategy, with a time that is no number and an infinite
confidence. -/
theorem update_of_noBetter_of_stuck :
    let c := create "task" 2 (fun _ => .moderate) "id" Instant.epoch
    let late : Metrics := ⟨10, 60, 0, 0.5, 0.5⟩
    let stuck : Metrics := ⟨11, 0 / 0, 3, 0.1, 1 / 0⟩
    stuck.NoBetter late ∧ (c.update late Instant.epoch).value.2 = some .deep ∧
      (c.update stuck Instant.epoch).value.2 = some .deep ∧
      (c.update { late with timeElapsed := 0 / 0, confidence := 1 / 0 } Instant.epoch).value.2 =
        some .deep := by
  intro c late stuck
  have noBetter : stuck.NoBetter late := ⟨by decide, by decide, by decide⟩
  have given : (c.update late Instant.epoch).value.2 = some .deep := by decide +kernel
  obtain ⟨monotone, blind⟩ := update_of_noBetter c late Instant.epoch Instant.epoch
  exact ⟨noBetter, given, (monotone stuck noBetter .deep given).1, (blind (0 / 0) (1 / 0)).1.trans given⟩

end Controller

end Deliberation
