import Deliberation.Controller.Record
import Deliberation.Proofs.Listings
import Deliberation.Proofs.Records
import Deliberation.Proofs.Replay
/-! Sessions that are saved and resumed. The record of a session leaves out its catalog. It is enough to
attach the catalog again, since the policy of a session is always the one that its catalog has for its
strategy. After that nothing tells the resumed session from the saved one but the times at which it goes
on. -/

namespace Deliberation

def Metrics.isFinite (m : Metrics) : Bool :=
  m.timeElapsed.isFinite && m.progress.isFinite && m.confidence.isFinite

def Policy.isFinite (p : Policy) : Bool :=
  p.temperature.isFinite && p.timeoutSeconds.isFinite

theorem Policy.Valid.isFinite {p : Policy} (h : p.Valid) : p.isFinite = true := by
  rw [Policy.isFinite, h.temperature.isFinite, h.finite]
  rfl

theorem Metrics.ofJson?_toJson (m : Metrics) :
    ofJson? m.toJson = if m.isFinite then some m else none := by
  rw [ofJson?, toJson, Json.slots?_object_bind (by simp)]
  unfold isFinite
  cases elapsed : m.timeElapsed.isFinite <;> cases progress : m.progress.isFinite <;>
    cases confidence : m.confidence.isFinite <;>
    simp [Json.float?_ofFloat, elapsed, progress, confidence]

theorem Policy.ofJson?_toJson (p : Policy) :
    ofJson? p.toJson = if p.isFinite then some p else none := by
  rw [ofJson?, toJson, Json.slots?_object_bind (by simp)]
  unfold isFinite
  cases temperature : p.temperature.isFinite <;> cases timeout : p.timeoutSeconds.isFinite <;>
    simp [Json.float?_ofFloat, temperature, timeout, Json.name?, Strategy.ofName?_name]

theorem Transition.ofJson?_toJson (t : Transition) : ofJson? t.toJson = some t := by
  rw [ofJson?, toJson, Json.slots?_object_bind (by simp)]
  simp [Json.name?, Strategy.ofName?_name]

namespace Controller

/-- The record of a session reads back where its numbers are finite, on the built-in catalog. -/
theorem ofJson?_toJson (c : Controller) :
    ofJson? c.toJson = if c.metrics.isFinite && c.currentPolicy.isFinite
      then some { c with catalog := Catalog.builtin } else none := by
  rw [ofJson?, toJson, Json.slots?_object_bind (by simp)]
  cases metrics : c.metrics.isFinite <;> cases policy : c.currentPolicy.isFinite <;>
    simp [Json.name?, Complexity.ofName?_name, Strategy.ofName?_name, Metrics.ofJson?_toJson, metrics,
      Policy.ofJson?_toJson, policy, Json.list?_ofList_eq_some Transition.ofJson?_toJson]

/-- The session as if all its transitions had been at its start. -/
def untimed (c : Controller) : Controller :=
  c.restamp c.sessionId c.startedAt

/-- The same command at another time. -/
def Command.retimed (now : Instant) : Command → Command
  | .update metrics _ => .update metrics now
  | .updateMetrics iterationsUsed timeElapsed errorsEncountered progress confidence _ =>
    .updateMetrics iterationsUsed timeElapsed errorsEncountered progress confidence now
  | .escalate reason _ => .escalate reason now
  | command => command

/-- What a command gives back: the strategy that an update has moved to, or the policy that an
escalation has moved to. -/
inductive Answer where
  | nothing
  | moved (strategy : Option Strategy)
  | granted (policy : Option Policy)
deriving DecidableEq

/-- What the session gives back for a command, and what it notes. -/
def answer (c : Controller) : Command → Answer × List Notice
  | .update metrics now =>
    let step := c.update metrics now
    (.moved step.value.2, step.notices)
  | .updateMetrics iterationsUsed timeElapsed errorsEncountered progress confidence now =>
    let step := c.updateMetrics iterationsUsed timeElapsed errorsEncountered progress confidence now
    (.moved step.value.2, step.notices)
  | .escalate reason now =>
    let step := c.escalate reason now
    (.granted step.value.2, step.notices)
  | .record _ | .attach _ | .startFrom _ => (.nothing, [])

def answers : Controller → List Command → List (Answer × List Notice)
  | _, [] => []
  | c, command :: rest => c.answer command :: answers (c.obey command) rest

theorem retimed_retimed (command : Command) (now later : Instant) :
    (command.retimed later).retimed now = command.retimed now := by
  cases command <;> rfl

/-- What stays of a session whatever it is told: its id and its start, and that its policy is the one
that its catalog has for its strategy. -/
structure Stays (c d : Controller) : Prop where
  sessionId : d.sessionId = c.sessionId
  startedAt : d.startedAt = c.startedAt
  policy : c.currentPolicy = c.catalog.get c.currentStrategy →
    d.currentPolicy = d.catalog.get d.currentStrategy

theorem Stays.refl (c : Controller) : c.Stays c :=
  ⟨rfl, rfl, id⟩

theorem Stays.trans {c d e : Controller} (first : c.Stays d) (second : d.Stays e) : c.Stays e :=
  ⟨second.sessionId.trans first.sessionId, second.startedAt.trans first.startedAt,
    second.policy ∘ first.policy⟩

theorem stays_climb (c : Controller) (reason : String) (now : Instant) : c.Stays (c.climb reason now) :=
  ⟨rfl, rfl, fun _ => rfl⟩

theorem stays_update (c : Controller) (m : Metrics) (now : Instant) :
    c.Stays (c.update m now).value.1 := by
  have recorded : c.Stays (c.record m) := ⟨rfl, rfl, id⟩
  obtain same | ⟨-, reason, climbed⟩ := c.update_cases m now
  · rw [same]
    exact recorded
  · rw [climbed]
    exact recorded.trans ((c.record m).stays_climb reason now)

theorem stays_obey (c : Controller) (command : Command) : c.Stays (c.obey command) := by
  cases command with
  | update metrics now => exact c.stays_update metrics now
  | updateMetrics => exact c.stays_update _ _
  | record => exact ⟨rfl, rfl, id⟩
  | attach | startFrom => exact ⟨rfl, rfl, fun _ => rfl⟩
  | escalate reason now =>
    obtain same | ⟨-, climbed⟩ := c.escalate_cases reason now
    · rw [obey, same]
      exact .refl c
    · rw [obey, climbed]
      exact c.stays_climb reason now

theorem stays_obeyAll (c : Controller) (commands : List Command) : c.Stays (c.obeyAll commands) := by
  induction commands generalizing c with
  | nil => exact .refl c
  | cons command rest ih => exact (c.stays_obey command).trans (ih (c.obey command))

section
variable {id : String} {now : Instant}

theorem restamp_escalate (c : Controller) (reason : String) (later : Instant) :
    (c.escalate reason later).value.1.restamp id now =
      ((c.restamp id now).escalate reason now).value.1 := by
  have same : (c.restamp id now).isSpent = c.isSpent := rfl
  cases spent : c.isSpent with
  | true => rw [escalate_of_spent spent, escalate_of_spent (same.trans spent)]
  | false =>
    rw [escalate_of_room spent, escalate_of_room (same.trans spent)]
    exact restamp_climb ..

theorem restamp_obey (c : Controller) (command : Command) :
    (c.obey command).restamp id now = (c.restamp id now).obey (command.retimed now) := by
  cases command with
  | update metrics later => exact c.restamp_update metrics later
  | updateMetrics => exact c.restamp_update _ _
  | record | attach | startFrom => rfl
  | escalate reason later => exact c.restamp_escalate reason later

theorem answer_restamp (c : Controller) (command : Command) :
    (c.restamp id now).answer (command.retimed now) = c.answer command := by
  have update (m : Metrics) (later : Instant) :
      (Answer.moved ((c.restamp id now).update m now).value.2, ((c.restamp id now).update m now).notices) =
        (Answer.moved (c.update m later).value.2, (c.update m later).notices) := by
    have same : ((c.restamp id now).record m).trigger? = (c.record m).trigger? := rfl
    cases h : (c.record m).trigger? with
    | none => rw [update_of_calm h, update_of_calm (same.trans h)]
    | some trigger =>
      rw [update_of_trigger h, update_of_trigger (same.trans h)]
      rfl
  cases command with
  | update metrics later => exact update metrics later
  | updateMetrics => exact update _ _
  | record | attach | startFrom => rfl
  | escalate reason later =>
    have same : (c.restamp id now).isSpent = c.isSpent := rfl
    simp only [Command.retimed, answer]
    cases spent : c.isSpent with
    | true =>
      rw [escalate_of_spent spent, escalate_of_spent (same.trans spent)]
      rfl
    | false =>
      rw [escalate_of_room spent, escalate_of_room (same.trans spent)]
      rfl

theorem restamp_obeyAll (c : Controller) (commands : List Command) :
    (c.obeyAll commands).restamp id now =
      (c.restamp id now).obeyAll (commands.map (Command.retimed now)) := by
  induction commands generalizing c with
  | nil => rfl
  | cons command rest ih =>
    have onward := ih (c.obey command)
    rw [restamp_obey] at onward
    exact onward

theorem answers_restamp (c : Controller) (commands : List Command) :
    (c.restamp id now).answers (commands.map (Command.retimed now)) = c.answers commands := by
  induction commands generalizing c with
  | nil => rfl
  | cons command rest ih =>
    rw [List.map_cons, answers, answers, answer_restamp, ← restamp_obey, ih]

end

/-- Commands at other times are answered the same, and differ in nothing but times in what they do. -/
theorem obeyAll_retimed (c : Controller) {now : Instant} {first second : List Command}
    (same : first.map (Command.retimed now) = second.map (Command.retimed now)) :
    c.answers second = c.answers first ∧ (c.obeyAll second).untimed = (c.obeyAll first).untimed := by
  have at_start : first.map (Command.retimed c.startedAt) = second.map (Command.retimed c.startedAt) := by
    have again := congrArg (List.map (Command.retimed c.startedAt)) same
    simpa only [List.map_map, Function.comp_def, retimed_retimed] using again
  have untimed_eq (commands : List Command) : (c.obeyAll commands).untimed =
      c.untimed.obeyAll (commands.map (Command.retimed c.startedAt)) := by
    have stays := c.stays_obeyAll commands
    rw [untimed, stays.sessionId, stays.startedAt, restamp_obeyAll, untimed]
  have told (commands : List Command) : c.answers commands =
      c.untimed.answers (commands.map (Command.retimed c.startedAt)) :=
    (c.answers_restamp commands).symm
  constructor
  · rw [told, told, at_start]
  · rw [untimed_eq, untimed_eq, at_start]

/-- A session on a catalog that can be made reads back from its record where its metrics are finite, with
the policy that was in force. On its own catalog it is the session that was saved, and goes on as that
would have. Where a metric is not finite, the record is refused. -/
theorem resumes_as_saved (task : String) (maxEscalations : UInt32) (classify : Classifier)
    (sessionId : String) (start : Instant) (commands : List Command)
    (made : ∀ catalog ∈ commands.filterMap Command.catalog?, catalog.Made) :
    let c := (create task maxEscalations classify sessionId start).obeyAll commands
    (c.metrics.isFinite = true → ∃ d, ofJson? c.toJson = some d ∧ d.currentPolicy = c.currentPolicy ∧
      d.withCatalog (attached commands) = c ∧
      ∀ now first second, first.map (Command.retimed now) = second.map (Command.retimed now) →
        let resumed := d.withCatalog (attached commands)
        resumed.answers second = c.answers first ∧
          (resumed.obeyAll second).untimed = (c.obeyAll first).untimed) ∧
    (c.metrics.isFinite = false → ofJson? c.toJson = none) := by
  intro c
  have catalog : c.catalog = attached commands := catalog_obeyAll _ commands
  have policy : c.currentPolicy = c.catalog.get c.currentStrategy :=
    (stays_obeyAll _ commands).policy rfl
  have sound := (attached_made_of_forall made).wellFormed.sound c.currentStrategy
  have finite : c.currentPolicy.isFinite = true := by
    rw [policy, catalog]
    exact (Policy.fault?_eq_none.mp sound).isFinite
  refine ⟨fun whole => ?_, fun broken => ?_⟩
  · have decoded : ofJson? c.toJson = some { c with catalog := Catalog.builtin } := by
      rw [ofJson?_toJson, whole, finite]
      rfl
    have resumed : Controller.withCatalog { c with catalog := Catalog.builtin } (attached commands) = c := by
      simp only [withCatalog, ← catalog, ← policy]
    refine ⟨_, decoded, rfl, resumed, fun now first second same => ?_⟩
    rw [resumed]
    exact c.obeyAll_retimed same
  · rw [ofJson?_toJson, broken]
    rfl

/-- A session that has escalated on an overridden catalog reads back with the overridden policy. It does
not after it was told a progress that is no number. -/
theorem resumes_as_saved_of_overridden :
    let tuned := Catalog.builtin.set .balanced { Catalog.builtin.get .balanced with temperature := 0.2 }
    let commands : List Command := [.attach tuned, .update ⟨3, 2, 0, 0.1, 0.5⟩ Instant.epoch]
    let spoilt : List Command := commands ++ [.record ⟨4, 3, 0, 0 / 0, 0.5⟩]
    let fresh := create "task" 2 (fun _ => .simple) "id" Instant.epoch
    let c := fresh.obeyAll commands
    (∃ d, ofJson? c.toJson = some d ∧ d.currentPolicy = tuned.get .balanced ∧ d.withCatalog tuned = c) ∧
      ofJson? (fresh.obeyAll spoilt).toJson = none := by
  intro tuned commands spoilt fresh c
  have overridden : Catalog.builtin.withOverrides [{ strategy := some .balanced, temperature := some 0.2 }] =
      .ok tuned := by rfl
  have made : ∀ catalog ∈ [tuned], catalog.Made :=
    List.forall_mem_singleton.mpr (.withOverrides .builtin overridden)
  obtain ⟨saved, -⟩ := resumes_as_saved "task" 2 (fun _ => .simple) "id" Instant.epoch commands made
  obtain ⟨-, refused⟩ := resumes_as_saved "task" 2 (fun _ => .simple) "id" Instant.epoch spoilt made
  obtain ⟨d, decoded, policy, resumed, -⟩ := saved (by decide +kernel)
  exact ⟨⟨d, decoded, policy.trans (by decide +kernel), resumed⟩, refused (by decide +kernel)⟩

end Controller

end Deliberation
