import Deliberation.Controller.Summary
import Deliberation.Proofs.Catalogs
/-! Sessions under any sequence of commands. A session only ever climbs the ladder, one rung for each
transition that it records, and its policy stays that of the attached catalog. -/

namespace Deliberation

/-- The transitions lead up the ladder from one strategy to another, each from where the one before
it has led. -/
def IsWalk : Strategy → List Transition → Strategy → Prop
  | origin, [], goal => goal = origin
  | origin, t :: rest, goal =>
    t.source = origin ∧ t.target = origin.escalationTarget ∧ IsWalk t.target rest goal

theorem IsWalk.climb {origin goal : Strategy} {log : List Transition} {t : Transition}
    (walk : IsWalk origin log goal) (source : t.source = goal)
    (target : t.target = goal.escalationTarget) : IsWalk origin (log ++ [t]) t.target := by
  induction log generalizing origin with
  | nil =>
    obtain rfl : goal = origin := walk
    exact ⟨source, target, rfl⟩
  | cons first rest ih =>
    obtain ⟨leaves, leads, onward⟩ := walk
    exact ⟨leaves, leads, ih onward⟩

def Instant.epoch : Instant :=
  ⟨⟨1970, 1, 1, by decide, by decide⟩, ⟨0, 0, 0, 0, by decide, by decide, by decide, by decide⟩⟩

theorem toNat_add_one_of_lt {a b : UInt32} (h : a < b) : (a + 1).toNat = a.toNat + 1 := by
  have below := UInt32.lt_iff_toNat_lt.mp h
  have bound := b.toNat_lt
  rw [UInt32.toNat_add]
  exact Nat.mod_eq_of_lt (by simp only [UInt32.toNat_one]; omega)

namespace Controller

theorem isSpent_eq_false {c : Controller} : c.isSpent = false ↔ c.escalationCount < c.maxEscalations := by
  simp only [isSpent, decide_eq_false_iff_not, UInt32.not_le]

theorem isSpent_of_trigger {c : Controller} {trigger : Trigger} (h : c.trigger? = some trigger) :
    c.isSpent = false := by
  unfold trigger? at h
  split at h
  · contradiction
  · rename_i room
    simpa using room

theorem escalate_of_spent {c : Controller} (spent : c.isSpent = true) (reason : String) (now : Instant) :
    c.escalate reason now =
      ⟨(c, none), [.escalationsSpent c.currentStrategy c.maxEscalations reason]⟩ := by
  simp only [escalate, spent, if_true]

theorem escalate_of_room {c : Controller} (room : c.isSpent = false) (reason : String) (now : Instant) :
    c.escalate reason now =
      ⟨(c.climb reason now, some (c.climb reason now).currentPolicy), []⟩ := by
  simp only [escalate, room, Bool.false_eq_true, if_false]

theorem update_of_calm {c : Controller} {m : Metrics} (calm : (c.record m).trigger? = none)
    (now : Instant) : c.update m now = ⟨(c.record m, none), []⟩ := by
  simp only [update, calm]

theorem update_of_trigger {c : Controller} {m : Metrics} {trigger : Trigger}
    (h : (c.record m).trigger? = some trigger) (now : Instant) :
    c.update m now = ⟨((c.record m).climb trigger.reason now,
      some ((c.record m).climb trigger.reason now).currentPolicy.strategy), []⟩ := by
  simp only [update, h, escalate_of_room (isSpent_of_trigger h), Option.map_some]

/-- An update records the metrics, and then it climbs one rung or does nothing. -/
theorem update_cases (c : Controller) (m : Metrics) (now : Instant) :
    (c.update m now).value.1 = c.record m ∨
      c.isSpent = false ∧ ∃ reason, (c.update m now).value.1 = (c.record m).climb reason now := by
  cases h : (c.record m).trigger? with
  | none => exact .inl (by rw [update_of_calm h])
  | some trigger =>
    have room : c.isSpent = false := isSpent_of_trigger (c := c.record m) h
    exact .inr ⟨room, trigger.reason, by rw [update_of_trigger h]⟩

theorem escalate_cases (c : Controller) (reason : String) (now : Instant) :
    (c.escalate reason now).value.1 = c ∨
      c.isSpent = false ∧ (c.escalate reason now).value.1 = c.climb reason now := by
  cases h : c.isSpent with
  | true => exact .inl (by rw [escalate_of_spent h])
  | false => exact .inr ⟨rfl, by rw [escalate_of_room h]⟩

/-- The parts of a session fit together. -/
structure Coherent (c : Controller) : Prop where
  count : c.escalationCount.toNat = c.transitions.length
  budget : c.escalationCount ≤ c.maxEscalations
  walk : IsWalk c.initialStrategy c.transitions c.currentStrategy
  policy : c.currentPolicy = c.catalog.get c.currentStrategy

theorem create_coherent (task : String) (maxEscalations : UInt32) (classify : Classifier)
    (sessionId : String) (now : Instant) :
    (create task maxEscalations classify sessionId now).Coherent where
  count := rfl
  budget := UInt32.zero_le
  walk := rfl
  policy := rfl

theorem Coherent.record {c : Controller} (h : c.Coherent) (m : Metrics) : (c.record m).Coherent :=
  ⟨h.count, h.budget, h.walk, h.policy⟩

theorem Coherent.withCatalog {c : Controller} (h : c.Coherent) (catalog : Catalog) :
    (c.withCatalog catalog).Coherent :=
  ⟨h.count, h.budget, h.walk, rfl⟩

/-- Without transitions there is no walk yet that another initial strategy could break. -/
theorem Coherent.withInitialStrategy {c : Controller} (h : c.Coherent) (fresh : c.transitions = [])
    (s : Strategy) : (c.withInitialStrategy s).Coherent where
  count := h.count
  budget := h.budget
  walk := by
    simp only [Controller.withInitialStrategy, fresh]
    exact rfl
  policy := rfl

theorem Coherent.climb {c : Controller} (h : c.Coherent) (room : c.isSpent = false) (reason : String)
    (now : Instant) : (c.climb reason now).Coherent := by
  have below := isSpent_eq_false.mp room
  have next := toNat_add_one_of_lt below
  rw [UInt32.lt_iff_toNat_lt] at below
  constructor
  · simp only [Controller.climb, next, h.count, List.length_append, List.length_singleton]
  · rw [UInt32.le_iff_toNat_le]
    simp only [Controller.climb, next]
    omega
  · exact h.walk.climb rfl rfl
  · rfl

theorem Coherent.update {c : Controller} (h : c.Coherent) (m : Metrics) (now : Instant) :
    (c.update m now).value.1.Coherent := by
  obtain same | ⟨room, reason, climbed⟩ := c.update_cases m now
  · rw [same]
    exact h.record m
  · rw [climbed]
    exact (h.record m).climb room reason now

theorem Coherent.escalate {c : Controller} (h : c.Coherent) (reason : String) (now : Instant) :
    (c.escalate reason now).value.1.Coherent := by
  obtain same | ⟨room, climbed⟩ := c.escalate_cases reason now
  · rw [same]
    exact h
  · rw [climbed]
    exact h.climb room reason now

inductive Command where
  | update (metrics : Metrics) (now : Instant)
  | updateMetrics (iterationsUsed : UInt32) (timeElapsed : Float) (errorsEncountered : UInt32)
      (progress confidence : Float) (now : Instant)
  | record (metrics : Metrics)
  | escalate (reason : String) (now : Instant)
  | attach (catalog : Catalog)
  | startFrom (strategy : Strategy)

def Command.catalog? : Command → Option Catalog
  | .attach catalog => some catalog
  | _ => none

def attached (commands : List Command) : Catalog :=
  (commands.filterMap Command.catalog?).getLastD Catalog.builtin

def obey (c : Controller) : Command → Controller
  | .update metrics now => (c.update metrics now).value.1
  | .updateMetrics iterationsUsed timeElapsed errorsEncountered progress confidence now =>
    (c.updateMetrics iterationsUsed timeElapsed errorsEncountered progress confidence now).value.1
  | .record metrics => c.record metrics
  | .escalate reason now => (c.escalate reason now).value.1
  | .attach catalog => c.withCatalog catalog
  | .startFrom strategy => c.withInitialStrategy strategy

def obeyAll (c : Controller) (commands : List Command) : Controller :=
  commands.foldl obey c

/-- Only catalogs that can be made are attached, and only before its first escalation is a session
put on another initial strategy. -/
def Permits (c : Controller) : Command → Prop
  | .attach catalog => catalog.Made
  | .startFrom _ => c.transitions = []
  | _ => True

def PermitsAll : Controller → List Command → Prop
  | _, [] => True
  | c, command :: rest => c.Permits command ∧ PermitsAll (c.obey command) rest

theorem Coherent.obey {c : Controller} (h : c.Coherent) {command : Command}
    (permitted : c.Permits command) : (c.obey command).Coherent := by
  cases command with
  | update metrics now => exact h.update metrics now
  | updateMetrics => exact h.update _ _
  | record metrics => exact h.record metrics
  | escalate reason now => exact h.escalate reason now
  | attach catalog => exact h.withCatalog catalog
  | startFrom strategy => exact h.withInitialStrategy permitted strategy

theorem Coherent.obeyAll {c : Controller} (h : c.Coherent) {commands : List Command}
    (permitted : c.PermitsAll commands) : (c.obeyAll commands).Coherent := by
  induction commands generalizing c with
  | nil => exact h
  | cons command rest ih => exact ih (h.obey permitted.1) permitted.2

/-- What no command touches, and what it can only add to. -/
structure Extends (c d : Controller) : Prop where
  budget : d.maxEscalations = c.maxEscalations
  log : c.transitions <+: d.transitions

theorem Extends.refl (c : Controller) : c.Extends c :=
  ⟨rfl, List.prefix_refl _⟩

theorem Extends.trans {c d e : Controller} (first : c.Extends d) (second : d.Extends e) :
    c.Extends e :=
  ⟨second.budget.trans first.budget, first.log.trans second.log⟩

theorem extends_record (c : Controller) (m : Metrics) : c.Extends (c.record m) :=
  ⟨rfl, List.prefix_refl _⟩

theorem extends_climb (c : Controller) (reason : String) (now : Instant) :
    c.Extends (c.climb reason now) :=
  ⟨rfl, List.prefix_append _ _⟩

theorem extends_update (c : Controller) (m : Metrics) (now : Instant) :
    c.Extends (c.update m now).value.1 := by
  obtain same | ⟨_, reason, climbed⟩ := c.update_cases m now
  · rw [same]
    exact c.extends_record m
  · rw [climbed]
    exact (c.extends_record m).trans ((c.record m).extends_climb reason now)

theorem extends_obey (c : Controller) (command : Command) : c.Extends (c.obey command) := by
  cases command with
  | update metrics now => exact c.extends_update metrics now
  | updateMetrics => exact c.extends_update _ _
  | record | attach | startFrom => exact ⟨rfl, List.prefix_refl _⟩
  | escalate reason now =>
    obtain same | ⟨_, climbed⟩ := c.escalate_cases reason now
    · simpa only [obey, same] using Extends.refl c
    · simpa only [obey, climbed] using c.extends_climb reason now

theorem extends_obeyAll (c : Controller) (commands : List Command) : c.Extends (c.obeyAll commands) := by
  induction commands generalizing c with
  | nil => exact Extends.refl c
  | cons command rest ih => exact (c.extends_obey command).trans (ih (c.obey command))

theorem catalog_update (c : Controller) (m : Metrics) (now : Instant) :
    (c.update m now).value.1.catalog = c.catalog := by
  obtain same | ⟨_, reason, climbed⟩ := c.update_cases m now
  · rw [same]
    rfl
  · rw [climbed]
    rfl

theorem catalog_obey (c : Controller) (command : Command) :
    (c.obey command).catalog = command.catalog?.getD c.catalog := by
  cases command with
  | update metrics now => exact c.catalog_update metrics now
  | updateMetrics => exact c.catalog_update _ _
  | record | attach | startFrom => rfl
  | escalate reason now =>
    obtain same | ⟨_, climbed⟩ := c.escalate_cases reason now
    · simp only [obey, same, Command.catalog?, Option.getD_none]
    · simp only [obey, climbed, Controller.climb, Command.catalog?, Option.getD_none]

theorem catalog_obeyAll (c : Controller) (commands : List Command) :
    (c.obeyAll commands).catalog = (commands.filterMap Command.catalog?).getLastD c.catalog := by
  induction commands generalizing c with
  | nil => rfl
  | cons command rest ih =>
    have step := (ih (c.obey command)).trans (by rw [catalog_obey])
    cases command with
    | attach catalog =>
      simp only [List.filterMap_cons, Command.catalog?, List.getLastD_cons]
      exact step
    | update | updateMetrics | record | escalate | startFrom => exact step

theorem attached_made_of_forall {commands : List Command}
    (made : ∀ catalog ∈ commands.filterMap Command.catalog?, catalog.Made) : (attached commands).Made := by
  unfold attached
  rw [List.getLastD_eq_getLast?]
  cases last : (commands.filterMap Command.catalog?).getLast? with
  | none => exact .builtin
  | some catalog => exact made catalog (List.mem_of_getLast? last)

theorem attached_made {c : Controller} {commands : List Command} (permitted : c.PermitsAll commands) :
    (attached commands).Made := by
  apply attached_made_of_forall
  induction commands generalizing c with
  | nil => intro _ member; contradiction
  | cons command rest ih =>
    have later := ih permitted.2
    cases command with
    | attach catalog =>
      intro d member
      simp only [List.filterMap_cons, Command.catalog?, List.mem_cons] at member
      obtain rfl | member := member
      · exact permitted.1
      · exact later d member
    | update | updateMetrics | record | escalate | startFrom => exact later

/-- A session counts its transitions and keeps within its budget, its log is one walk up the ladder
that only grows, and its policy is the one of the attached catalog for its strategy. -/
theorem obeyAll_create_invariant (task : String) (maxEscalations : UInt32) (classify : Classifier)
    (sessionId : String) (now : Instant) (commands : List Command)
    (permitted : (create task maxEscalations classify sessionId now).PermitsAll commands) :
    let fresh := create task maxEscalations classify sessionId now
    let c := fresh.obeyAll commands
    (c.escalationCount.toNat = c.transitions.length ∧ c.escalationCount ≤ c.maxEscalations ∧
      c.maxEscalations = maxEscalations) ∧
    IsWalk c.initialStrategy c.transitions c.currentStrategy ∧
    (∀ earlier later, commands = earlier ++ later →
      (fresh.obeyAll earlier).transitions <+: c.transitions) ∧
    c.catalog = attached commands ∧ c.currentPolicy = c.catalog.get c.currentStrategy ∧
    c.currentPolicy.strategy = c.currentStrategy := by
  intro fresh c
  have coherent : c.Coherent := (create_coherent ..).obeyAll permitted
  have catalog : c.catalog = attached commands := fresh.catalog_obeyAll commands
  refine ⟨⟨coherent.count, coherent.budget, (fresh.extends_obeyAll commands).budget⟩, coherent.walk,
    ?_, catalog, coherent.policy, ?_⟩
  · rintro earlier later rfl
    have parts : c = (fresh.obeyAll earlier).obeyAll later := List.foldl_append
    rw [parts]
    exact (extends_obeyAll _ later).log
  · rw [coherent.policy, catalog]
    exact (attached_made permitted).wellFormed.named _

/-- A session on an overridden catalog, with a progress that is no number and counters that fall. -/
theorem obeyAll_create_invariant_of_overridden :
    let tuned := Catalog.builtin.set .deep { Catalog.builtin.get .deep with maxIterations := 5 }
    let commands : List Command := [.attach tuned, .startFrom .creative,
      .update ⟨7, 1, 3, 0 / 0, 0.5⟩ Instant.epoch, .updateMetrics 2 0 1 0.9 0.5 Instant.epoch,
      .escalate "by hand" Instant.epoch, .record ⟨1, 0, 0, 0, 0⟩, .escalate "again" Instant.epoch]
    let fresh := create "task" 2 (fun _ => .simple) "id" Instant.epoch
    let c := fresh.obeyAll commands
    fresh.PermitsAll commands ∧ c.transitions.length = 2 ∧
      IsWalk .creative c.transitions .treeOfThought ∧ c.currentPolicy = tuned.get .treeOfThought := by
  intro tuned commands fresh c
  have overridden : Catalog.builtin.withOverrides [{ strategy := some .deep, maxIterations := some 5 }] =
      .ok tuned := by rfl
  have permitted : fresh.PermitsAll commands :=
    ⟨.withOverrides .builtin overridden, rfl, trivial, trivial, trivial, trivial, trivial, trivial⟩
  obtain ⟨⟨count, -⟩, walk, -, -, policy, -⟩ :=
    obeyAll_create_invariant "task" 2 (fun _ => .simple) "id" Instant.epoch commands permitted
  exact ⟨permitted, count.symm, walk, policy⟩

end Controller

end Deliberation
