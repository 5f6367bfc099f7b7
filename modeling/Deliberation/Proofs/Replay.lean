import Deliberation.Proofs.Accounting
/-! A run does to its controller what its reports alone would do. The controller of a run is replayed
from the reports of the calls by a session that calls nobody. -/

namespace Deliberation

namespace Controller

def opened (settings : RunSettings) (catalog : Catalog) (classify : Classifier)
    (task sessionId : String) (now : Instant) : Controller :=
  let fresh := (create task settings.maxEscalations classify sessionId now).withCatalog catalog
  match settings.initialStrategy with
  | none => fresh
  | some strategy => fresh.withInitialStrategy strategy

def replay (c : Controller) (now : Instant) (reports : List Report) : Controller :=
  reports.foldl (fun c r => c.hear r now) c

/-- The controller under another id, and as if everything had been at one instant. -/
def restamp (c : Controller) (sessionId : String) (now : Instant) : Controller :=
  { c with
    sessionId
    startedAt := now
    transitions := c.transitions.map fun t => { t with timestamp := now } }

variable {id : String} {now : Instant}

theorem restamp_climb (c : Controller) (reason : String) (later : Instant) :
    (c.climb reason later).restamp id now = (c.restamp id now).climb reason now := by
  simp only [climb, restamp, List.map_append, List.map_cons, List.map_nil]

theorem restamp_update (c : Controller) (m : Metrics) (later : Instant) :
    (c.update m later).value.1.restamp id now = ((c.restamp id now).update m now).value.1 := by
  have same : ((c.restamp id now).record m).trigger? = (c.record m).trigger? := rfl
  cases h : (c.record m).trigger? with
  | none =>
    rw [update_of_calm h, update_of_calm (same.trans h)]
    rfl
  | some trigger =>
    rw [update_of_trigger h, update_of_trigger (same.trans h)]
    exact restamp_climb ..

/-- Neither the id of a session nor any timestamp has a part in what a report does. -/
theorem restamp_hear (c : Controller) (r : Report) (later : Instant) :
    (c.hear r later).restamp id now = (c.restamp id now).hear r now := by
  unfold hear
  cases r.completes with
  | true => rfl
  | false => exact c.restamp_update r.metrics later

theorem replay_concat (c : Controller) (reports : List Report) (r : Report) :
    c.replay now (reports ++ [r]) = (c.replay now reports).hear r now := by
  simp only [replay, List.foldl_append, List.foldl_cons, List.foldl_nil]

/-- A report adds one transition at its own iteration, or none. The last report adds none. -/
theorem transitions_hear (c : Controller) (r : Report) (now : Instant) :
    (c.hear r now).transitions = c.transitions ∨
      r.completes = false ∧ ∃ t, (c.hear r now).transitions = c.transitions ++ [t] ∧
        t.iteration = r.metrics.iterationsUsed := by
  obtain same | ⟨unfinished, -, reason, climbed⟩ := c.hear_cases r now
  · rw [same]
    exact .inl rfl
  · rw [climbed]
    exact .inr ⟨unfinished, _, rfl, rfl⟩

end Controller

namespace Session

variable {clock : Nat → Instant} {s t next : Session} {time : Nat} {c : Cycle} {ending : Ending}
  {past : List Cycle} {id : String} {now : Instant}

/-- What the controller of a session is told, call by call. -/
def reports (clock : Nat → Instant) (s : Session) : List Cycle → List Report
  | [] => []
  | c :: rest =>
    let t := (s.take c.call c.result (clock c.elapsed)).value.1
    t.report c.result c.elapsed :: reports clock t rest

theorem reports_concat (s : Session) (past : List Cycle) (c : Cycle) :
    reports clock s (past ++ [c]) =
      reports clock s past ++ [(tally clock s (past ++ [c])).report c.result c.elapsed] := by
  induction past generalizing s with
  | nil => rfl
  | cons first rest ih => exact congrArg (_ :: ·) (ih _)

/-- The controller of a session is the replay of the reports of its calls. -/
structure Replays (clock : Nat → Instant) (s : Session) (id : String) (now : Instant)
    (past : List Cycle) (t : Session) : Prop where
  totals : t = (tally clock s past).withController t.controller
  controller : t.controller.restamp id now =
    (s.controller.restamp id now).replay now (reports clock s past)

theorem Replays.step (h : Replays clock s id now past t) (made : t.Makes clock time c next ending) :
    Replays clock s id now (past ++ [c]) next := by
  have totals := made.tally_eq h.totals
  refine ⟨totals, ?_⟩
  have told : next.report c.result c.elapsed =
      (tally clock s (past ++ [c])).report c.result c.elapsed :=
    congrArg (·.report c.result c.elapsed) totals
  rw [made.controller_eq, Controller.restamp_hear, h.controller, reports_concat,
    Controller.replay_concat, told]

/-- The transitions of a session stand at its calls, each at a later one. -/
structure Climbs (t : Session) : Prop where
  ascending : (t.controller.transitions.map Transition.iteration).Pairwise (· < ·)
  within : ∀ transition ∈ t.controller.transitions, transition.iteration ≤ t.iterations

theorem Climbs.step (h : t.Climbs) (made : t.Makes clock time c next ending) : next.Climbs := by
  have room := iterations_lt_of_turn_eq_call made.asks
  have later : t.iterations < next.iterations := by
    rw [made.counts.iterations, UInt32.lt_iff_toNat_lt, toNat_add_one_of_lt room]
    exact Nat.lt_succ_self _
  have below : ∀ transition ∈ t.controller.transitions, transition.iteration < next.iterations :=
    fun transition member => UInt32.lt_of_le_of_lt (h.within transition member) later
  have hears := congrArg Controller.transitions made.controller_eq
  obtain same | ⟨-, added, extended, stands⟩ := Controller.transitions_hear t.controller
    (next.report c.result c.elapsed) (clock c.elapsed)
  · rw [same] at hears
    constructor
    · rw [hears]
      exact h.ascending
    · rw [hears]
      exact fun transition member => UInt32.le_of_lt (below transition member)
  · rw [extended] at hears
    have newest : added.iteration = next.iterations := stands
    constructor
    · rw [hears, List.map_append, List.pairwise_append]
      refine ⟨h.ascending, List.pairwise_singleton .., ?_⟩
      simp only [List.mem_map, List.map_cons, List.map_nil, List.mem_singleton]
      rintro _ ⟨transition, member, rfl⟩ _ rfl
      rw [newest]
      exact below transition member
    · rw [hears]
      intro transition member
      obtain earlier | last := List.mem_append.mp member
      · exact UInt32.le_of_lt (below transition earlier)
      · rw [List.mem_singleton.mp last, newest]
        exact UInt32.le_refl _

section
variable {settings : RunSettings} {catalog : Catalog} {classify : Classifier} {task sessionId : String}

end

end Session

end Deliberation
