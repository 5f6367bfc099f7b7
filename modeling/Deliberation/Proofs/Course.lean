import Deliberation.Proofs.Calls
import Deliberation.Proofs.Simulation
/-! The course of a run, call by call. Every run goes from its session through a session after each
call, so that what one call preserves holds at the end of every run. -/

namespace Deliberation.Session

/-- The ceiling of the current policy is looked at before its time. -/
theorem turn_cases (s : Session) (elapsed : Nat) :
    let policy := s.controller.currentPolicy
    policy.maxIterations ≤ s.iterations ∧ s.turn elapsed = .stop .iterationCeiling ∨
      s.iterations < policy.maxIterations ∧
        (policy.budget? = none ∧ s.turn elapsed = .noSpan ∨
          ∃ budget, policy.budget? = some budget ∧
            (budget ≤ elapsed ∧ s.turn elapsed = .stop .timeout ∨
              elapsed < budget ∧ s.turn elapsed =
                .call ⟨s.prompt policy, policy, s.settings.maxTokens, budget - elapsed⟩)) := by
  dsimp only [turn]
  by_cases ceiling : s.controller.currentPolicy.maxIterations ≤ s.iterations
  · exact .inl ⟨ceiling, if_pos ceiling⟩
  · refine .inr ⟨UInt32.not_le.mp ceiling, ?_⟩
    rw [if_neg ceiling]
    cases s.controller.currentPolicy.budget? with
    | none => exact .inl ⟨rfl, rfl⟩
    | some budget =>
      by_cases late : budget ≤ elapsed
      · exact .inr ⟨budget, rfl, .inl ⟨late, if_pos late⟩⟩
      · exact .inr ⟨budget, rfl, .inr ⟨Nat.lt_of_not_le late, if_neg late⟩⟩

/-- A call is made below the ceiling and within the time of the current policy, and is given the time
that is left. -/
theorem turn_eq_call {s : Session} {elapsed : Nat} {call : Call} (h : s.turn elapsed = .call call) :
    let policy := s.controller.currentPolicy
    s.iterations < policy.maxIterations ∧ ∃ budget, policy.budget? = some budget ∧ elapsed < budget ∧
      call = ⟨s.prompt policy, policy, s.settings.maxTokens, budget - elapsed⟩ := by
  obtain ⟨-, stops⟩ | ⟨below, ⟨-, stuck⟩ | ⟨budget, span, ⟨-, stops⟩ | ⟨early, asks⟩⟩⟩ :=
    s.turn_cases elapsed
  · exact nomatch h.symm.trans stops
  · exact nomatch h.symm.trans stuck
  · exact nomatch h.symm.trans stops
  · exact ⟨below, budget, span, early, Turn.call.inj (h.symm.trans asks)⟩

structure Asks (s : Session) (elapsed : Nat) (c : Cycle) : Prop where
  asks : s.turn elapsed = .call c.call
  settles : ∃ reply, c.call.settle reply elapsed = (c.result, c.elapsed)

/-- A session makes a call and takes in what came of it. -/
structure Makes (clock : Nat → Instant) (s : Session) (elapsed : Nat) (c : Cycle) (next : Session)
    (ending : Ending) : Prop extends Asks s elapsed c where
  absorbs : (s.absorb c.call c.result c.elapsed (clock c.elapsed)).value = (next, ending)
  fits : ending ≠ .overflow

/-- The sessions and times between two calls, with the calls before them. -/
inductive Reaches (clock : Nat → Instant) (s : Session) (elapsed : Nat) :
    List Cycle → Session → Nat → Prop where
  | start : Reaches clock s elapsed [] s elapsed
  | call {past : List Cycle} {t next : Session} {time : Nat} {c : Cycle} {ending : Ending}
      (reached : Reaches clock s elapsed past t time) (made : t.Makes clock time c next ending)
      (goesOn : next.stopAfter? ending = none) : Reaches clock s elapsed (past ++ [c]) next c.elapsed

/-- The calls and the outcome of a whole run. It ends before a call or after one. -/
inductive Ends (clock : Nat → Instant) (s : Session) (elapsed : Nat) : List Cycle → Outcome → Prop where
  | before {cycles : List Cycle} {t : Session} {time : Nat} {reason : StopReason}
      (reached : Reaches clock s elapsed cycles t time) (stops : t.turn time = .stop reason) :
      Ends clock s elapsed cycles (t.finish reason none (clock time))
  | after {past : List Cycle} {t next : Session} {time : Nat} {c : Cycle} {ending : Ending}
      {reason : StopReason} (reached : Reaches clock s elapsed past t time)
      (made : t.Makes clock time c next ending) (stops : next.stopAfter? ending = some reason) :
      Ends clock s elapsed (past ++ [c]) (next.finish reason (some ending) (clock c.elapsed))

/-- The calls of a run that breaks off, and why it does. -/
inductive Breaks (clock : Nat → Instant) (s : Session) (elapsed : Nat) :
    List Cycle → RunError → Prop where
  | noSpan {cycles : List Cycle} {t : Session} {time : Nat}
      (reached : Reaches clock s elapsed cycles t time) (stuck : t.turn time = .noSpan) :
      Breaks clock s elapsed cycles .noSpan
  | overflow {past : List Cycle} {t : Session} {time : Nat} {c : Cycle}
      (reached : Reaches clock s elapsed past t time) (asked : t.Asks time c)
      (overflows : (t.absorb c.call c.result c.elapsed (clock c.elapsed)).value.2 = .overflow) :
      Breaks clock s elapsed (past ++ [c]) .overflow

/-- The replies of a backend settle some calls, one after another. -/
def SettledBy {σ : Type} (backend : σ → Call → BackendReply × σ) : σ → Nat → List Cycle → Prop
  | _, _, [] => True
  | state, elapsed, c :: rest =>
    c.call.settle (backend state c.call).1 elapsed = (c.result, c.elapsed) ∧
      SettledBy backend (backend state c.call).2 c.elapsed rest

variable {clock : Nat → Instant} {s next : Session} {elapsed : Nat} {c : Cycle} {ending : Ending}

theorem Makes.take_fits (made : s.Makes clock elapsed c next ending) :
    (s.take c.call c.result (clock c.elapsed)).value.2 ≠ .overflow := by
  have same := congrArg Prod.snd made.absorbs
  rw [absorb_ending] at same
  exact same ▸ made.fits

theorem Makes.take_eq (made : s.Makes clock elapsed c next ending) :
    let taken := (s.take c.call c.result (clock c.elapsed)).value
    (next, ending) = (taken.1.withController
      (s.controller.hear (taken.1.report c.result c.elapsed) (clock c.elapsed)), taken.2) := by
  have fits : (s.absorb c.call c.result c.elapsed (clock c.elapsed)).value.2 ≠ .overflow := by
    rw [made.absorbs]
    exact made.fits
  exact made.absorbs.symm.trans (absorb_value fits)

theorem Makes.ending_eq (made : s.Makes clock elapsed c next ending) :
    (s.take c.call c.result (clock c.elapsed)).value.2 = ending :=
  (congrArg Prod.snd made.take_eq).symm

theorem Makes.next_eq (made : s.Makes clock elapsed c next ending) :
    next = (s.take c.call c.result (clock c.elapsed)).value.1.withController
      (s.controller.hear ((s.take c.call c.result (clock c.elapsed)).value.1.report c.result c.elapsed)
        (clock c.elapsed)) :=
  congrArg Prod.fst made.take_eq

/-- The controller hears of a call what the session reports after it. -/
theorem Makes.controller_eq (made : s.Makes clock elapsed c next ending) :
    next.controller = s.controller.hear (next.report c.result c.elapsed) (clock c.elapsed) := by
  rw [made.next_eq]
  rfl

theorem Makes.counts (made : s.Makes clock elapsed c next ending) : s.Counts next c.result := by
  obtain ⟨settings, mode, iterations, errors, failures, usage, lastOutput⟩ := take_counts made.take_fits
  rw [made.next_eq]
  exact ⟨settings, mode, iterations, errors, failures, usage, lastOutput⟩

theorem Makes.coherent (made : s.Makes clock elapsed c next ending)
    (coherent : s.controller.Coherent) : next.controller.Coherent := by
  rw [made.controller_eq]
  exact coherent.hear _ _

theorem Makes.catalog_eq (made : s.Makes clock elapsed c next ending) :
    next.controller.catalog = s.controller.catalog := by
  rw [made.controller_eq]
  exact s.controller.catalog_hear _ _

section
variable {cycles : List Cycle} (made : s.Makes clock elapsed c next ending)
  (goesOn : next.stopAfter? ending = none)
include made goesOn

theorem Reaches.cons {t : Session} {time : Nat} (reached : Reaches clock next c.elapsed cycles t time) :
    Reaches clock s elapsed (c :: cycles) t time := by
  induction reached with
  | start => exact .call .start made goesOn
  | call _ later onward ih => exact .call ih later onward

theorem Ends.cons {outcome : Outcome} (ends : Ends clock next c.elapsed cycles outcome) :
    Ends clock s elapsed (c :: cycles) outcome := by
  cases ends with
  | before reached stops => exact .before (.cons made goesOn reached) stops
  | after reached later stops => exact .after (.cons made goesOn reached) later stops

theorem Breaks.cons {error : RunError} (breaks : Breaks clock next c.elapsed cycles error) :
    Breaks clock s elapsed (c :: cycles) error := by
  cases breaks with
  | noSpan reached stuck => exact .noSpan (.cons made goesOn reached) stuck
  | overflow reached asked overflows => exact .overflow (.cons made goesOn reached) asked overflows

end

/-- A run comes to its end or breaks off, and its calls are all that the backend was asked for. -/
theorem drive_cases {σ : Type} (backend : σ → Call → BackendReply × σ) (clock : Nat → Instant)
    (s : Session) (elapsed : Nat) (state : σ) :
    (∃ run, SettledBy backend state elapsed run.cycles ∧ Ends clock s elapsed run.cycles run.outcome ∧
      s.drive backend clock elapsed state =
        .ok (run, run.cycles.foldl (fun state c => (backend state c.call).2) state)) ∨
    ∃ cycles error, SettledBy backend state elapsed cycles ∧ Breaks clock s elapsed cycles error ∧
      s.drive backend clock elapsed state = .error error := by
  induction s using driveWith.induct generalizing elapsed state with
  | case1 s ih =>
    cases turn : s.turn elapsed with
    | noSpan => exact .inr ⟨[], _, trivial, .noSpan .start turn, drive_of_noSpan turn⟩
    | stop reason => exact .inl ⟨⟨[], [], _⟩, trivial, .before .start turn, drive_of_stop turn⟩
    | call call =>
      obtain ⟨result, later, settled⟩ : ∃ result later,
        call.settle (backend state call).1 elapsed = (result, later) := ⟨_, _, rfl⟩
      obtain ⟨next, ending, notices, absorbs⟩ : ∃ next ending notices,
        s.absorb call result later (clock later) = ⟨(next, ending), notices⟩ := ⟨_, _, _, rfl⟩
      have replies : backend state call = ((backend state call).1, (backend state call).2) := rfl
      have driven := drive_of_call turn replies settled absorbs
      have asked : s.Asks elapsed ⟨call, result, later⟩ := ⟨turn, _, settled⟩
      by_cases overflows : ending = .overflow
      · rw [if_pos overflows] at driven
        refine .inr ⟨[_], _, ⟨settled, trivial⟩, .overflow .start asked ?_, driven⟩
        rw [absorbs, overflows]
      · rw [if_neg overflows] at driven
        have made : s.Makes clock elapsed ⟨call, result, later⟩ next ending :=
          ⟨asked, congrArg Noted.value absorbs, overflows⟩
        cases stops : next.stopAfter? ending with
        | some reason =>
          rw [stops] at driven
          exact .inl ⟨⟨[_], notices, _⟩, ⟨settled, trivial⟩, .after .start made stops, driven⟩
        | none =>
          rw [stops] at driven
          have onward := ih elapsed call turn result later (clock later) later (backend state call).2
          rw [absorbs] at onward
          obtain ⟨run, replied, ends, rest⟩ | ⟨cycles, error, replied, breaks, rest⟩ := onward
          · rw [rest] at driven
            exact .inl ⟨run.behind _ notices, ⟨settled, replied⟩, ends.cons made stops, driven⟩
          · rw [rest] at driven
            exact .inr ⟨_ :: cycles, error, ⟨settled, replied⟩, breaks.cons made stops, driven⟩

section
variable {σ : Type} {backend : σ → Call → BackendReply × σ} {state final : σ} {run : Run}
  (driven : s.drive backend clock elapsed state = .ok (run, final))
include driven

theorem ends_of_drive : Ends clock s elapsed run.cycles run.outcome := by
  obtain ⟨whole, -, ends, same⟩ | ⟨cycles, error, -, -, broken⟩ := s.drive_cases backend clock elapsed state
  · obtain ⟨rfl, -⟩ := Prod.mk.inj (Except.ok.inj (driven.symm.trans same))
    exact ends
  · exact nomatch driven.symm.trans broken

end

theorem Reaches.invariant (holds : List Cycle → Session → Prop) (initially : holds [] s)
    (kept : ∀ {past t time c next ending}, holds past t → Makes clock t time c next ending →
      holds (past ++ [c]) next)
    {cycles : List Cycle} {t : Session} {time : Nat} (reached : Reaches clock s elapsed cycles t time) :
    holds cycles t := by
  induction reached with
  | start => exact initially
  | call _ made _ ih => exact kept ih made

/-- What the session of a run has at first and keeps in every call, it has at the end. -/
theorem Ends.invariant (holds : List Cycle → Session → Prop) (initially : holds [] s)
    (kept : ∀ {past t time c next ending}, holds past t → Makes clock t time c next ending →
      holds (past ++ [c]) next)
    {cycles : List Cycle} {outcome : Outcome} (ends : Ends clock s elapsed cycles outcome) :
    ∃ t reason ending time, holds cycles t ∧ outcome = t.finish reason ending (clock time) := by
  cases ends with
  | before reached => exact ⟨_, _, _, _, reached.invariant holds initially kept, rfl⟩
  | after reached made => exact ⟨_, _, _, _, kept (reached.invariant holds initially kept) made, rfl⟩

/-- Every call of a run was made by a session that the calls before it have led to, and the run went
on after it unless it was the last one. -/
theorem Reaches.call_at {earlier later : List Cycle} {t : Session} {time : Nat}
    (reached : Reaches clock s elapsed (earlier ++ c :: later) t time) :
    ∃ u before next ending, Reaches clock s elapsed earlier u before ∧
      u.Makes clock before c next ending ∧ next.stopAfter? ending = none := by
  generalize whole : earlier ++ c :: later = cycles at reached
  induction reached generalizing later with
  | start => simp at whole
  | @call past u next before d ending reached made goesOn ih =>
    obtain ⟨rfl, rfl, rfl⟩ | ⟨middle, -, same⟩ := cases_of_append_cons_eq_concat whole
    · exact ⟨u, before, next, ending, reached, made, goesOn⟩
    · exact ih same.symm

theorem Ends.call_at {earlier later : List Cycle} {outcome : Outcome}
    (ends : Ends clock s elapsed (earlier ++ c :: later) outcome) :
    ∃ u before next ending, Reaches clock s elapsed earlier u before ∧
      u.Makes clock before c next ending ∧ (later ≠ [] → next.stopAfter? ending = none) := by
  generalize whole : earlier ++ c :: later = cycles at ends
  cases ends with
  | before reached =>
    subst whole
    obtain ⟨u, before, next, ending, reached, made, goesOn⟩ := reached.call_at
    exact ⟨u, before, next, ending, reached, made, fun _ => goesOn⟩
  | @after past u next before d ending _ reached made =>
    obtain ⟨rfl, rfl, rfl⟩ | ⟨middle, rfl, rfl⟩ := cases_of_append_cons_eq_concat whole
    · exact ⟨u, before, next, ending, reached, made, fun more => absurd rfl more⟩
    · obtain ⟨u, before, next, ending, reached, made, goesOn⟩ := reached.call_at
      exact ⟨u, before, next, ending, reached, made, fun _ => goesOn⟩

theorem Breaks.call_at {earlier later : List Cycle} {error : RunError}
    (breaks : Breaks clock s elapsed (earlier ++ c :: later) error) :
    ∃ u before, Reaches clock s elapsed earlier u before ∧ u.Asks before c := by
  generalize whole : earlier ++ c :: later = cycles at breaks
  cases breaks with
  | noSpan reached =>
    subst whole
    obtain ⟨u, before, next, ending, reached, made, -⟩ := reached.call_at
    exact ⟨u, before, reached, made.toAsks⟩
  | @overflow past u before d reached asked =>
    obtain ⟨rfl, rfl, rfl⟩ | ⟨middle, rfl, rfl⟩ := cases_of_append_cons_eq_concat whole
    · exact ⟨u, before, reached, asked⟩
    · obtain ⟨u, before, next, ending, reached, made, -⟩ := reached.call_at
      exact ⟨u, before, reached, made.toAsks⟩

/-- The time when the last of some calls was over. -/
def timeAfter (elapsed : Nat) (cycles : List Cycle) : Nat :=
  (cycles.getLast?.map Cycle.elapsed).getD elapsed

theorem Reaches.time_eq {cycles : List Cycle} {t : Session} {time : Nat}
    (reached : Reaches clock s elapsed cycles t time) : time = timeAfter elapsed cycles := by
  cases reached with
  | start => rfl
  | call => simp [timeAfter]

/-- The session that takes in the results of calls while its controller hears of none of them. -/
def tally (clock : Nat → Instant) (s : Session) (cycles : List Cycle) : Session :=
  cycles.foldl (fun t c => (t.take c.call c.result (clock c.elapsed)).value.1) s

theorem tally_concat (clock : Nat → Instant) (s : Session) (past : List Cycle) (c : Cycle) :
    tally clock s (past ++ [c]) =
      ((tally clock s past).take c.call c.result (clock c.elapsed)).value.1 := by
  simp [tally]

/-- The controller of a run has no part in its totals. -/
theorem Makes.tally_eq {past : List Cycle} {t : Session} {time : Nat}
    (same : t = (tally clock s past).withController t.controller)
    (made : t.Makes clock time c next ending) :
    next = (tally clock s (past ++ [c])).withController next.controller := by
  have taken := congrArg Prod.fst
    ((tally clock s past).take_withController t.controller c.call c.result (clock c.elapsed))
  rw [← same] at taken
  rw [made.next_eq, taken, tally_concat]
  rfl

/-- The controller of a run is coherent between any two calls, and on the catalog of the run. -/
theorem Reaches.controller {past : List Cycle} {t : Session} {time : Nat}
    (reached : Reaches clock s elapsed past t time) (coherent : s.controller.Coherent) :
    t.controller.Coherent ∧ t.controller.catalog = s.controller.catalog :=
  reached.invariant (fun _ t => t.controller.Coherent ∧ t.controller.catalog = s.controller.catalog)
    ⟨coherent, rfl⟩ fun held made => ⟨made.coherent held.1, made.catalog_eq.trans held.2⟩

theorem turn_ne_noSpan (span : s.controller.currentPolicy.budget?.isSome) (elapsed : Nat) :
    s.turn elapsed ≠ .noSpan := by
  intro stuck
  obtain ⟨-, stops⟩ | ⟨-, ⟨spanless, -⟩ | ⟨budget, -, ⟨-, stops⟩ | ⟨-, asks⟩⟩⟩ :=
    s.turn_cases elapsed
  · exact nomatch stuck.symm.trans stops
  · rw [spanless] at span
    contradiction
  · exact nomatch stuck.symm.trans stops
  · exact nomatch stuck.symm.trans asks

/-- A run breaks off for an overflow alone wherever the times of all policies have spans. -/
theorem Breaks.eq_overflow {cycles : List Cycle} {error : RunError}
    (breaks : Breaks clock s elapsed cycles error) (coherent : s.controller.Coherent)
    (spans : s.controller.catalog.HasSpans) : error = .overflow := by
  cases breaks with
  | @noSpan _ t time reached stuck =>
    obtain ⟨held, catalog⟩ := reached.controller coherent
    refine absurd stuck (turn_ne_noSpan ?_ time)
    rw [held.policy, catalog]
    exact spans _
  | overflow => rfl

section
variable (settings : RunSettings) (catalog : Catalog) (classify : Classifier) (task id : String)
  (now : Instant)

theorem start_coherent : (start settings catalog classify task id now).controller.Coherent := by
  have fresh : ((Controller.create task settings.maxEscalations classify id now).withCatalog
      catalog).Coherent := (Controller.create_coherent ..).withCatalog catalog
  simp only [start]
  cases settings.initialStrategy with
  | none => exact fresh
  | some strategy => exact fresh.withInitialStrategy rfl strategy

theorem start_catalog : (start settings catalog classify task id now).controller.catalog = catalog := by
  simp only [start]
  cases settings.initialStrategy <;> rfl

theorem start_mode : (start settings catalog classify task id now).workspace.mode = settings.mode := by
  simp only [start]
  cases settings.mode <;> rfl

end

end Deliberation.Session
