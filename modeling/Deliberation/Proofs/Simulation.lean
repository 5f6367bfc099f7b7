import Deliberation.Run.Drive
/-! Driving a session over a backend that merely changes a state. Nothing but its calls moves the clock, so
that every turn of the session has one equation. -/

namespace Deliberation

variable {σ : Type} {elapsed : Nat} {state : σ} {clock : Nat → Instant}

/-- An action with a result hands it on, with the state that it leaves. -/
theorem Simulation.run_bind_of_ok {α β : Type} {first : Simulation σ α} {x : α} {before after : Nat × σ}
    (done : first.run before = .ok x after) (onward : α → Simulation σ β) :
    (first >>= onward).run before = (onward x).run after := by
  rw [EStateM.run_bind, done]

theorem Simulation.run_bind_of_error {α β : Type} {first : Simulation σ α} {error : RunError}
    {before after : Nat × σ} (broken : first.run before = .error error after)
    (onward : α → Simulation σ β) : (first >>= onward).run before = .error error after := by
  rw [EStateM.run_bind, broken]

theorem Surroundings.run_elapsed :
    (simulated clock).elapsed.run (elapsed, state) = .ok elapsed (elapsed, state) :=
  rfl

theorem Surroundings.run_now :
    (simulated clock).now.run (elapsed, state) = .ok (clock elapsed) (elapsed, state) :=
  rfl

theorem Surroundings.run_tell {notices : List Notice} :
    ((simulated clock).tell notices).run (elapsed, state) = .ok () (elapsed, state) :=
  rfl

section
variable {backend : σ → Call → BackendReply × σ} {call : Call} {reply : BackendReply} {next : σ}
  {result : CallResult} {later : Nat}

theorem Call.run_simulate (replies : backend state call = (reply, next))
    (settled : call.settle reply elapsed = (result, later)) :
    (call.simulate backend).run (elapsed, state) = .ok result (later, next) := by
  have got : (get : Simulation σ (Nat × σ)).run (elapsed, state) = .ok (elapsed, state) (elapsed, state) := rfl
  rw [simulate, Simulation.run_bind_of_ok got]
  dsimp only
  rw [replies]
  dsimp only
  rw [settled]
  rfl

def Run.behind (cycle : Cycle) (notices : List Notice) (run : Run) : Run :=
  ⟨cycle :: run.cycles, notices ++ run.notices, run.outcome⟩

namespace Session

/-- A run with a decidable property is found by making it. -/
theorem exists_run_of_any {result : Except RunError (Run × σ)} {p : Run → Prop}
    [DecidablePred p] (h : (result.toOption.any fun r => decide (p r.1)) = true) :
    ∃ run final, result = .ok (run, final) ∧ p run := by
  cases result with
  | error e => contradiction
  | ok r => exact ⟨r.1, r.2, rfl, of_decide_eq_true h⟩

variable {s : Session}

theorem drive_of_noSpan (stuck : s.turn elapsed = .noSpan) :
    s.drive backend clock elapsed state = .error .noSpan := by
  rw [drive, driveWith, Simulation.run_bind_of_ok Surroundings.run_elapsed]
  generalize s.turn elapsed = turn at stuck ⊢
  subst stuck
  rfl

theorem drive_of_stop {reason : StopReason} (stops : s.turn elapsed = .stop reason) :
    s.drive backend clock elapsed state =
      .ok (⟨[], [], s.finish reason none (clock elapsed)⟩, state) := by
  rw [drive, driveWith, Simulation.run_bind_of_ok Surroundings.run_elapsed]
  generalize s.turn elapsed = turn at stops ⊢
  subst stops
  rfl

theorem drive_of_call {after : Session} {ending : Ending} {notices : List Notice}
    (asks : s.turn elapsed = .call call) (replies : backend state call = (reply, next))
    (settled : call.settle reply elapsed = (result, later))
    (absorbs : s.absorb call result later (clock later) = ⟨(after, ending), notices⟩) :
    s.drive backend clock elapsed state =
      if ending = .overflow then .error .overflow
      else match after.stopAfter? ending with
        | some reason =>
          .ok (⟨[⟨call, result, later⟩], notices, after.finish reason (some ending) (clock later)⟩, next)
        | none => (after.drive backend clock later next).map fun (rest, final) =>
          (rest.behind ⟨call, result, later⟩ notices, final) := by
  rw [drive, driveWith, Simulation.run_bind_of_ok Surroundings.run_elapsed]
  generalize s.turn elapsed = turn at asks ⊢
  subst asks
  dsimp only
  rw [Simulation.run_bind_of_ok (Call.run_simulate replies settled),
    Simulation.run_bind_of_ok Surroundings.run_elapsed,
    Simulation.run_bind_of_ok Surroundings.run_now, absorbs]
  dsimp only
  by_cases overflows : ending = .overflow
  · rw [if_pos overflows, if_pos overflows]
    rfl
  · rw [if_neg overflows, if_neg overflows]
    cases after.stopAfter? ending with
    | some reason => rfl
    | none =>
      dsimp only
      rw [Simulation.run_bind_of_ok Surroundings.run_tell]
      cases driven : (after.driveWith (.simulated clock) (Call.simulate backend)).run (later, next) with
      | ok rest final =>
        rw [Simulation.run_bind_of_ok driven, drive, driven]
        rfl
      | error error final =>
        rw [Simulation.run_bind_of_error driven, drive, driven]
        rfl

end Session

end

end Deliberation
