import Mathlib.Data.List.Forall2
import Deliberation.Proofs.Accounting
import Deliberation.Proofs.Readings
/-! Runs in chain mode. The chain of a run holds the steps of its replies, one reply after another and
each step once, under the numbers from one on; it only grows, and every prompt lists what it holds. -/

namespace Deliberation

/-- A recorded step holds a stated one under a number: its thought with the reasoning in brackets, and
its confidence as it was read. -/
structure Step.Records (s : Step) (stated : Reply.StatedStep × Nat) : Prop where
  number : s.number = UInt32.ofNat stated.2
  thought : s.thought = if stated.1.reasoning = "" then stated.1.thought
    else stated.1.thought ++ " (" ++ stated.1.reasoning ++ ")"
  action : s.action = none
  observation : s.observation = none
  confidence : s.confidence = stated.1.confidence

/-- Within the range of numbers no step is left out and none is numbered twice. -/
theorem numbers_eq_range {steps : List Step} {stated : List Reply.StatedStep} {first : Nat}
    (records : List.Forall₂ Step.Records steps (stated.zipIdx first))
    (few : first + stated.length ≤ UInt32.size) :
    (steps.map fun s => s.number.toNat) = List.range' first steps.length := by
  induction stated generalizing steps first with
  | nil =>
    obtain rfl := List.forall₂_nil_right_iff.mp records
    rfl
  | cons step rest ih =>
    rw [List.zipIdx_cons] at records
    rw [List.length_cons] at few
    obtain ⟨s, later, recorded, onward, rfl⟩ := List.forall₂_cons_right_iff.mp records
    rw [List.map_cons, List.length_cons, List.range'_succ, ih onward (by omega), recorded.number,
      UInt32.toNat_ofNat_of_lt' (by simp only; omega)]

theorem Chain.nextStep_records {c : Chain} {stated : Reply.StatedStep}
    (unit : Binary64.InUnit stated.confidence) (now : Instant) (few : c.steps.length + 1 < UInt32.size) :
    ∃ step, c.nextStep (Session.recordedThought stated) none none stated.confidence now = .ok step ∧
      step.Records (stated, c.steps.length + 1) := by
  obtain ⟨step, made, whole, number⟩ | ⟨full, -⟩ :=
    c.nextStep_cases (Session.recordedThought stated) none none stated.confidence now
  · rw [Nat.mod_eq_of_lt (Nat.lt_of_succ_lt few)] at number
    rw [whole] at made
    refine ⟨_, made, ?_, ?_, rfl, rfl, unit.clampUnit_eq⟩
    · rw [← number, UInt32.ofNat_toNat]
    · simp [Session.recordedThought]
  · have short := Nat.mod_le c.steps.length UInt32.size
    omega

namespace Session

/-- Recorded steps follow the steps that were there, in the order in which they were stated. -/
theorem recordSteps_records {c : Chain} {before steps : List Reply.StatedStep} (now : Instant)
    (units : ∀ step ∈ steps, Binary64.InUnit step.confidence)
    (records : List.Forall₂ Step.Records c.steps (before.zipIdx 1))
    (few : before.length + steps.length < UInt32.size) :
    ∃ d, recordSteps c steps now = .ok d ∧ c.steps <+: d.steps ∧
      List.Forall₂ Step.Records d.steps ((before ++ steps).zipIdx 1) := by
  induction steps generalizing c before with
  | nil =>
    rw [List.append_nil]
    exact ⟨c, rfl, List.prefix_refl _, records⟩
  | cons step rest ih =>
    have length : c.steps.length = before.length := by simpa using records.length_eq
    rw [List.length_cons] at few
    obtain ⟨next, made, newest⟩ :=
      Chain.nextStep_records (units step List.mem_cons_self) now (by omega : c.steps.length + 1 < _)
    rw [length] at newest
    have grown : List.Forall₂ Step.Records (c.steps ++ [next]) ((before ++ [step]).zipIdx 1) := by
      rw [List.zipIdx_append, Nat.add_comm]
      exact List.rel_append records (.cons newest .nil)
    obtain ⟨d, onward, longer, holds⟩ := @ih { c with steps := c.steps ++ [next] } _
      (fun s member => units s (List.mem_cons_of_mem _ member)) grown (by simp; omega)
    rw [List.append_assoc, List.singleton_append] at holds
    refine ⟨d, ?_, (List.prefix_append _ _).trans longer, holds⟩
    rw [recordSteps, List.foldlM_cons, Chain.addStep, made]
    exact onward

variable {clock : Nat → Instant} {s t : Session} {time : Nat} {past : List Cycle} {c : Cycle}

/-- A chain records what the calls state and keeps what it holds. -/
theorem tally_records {chain : Chain} {before : List Reply.StatedStep} (clock : Nat → Instant)
    {cycles : List Cycle} (few : before.length + (statedSteps cycles).length < UInt32.size)
    (workspace : s.workspace = .chain chain)
    (records : List.Forall₂ Step.Records chain.steps (before.zipIdx 1)) :
    ∃ later, (tally clock s cycles).workspace = .chain later ∧ chain.steps <+: later.steps ∧
      List.Forall₂ Step.Records later.steps ((before ++ statedSteps cycles).zipIdx 1) := by
  induction cycles generalizing s chain before with
  | nil =>
    rw [statedSteps, List.flatMap_nil, List.append_nil]
    exact ⟨chain, workspace, List.prefix_refl _, records⟩
  | cons c rest ih =>
    have taken := s.workspace_take c.call c.result (clock c.elapsed)
    rw [workspace, Workspace.after] at taken
    have first : statedSteps (c :: rest) = statedSteps [c] ++ statedSteps rest :=
      statedSteps_append [c] rest
    rw [first, List.length_append] at few
    cases given : c.result.completion? with
    | none =>
      have silent := statedSteps_of_silent given
      rw [given] at taken
      rw [silent, List.length_nil, Nat.zero_add] at few
      rw [first, silent, List.nil_append]
      exact ih few taken records
    | some completion =>
      have states := statedSteps_of_completed given
      rw [states] at few
      obtain ⟨d, recorded, longer, grown⟩ := recordSteps_records (clock c.elapsed)
        (fun _ => Reply.confidence_inUnit_of_mem_steps) records
        (by omega : _ + (Reply.steps completion.text).length < _)
      simp only [given, Workspace.write, recorded] at taken
      obtain ⟨later, written, more, holds⟩ := ih (by simp; omega) taken grown
      rw [first, states, ← List.append_assoc]
      exact ⟨later, written, longer.trans more, holds⟩

theorem context_of_chain {chain : Chain} (workspace : s.workspace = .chain chain)
    (some_steps : 0 < chain.steps.length) : s.context = chainContext chain.steps := by
  have nonempty : chain.steps.isEmpty = false := by
    rw [List.isEmpty_eq_false_iff]
    exact List.ne_nil_of_length_pos some_steps
  simp only [Session.context, workspace, nonempty, Bool.false_eq_true, if_false]

section
variable {settings : RunSettings} {catalog : Catalog} {classify : Classifier} {task id : String}

end

end Session

end Deliberation
