import Deliberation.Proofs.Branches
import Deliberation.Proofs.Workspaces
/-! Runs that break off for an overflow. The limit of a tree leaves room for the depth of every branch, so
that the numbers of steps alone can outgrow their word. A run in chain mode breaks off with the call whose
reply takes them there, and every other run comes to its end. -/

namespace Deliberation

open Session (Reaches Breaks SettledBy)

/-- The steps that the replies to some calls state, one reply after another. A call that has failed
states none. -/
def statedSteps (cycles : List Cycle) : List Reply.StatedStep :=
  cycles.flatMap fun c => c.result.completion?.toList.flatMap fun completion =>
    Reply.steps completion.text

theorem statedSteps_append (earlier later : List Cycle) :
    statedSteps (earlier ++ later) = statedSteps earlier ++ statedSteps later := by
  rw [statedSteps, List.flatMap_append]
  rfl

theorem statedSteps_of_silent {c : Cycle} (silent : c.result.completion? = none) :
    statedSteps [c] = [] := by
  simp [statedSteps, silent]

theorem statedSteps_of_completed {c : Cycle} {completion : Completion}
    (given : c.result.completion? = some completion) :
    statedSteps [c] = Reply.steps completion.text := by
  simp [statedSteps, given]

/-- A step has the number after the length that a word can tell, or there is no such number. -/
theorem Chain.nextStep_cases (c : Chain) (thought : String) (action observation : Option String)
    (confidence : Float) (now : Instant) :
    (∃ step, c.nextStep thought action observation confidence now = .ok step ∧
      step = ⟨step.number, thought, action, observation, Binary64.clampUnit confidence, now⟩ ∧
      step.number.toNat = c.steps.length % UInt32.size + 1) ∨
    UInt32.size ≤ c.steps.length % UInt32.size + 1 ∧
      c.nextStep thought action observation confidence now = .error {} := by
  unfold nextStep
  rw [UInt32.toNat_ofNat']
  cases room : fit32 (c.steps.length % 2 ^ 32 + 1) with
  | error => exact .inr ⟨fit32_eq_error_iff.mp room, rfl⟩
  | ok number => exact .inl ⟨_, rfl, rfl, fit32_eq_ok_iff.mp room⟩

namespace Session

/-- Steps are recorded one after another, unless the numbers run out before the last of them. -/
theorem recordSteps_cases (c : Chain) (steps : List Reply.StatedStep) (now : Instant) :
    (∃ d, recordSteps c steps now = .ok d ∧ d.steps.length = c.steps.length + steps.length ∧
      c.steps.length % UInt32.size + steps.length < UInt32.size) ∨
    UInt32.size ≤ c.steps.length % UInt32.size + steps.length ∧ recordSteps c steps now = .error {} := by
  induction steps generalizing c with
  | nil => exact .inl ⟨c, rfl, rfl, Nat.mod_lt _ (by decide)⟩
  | cons step rest ih =>
    have start := c.nextStep_cases (recordedThought step) none none step.confidence now
    rw [recordSteps, List.foldlM_cons, Chain.addStep, List.length_cons]
    obtain ⟨next, made, -, number⟩ | ⟨full, made⟩ := start
    · have bound := next.number.toNat_lt
      have length : (c.steps ++ [next]).length % UInt32.size = c.steps.length % UInt32.size + 1 := by
        rw [List.length_append, List.length_singleton, ← Nat.mod_add_mod]
        exact Nat.mod_eq_of_lt (number ▸ bound)
      have onward := ih { c with steps := c.steps ++ [next] }
      rw [length, List.length_append, List.length_singleton] at onward
      rw [made]
      obtain ⟨d, recorded, longer, few⟩ | ⟨full, overflows⟩ := onward
      · exact .inl ⟨d, recorded, by omega, by omega⟩
      · exact .inr ⟨by omega, overflows⟩
    · refine .inr ⟨by omega, ?_⟩
      rw [made]
      rfl

variable {clock : Nat → Instant} {fresh t next : Session} {elapsed time : Nat} {past cycles : List Cycle}
  {c : Cycle} {ending : Ending}

theorem Reaches.free (opened : fresh.workspace = .free)
    (reached : Reaches clock fresh elapsed past t time) : t.workspace = .free := by
  refine reached.invariant (fun _ t => t.workspace = .free) opened ?_
  intro past t time c next ending free made
  cases given : c.result.completion? with
  | none => exact (made.keeps given).trans free
  | some completion =>
    have writes := made.writes given
    rw [free] at writes
    exact (Except.ok.inj writes).symm

/-- The chain of a session is as long as its calls tell, and has a number for each of its steps. -/
def Numbered (past : List Cycle) (t : Session) : Prop :=
  ∃ chain, t.workspace = .chain chain ∧ chain.steps.length = (statedSteps past).length ∧
    chain.steps.length < UInt32.size

theorem Makes.numbered (numbered : Numbered past t) (made : t.Makes clock time c next ending) :
    Numbered (past ++ [c]) next := by
  obtain ⟨chain, workspace, length, few⟩ := numbered
  rw [Numbered, statedSteps_append, List.length_append]
  cases given : c.result.completion? with
  | none =>
    rw [made.keeps given, statedSteps_of_silent given]
    exact ⟨chain, workspace, length, few⟩
  | some completion =>
    have writes := made.writes given
    rw [workspace] at writes
    obtain ⟨longer, recorded, same⟩ := except_map_eq_ok_iff.mp writes
    rw [statedSteps_of_completed given]
    obtain ⟨_, again, more, room⟩ | ⟨-, overflows⟩ := recordSteps_cases chain _ (clock c.elapsed)
    · obtain rfl := Except.ok.inj (again.symm.trans recorded)
      rw [Nat.mod_eq_of_lt few] at room
      exact ⟨_, same.symm, more.trans (by rw [length]), more ▸ room⟩
    · exact nomatch overflows.symm.trans recorded

theorem becomes_recordedBranch (a : Reply.StatedApproach) (b : Branch) :
    b.Becomes (recordedBranch a b) := by
  unfold recordedBranch
  split
  · exact b.becomes_evaluate a.score
  · exact (b.becomes_addAction _ _).trans (Branch.becomes_evaluate _ a.score)

/-- A tree stays well formed under the approaches of a reply, and none of them overflows. -/
theorem recordApproaches_wellFormed {t : Tree} (h : t.WellFormed) (parentId : Option String)
    (now : Instant) (stated : List Reply.StatedApproach) :
    ∃ grown, recordApproaches t parentId now stated = .ok grown ∧ grown.value.1.WellFormed := by
  induction stated generalizing t with
  | nil => exact ⟨_, rfl, h⟩
  | cons a rest ih =>
    obtain ⟨made, whole, formed⟩ := h.createWith (becomes_recordedBranch a) a.approach parentId now
    obtain ⟨refused, -⟩ | ⟨room, shallow, created⟩ :=
      h.createWith_cases (recordedBranch a) a.approach parentId now
    · exact ⟨_, recordApproaches_of_refuses a rest now refused, h⟩
    · obtain rfl := Except.ok.inj (whole.symm.trans created)
      obtain ⟨grown, recorded, kept⟩ := ih formed
      have whole := recordApproaches_of_room a rest now room shallow
      exact ⟨_, whole.trans (except_map_eq_ok_iff.mpr ⟨grown, recorded, rfl⟩), kept⟩

theorem explore_wellFormed {t : Tree} (h : t.WellFormed) (text : String) (now : Instant) :
    ∃ later, t.explore text now = .ok later ∧ later.WellFormed := by
  obtain ⟨grown, recorded, formed⟩ :=
    recordApproaches_wellFormed h t.selectedId now (Reply.approaches text)
  refine ⟨_, except_map_eq_ok_iff.mpr ⟨grown, recorded, rfl⟩, ?_⟩
  split
  · exact formed
  · exact formed.select _

theorem Reaches.wellFormed {u : Tree} (opened : fresh.workspace = .tree u) (formed : u.WellFormed)
    (reached : Reaches clock fresh elapsed past t time) :
    ∃ v, t.workspace = .tree v ∧ v.WellFormed := by
  refine reached.invariant (fun _ t => ∃ v, t.workspace = .tree v ∧ v.WellFormed) ⟨u, opened, formed⟩ ?_
  rintro past t time c next ending ⟨v, workspace, formed⟩ made
  cases given : c.result.completion? with
  | none =>
    rw [made.keeps given]
    exact ⟨v, workspace, formed⟩
  | some completion =>
    have writes := made.writes given
    rw [workspace] at writes
    obtain ⟨later, explored, same⟩ := except_map_eq_ok_iff.mp writes
    obtain ⟨_, again, kept⟩ := explore_wellFormed formed completion.text (clock c.elapsed)
    obtain rfl := Except.ok.inj (again.symm.trans explored)
    exact ⟨_, same.symm, kept⟩

/-- A run in chain mode breaks off with the last of some calls, as their replies state more steps than
there are numbers. -/
structure Overruns {σ : Type} (backend : σ → Call → BackendReply × σ) (clock : Nat → Instant)
    (fresh : Session) (state : σ) (cycles : List Cycle) : Prop where
  mode : fresh.settings.mode = .chain
  settled : SettledBy backend state 0 cycles
  breaks : Breaks clock fresh 0 cycles .overflow
  steps : UInt32.size ≤ (statedSteps cycles).length
  driven : fresh.drive backend clock 0 state = .error .overflow

section
variable {settings : RunSettings} {catalog : Catalog} (classify : Classifier) (task id : String)

theorem start_numbered (mode : settings.mode = .chain) (now : Instant) :
    Numbered [] (start settings catalog classify task id now) := by
  refine ⟨.start task now, ?_, rfl, Nat.succ_pos _⟩
  simp only [start, mode]

/-- Only a run in chain mode overflows, and with more steps than there are numbers. -/
theorem start_overflows {now : Instant}
    (breaks : Breaks clock (start settings catalog classify task id now) 0 cycles .overflow) :
    settings.mode = .chain ∧ UInt32.size ≤ (statedSteps cycles).length := by
  generalize error : RunError.overflow = why at breaks
  cases breaks with
  | noSpan => cases error
  | @overflow past t time c reached asked overflows =>
    rw [absorb_ending, take_eq_overflow_iff] at overflows
    obtain ⟨completion, given, written⟩ := overflows
    cases mode : settings.mode with
    | adaptive =>
      have opened : (start settings catalog classify task id now).workspace = .free := by
        simp only [start, mode]
      rw [reached.free opened, Workspace.write] at written
      cases written
    | chain =>
      obtain ⟨chain, workspace, length, few⟩ :=
        reached.invariant Numbered (start_numbered classify task id mode now) Makes.numbered
      rw [workspace] at written
      obtain ⟨_, recorded, -⟩ | ⟨full, -⟩ :=
        recordSteps_cases chain (Reply.steps completion.text) (clock c.elapsed)
      · rw [Workspace.write, recorded] at written
        cases written
      · rw [Nat.mod_eq_of_lt few, length] at full
        rw [statedSteps_append, List.length_append, statedSteps_of_completed given]
        exact ⟨rfl, full⟩
    | tree =>
      have opened : (start settings catalog classify task id now).workspace =
          .tree (.start task settings.treeMaxBranches settings.treeMaxDepth now) := by
        simp only [start, mode]
      obtain ⟨v, workspace, formed⟩ := reached.wellFormed opened (Tree.start_wellFormed ..)
      obtain ⟨later, explored, -⟩ := explore_wellFormed formed completion.text (clock c.elapsed)
      rw [workspace, Workspace.write, explored] at written
      cases written

/-- A run that has come to its end has a number for every step that its replies state. -/
theorem Ends.length_statedSteps {now : Instant} {o : Outcome} (mode : settings.mode = .chain)
    (ends : Ends clock (start settings catalog classify task id now) 0 cycles o) :
    (statedSteps cycles).length < UInt32.size := by
  obtain ⟨t, -, -, -, ⟨chain, -, length, few⟩, -⟩ :=
    ends.invariant Numbered (start_numbered classify task id mode now) Makes.numbered
  exact length ▸ few

/-- Where the times of all policies have spans, a run comes to its end unless its steps overrun. -/
theorem drive_start_cases (spans : catalog.HasSpans) {σ : Type} (backend : σ → Call → BackendReply × σ)
    (clock : Nat → Instant) (state : σ) :
    let fresh := start settings catalog classify task id (clock 0)
    (∃ cycles, fresh.Overruns backend clock state cycles) ∨
      ∃ run final, fresh.drive backend clock 0 state = .ok (run, final) := by
  intro fresh
  obtain ⟨run, -, -, driven⟩ | ⟨cycles, error, replied, breaks, driven⟩ :=
    fresh.drive_cases backend clock 0 state
  · exact .inr ⟨run, _, driven⟩
  · have spans : fresh.controller.catalog.HasSpans := start_catalog .. ▸ spans
    obtain rfl := breaks.eq_overflow (start_coherent ..) spans
    obtain ⟨mode, many⟩ := start_overflows classify task id breaks
    exact .inl ⟨cycles, mode, replied, breaks, many, driven⟩

variable (settings) in
theorem drive_start_eq_ok (spans : catalog.HasSpans) (mode : settings.mode ≠ .chain) {σ : Type}
    (backend : σ → Call → BackendReply × σ) (clock : Nat → Instant) (state : σ) :
    ∃ run final, (start settings catalog classify task id (clock 0)).drive backend clock 0 state =
      .ok (run, final) :=
  (drive_start_cases classify task id spans backend clock state).resolve_left
    fun ⟨_, overruns⟩ => mode overruns.mode

end

end Session

end Deliberation
