import Deliberation.Proofs.Course
/-! What a run writes down. A workspace changes with the replies that are in time and with nothing
else: a chain by the steps that a reply states, and a tree by its approaches. -/

namespace Deliberation

/-- The tree after the approaches of a reply, which become branches below the selected one. Where any
of them does, the best is selected. -/
def Tree.explore (t : Tree) (text : String) (now : Instant) : Except Overflow Tree :=
  (Session.recordApproaches t t.selectedId now (Reply.approaches text)).map fun grown =>
    if grown.value.2 = 0 then grown.value.1 else (grown.value.1.select Scorer.heuristic).1

namespace Workspace

def write (w : Workspace) (text : String) (now : Instant) : Except Overflow Workspace :=
  match w with
  | .free => .ok .free
  | .chain c => (Session.recordSteps c (Reply.steps text) now).map .chain
  | .tree t => (t.explore text now).map .tree

/-- The workspace after a call. An overflow leaves it as it was. -/
def after (w : Workspace) (result : CallResult) (now : Instant) : Workspace :=
  match result.completion? with
  | none => w
  | some completion => (w.write completion.text now).toOption.getD w

end Workspace

namespace Session

variable {s : Session} {text : String} {a : Reply.Assessment} {now : Instant}

/-- Taking in an output writes it down or overflows. -/
structure Wrote (s : Session) (written : Except Overflow Workspace) (step : Session × Progressing) :
    Prop where
  workspace : step.1.workspace = written.toOption.getD s.workspace
  overflow : step.2 = .overflow ↔ written = .error {}

theorem absorbChain_wrote (c : Chain) :
    s.Wrote ((recordSteps c (Reply.steps text) now).map .chain) (s.absorbChain c text a now).value := by
  unfold absorbChain
  cases recordSteps c (Reply.steps text) now with
  | error => exact ⟨rfl, iff_of_true rfl rfl⟩
  | ok d =>
    dsimp only
    split <;> exact ⟨rfl, iff_of_false nofun nofun⟩

theorem absorbTree_wrote {t : Tree} (workspace : s.workspace = .tree t) :
    s.Wrote ((t.explore text now).map .tree) (s.absorbTree t text a now).value := by
  unfold absorbTree Tree.explore
  cases Reply.approaches text with
  | nil => cases a.finalAnswer <;> exact ⟨workspace, iff_of_false nofun nofun⟩
  | cons first rest =>
    dsimp only
    cases recordApproaches t t.selectedId now (first :: rest) with
    | error => exact ⟨rfl, iff_of_true rfl rfl⟩
    | ok grown =>
      by_cases idle : grown.value.2 = 0
      · simp only [Except.map, if_pos idle]
        refine ⟨rfl, iff_of_false ?_ nofun⟩
        split <;> nofun
      · simp only [Except.map, if_neg idle]
        split <;> exact ⟨rfl, iff_of_false nofun nofun⟩

theorem absorbText_wrote : s.Wrote (s.workspace.write text now) (s.absorbText text a now).value := by
  unfold absorbText
  split
  · rename_i workspace
    rw [workspace]
    exact ⟨workspace, iff_of_false nofun nofun⟩
  · rename_i workspace
    rw [workspace]
    exact absorbChain_wrote _
  · rename_i workspace
    rw [workspace]
    exact absorbTree_wrote workspace

theorem workspace_take (s : Session) (call : Call) (result : CallResult) (now : Instant) :
    (s.take call result now).value.1.workspace = s.workspace.after result now := by
  cases result with
  | failed error => rfl
  | timedOut => rfl
  | completed completion =>
    have wrote : (s.counted completion).Wrote (s.workspace.write completion.text now)
        ((s.counted completion).absorbText completion.text (Reply.assess completion.text) now).value :=
      absorbText_wrote
    rw [take_completed]
    split <;> exact wrote.workspace

/-- A call overflows where its output cannot be written down. -/
theorem take_eq_overflow_iff {call : Call} {result : CallResult} :
    (s.take call result now).value.2 = .overflow ↔
      ∃ completion, result.completion? = some completion ∧
        s.workspace.write completion.text now = .error {} := by
  rw [take_eq_overflow]
  cases result with
  | failed error => simp [CallResult.completion?]
  | timedOut => simp [CallResult.completion?]
  | completed completion =>
    have wrote : (s.counted completion).Wrote (s.workspace.write completion.text now)
        ((s.counted completion).absorbText completion.text (Reply.assess completion.text) now).value :=
      absorbText_wrote
    simp only [CallResult.completed.injEq, exists_eq_left', CallResult.completion?, Option.some.injEq]
    exact wrote.overflow

variable {clock : Nat → Instant} {fresh t next : Session} {elapsed time : Nat} {past cycles : List Cycle}
  {c : Cycle} {ending : Ending} {o : Outcome}

/-- The output of a call after which a run goes on is written down. -/
theorem Makes.writes (made : t.Makes clock time c next ending) {completion : Completion}
    (given : c.result.completion? = some completion) :
    t.workspace.write completion.text (clock c.elapsed) = .ok next.workspace := by
  have after : next.workspace = t.workspace.after c.result (clock c.elapsed) := by
    rw [made.next_eq]
    exact t.workspace_take c.call c.result (clock c.elapsed)
  simp only [after, Workspace.after, given]
  cases written : t.workspace.write completion.text (clock c.elapsed) with
  | error overflow => exact absurd (take_eq_overflow_iff.mpr ⟨_, given, written⟩) made.take_fits
  | ok w => rfl

/-- A call without an output leaves what is written down. -/
theorem Makes.keeps (made : t.Makes clock time c next ending) (silent : c.result.completion? = none) :
    next.workspace = t.workspace := by
  rw [made.next_eq]
  refine (t.workspace_take c.call c.result (clock c.elapsed)).trans ?_
  rw [Workspace.after, silent]

/-- The session after some calls is, apart from its controller, the one that takes them in. -/
theorem Reaches.tally_eq (reached : Reaches clock fresh elapsed past t time) :
    t = (tally clock fresh past).withController t.controller :=
  reached.invariant (fun past t => t = (tally clock fresh past).withController t.controller) rfl
    fun same made => made.tally_eq same

theorem Reaches.workspace_eq (reached : Reaches clock fresh elapsed past t time) :
    t.workspace = (tally clock fresh past).workspace := by
  rw [reached.tally_eq]
  rfl

/-- A run leaves what its calls have written. -/
theorem Ends.workspace (ends : Ends clock fresh elapsed cycles o) :
    (∀ c, (tally clock fresh cycles).workspace = .chain c → ∃ now, o.chain = some (c.complete now)) ∧
    ∀ u, (tally clock fresh cycles).workspace = .tree u → ∃ now, o.tree = some (u.complete now) := by
  obtain ⟨t, reason, ending, time, same, rfl⟩ := ends.invariant
    (fun past t => t = (tally clock fresh past).withController t.controller) rfl
    fun same made => made.tally_eq same
  have workspace : t.workspace = (tally clock fresh cycles).workspace := by
    rw [same]
    rfl
  rw [← workspace]
  constructor
  · intro c written
    exact ⟨clock time, by simp only [finish, written]⟩
  · intro u written
    exact ⟨clock time, by simp only [finish, written]⟩

end Session

end Deliberation
