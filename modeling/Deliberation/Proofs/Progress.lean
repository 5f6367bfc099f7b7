import Deliberation.Proofs.Assessments
import Deliberation.Proofs.Course
import Deliberation.Proofs.Readings
import Deliberation.Proofs.Selection
/-! The progress of a run. It is what a reply reports, the score of a branch or, with a final answer, one.
All of these lie in the unit interval, and so does the progress that the controller hears of. -/

namespace Deliberation

open Binary64 (InUnit)

namespace Tree

/-- Every branch has a score, and it lies in the unit interval. -/
def Graded (t : Tree) : Prop :=
  ∀ b ∈ t.branches, b.IsScored ∧ InUnit b.score

theorem Graded.start (task : String) (maxBranches : UInt64) (maxDepth : UInt32) (now : Instant) :
    (start task maxBranches maxDepth now).Graded :=
  fun _ member => nomatch member

theorem Graded.createWith {t : Tree} (h : t.Graded) {a : Reply.StatedApproach} (unit : InUnit a.score)
    {parentId : Option String} {now : Instant} {made : Noted (Tree × Option Branch)}
    (created : t.createWith (Session.recordedBranch a) a.approach parentId now = .ok made) :
    made.value.1.Graded := by
  obtain ⟨-, same⟩ | ⟨-, -, same⟩ | ⟨-, -, same⟩ :=
    createWith_cases (Session.recordedBranch a) a.approach now t parentId
  · obtain rfl := Except.ok.inj (same.symm.trans created)
    exact h
  · exact nomatch same.symm.trans created
  · obtain rfl := Except.ok.inj (same.symm.trans created)
    intro b member
    obtain old | new := List.mem_append.mp member
    · exact h b old
    · obtain rfl := List.mem_singleton.mp new
      exact ⟨.inl rfl, Binary64.clampUnit_inUnit unit.self_le⟩

theorem Graded.recordApproaches {t : Tree} (h : t.Graded) {parentId : Option String} {now : Instant}
    {stated : List Reply.StatedApproach} (units : ∀ a ∈ stated, InUnit a.score)
    {grown : Noted (Tree × Nat)}
    (recorded : Session.recordApproaches t parentId now stated = .ok grown) : grown.value.1.Graded := by
  induction stated generalizing t grown with
  | nil =>
    obtain rfl := Except.ok.inj recorded
    exact h
  | cons a rest ih =>
    obtain refused | ⟨room, deep, -⟩ | ⟨room, shallow, created⟩ :=
      createWith_cases (Session.recordedBranch a) a.approach now t parentId
    · rw [Session.recordApproaches_of_refuses a rest now refused.1] at recorded
      obtain rfl := Except.ok.inj recorded
      exact h
    · rw [Session.recordApproaches_of_overflow a rest now room deep] at recorded
      exact nomatch recorded
    · have graded := h.createWith (units a List.mem_cons_self) created
      rw [Session.recordApproaches_of_room a rest now room shallow] at recorded
      obtain ⟨later, onward, rfl⟩ := except_map_eq_ok_iff.mp recorded
      have kept := ih graded (fun b member => units b (List.mem_cons_of_mem _ member)) onward
      exact kept

/-- A selection keeps all scores. -/
theorem Graded.select {t : Tree} (h : t.Graded) (scorer : Scorer) :
    (t.select scorer).1.Graded ∧ ∀ b ∈ (t.select scorer).2, InUnit b.score := by
  have scored : t.evaluateAll scorer = t :=
    evaluateAll_eq_self fun b member => (h b member).1.assess_eq scorer
  have graded : (t.select scorer).1.Graded := by
    intro b member
    obtain ⟨c, origin, made⟩ := exists_of_mem_select member
    obtain ⟨before, unit⟩ := h c (scored ▸ origin)
    obtain rfl | rfl | rfl := made
    · exact ⟨before, unit⟩
    · exact ⟨.inr (.inr before.status_lose), c.score_lose.symm ▸ unit⟩
    · exact ⟨.inr (.inl rfl), unit⟩
  exact ⟨graded, fun b won => (graded b (mem_of_select won)).2⟩

end Tree

namespace Session

/-- The progress lies in the unit interval, and so does every score that it may be taken from. -/
structure Gauged (s : Session) : Prop where
  progress : InUnit s.progress
  tree : ∀ t, s.workspace = .tree t → t.Graded

variable {s : Session}

theorem Gauged.of_tree {t : Tree} (workspace : s.workspace = .tree t) (progress : InUnit s.progress)
    (graded : t.Graded) : s.Gauged where
  progress := progress
  tree := by
    intro u same
    obtain rfl := Workspace.tree.inj (workspace.symm.trans same)
    exact graded

theorem Gauged.of_treeless (workspace : ∀ t, s.workspace ≠ .tree t) (progress : InUnit s.progress) :
    s.Gauged where
  progress := progress
  tree t same := absurd same (workspace t)

theorem start_gauged (settings : RunSettings) (catalog : Catalog) (classify : Classifier)
    (task id : String) (now : Instant) : (start settings catalog classify task id now).Gauged where
  progress := Binary64.zero_inUnit
  tree := by
    intro t workspace
    simp only [start] at workspace
    split at workspace
    · contradiction
    · contradiction
    · obtain rfl := Workspace.tree.inj workspace
      exact Tree.Graded.start _ _ _ _

theorem Gauged.absorbTree (h : s.Gauged) {t : Tree} (workspace : s.workspace = .tree t) (text : String)
    (a : Reply.Assessment) (now : Instant) : (s.absorbTree t text a now).value.1.Gauged := by
  have units : ∀ a ∈ Reply.approaches text, InUnit a.score :=
    fun _ => Reply.score_inUnit_of_mem_approaches
  simp only [Session.absorbTree]
  cases stated : Reply.approaches text with
  | nil => cases a.finalAnswer <;> exact ⟨h.progress, h.tree⟩
  | cons first rest =>
    dsimp only
    cases recorded : recordApproaches t t.selectedId now (first :: rest) with
    | error => exact h
    | ok grown =>
      have graded := (h.tree t workspace).recordApproaches (stated ▸ units) recorded
      dsimp only
      split
      · exact .of_tree rfl h.progress graded
      · obtain ⟨selected, won⟩ := graded.select Scorer.heuristic
        split
        · exact .of_tree rfl h.progress selected
        · rename_i b winner
          exact .of_tree rfl (won b winner) selected

theorem Gauged.absorbText (h : s.Gauged) (text : String) (now : Instant) :
    (s.absorbText text (Reply.assess text) now).value.1.Gauged := by
  have reported : InUnit ((Reply.assess text).progress.getD s.progress) := by
    cases read : (Reply.assess text).progress with
    | none => exact h.progress
    | some x => exact Reply.assess_progress_inUnit text x read
  unfold Session.absorbText
  split
  · rename_i workspace
    exact .of_treeless (fun t same => Workspace.noConfusion (workspace.symm.trans same)) reported
  · rename_i c workspace
    unfold absorbChain
    cases recordSteps c (Reply.steps text) now with
    | error => exact h
    | ok d =>
      dsimp only
      split
      all_goals exact .of_treeless (fun t same => Workspace.noConfusion same) reported
  · rename_i t workspace
    exact h.absorbTree workspace text _ now

theorem Gauged.take (h : s.Gauged) (call : Call) (result : CallResult) (now : Instant) :
    (s.take call result now).value.1.Gauged := by
  cases result with
  | failed error => exact ⟨h.progress, h.tree⟩
  | timedOut => exact ⟨h.progress, h.tree⟩
  | completed completion =>
    have counted : (s.counted completion).Gauged := ⟨h.progress, h.tree⟩
    obtain ⟨progress, tree⟩ := counted.absorbText completion.text now
    rw [take_completed]
    split
    · exact ⟨progress, tree⟩
    · exact ⟨progress, tree⟩
    · exact ⟨Binary64.one_inUnit, tree⟩
    · exact ⟨progress, tree⟩

theorem Makes.gauged {clock : Nat → Instant} {next : Session} {time : Nat} {c : Cycle} {ending : Ending}
    (made : s.Makes clock time c next ending) (h : s.Gauged) : next.Gauged := by
  obtain ⟨progress, tree⟩ := h.take c.call c.result (clock c.elapsed)
  rw [made.next_eq]
  exact ⟨progress, tree⟩

end Session

end Deliberation
