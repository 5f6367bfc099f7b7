import Mathlib.Data.List.Chain
import Mathlib.Data.List.Perm.Subperm
import Mathlib.Tactic.TFAE
import Deliberation.Proofs.Branches
import Deliberation.Proofs.Records
import Deliberation.Tree.Summary
/-! The selected path of any tree, also of one that was read from a record and whose ids and parents are
arbitrary. The walk upward is cut off where it has one branch more than there are branches, and it meets
a branch twice exactly where it is cut off. -/

namespace Deliberation.Tree

variable {t : Tree}

/-- The branch that a branch hangs below, where there is one with its parent's id. -/
def above? (t : Tree) (b : Branch) : Option Branch :=
  b.parent.bind t.get?

/-- The first branch with its id. A walk upward meets no other branches. -/
def IsFound (t : Tree) (b : Branch) : Prop :=
  t.get? b.id = some b

theorem isFound_of_get? {id : String} {b : Branch} (found : t.get? id = some b) : t.IsFound b := by
  obtain rfl := (get?_eq_some found).2
  exact found

theorem above?_eq_some {b p : Branch} (h : t.above? b = some p) :
    b.parent = some p.id ∧ t.IsFound p := by
  obtain ⟨id, named, found⟩ := Option.bind_eq_some_iff.mp h
  exact ⟨(get?_eq_some found).2 ▸ named, isFound_of_get? found⟩

/-- Branches each of which hangs below the next one. -/
def Ascends (t : Tree) (walk : List Branch) : Prop :=
  walk.IsChain fun b p => t.above? b = some p

/-- The last branch of a walk hangs below none. -/
def EndsOnTop (t : Tree) (walk : List Branch) : Prop :=
  ∀ top ∈ walk.getLast?, t.above? top = none

theorem endsOnTop_singleton {b : Branch} : t.EndsOnTop [b] ↔ t.above? b = none := by
  simp [EndsOnTop]

theorem endsOnTop_cons_cons {b p : Branch} {rest : List Branch} :
    t.EndsOnTop (b :: p :: rest) ↔ t.EndsOnTop (p :: rest) := by
  rw [EndsOnTop, List.getLast?_cons_cons, EndsOnTop]

namespace Ascends

/-- Two walks from one branch to the top are the same. -/
theorem unique {b : Branch} {first second : List Branch} (up : t.Ascends (b :: first))
    (again : t.Ascends (b :: second)) (top : t.EndsOnTop (b :: first))
    (top_again : t.EndsOnTop (b :: second)) : first = second := by
  induction first generalizing b second with
  | nil =>
    have orphan := endsOnTop_singleton.mp top
    cases second with
    | nil => rfl
    | cons p rest => exact nomatch orphan.symm.trans (List.isChain_cons_cons.mp again).1
  | cons p rest ih =>
    obtain ⟨below, onward⟩ := List.isChain_cons_cons.mp up
    cases second with
    | nil =>
      exact nomatch (endsOnTop_singleton.mp top_again).symm.trans below
    | cons q later =>
      obtain ⟨below_again, onward_again⟩ := List.isChain_cons_cons.mp again
      obtain rfl := Option.some.inj (below.symm.trans below_again)
      rw [endsOnTop_cons_cons] at top top_again
      rw [ih onward onward_again top top_again]

/-- A walk that comes to the top has not been anywhere twice: from there on it would have gone the same
way again. -/
theorem nodup {walk : List Branch} (up : t.Ascends walk) (top : t.EndsOnTop walk) : walk.Nodup := by
  induction walk with
  | nil => exact List.nodup_nil
  | cons b rest ih =>
    have onward : t.Ascends rest := List.IsChain.tail up
    have onward_top : t.EndsOnTop rest := by
      cases rest with
      | nil => simp [EndsOnTop]
      | cons p later => exact endsOnTop_cons_cons.mp top
    refine List.nodup_cons.mpr ⟨fun back => ?_, ih onward onward_top⟩
    obtain ⟨front, later, rfl⟩ := List.append_of_mem back
    have returned : t.Ascends (b :: later) := onward.suffix (List.suffix_append front _)
    have returned_top : t.EndsOnTop (b :: later) := by
      rwa [EndsOnTop, List.getLast?_append_cons] at onward_top
    have same := congrArg List.length (unique up returned top returned_top)
    rw [List.length_append, List.length_cons] at same
    omega

/-- Where the first branch of a walk is found under its id, all are. -/
theorem isFound {walk : List Branch} (up : t.Ascends walk) (found : ∀ b ∈ walk.head?, t.IsFound b) :
    ∀ b ∈ walk, t.IsFound b := by
  induction walk with
  | nil => simp
  | cons b rest ih =>
    obtain ⟨below, onward⟩ := List.isChain_cons.mp up
    refine List.forall_mem_cons.mpr ⟨found b rfl, ih onward fun p next => ?_⟩
    exact (above?_eq_some (below p next)).2

end Ascends

theorem ancestry_eq_cons (t : Tree) (steps : Nat) (b : Branch) : ∃ rest, t.ancestry steps b = b :: rest := by
  cases steps with
  | zero => exact ⟨[], rfl⟩
  | succ steps =>
    unfold ancestry
    split
    · exact ⟨[], rfl⟩
    · exact ⟨_, rfl⟩

theorem ascends_ancestry (t : Tree) (steps : Nat) (b : Branch) : t.Ascends (t.ancestry steps b) := by
  induction steps generalizing b with
  | zero => exact .singleton b
  | succ steps ih =>
    unfold ancestry
    split
    · exact .singleton b
    · rename_i p above
      have onward := ih p
      obtain ⟨rest, walk⟩ := t.ancestry_eq_cons steps p
      rw [walk] at onward ⊢
      exact .cons_cons above onward

theorem head?_ancestry (t : Tree) (steps : Nat) (b : Branch) : (t.ancestry steps b).head? = some b := by
  obtain ⟨rest, walk⟩ := t.ancestry_eq_cons steps b
  rw [walk, List.head?_cons]

theorem isFound_of_mem_ancestry {steps : Nat} {b : Branch} (found : t.IsFound b) :
    ∀ c ∈ t.ancestry steps b, t.IsFound c := by
  refine (t.ascends_ancestry steps b).isFound ?_
  rw [head?_ancestry]
  rintro _ ⟨⟩
  exact found

theorem length_ancestry_le (t : Tree) (steps : Nat) (b : Branch) :
    (t.ancestry steps b).length ≤ steps + 1 := by
  induction steps generalizing b with
  | zero => exact Nat.le_refl _
  | succ steps ih =>
    unfold ancestry
    split
    · exact Nat.le_add_left ..
    · exact Nat.succ_le_succ (ih _)

/-- A walk that is shorter than it may be has come to the top. -/
theorem endsOnTop_ancestry {steps : Nat} {b : Branch} (short : (t.ancestry steps b).length ≤ steps) :
    t.EndsOnTop (t.ancestry steps b) := by
  induction steps generalizing b with
  | zero => simp [ancestry] at short
  | succ steps ih =>
    unfold ancestry at short ⊢
    split at short
    · rename_i orphan
      exact endsOnTop_singleton.mpr orphan
    · rename_i p above
      have onward := ih (Nat.le_of_succ_le_succ short)
      obtain ⟨rest, walk⟩ := t.ancestry_eq_cons steps p
      rw [walk] at onward ⊢
      exact endsOnTop_cons_cons.mpr onward

/-- The walk behind the selected path, where there is a selection. -/
theorem selectedPath_cases (t : Tree) :
    t.selected? = none ∧ t.selectedPath = [] ∨
      ∃ b, t.selected? = some b ∧ t.IsFound b ∧
        t.selectedPath = (t.ancestry t.branches.length b).reverse := by
  cases selected : t.selected? with
  | none => exact .inl ⟨rfl, by simp only [selectedPath, selected]⟩
  | some b =>
    obtain ⟨_, -, found⟩ := Option.bind_eq_some_iff.mp selected
    exact .inr ⟨b, rfl, isFound_of_get? found, by simp only [selectedPath, selected]⟩

/-- The branches of a walk are distinct, they are no more than there are, and the walk has come to the
top: each of these says the same. -/
theorem nodup_ancestry_tfae {b : Branch} (found : t.IsFound b) :
    let walk := t.ancestry t.branches.length b
    [walk.length ≤ t.branches.length, (walk.map Branch.id).Nodup, t.EndsOnTop walk].TFAE := by
  intro walk
  have up : t.Ascends walk := t.ascends_ancestry _ b
  have all_found : ∀ c ∈ walk, t.IsFound c := isFound_of_mem_ancestry found
  tfae_have 1 → 3 := endsOnTop_ancestry
  tfae_have 3 → 2 := by
    intro top
    refine (up.nodup top).map_on fun c first d second same => ?_
    have found_again := all_found c first
    rw [IsFound, same, all_found d second] at found_again
    exact (Option.some.inj found_again).symm
  tfae_have 2 → 1 := by
    intro distinct
    have inside : walk ⊆ t.branches := fun c member => (get?_eq_some (all_found c member)).1
    exact (distinct.of_map.subperm inside).length_le
  tfae_finish

/-- The selected path of any tree. It leads to the selected branch, with each branch below the one before
it, and has one branch at most more than there are. It has no more than there are exactly where no branch
is on it twice, and this is where its first branch hangs below none. A summary has a line for each of its
branches. -/
theorem selectedPath_of_any (t : Tree) :
    let path := t.selectedPath
    path.getLast? = t.selected? ∧
    (∀ b ∈ path, b ∈ t.branches ∧ t.get? b.id = some b) ∧
    (∀ earlier p b later, path = earlier ++ p :: b :: later → b.parent = some p.id) ∧
    path.length ≤ t.branches.length + 1 ∧
    (path.length ≤ t.branches.length ↔ (path.map Branch.id).Nodup) ∧
    ((path.map Branch.id).Nodup ↔ ∀ top ∈ path.head?, top.parent.bind t.get? = none) ∧
    ∀ now, path ≠ [] → ∃ heading, heading.length = 5 ∧
      t.summary now = Text.unlines (heading ++ path.map Branch.summary) := by
  intro path
  have shown (now : Instant) (nonempty : path ≠ []) : ∃ heading, heading.length = 5 ∧
      t.summary now = Text.unlines (heading ++ path.map Branch.summary) := by
    have some_path : t.selectedPath.isEmpty = false := by simpa using nonempty
    refine ⟨["Task: " ++ t.task, "Branches: " ++ toString t.branches.length,
      "Max depth reached: " ++ toString t.maxDepthReached.toNat,
      "Duration: " ++ Instant.secondsText t.startedAt (t.completedAt.getD now) ++ "s",
      "Selected path:"], rfl, ?_⟩
    rw [summary, summaryWith, some_path]
    rfl
  obtain ⟨unselected, empty⟩ | ⟨b, selected, found, walked⟩ := t.selectedPath_cases
  · refine ⟨?_, ?_, ?_, ?_, ?_, ?_, shown⟩ <;> simp [path, empty, unselected]
  · have whole : path = (t.ancestry t.branches.length b).reverse := walked
    have same := nodup_ancestry_tfae found
    refine ⟨?_, ?_, ?_, ?_, ?_, ?_, shown⟩
    · rw [whole, List.getLast?_reverse, head?_ancestry, selected]
    · intro c member
      rw [whole, List.mem_reverse] at member
      have c_found := isFound_of_mem_ancestry found c member
      exact ⟨(get?_eq_some c_found).1, c_found⟩
    · intro earlier p c later split
      have up := t.ascends_ancestry t.branches.length b
      rw [Ascends, ← List.isChain_reverse, ← whole, split, List.isChain_append_cons_cons] at up
      exact (above?_eq_some up.2.1).1
    · rw [whole, List.length_reverse]
      exact t.length_ancestry_le ..
    · rw [whole, List.length_reverse, List.map_reverse, List.nodup_reverse]
      exact same.out 0 1
    · rw [whole, List.map_reverse, List.nodup_reverse, List.head?_reverse]
      exact same.out 1 2

/-- The record of a branch that is its own parent reads back, and the path to it has the branch twice. -/
theorem selectedPath_repeats :
    let b : Branch := ⟨"branch_1", some "branch_1", "round", [], [], .selected, 0.5, 1, Instant.epoch⟩
    let t : Tree := ⟨"task", 5, 3, [b], Instant.epoch, none, some "branch_1"⟩
    ofJson? t.toJson = some t ∧ t.selectedPath = [b, b] ∧
      ¬t.selectedPath.length ≤ t.branches.length ∧ ¬(t.selectedPath.map Branch.id).Nodup := by
  intro b t
  have path : t.selectedPath = [b, b] := by decide +kernel
  refine ⟨?_, path, ?_, ?_⟩
  · rw [ofJson?_toJson, if_pos (by decide)]
  · rw [path]
    decide
  · rw [path]
    decide

end Deliberation.Tree
