import Mathlib.Data.List.Perm.Subperm
import Deliberation.Proofs.Selection
/-! The path to the selection. In a well-formed tree the walk upward from a branch ends at a root, since
every parent comes before its children in the list, and it meets one branch on each level. The selection
is the branch that was selected last. -/

namespace Deliberation.Tree

variable {t : Tree}

/-- Branches of a tree that lead down from a root, each of them one level below the one before it. -/
structure IsPath (t : Tree) (path : List Branch) : Prop where
  inside : path ⊆ t.branches
  laid : ∀ earlier b later, path = earlier ++ b :: later →
    b.depth.toNat = earlier.length ∧ b.parent = earlier.getLast?.map Branch.id

namespace IsPath

variable {path : List Branch}

theorem nil (t : Tree) : t.IsPath [] where
  inside := List.nil_subset _
  laid := fun earlier _ _ whole => by simp at whole

theorem concat (h : t.IsPath path) {b : Branch} (member : b ∈ t.branches)
    (depth : b.depth.toNat = path.length) (parent : b.parent = path.getLast?.map Branch.id) :
    t.IsPath (path ++ [b]) where
  inside := List.append_subset.mpr ⟨h.inside, by simpa using member⟩
  laid := forall_split_concat h.laid ⟨depth, parent⟩

theorem depth_getElem (h : t.IsPath path) {i : Nat} (bound : i < path.length) :
    path[i].depth.toNat = i := by
  have whole : path = path.take i ++ path[i] :: path.drop (i + 1) := by simp
  rw [(h.laid _ _ _ whole).1, List.length_take, Nat.min_eq_left (Nat.le_of_lt bound)]

/-- The levels of a path are all distinct, and so are its branches. -/
theorem nodup (h : t.IsPath path) : path.Nodup := by
  have levels : path.map (fun b => b.depth.toNat) = List.range path.length := by
    apply List.ext_getElem (by simp)
    intro i bound _
    rw [List.length_map] at bound
    rw [List.getElem_map, List.getElem_range, h.depth_getElem bound]
  exact List.Nodup.of_map _ (levels ▸ List.nodup_range)

theorem ids_nodup (h : t.IsPath path) (formed : t.WellFormed) : (path.map Branch.id).Nodup := by
  refine h.nodup.map_on fun b first c second same => ?_
  have found := formed.get?_id (h.inside first)
  rw [same, formed.get?_id (h.inside second)] at found
  exact (Option.some.inj found).symm

theorem length_le_branches (h : t.IsPath path) : path.length ≤ t.branches.length :=
  (h.nodup.subperm h.inside).length_le

theorem length_le_maxDepth (h : t.IsPath path) (formed : t.WellFormed) :
    path.length ≤ t.maxDepth.toNat := by
  obtain rfl | ⟨init, last, rfl⟩ := path.eq_nil_or_concat'
  · exact Nat.zero_le _
  · obtain ⟨earlier, later, whole⟩ := List.append_of_mem (h.inside List.mem_concat_self)
    have shallow := UInt32.lt_iff_toNat_lt.mp (formed.follows_at whole).shallow
    have level : last.depth.toNat = init.length := (h.laid init last [] rfl).1
    rw [List.length_append, List.length_singleton, ← level]
    exact shallow

end IsPath

/-- The parent of a branch is found before it, one level above. -/
theorem WellFormed.exists_parent (h : t.WellFormed) {earlier later : List Branch} {b : Branch}
    (whole : t.branches = earlier ++ b :: later) {id : String} (below : b.parent = some id) :
    ∃ before p after, earlier = before ++ p :: after ∧ t.get? id = some p ∧ p.id = id ∧
      b.depth.toNat = p.depth.toNat + 1 := by
  obtain ⟨_, above, rfl, depth⟩ := (h.follows_at whole).linked id below
  obtain ⟨p, member, rfl⟩ := List.mem_map.mp above
  obtain ⟨before, after, split⟩ := List.append_of_mem member
  have found := h.get?_id (whole ▸ List.mem_append_left _ member : p ∈ t.branches)
  exact ⟨before, p, after, split, found, rfl, depth⟩

theorem WellFormed.isPath_root (h : t.WellFormed) {earlier later : List Branch} {b : Branch}
    (whole : t.branches = earlier ++ b :: later) (orphan : b.parent = none) : t.IsPath [b] := by
  have depth : b.depth.toNat = 0 := congrArg UInt32.toNat ((h.follows_at whole).root orphan)
  exact (IsPath.nil t).concat (whole ▸ List.mem_append_cons_self) depth orphan

/-- The ancestors of a branch are a path to it. A parent comes before its children, so that a step for
every place before the branch is enough. -/
theorem WellFormed.isPath_ancestry (h : t.WellFormed) {steps : Nat} {earlier later : List Branch}
    {b : Branch} (whole : t.branches = earlier ++ b :: later) (enough : earlier.length ≤ steps) :
    ∃ above, (t.ancestry steps b).reverse = above ++ [b] ∧ t.IsPath (above ++ [b]) := by
  induction steps generalizing earlier b later with
  | zero =>
    cases below : b.parent with
    | none => exact ⟨[], by simp [ancestry], h.isPath_root whole below⟩
    | some id =>
      obtain ⟨before, p, after, rfl, -⟩ := h.exists_parent whole below
      simp at enough
  | succ steps ih =>
    cases below : b.parent with
    | none => exact ⟨[], by simp [ancestry, below], h.isPath_root whole below⟩
    | some id =>
      have member : b ∈ t.branches := whole ▸ List.mem_append_cons_self
      obtain ⟨before, p, after, rfl, found, rfl, depth⟩ := h.exists_parent whole below
      rw [List.append_assoc, List.cons_append] at whole
      have fewer : before.length ≤ steps := by
        rw [List.length_append, List.length_cons] at enough
        omega
      obtain ⟨above, upward, path⟩ := ih whole fewer
      have level : p.depth.toNat = above.length := (path.laid above p [] rfl).1
      refine ⟨above ++ [p], ?_, path.concat member ?_ ?_⟩
      · simp [ancestry, below, found, upward]
      · rw [depth, level, List.length_append, List.length_singleton]
      · rw [below, List.getLast?_concat, Option.map_some]

/-- The selected path leads to the selected branch, and there is none without one. -/
theorem WellFormed.isPath_selectedPath (h : t.WellFormed) :
    t.IsPath t.selectedPath ∧ t.selectedPath.getLast? = t.selected? := by
  cases selected : t.selected? with
  | none =>
    simp only [selectedPath, selected]
    exact ⟨.nil t, rfl⟩
  | some b =>
    obtain ⟨_, -, found⟩ := Option.bind_eq_some_iff.mp selected
    obtain ⟨earlier, later, whole⟩ := List.append_of_mem (get?_eq_some found).1
    have enough : earlier.length ≤ t.branches.length := by
      rw [whole, List.length_append]
      exact Nat.le_add_right ..
    obtain ⟨above, upward, path⟩ := h.isPath_ancestry whole enough
    simp only [selectedPath, selected, upward]
    exact ⟨path, List.getLast?_concat⟩

theorem WellFormed.map_id_selected? (h : t.WellFormed) : t.selected?.map Branch.id = t.selectedId := by
  cases named : t.selectedId with
  | none => simp [selected?, named]
  | some id =>
    obtain ⟨b, member, rfl⟩ := h.known id named
    simp [selected?, named, h.get?_id member]

/-- The branch that an operation selects, if it is a selection and finds one. -/
def Operation.chosen? (t : Tree) : Operation → Option Branch
  | .select scorer => (t.select scorer).2
  | _ => none

/-- The branches that some operations select, one after the other, up to one that overflows. -/
def chosen (t : Tree) : List Operation → List Branch
  | [] => []
  | operation :: rest => (operation.chosen? t).toList ++
    match t.perform operation with
    | .ok u => u.chosen rest
    | .error _ => []

theorem selectedId_select (t : Tree) (scorer : Scorer) :
    (t.select scorer).1.selectedId = ((t.select scorer).2.map Branch.id).or t.selectedId := by
  unfold select
  dsimp only
  cases winner : best? (t.evaluateAll scorer).branches with
  | none => rfl
  | some i =>
    have inside : i < (mark i (t.evaluateAll scorer).branches).length := by
      obtain ⟨⟨_, score⟩, won, rfl⟩ := Option.map_eq_some_iff.mp winner
      obtain impossible | ⟨k, b, rfl, found, -⟩ := exists_of_bestFrom won
      · contradiction
      · simpa [mark] using (List.getElem?_eq_some_iff.mp found).1
    simp only [List.getElem?_eq_getElem inside, Option.map_some, Option.some_or]

theorem selectedId_perform {t u : Tree} {operation : Operation} (done : t.perform operation = .ok u) :
    u.selectedId = ((operation.chosen? t).map Branch.id).or t.selectedId := by
  cases operation with
  | create thought parentId now =>
    obtain ⟨made, created, rfl⟩ := except_map_eq_ok_iff.mp done
    obtain ⟨-, same⟩ | ⟨-, -, same⟩ | ⟨-, -, same⟩ := createWith_cases id thought now t parentId
    · obtain rfl := Except.ok.inj (same.symm.trans created)
      rfl
    · exact nomatch same.symm.trans created
    · obtain rfl := Except.ok.inj (same.symm.trans created)
      rfl
  | select scorer =>
    obtain rfl := Except.ok.inj done
    exact t.selectedId_select scorer
  | addAction | evaluate | markFailed | evaluateAll | complete =>
    obtain rfl := Except.ok.inj done
    rfl

/-- The selection names the branch that was selected last. -/
theorem selectedId_performAll {t u : Tree} {operations : List Operation}
    (done : t.performAll operations = .ok u) :
    u.selectedId = ((t.chosen operations).getLast?.map Branch.id).or t.selectedId := by
  induction operations generalizing t with
  | nil =>
    obtain rfl := Except.ok.inj done
    rfl
  | cons operation rest ih =>
    obtain ⟨next, step, onward⟩ := performAll_cons done
    rw [ih onward, selectedId_perform step, chosen, step, List.getLast?_append, Option.map_or,
      Option.or_assoc]
    cases operation.chosen? t <;> rfl

/-- The selected path of a tree that was made by any operations. It is empty as long as nothing was
selected, and else leads from a root to the branch that was selected last, one level at a time and through
no branch twice. -/
theorem selectedPath_performAll_start (task : String) (maxBranches : UInt64) (maxDepth : UInt32)
    (now : Instant) (operations : List Operation) :
    let fresh := start task maxBranches maxDepth now
    ∃ t, fresh.performAll operations = .ok t ∧
    let path := t.selectedPath
    (path = [] ↔ fresh.chosen operations = []) ∧
    path.getLast? = t.selected? ∧
    path.getLast?.map Branch.id = t.selectedId ∧
    (∀ earlier b later, path = earlier ++ b :: later →
      b ∈ t.branches ∧ b.depth.toNat = earlier.length ∧ b.parent = earlier.getLast?.map Branch.id) ∧
    (path.map Branch.id).Nodup ∧
    (∀ b, t.selected? = some b → path.length = b.depth.toNat + 1) ∧
    path.length ≤ t.maxDepth.toNat ∧ path.length ≤ t.branches.length := by
  intro fresh
  obtain ⟨t, done, formed, -⟩ := performAll_start task maxBranches maxDepth now operations
  refine ⟨t, done, ?_⟩
  intro path
  obtain ⟨lineage, last⟩ : t.IsPath path ∧ path.getLast? = t.selected? := formed.isPath_selectedPath
  have named : path.getLast?.map Branch.id = t.selectedId := last ▸ formed.map_id_selected?
  have history : t.selectedId = (fresh.chosen operations).getLast?.map Branch.id :=
    (selectedId_performAll done).trans Option.or_none
  refine ⟨?_, last, named, ?_, lineage.ids_nodup formed, ?_, lineage.length_le_maxDepth formed,
    lineage.length_le_branches⟩
  · rw [← List.getLast?_eq_none_iff, ← List.getLast?_eq_none_iff, ← Option.map_eq_none_iff (f := Branch.id),
      named, history, Option.map_eq_none_iff]
  · intro earlier b later whole
    exact ⟨lineage.inside (whole ▸ List.mem_append_cons_self), lineage.laid earlier b later whole⟩
  · intro b selected
    obtain ⟨above, whole⟩ := List.getLast?_eq_some_iff.mp (last.trans selected)
    rw [whole, (lineage.laid above b [] whole).1, List.length_append, List.length_singleton]

end Deliberation.Tree
