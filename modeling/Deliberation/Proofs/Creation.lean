import Deliberation.Proofs.Branches
/-! Creating a branch. A branch is created as a whole, at the end and under an id of its own, or else it is
refused for one of two reasons and nothing happens but a notice. -/

namespace Deliberation.Tree

variable {t : Tree}

theorem depthUnder_eq (t : Tree) (parentId : Option String) :
    t.depthUnder parentId = ((parentId.bind t.get?).map fun p => p.depth.toNat + 1).getD 0 := by
  unfold depthUnder
  cases parentId.bind t.get? <;> rfl

theorem start_maxDepth_pos (task : String) (maxBranches : UInt64) (maxDepth : UInt32) (now : Instant) :
    0 < (start task maxBranches maxDepth now).maxDepth := by
  change 0 < if maxDepth ≤ 1 then 1 else maxDepth
  split
  · decide
  · rename_i above
    exact UInt32.lt_trans (by decide) (UInt32.not_le.mp above)

/-- A branch without a known parent is never too deep, so that a refusal has one notice. -/
theorem lostParent_of_deep {parentId : Option String} (positive : 0 < t.maxDepth)
    (deep : t.maxDepth.toNat ≤ t.depthUnder parentId) : t.lostParent parentId = [] := by
  unfold lostParent
  cases parentId with
  | none => rfl
  | some id =>
    cases known : (some id).bind t.get? with
    | some p => rfl
    | none =>
      simp only [depthUnder, known] at deep
      exact absurd (UInt32.lt_iff_toNat_lt.mp positive) (Nat.not_lt.mpr deep)

theorem children_append (t : Tree) (b : Branch) (id : String) :
    ({ t with branches := t.branches ++ [b] } : Tree).children id =
      t.children id ++ if b.parent = some id then [b] else [] := by
  simp [children, List.filter_append, List.filter_singleton]

/-- A tree has grown by a branch: a bare one at the end with an id of its own, the last child of its
parent where that is known, and a root otherwise. Nothing else has changed. -/
structure GrowsBy (t u : Tree) (thought : String) (parentId : Option String) (now : Instant)
    (b : Branch) : Prop where
  grown : u = { t with branches := t.branches ++ [b] }
  bare : b.status = .exploring ∧ b.score = 0 ∧ b.actions = [] ∧ b.observations = []
  thought : b.thought = thought
  createdAt : b.createdAt = now
  parent : b.parent = if (parentId.bind t.get?).isSome then parentId else none
  depth : b.depth.toNat = ((parentId.bind t.get?).map fun p => p.depth.toNat + 1).getD 0
  fresh : ∀ c ∈ t.branches, c.id ≠ b.id
  found : u.get? b.id = some b
  children (id : String) : u.children id = t.children id ++ if b.parent = some id then [b] else []

/-- A branch that is not refused is one by which its tree grows. -/
theorem WellFormed.growsBy (h : t.WellFormed) (thought : String) {parentId : Option String}
    (now : Instant) (room : t.hasCapacity = true) (shallow : t.depthUnder parentId < t.maxDepth.toNat) :
    ∃ b, t.create thought parentId now =
        .ok ⟨({ t with branches := t.branches ++ [b] }, some b), t.lostParent parentId⟩ ∧
      t.GrowsBy { t with branches := t.branches ++ [b] } thought parentId now b := by
  have created : t.create thought parentId now = _ := createWith_of_room id thought now room shallow
  obtain ⟨_, same, formed⟩ := h.perform (.create thought parentId now)
  obtain rfl := Except.ok.inj ((except_map_eq_ok_iff.mpr ⟨_, created, rfl⟩).symm.trans same)
  refine ⟨t.bareBranch thought parentId now, created, rfl, ⟨rfl, rfl, rfl, rfl⟩, rfl, rfl, ?_, ?_, ?_, ?_,
    t.children_append _⟩
  · unfold bareBranch
    cases known : parentId.bind t.get? with
    | none => rfl
    | some p =>
      obtain ⟨id, rfl, found⟩ := Option.bind_eq_some_iff.mp known
      exact congrArg some (get?_eq_some found).2
  · rw [← depthUnder_eq]
    exact UInt32.toNat_ofNat_of_lt' (h.depthUnder_lt parentId)
  · intro c member
    have distinct := formed.ids_nodup
    simp only [List.map_append, List.nodup_append] at distinct
    exact distinct.2.2 c.id (List.mem_map_of_mem member) _ List.mem_cons_self
  · exact formed.get?_id List.mem_concat_self

/-- A tree that was made by any operations creates a branch as a whole or not at all. The branch limit and
the depth limit alone decide about it, in this order, and a refusal is told in one notice. -/
theorem create_performAll_start (task : String) (maxBranches : UInt64) (maxDepth : UInt32)
    (now : Instant) (operations : List Operation) (thought : String) (parentId : Option String)
    (later : Instant) :
    ∃ t made, (start task maxBranches maxDepth now).performAll operations = .ok t ∧
    t.create thought parentId later = .ok made ∧
    let depth := ((parentId.bind t.get?).map fun p => p.depth.toNat + 1).getD 0
    let room := t.branches.length < t.maxBranches.toNat
    (made.value.2.isSome ↔ room ∧ depth < t.maxDepth.toNat) ∧
    (made.value.2 = none → made.value.1 = t ∧
      made.notices =
        [if room then .depthLimit (UInt32.ofNat depth) t.maxDepth else .branchLimit t.maxBranches]) ∧
    ∀ b, made.value.2 = some b → t.GrowsBy made.value.1 thought parentId later b := by
  obtain ⟨t, done, formed, -, height⟩ := performAll_start task maxBranches maxDepth now operations
  have positive : 0 < t.maxDepth := height ▸ start_maxDepth_pos task maxBranches maxDepth now
  have room_iff : t.hasCapacity = true ↔ t.branches.length < t.maxBranches.toNat := decide_eq_true_iff
  obtain ⟨refused, same⟩ | ⟨full, shallow, -⟩ := formed.createWith_cases id thought parentId later
  · refine ⟨t, _, done, same, ?_⟩
    intro depth room
    have level : t.depthUnder parentId = depth := t.depthUnder_eq parentId
    have limits : ¬(room ∧ depth < t.maxDepth.toNat) := by
      rintro ⟨left, shallow⟩
      obtain full | ⟨-, deep⟩ := refused
      · rw [room_iff.mpr left] at full
        contradiction
      · omega
    refine ⟨iff_of_false Bool.false_ne_true limits, fun _ => ⟨rfl, ?_⟩,
      fun b child => absurd child.symm (Option.some_ne_none b)⟩
    by_cases left : room
    · have deep : t.maxDepth.toNat ≤ t.depthUnder parentId := by
        rw [level]
        exact Nat.not_lt.mp fun shallow => limits ⟨left, shallow⟩
      rw [refusal, if_pos (room_iff.mpr left), if_pos left, lostParent_of_deep positive deep, level]
      rfl
    · rw [refusal, if_neg (room_iff.not.mpr left), if_neg left]
  · obtain ⟨b, created, grows⟩ := formed.growsBy thought later full shallow
    refine ⟨t, _, done, created, ?_⟩
    intro depth room
    rw [t.depthUnder_eq] at shallow
    refine ⟨iff_of_true rfl ⟨room_iff.mp full, shallow⟩, fun none => absurd none (Option.some_ne_none b), ?_⟩
    intro c same
    exact Option.some.inj same ▸ grows

end Deliberation.Tree
