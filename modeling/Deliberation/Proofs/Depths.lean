import Deliberation.Proofs.Records
import Deliberation.Proofs.Selection
/-! Depths in any tree, also in one that was read from a record with any depths. A branch below a known one
lies exactly one level deeper, or the tree refuses it. Only below a parent on the last level that a word
holds is there no answer at all. Such a parent comes from a record: no branch that is created lies there. -/

namespace Deliberation.Tree

variable {t : Tree}

theorem create_eq_error_iff {thought : String} {parentId : Option String} {now : Instant} :
    t.create thought parentId now = .error {} ↔
      t.hasCapacity = true ∧ UInt32.size ≤ t.depthUnder parentId := by
  constructor
  · intro broken
    obtain ⟨-, refused⟩ | ⟨room, deep, -⟩ | ⟨-, -, created⟩ := createWith_cases id thought now t parentId
    · exact nomatch refused.symm.trans broken
    · exact ⟨room, deep⟩
    · exact nomatch created.symm.trans broken
  · exact fun ⟨room, deep⟩ => createWith_of_overflow id thought now room deep

section
variable {parentId : String} {p : Branch} (known : t.get? parentId = some p)
include known

theorem depthUnder_of_known : t.depthUnder (some parentId) = p.depth.toNat + 1 := by
  simp only [depthUnder, Option.bind_some, known]

/-- A creation that gives an answer has refused a branch where the tree is full or the branch would lie too
deep, and else has put it at the end. -/
theorem create_of_known_cases {thought : String} {now : Instant} {made : Noted (Tree × Option Branch)}
    (created : t.create thought (some parentId) now = .ok made) :
    ¬(t.branches.length < t.maxBranches.toNat ∧ p.depth.toNat + 1 < t.maxDepth.toNat) ∧
      made.value = (t, none) ∨
    (t.branches.length < t.maxBranches.toNat ∧ p.depth.toNat + 1 < t.maxDepth.toNat) ∧
      ∃ b, made.value = ({ t with branches := t.branches ++ [b] }, some b) ∧ b.parent = some p.id ∧
        b.depth.toNat = p.depth.toNat + 1 := by
  have room : t.hasCapacity = true ↔ t.branches.length < t.maxBranches.toNat := decide_eq_true_iff
  rw [← room, ← depthUnder_of_known known]
  obtain ⟨refuses, refused⟩ | ⟨-, -, broken⟩ | ⟨open_, shallow, grown⟩ :=
    createWith_cases id thought now t (some parentId)
  · obtain rfl := Except.ok.inj (refused.symm.trans created)
    refine .inl ⟨fun ⟨open_, shallow⟩ => ?_, rfl⟩
    obtain full | ⟨-, deep⟩ := refuses
    · exact Bool.false_ne_true (full.symm.trans open_)
    · exact Nat.not_lt.mpr deep shallow
  · exact nomatch broken.symm.trans created
  · obtain rfl := Except.ok.inj (grown.symm.trans created)
    have fits : t.depthUnder (some parentId) < UInt32.size := Nat.lt_trans shallow t.maxDepth.toNat_lt
    exact .inr ⟨⟨open_, shallow⟩, _, rfl, congrArg (Option.map Branch.id) known,
      UInt32.toNat_ofNat_of_lt' fits⟩

end

theorem exists_place_of_mem {before after : List Branch} (each : List.Forall₂ Branch.Becomes before after)
    {b : Branch} (member : b ∈ after) : ∃ c ∈ before, c.place = b.place := by
  obtain ⟨c, origin, becomes⟩ := exists_of_mem each member
  exact ⟨c, origin, becomes.place.symm⟩

theorem exists_place_of_mem_modify {f : Branch → Branch} (becomes : ∀ b : Branch, b.Becomes (f b)) {id : String}
    {b : Branch} (member : b ∈ (t.modify id f).branches) : ∃ c ∈ t.branches, c.place = b.place :=
  exists_place_of_mem (modifyFirst_becomes _ becomes t.branches) member

/-- An operation leaves every branch at its place, and creates branches above the limit only. -/
theorem place_of_mem_perform {u : Tree} {operation : Operation} (done : t.perform operation = .ok u) {b : Branch}
    (member : b ∈ u.branches) : b.depth < t.maxDepth ∨ ∃ c ∈ t.branches, c.place = b.place := by
  cases operation with
  | create thought parentId now =>
    obtain ⟨made, created, rfl⟩ := except_map_eq_ok_iff.mp done
    obtain ⟨-, refused⟩ | ⟨-, -, broken⟩ | ⟨-, shallow, grown⟩ := createWith_cases id thought now t parentId
    · obtain rfl := Except.ok.inj (refused.symm.trans created)
      exact .inr ⟨b, member, rfl⟩
    · exact nomatch broken.symm.trans created
    · obtain rfl := Except.ok.inj (grown.symm.trans created)
      obtain old | new := List.mem_append.mp member
      · exact .inr ⟨b, old, rfl⟩
      · obtain rfl := List.mem_singleton.mp new
        have fits : t.depthUnder parentId < UInt32.size := Nat.lt_trans shallow t.maxDepth.toNat_lt
        have level : (t.bareBranch thought parentId now).depth.toNat = t.depthUnder parentId :=
          UInt32.toNat_ofNat_of_lt' fits
        exact .inl (UInt32.lt_iff_toNat_lt.mpr (level.symm ▸ shallow))
  | addAction id action observation =>
    obtain rfl := Except.ok.inj done
    exact .inr (exists_place_of_mem_modify (fun c => c.becomes_addAction action observation) member)
  | evaluate id score =>
    obtain rfl := Except.ok.inj done
    exact .inr (exists_place_of_mem_modify (fun c => c.becomes_evaluate score) member)
  | markFailed id =>
    obtain rfl := Except.ok.inj done
    exact .inr (exists_place_of_mem_modify Branch.becomes_markFailed member)
  | evaluateAll scorer =>
    obtain rfl := Except.ok.inj done
    exact .inr (exists_place_of_mem (map_becomes (fun c => c.becomes_assess scorer) t.branches) member)
  | select scorer =>
    obtain rfl := Except.ok.inj done
    obtain ⟨c, scored, left⟩ := exists_of_mem_select member
    have place : c.place = b.place := by
      obtain rfl | rfl | rfl := left
      · rfl
      · exact c.becomes_lose.place.symm
      · rfl
    rw [← place]
    exact .inr (exists_place_of_mem (map_becomes (fun c => c.becomes_assess scorer) t.branches) scored)
  | complete now =>
    obtain rfl := Except.ok.inj done
    exact .inr ⟨b, member, rfl⟩

theorem place_of_mem_performAll {u : Tree} {operations : List Operation}
    (done : t.performAll operations = .ok u) {b : Branch} (member : b ∈ u.branches) :
    b.depth < t.maxDepth ∨ ∃ c ∈ t.branches, c.place = b.place := by
  induction operations generalizing t with
  | nil =>
    obtain rfl := Except.ok.inj done
    exact .inr ⟨b, member, rfl⟩
  | cons operation rest ih =>
    obtain ⟨next, step, onward⟩ := performAll_cons done
    obtain created | ⟨c, inside, same⟩ := ih onward
    · exact .inl ((limits_perform step).2 ▸ created)
    · obtain shallow | ⟨d, origin, as_before⟩ := place_of_mem_perform step inside
      · have depth : c.depth = b.depth := congrArg Place.depth same
        exact .inl (depth ▸ shallow)
      · exact .inr ⟨d, origin, as_before.trans same⟩

/-- A branch on the last level that a word holds was there from the beginning. -/
theorem deepest_of_mem_performAll {u : Tree} {operations : List Operation}
    (done : t.performAll operations = .ok u) {b : Branch} (member : b ∈ u.branches)
    (deepest : b.depth.toNat + 1 = UInt32.size) : ∃ c ∈ t.branches, c.place = b.place := by
  obtain created | old := place_of_mem_performAll done member
  · have shallow : b.depth.toNat + 1 ≤ t.maxDepth.toNat := UInt32.lt_iff_toNat_lt.mp created
    rw [deepest] at shallow
    exact absurd t.maxDepth.toNat_lt (Nat.not_lt.mpr shallow)
  · exact old

/-- A branch below a known one, in any tree. Where the tree has room and the parent lies on the last level
that a word holds, the depth overflows, whatever the limit is. Everywhere else there is an answer. The branch
is refused, and the tree stays as it is, where there is no room or the parent lies on the last level above
the limit or below it. Else the branch comes at the end, exactly one level below its parent and above the
limit. A parent whose depth overflows was in the tree from the beginning, whatever was done to the tree
since. -/
theorem create_of_known (t : Tree) (thought : String) (now : Instant) {parentId : String} {p : Branch}
    (known : t.get? parentId = some p) :
    let created := t.create thought (some parentId) now
    let room := t.branches.length < t.maxBranches.toNat
    let depth := p.depth.toNat + 1
    (created = .error {} ↔ room ∧ depth = UInt32.size) ∧
    (¬room ∨ depth < UInt32.size → ∃ made, created = .ok made ∧
      (made.value.2.isSome ↔ room ∧ depth < t.maxDepth.toNat) ∧
      (made.value.2 = none → made.value.1 = t) ∧
      ∀ b, made.value.2 = some b →
        made.value.1 = { t with branches := t.branches ++ [b] } ∧ b.parent = some p.id ∧
          b.depth.toNat = depth ∧ p.depth < b.depth ∧ b.depth < t.maxDepth) ∧
    ∀ operations u, t.performAll operations = .ok u → ∀ b ∈ u.branches,
      b.depth.toNat + 1 = UInt32.size → ∃ c ∈ t.branches, c.place = b.place := by
  intro created room depth
  have word : depth ≤ UInt32.size := p.depth.toNat_lt
  have overflows : created = .error {} ↔ room ∧ depth = UInt32.size := by
    rw [create_eq_error_iff, depthUnder_of_known known, hasCapacity, decide_eq_true_iff]
    exact and_congr_right fun _ => ⟨Nat.le_antisymm word, Nat.le_of_eq ∘ Eq.symm⟩
  refine ⟨overflows, fun answers => ?_, fun operations u done b => deepest_of_mem_performAll done⟩
  cases given : created with
  | error broken =>
    obtain ⟨open_, last⟩ := overflows.mp given
    exact answers.elim (absurd open_) fun fits => absurd last (Nat.ne_of_lt fits)
  | ok made =>
    refine ⟨made, rfl, ?_⟩
    obtain ⟨closed, refused⟩ | ⟨open_, b, grown, parent, level⟩ := create_of_known_cases known given
    · rw [refused]
      exact ⟨iff_of_false Bool.false_ne_true closed, fun _ => rfl,
        fun b child => absurd child.symm (Option.some_ne_none b)⟩
    · rw [grown]
      refine ⟨iff_of_true rfl open_, nofun, fun c same => ?_⟩
      obtain rfl := Option.some.inj same
      rw [UInt32.lt_iff_toNat_lt, UInt32.lt_iff_toNat_lt, level]
      exact ⟨rfl, parent, rfl, Nat.lt_succ_self _, open_.2⟩

/-- A record with a limit of three levels and branches on the second and on the third of them. -/
theorem create_of_known_of_restored :
    let upper : Branch := ⟨"branch_1", none, "up", [], [], .evaluated, 0.5, 1, Instant.epoch⟩
    let lower : Branch := ⟨"branch_2", some "branch_1", "low", [], [], .evaluated, 1, 2, Instant.epoch⟩
    let t : Tree := ⟨"task", 5, 3, [upper, lower], Instant.epoch, none, none⟩
    (∃ made b, t.create "on" (some "branch_1") Instant.epoch = .ok made ∧ made.value.2 = some b ∧
      b.depth.toNat = 2) ∧
    ∃ made, t.create "on" (some "branch_2") Instant.epoch = .ok made ∧ made.value = (t, none) := by
  intro upper lower t
  have first : t.get? "branch_1" = some upper := by decide +kernel
  have second : t.get? "branch_2" = some lower := by decide +kernel
  refine ⟨?_, ?_⟩
  · obtain ⟨-, answers, -⟩ := t.create_of_known "on" Instant.epoch first
    obtain ⟨made, given, opened, -, placed⟩ := answers (.inr (by decide))
    obtain ⟨b, child⟩ := Option.isSome_iff_exists.mp (opened.mpr (by decide))
    exact ⟨made, b, given, child, (placed b child).2.2.1⟩
  · obtain ⟨-, answers, -⟩ := t.create_of_known "on" Instant.epoch second
    obtain ⟨made, given, opened, unchanged, -⟩ := answers (.inr (by decide))
    have refused : made.value.2 = none :=
      Option.not_isSome_iff_eq_none.mp (mt opened.mp (by decide))
    exact ⟨made, given, Prod.ext (unchanged refused) refused⟩

/-- A branch on the last level that a word holds reads back from its record. Under a limit of three levels
nothing hangs below it, but no refusal says so: its depth overflows. -/
theorem exists_create_overflow_of_deepest :
    let p : Branch := ⟨"branch_1", none, "deep", [], [], .exploring, 0, 4294967295, Instant.epoch⟩
    let t : Tree := ⟨"task", 5, 3, [p], Instant.epoch, none, none⟩
    ofJson? t.toJson = some t ∧ t.get? "branch_1" = some p ∧ t.maxDepth.toNat ≤ p.depth.toNat + 1 ∧
      t.create "below" (some "branch_1") Instant.epoch = .error {} := by
  intro p t
  have known : t.get? "branch_1" = some p := by decide +kernel
  refine ⟨?_, known, by decide, createWith_of_overflow id "below" Instant.epoch rfl ?_⟩
  · rw [ofJson?_toJson, if_pos (by decide)]
  · rw [depthUnder_of_known known]
    decide

end Deliberation.Tree
