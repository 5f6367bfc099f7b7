import Mathlib.Data.List.Forall2
import Mathlib.Data.List.Nodup
import Mathlib.Logic.Relation
import Deliberation.Proofs.Calls
/-! Trees under any sequence of operations. A branch is numbered after its place in the list and hangs
below an earlier one, and only a selection marks a branch as selected, so that the ids stay distinct,
no parents form a circle, and one branch at most is selected. -/

namespace Deliberation

/-- What holds of every element of a list and those before it holds in a longer list where it holds of
the new element. -/
theorem forall_split_concat {α : Type} {holds : List α → α → Prop} {list : List α} {last : α}
    (before : ∀ earlier x later, list = earlier ++ x :: later → holds earlier x)
    (newest : holds list last) :
    ∀ earlier x later, list ++ [last] = earlier ++ x :: later → holds earlier x := by
  intro earlier x later whole
  obtain ⟨-, rfl, rfl⟩ | ⟨middle, -, same⟩ := cases_of_append_cons_eq_concat whole.symm
  · exact newest
  · exact before earlier x middle same

/-- What a branch keeps for life: its name and where it hangs. -/
structure Place where
  id : String
  parent : Option String
  depth : UInt32

/-- A place right after some others: numbered after them, above the limit, and below one of them
unless it is a root. -/
structure Place.Follows (limit : UInt32) (earlier : List Place) (p : Place) : Prop where
  id : p.id = Tree.idAt earlier.length
  shallow : p.depth < limit
  root : p.parent = none → p.depth = 0
  linked (id : String) : p.parent = some id →
    ∃ q ∈ earlier, q.id = id ∧ p.depth.toNat = q.depth.toNat + 1

namespace Branch

def place (b : Branch) : Place :=
  ⟨b.id, b.parent, b.depth⟩

/-- A change of a branch that leaves it where it is, keeps its actions and observations in pairs, and
does not select it. -/
structure Becomes (b c : Branch) : Prop where
  place : c.place = b.place
  paired : b.actions.length = b.observations.length → c.actions.length = c.observations.length
  selected : c.status = .selected → b.status = .selected

theorem Becomes.refl (b : Branch) : b.Becomes b :=
  ⟨rfl, fun same => same, fun same => same⟩

theorem Becomes.trans {b c d : Branch} (first : b.Becomes c) (second : c.Becomes d) : b.Becomes d :=
  ⟨second.place.trans first.place, second.paired ∘ first.paired, first.selected ∘ second.selected⟩

theorem becomes_addAction (b : Branch) (action observation : String) :
    b.Becomes (b.addAction action observation) where
  place := rfl
  paired same := by simp only [addAction, List.length_append, same, List.length_singleton]
  selected same := same

theorem becomes_evaluate (b : Branch) (score : Float) : b.Becomes (b.evaluate score) :=
  ⟨rfl, fun same => same, nofun⟩

theorem becomes_markFailed (b : Branch) : b.Becomes b.markFailed :=
  ⟨rfl, fun same => same, nofun⟩

theorem becomes_assess (b : Branch) (scorer : Scorer) : b.Becomes (b.assess scorer) := by
  unfold assess
  split
  · exact b.becomes_evaluate _
  · exact ⟨rfl, fun same => same, fun same => same⟩
  · exact .refl b

theorem becomes_lose (b : Branch) : b.Becomes b.lose := by
  unfold lose
  split
  · exact ⟨rfl, fun same => same, nofun⟩
  · exact .refl b

theorem lose_unselected (b : Branch) : b.lose.status ≠ .selected := by
  unfold lose
  split
  · exact nofun
  · rename_i kept
    exact fun selected => kept (.inr selected)

end Branch

namespace Tree

theorem idAt_injective : Function.Injective idAt := by
  intro m n same
  have digits : (m + 1).repr = (n + 1).repr := (String.append_right_inj _).mp same
  have read := congrArg (fun text => Nat.ofDigitChars 10 text.toList 0) digits
  simp only [Nat.toList_repr, Nat.ofDigitChars_ten_toDigits] at read
  exact Nat.succ.inj read

theorem map_place_eq {before after : List Branch} (each : List.Forall₂ Branch.Becomes before after) :
    after.map Branch.place = before.map Branch.place := by
  induction each with
  | nil => rfl
  | cons becomes _ ih => rw [List.map_cons, List.map_cons, becomes.place, ih]

theorem exists_of_mem {before after : List Branch} (each : List.Forall₂ Branch.Becomes before after)
    {c : Branch} (member : c ∈ after) : ∃ b ∈ before, b.Becomes c := by
  induction each with
  | nil => contradiction
  | @cons b d _ _ becomes _ ih =>
    obtain rfl | later := List.mem_cons.mp member
    · exact ⟨b, List.mem_cons_self, becomes⟩
    · obtain ⟨e, origin, becomes⟩ := ih later
      exact ⟨e, List.mem_cons_of_mem b origin, becomes⟩

theorem modifyFirst_becomes (p : Branch → Bool) {f : Branch → Branch}
    (becomes : ∀ b : Branch, b.Becomes (f b)) (branches : List Branch) :
    List.Forall₂ Branch.Becomes branches (modifyFirst p f branches) := by
  induction branches with
  | nil => exact .nil
  | cons b rest ih =>
    unfold modifyFirst
    split
    · exact .cons (becomes b) (List.forall₂_same.mpr fun c _ => .refl c)
    · exact .cons (.refl b) ih

theorem map_becomes {f : Branch → Branch} (becomes : ∀ b : Branch, b.Becomes (f b))
    (branches : List Branch) : List.Forall₂ Branch.Becomes branches (branches.map f) :=
  List.forall₂_map_right_iff.mpr (List.forall₂_same.mpr fun b _ => becomes b)

theorem getElem?_mark (winner : Nat) (branches : List Branch) (i : Nat) :
    (mark winner branches)[i]? = branches[i]?.map fun b =>
      if i = winner then { b with status := .selected } else b.lose := by
  rw [mark, List.getElem?_mapIdx]

theorem map_place_mark (winner : Nat) (branches : List Branch) :
    (mark winner branches).map Branch.place = branches.map Branch.place := by
  apply List.ext_getElem?
  intro i
  rw [List.getElem?_map, List.getElem?_map, getElem?_mark, Option.map_map]
  congr 1
  funext b
  dsimp only [Function.comp]
  split
  · rfl
  · exact b.becomes_lose.place

theorem paired_mark {winner : Nat} {branches : List Branch}
    (paired : ∀ b ∈ branches, b.actions.length = b.observations.length) :
    ∀ b ∈ mark winner branches, b.actions.length = b.observations.length := by
  intro b member
  obtain ⟨i, found⟩ := List.mem_iff_getElem?.mp member
  rw [getElem?_mark] at found
  obtain ⟨c, origin, rfl⟩ := Option.map_eq_some_iff.mp found
  have before := paired c (List.mem_of_getElem? origin)
  split
  · exact before
  · exact c.becomes_lose.paired before

/-- Only the winner is selected. -/
theorem selected_mark {winner : Nat} {branches : List Branch} {b : Branch}
    (member : b ∈ mark winner branches) (selected : b.status = .selected) :
    (mark winner branches)[winner]? = some b := by
  obtain ⟨i, found⟩ := List.mem_iff_getElem?.mp member
  by_cases same : i = winner
  · exact same ▸ found
  · rw [getElem?_mark] at found
    obtain ⟨c, -, rfl⟩ := Option.map_eq_some_iff.mp found
    rw [if_neg same] at selected
    exact absurd selected c.lose_unselected

/-- A tree whose parts fit together. -/
structure WellFormed (t : Tree) : Prop where
  capacity : t.branches.length ≤ t.maxBranches.toNat
  laid : ∀ earlier p later, t.branches.map Branch.place = earlier ++ p :: later →
    p.Follows t.maxDepth earlier
  paired : ∀ b ∈ t.branches, b.actions.length = b.observations.length
  selected : ∀ b ∈ t.branches, b.status = .selected → t.selectedId = some b.id
  known : ∀ id, t.selectedId = some id → ∃ b ∈ t.branches, b.id = id

theorem start_wellFormed (task : String) (maxBranches : UInt64) (maxDepth : UInt32) (now : Instant) :
    (start task maxBranches maxDepth now).WellFormed where
  capacity := Nat.zero_le _
  laid := fun earlier _ _ whole => by simp [start] at whole
  paired := fun _ member => nomatch member
  selected := fun _ member => nomatch member
  known := nofun

theorem mem_ids_iff {branches : List Branch} {id : String} :
    (∃ b ∈ branches, b.id = id) ↔ ∃ p ∈ branches.map Branch.place, p.id = id := by
  simp [Branch.place]

/-- Changes branch by branch keep a tree well formed. -/
theorem WellFormed.change {t : Tree} (h : t.WellFormed) {branches : List Branch}
    (each : List.Forall₂ Branch.Becomes t.branches branches) :
    ({ t with branches } : Tree).WellFormed where
  capacity := each.length_eq ▸ h.capacity
  laid := by
    rw [map_place_eq each]
    exact h.laid
  paired := by
    intro c member
    obtain ⟨b, origin, becomes⟩ := exists_of_mem each member
    exact becomes.paired (h.paired b origin)
  selected := by
    intro c member selected
    obtain ⟨b, origin, becomes⟩ := exists_of_mem each member
    have named : c.id = b.id := congrArg Place.id becomes.place
    rw [named]
    exact h.selected b origin (becomes.selected selected)
  known := by
    intro id named
    rw [mem_ids_iff, map_place_eq each, ← mem_ids_iff]
    exact h.known id named

theorem WellFormed.modify {t : Tree} (h : t.WellFormed) (id : String) {f : Branch → Branch}
    (becomes : ∀ b : Branch, b.Becomes (f b)) : (t.modify id f).WellFormed :=
  h.change (modifyFirst_becomes _ becomes t.branches)

theorem WellFormed.evaluateAll {t : Tree} (h : t.WellFormed) (scorer : Scorer) :
    (t.evaluateAll scorer).WellFormed :=
  h.change (map_becomes (fun b => b.becomes_assess scorer) t.branches)

/-- The selected branch is the winner and no other. -/
theorem WellFormed.mark {t : Tree} (h : t.WellFormed) (winner : Nat) :
    let marked := mark winner t.branches
    ({ t with branches := marked, selectedId := marked[winner]?.map Branch.id } : Tree).WellFormed := by
  intro marked
  have places : marked.map Branch.place = t.branches.map Branch.place := map_place_mark ..
  refine ⟨?_, ?_, paired_mark h.paired, ?_, ?_⟩
  · have same := congrArg List.length places
    rw [List.length_map, List.length_map] at same
    rw [same]
    exact h.capacity
  · rw [places]
    exact h.laid
  · intro b member selected
    rw [selected_mark member selected, Option.map_some]
  · intro id named
    obtain ⟨b, found, rfl⟩ := Option.map_eq_some_iff.mp named
    exact ⟨b, List.mem_of_getElem? found, rfl⟩

theorem WellFormed.select {t : Tree} (h : t.WellFormed) (scorer : Scorer) :
    (t.select scorer).1.WellFormed := by
  have scored := h.evaluateAll scorer
  unfold Tree.select
  dsimp only
  split
  · exact scored
  · exact scored.mark _

theorem WellFormed.complete {t : Tree} (h : t.WellFormed) (now : Instant) :
    (t.complete now).WellFormed :=
  ⟨h.capacity, h.laid, h.paired, h.selected, h.known⟩

theorem get?_eq_some {t : Tree} {id : String} {b : Branch} (h : t.get? id = some b) :
    b ∈ t.branches ∧ b.id = id :=
  ⟨List.mem_of_find?_eq_some h, by simpa using List.find?_some h⟩

/-- Below a branch of a well-formed tree there is room for the depth of another one. -/
theorem WellFormed.depthUnder_lt {t : Tree} (h : t.WellFormed) (parentId : Option String) :
    t.depthUnder parentId < UInt32.size := by
  unfold depthUnder
  split
  · rename_i p known
    obtain ⟨_, -, found⟩ := Option.bind_eq_some_iff.mp known
    obtain ⟨earlier, later, whole⟩ := List.append_of_mem (List.mem_map_of_mem (get?_eq_some found).1)
    have shallow := UInt32.lt_iff_toNat_lt.mp (h.laid _ _ _ whole).shallow
    exact Nat.lt_of_le_of_lt shallow t.maxDepth.toNat_lt
  · decide

/-- In a well-formed tree a branch is refused, or else it comes at the end. -/
theorem WellFormed.createWith_cases {t : Tree} (h : t.WellFormed) (grow : Branch → Branch)
    (thought : String) (parentId : Option String) (now : Instant) :
    t.Refuses parentId ∧ t.createWith grow thought parentId now = .ok ⟨(t, none), t.refusal parentId⟩ ∨
      t.hasCapacity = true ∧ t.depthUnder parentId < t.maxDepth.toNat ∧
        let b := grow (t.bareBranch thought parentId now)
        t.createWith grow thought parentId now =
          .ok ⟨({ t with branches := t.branches ++ [b] }, some b), t.lostParent parentId⟩ := by
  obtain refused | ⟨-, deep, -⟩ | created := Tree.createWith_cases grow thought now t parentId
  · exact .inl refused
  · exact absurd (h.depthUnder_lt parentId) (Nat.not_lt.mpr deep)
  · exact .inr created

/-- A new branch hangs where it may. -/
theorem WellFormed.follows {t : Tree} (h : t.WellFormed) (thought : String)
    {parentId : Option String} (now : Instant) (shallow : t.depthUnder parentId < t.maxDepth.toNat) :
    (t.bareBranch thought parentId now).place.Follows t.maxDepth (t.branches.map Branch.place) := by
  have depth : (t.bareBranch thought parentId now).depth.toNat = t.depthUnder parentId :=
    UInt32.toNat_ofNat_of_lt' (h.depthUnder_lt parentId)
  constructor
  · rw [List.length_map]
    rfl
  · rw [UInt32.lt_iff_toNat_lt]
    exact depth.symm ▸ shallow
  · intro orphan
    have unknown : parentId.bind t.get? = none := Option.map_eq_none_iff.mp orphan
    simp only [Branch.place, bareBranch, depthUnder, unknown]
    rfl
  · intro id named
    obtain ⟨p, known, rfl⟩ := Option.map_eq_some_iff.mp named
    obtain ⟨_, -, found⟩ := Option.bind_eq_some_iff.mp known
    refine ⟨p.place, List.mem_map_of_mem (get?_eq_some found).1, rfl, depth.trans ?_⟩
    simp only [depthUnder, known]
    rfl

/-- A tree stays well formed whatever becomes of a new branch, so long as it stays where it is. -/
theorem WellFormed.createWith {t : Tree} (h : t.WellFormed) {grow : Branch → Branch}
    (becomes : ∀ b : Branch, b.Becomes (grow b)) (thought : String) (parentId : Option String)
    (now : Instant) :
    ∃ made, t.createWith grow thought parentId now = .ok made ∧ made.value.1.WellFormed := by
  obtain ⟨-, refused⟩ | ⟨room, shallow, created⟩ := h.createWith_cases grow thought parentId now
  · exact ⟨_, refused, h⟩
  · have grown := becomes (t.bareBranch thought parentId now)
    have fresh : (grow (t.bareBranch thought parentId now)).status ≠ .selected :=
      fun selected => nomatch grown.selected selected
    refine ⟨_, created, ?_⟩
    constructor
    · have below : t.branches.length < t.maxBranches.toNat := of_decide_eq_true room
      rw [List.length_append, List.length_singleton]
      exact below
    · rw [List.map_append, List.map_singleton, grown.place]
      exact forall_split_concat h.laid (h.follows thought now shallow)
    · intro b member
      obtain old | new := List.mem_append.mp member
      · exact h.paired b old
      · exact List.mem_singleton.mp new ▸ grown.paired rfl
    · intro b member selected
      obtain old | new := List.mem_append.mp member
      · exact h.selected b old selected
      · exact absurd selected (List.mem_singleton.mp new ▸ fresh)
    · intro id named
      obtain ⟨b, member, same⟩ := h.known id named
      exact ⟨b, List.mem_append_left _ member, same⟩

/-- An operation on a tree. A branch is changed by its id. -/
inductive Operation where
  | create (thought : String) (parentId : Option String) (now : Instant)
  | addAction (id action observation : String)
  | evaluate (id : String) (score : Float)
  | markFailed (id : String)
  | evaluateAll (scorer : Scorer)
  | select (scorer : Scorer)
  | complete (now : Instant)

def perform (t : Tree) : Operation → Except Overflow Tree
  | .create thought parentId now => (t.create thought parentId now).map fun made => made.value.1
  | .addAction id action observation => .ok (t.modify id fun b => b.addAction action observation)
  | .evaluate id score => .ok (t.modify id fun b => b.evaluate score)
  | .markFailed id => .ok (t.modify id Branch.markFailed)
  | .evaluateAll scorer => .ok (t.evaluateAll scorer)
  | .select scorer => .ok (t.select scorer).1
  | .complete now => .ok (t.complete now)

def performAll (t : Tree) (operations : List Operation) : Except Overflow Tree :=
  operations.foldlM perform t

theorem performAll_cons {t u : Tree} {operation : Operation} {rest : List Operation}
    (done : t.performAll (operation :: rest) = .ok u) :
    ∃ next, t.perform operation = .ok next ∧ next.performAll rest = .ok u := by
  rw [performAll, List.foldlM_cons] at done
  cases step : t.perform operation with
  | error error =>
    rw [step] at done
    exact nomatch done
  | ok next =>
    rw [step] at done
    exact ⟨next, rfl, done⟩

theorem WellFormed.perform {t : Tree} (h : t.WellFormed) (operation : Operation) :
    ∃ u, t.perform operation = .ok u ∧ u.WellFormed := by
  cases operation with
  | create thought parentId now =>
    obtain ⟨made, created, formed⟩ := h.createWith Branch.Becomes.refl thought parentId now
    exact ⟨made.value.1, except_map_eq_ok_iff.mpr ⟨made, created, rfl⟩, formed⟩
  | addAction id action observation =>
    exact ⟨_, rfl, h.modify id fun b => b.becomes_addAction action observation⟩
  | evaluate id score => exact ⟨_, rfl, h.modify id fun b => b.becomes_evaluate score⟩
  | markFailed id => exact ⟨_, rfl, h.modify id Branch.becomes_markFailed⟩
  | evaluateAll scorer => exact ⟨_, rfl, h.evaluateAll scorer⟩
  | select scorer => exact ⟨_, rfl, h.select scorer⟩
  | complete now => exact ⟨_, rfl, h.complete now⟩

theorem WellFormed.performAll {t : Tree} (h : t.WellFormed) (operations : List Operation) :
    ∃ u, t.performAll operations = .ok u ∧ u.WellFormed := by
  induction operations generalizing t with
  | nil => exact ⟨t, rfl, h⟩
  | cons operation rest ih =>
    obtain ⟨next, step, formed⟩ := h.perform operation
    obtain ⟨u, done, kept⟩ := ih formed
    refine ⟨u, ?_, kept⟩
    rw [Tree.performAll, List.foldlM_cons, step]
    exact done

/-- The tree that a creation leaves has the limits of the one before it. -/
theorem limits_createWith {grow : Branch → Branch} {t : Tree} {thought : String}
    {parentId : Option String} {now : Instant} {made : Noted (Tree × Option Branch)}
    (created : t.createWith grow thought parentId now = .ok made) :
    made.value.1.maxBranches = t.maxBranches ∧ made.value.1.maxDepth = t.maxDepth := by
  obtain ⟨-, same⟩ | ⟨-, -, same⟩ | ⟨-, -, same⟩ := createWith_cases grow thought now t parentId
  · obtain rfl := Except.ok.inj (same.symm.trans created)
    exact ⟨rfl, rfl⟩
  · exact nomatch same.symm.trans created
  · obtain rfl := Except.ok.inj (same.symm.trans created)
    exact ⟨rfl, rfl⟩

theorem limits_select (t : Tree) (scorer : Scorer) :
    (t.select scorer).1.maxBranches = t.maxBranches ∧ (t.select scorer).1.maxDepth = t.maxDepth := by
  unfold select
  dsimp only
  split <;> exact ⟨rfl, rfl⟩

theorem limits_perform {t u : Tree} {operation : Operation} (done : t.perform operation = .ok u) :
    u.maxBranches = t.maxBranches ∧ u.maxDepth = t.maxDepth := by
  cases operation with
  | create thought parentId now =>
    obtain ⟨made, created, rfl⟩ := except_map_eq_ok_iff.mp done
    exact limits_createWith created
  | select scorer =>
    obtain rfl := Except.ok.inj done
    exact t.limits_select scorer
  | addAction | evaluate | markFailed | evaluateAll | complete =>
    obtain rfl := Except.ok.inj done
    exact ⟨rfl, rfl⟩

theorem limits_performAll {t u : Tree} {operations : List Operation}
    (done : t.performAll operations = .ok u) :
    u.maxBranches = t.maxBranches ∧ u.maxDepth = t.maxDepth := by
  induction operations generalizing t with
  | nil =>
    obtain rfl := Except.ok.inj done
    exact ⟨rfl, rfl⟩
  | cons operation rest ih =>
    obtain ⟨next, step, onward⟩ := performAll_cons done
    obtain ⟨branches, depth⟩ := limits_perform step
    exact ⟨(ih onward).1.trans branches, (ih onward).2.trans depth⟩

/-- No operation on a tree that has started from nothing overflows. -/
theorem performAll_start (task : String) (maxBranches : UInt64) (maxDepth : UInt32) (now : Instant)
    (operations : List Operation) :
    ∃ t, (start task maxBranches maxDepth now).performAll operations = .ok t ∧ t.WellFormed ∧
      t.maxBranches = max maxBranches 1 ∧ t.maxDepth = max maxDepth 1 := by
  obtain ⟨t, done, formed⟩ := (start_wellFormed task maxBranches maxDepth now).performAll operations
  exact ⟨t, done, formed, limits_performAll done⟩

/-- A branch of a well-formed tree follows the branches before it. -/
theorem WellFormed.follows_at {t : Tree} (h : t.WellFormed) {earlier later : List Branch} {b : Branch}
    (whole : t.branches = earlier ++ b :: later) :
    b.place.Follows t.maxDepth (earlier.map Branch.place) := by
  apply h.laid _ _ (later.map Branch.place)
  rw [whole, List.map_append, List.map_cons]

theorem WellFormed.id_at {t : Tree} (h : t.WellFormed) {earlier later : List Branch} {b : Branch}
    (whole : t.branches = earlier ++ b :: later) : b.id = idAt earlier.length := by
  have named := (h.follows_at whole).id
  rwa [List.length_map] at named

theorem WellFormed.ids_nodup {t : Tree} (h : t.WellFormed) : (t.branches.map Branch.id).Nodup := by
  have ids : t.branches.map Branch.id = (List.range t.branches.length).map idAt := by
    apply List.ext_getElem (by simp)
    intro i inside _
    rw [List.length_map] at inside
    have whole : t.branches = t.branches.take i ++ t.branches[i] :: t.branches.drop (i + 1) := by simp
    have named := h.id_at whole
    rw [List.length_take, Nat.min_eq_left (Nat.le_of_lt inside)] at named
    rw [List.getElem_map, List.getElem_map, List.getElem_range, named]
  rw [ids]
  exact List.nodup_range.map idAt_injective

/-- Every branch is found under its id. -/
theorem WellFormed.get?_id {t : Tree} (h : t.WellFormed) {b : Branch} (member : b ∈ t.branches) :
    t.get? b.id = some b := by
  obtain ⟨earlier, later, whole⟩ := List.append_of_mem member
  have distinct := h.ids_nodup
  rw [whole, List.map_append, List.map_cons, List.nodup_append] at distinct
  obtain ⟨-, -, apart⟩ := distinct
  refine List.find?_eq_some_iff_append.mpr ⟨beq_self_eq_true _, earlier, later, whole, ?_⟩
  intro c before
  simpa using apart c.id (List.mem_map_of_mem before) b.id List.mem_cons_self

def IsParent (t : Tree) (p b : Branch) : Prop :=
  p ∈ t.branches ∧ b ∈ t.branches ∧ b.parent = some p.id

theorem WellFormed.depth_of_isParent {t : Tree} (h : t.WellFormed) {p b : Branch}
    (above : t.IsParent p b) : b.depth.toNat = p.depth.toNat + 1 := by
  obtain ⟨parent, child, named⟩ := above
  obtain ⟨earlier, later, whole⟩ := List.append_of_mem child
  obtain ⟨_, member, same, depth⟩ := (h.follows_at whole).linked p.id named
  obtain ⟨q, before, rfl⟩ := List.mem_map.mp member
  have found := h.get?_id (whole ▸ List.mem_append_left _ before : q ∈ t.branches)
  have same : q.id = p.id := same
  rw [same, h.get?_id parent] at found
  obtain rfl := Option.some.inj found
  exact depth

/-- No branch is among its own ancestors. -/
theorem WellFormed.acyclic {t : Tree} (h : t.WellFormed) (b : Branch) :
    ¬Relation.TransGen t.IsParent b b := by
  have deeper {p c : Branch} (path : Relation.TransGen t.IsParent p c) :
      p.depth.toNat < c.depth.toNat := by
    induction path with
    | single above =>
      rw [h.depth_of_isParent above]
      exact Nat.lt_succ_self _
    | tail _ above ih =>
      rw [h.depth_of_isParent above]
      exact Nat.lt_succ_of_lt ih
  exact fun circle => Nat.lt_irrefl _ (deeper circle)

/-- Whatever is done to a tree, it keeps its limits, numbers its branches, and hangs each of them one
level below an earlier one, so that no branch is above itself. One branch at most is selected, and the
selection always names a branch. -/
theorem performAll_start_invariant (task : String) (maxBranches : UInt64) (maxDepth : UInt32)
    (now : Instant) (operations : List Operation) :
    ∃ t, (start task maxBranches maxDepth now).performAll operations = .ok t ∧
    t.maxBranches = max maxBranches 1 ∧ t.maxDepth = max maxDepth 1 ∧
    t.branches.length ≤ t.maxBranches.toNat ∧
    (t.branches.map Branch.id).Nodup ∧
    (∀ earlier b later, t.branches = earlier ++ b :: later →
      b.id = "branch_" ++ toString (earlier.length + 1) ∧
      b.depth < t.maxDepth ∧
      (b.parent = none → b.depth = 0) ∧
      (∀ id, b.parent = some id →
        ∃ p ∈ earlier, p.id = id ∧ b.depth.toNat = p.depth.toNat + 1) ∧
      b.actions.length = b.observations.length ∧
      (b.status = .selected →
        t.selectedId = some b.id ∧ ∀ c ∈ earlier ++ later, c.status ≠ .selected)) ∧
    (∀ b, ¬Relation.TransGen t.IsParent b b) ∧
    ∀ id, t.selectedId = some id → ∃ b ∈ t.branches, b.id = id := by
  obtain ⟨t, done, h, width, height⟩ := performAll_start task maxBranches maxDepth now operations
  refine ⟨t, done, width, height, h.capacity, h.ids_nodup, ?_, h.acyclic, h.known⟩
  intro earlier b later whole
  have follows := h.follows_at whole
  have member : b ∈ t.branches := whole ▸ List.mem_append_cons_self
  refine ⟨h.id_at whole, follows.shallow, follows.root, ?_, h.paired b member, ?_⟩
  · intro id named
    obtain ⟨_, above, same, depth⟩ := follows.linked id named
    obtain ⟨p, before, rfl⟩ := List.mem_map.mp above
    exact ⟨p, before, same, depth⟩
  · intro selected
    have named := h.selected b member selected
    refine ⟨named, ?_⟩
    intro c other chosen
    have present : c ∈ t.branches := by
      rw [whole]
      exact (List.mem_append.mp other).elim (List.mem_append_left _) fun later =>
        List.mem_append_right _ (List.mem_cons_of_mem b later)
    have same : c.id = b.id := Option.some.inj ((h.selected c present chosen).symm.trans named)
    have distinct := h.ids_nodup
    rw [whole, List.map_append, List.map_cons, List.nodup_middle, ← List.map_append,
      List.nodup_cons] at distinct
    exact distinct.1 (same ▸ List.mem_map_of_mem other)

end Tree

end Deliberation
