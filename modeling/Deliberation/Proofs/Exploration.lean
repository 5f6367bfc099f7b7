import Mathlib.Algebra.BigOperators.Group.List.Basic
import Deliberation.Proofs.Readings
import Deliberation.Proofs.Selection
import Deliberation.Proofs.Stopping
/-! Runs in tree mode. A reply that creates branches puts them all below the selected one, and the first
of the best of them is selected next, so that the selected path grows by one branch with every such
reply. -/

namespace Deliberation

/-- What a branch holds: a thought, what was done about it, and a score. -/
structure Content where
  thought : String
  actions : List String
  observations : List String
  score : Float

def Branch.content (b : Branch) : Content :=
  ⟨b.thought, b.actions, b.observations, b.score⟩

/-- What the branch of a stated approach holds. Its steps, if there are any, are the one action, and
the arguments for and against it are what came of it. -/
def Reply.StatedApproach.content (a : StatedApproach) : Content where
  thought := a.approach
  actions := if a.steps = "" then [] else [a.steps]
  observations := if a.steps = "" then [] else ["Pros: " ++ a.pros ++ "; Cons: " ++ a.cons]
  score := a.score

/-- The same branch, perhaps with another status. -/
structure Branch.Alike (b c : Branch) : Prop where
  place : c.place = b.place
  content : c.content = b.content

namespace Branch

theorem alike_win (b : Branch) : b.Alike b.win :=
  ⟨rfl, rfl⟩

theorem alike_lose (b : Branch) : b.Alike b.lose := by
  unfold lose
  split <;> exact ⟨rfl, rfl⟩

theorem Alike.score_eq {b c : Branch} (h : b.Alike c) : c.score = b.score :=
  congrArg Content.score h.content

end Branch

/-- A reply that has created branches: the one of them that was selected, and the others before it and
behind it. -/
structure Round where
  reply : String
  front : List Branch
  winner : Branch
  back : List Branch

namespace Round

def created (r : Round) : List Branch :=
  r.front ++ r.winner :: r.back

/-- The reply of a round and the number of branches that it has created. -/
def yield (r : Round) : String × Nat :=
  (r.reply, r.created.length)

/-- A round that extends a path by its winner. Its branches hold the first approaches of the reply, all
at the end of the path, and the winner is the first of the best. -/
structure Extends (path : List Branch) (r : Round) : Prop where
  content : r.created.map Branch.content <+:
    (Reply.approaches r.reply).map Reply.StatedApproach.content
  depth : ∀ b ∈ r.created, b.depth.toNat = path.length
  parent : ∀ b ∈ r.created, b.parent = path.getLast?.map Branch.id
  leads : Tree.Leads r.front r.winner r.back

/-- A round after a selection, with a verdict on its winner. -/
def settle (verdict : Branch → Branch) (r : Round) : Round :=
  ⟨r.reply, r.front.map Branch.lose, verdict r.winner, r.back.map Branch.lose⟩

theorem created_settle_lose (r : Round) :
    (r.settle Branch.lose).created = r.created.map Branch.lose := by
  simp [created, settle]

variable {r : Round} {verdict : Branch → Branch} {path later : List Branch}

theorem yield_settle (r : Round) (verdict : Branch → Branch) : (r.settle verdict).yield = r.yield := by
  simp [yield, created, settle]

theorem content_settle (alike : ∀ b : Branch, b.Alike (verdict b)) :
    (r.settle verdict).created.map Branch.content = r.created.map Branch.content := by
  have same : Branch.content ∘ Branch.lose = Branch.content :=
    funext fun b => b.alike_lose.content
  simp [created, settle, same, (alike _).content]

theorem exists_of_mem_settle (alike : ∀ b : Branch, b.Alike (verdict b)) {b : Branch}
    (member : b ∈ (r.settle verdict).created) : ∃ c ∈ r.created, c.Alike b := by
  obtain before | rest := List.mem_append.mp member
  · obtain ⟨c, origin, rfl⟩ := List.mem_map.mp before
    exact ⟨c, List.mem_append_left _ origin, c.alike_lose⟩
  · obtain rfl | behind := List.mem_cons.mp rest
    · exact ⟨r.winner, List.mem_append_cons_self, alike r.winner⟩
    · obtain ⟨c, origin, rfl⟩ := List.mem_map.mp behind
      exact ⟨c, List.mem_append_right _ (List.mem_cons_of_mem _ origin), c.alike_lose⟩

theorem map_id_settle (rounds : List Round) :
    ((rounds.map (settle Branch.lose)).map winner).map Branch.id = (rounds.map winner).map Branch.id := by
  rw [List.map_map, List.map_map, List.map_map]
  exact List.map_congr_left fun r _ => congrArg Place.id r.winner.alike_lose.place

/-- A selection settles all branches of the round that it is about. -/
theorem isSettled_of_mem_settle (evaluated : ∀ b ∈ r.created, b.status = .evaluated) {b : Branch}
    (member : b ∈ (r.settle Branch.win).created) : b.IsSettled := by
  obtain before | rest := List.mem_append.mp member
  · obtain ⟨c, origin, rfl⟩ := List.mem_map.mp before
    exact .inr (Branch.IsScored.status_lose (.inl (evaluated c (List.mem_append_left _ origin))))
  · obtain rfl | behind := List.mem_cons.mp rest
    · exact .inl rfl
    · obtain ⟨c, origin, rfl⟩ := List.mem_map.mp behind
      have fresh := evaluated c (List.mem_append_right _ (List.mem_cons_of_mem _ origin))
      exact .inr (Branch.IsScored.status_lose (.inl fresh))

/-- A selection changes nothing but statuses, so that a round extends the path as before. -/
theorem Extends.settle (h : r.Extends path) (alike : ∀ b : Branch, b.Alike (verdict b))
    (ids : later.map Branch.id = path.map Branch.id) : (r.settle verdict).Extends later where
  content := by
    rw [content_settle alike]
    exact h.content
  depth := by
    intro b member
    obtain ⟨c, origin, same⟩ := exists_of_mem_settle alike member
    have length : later.length = path.length := by simpa using congrArg List.length ids
    have depth : b.depth = c.depth := congrArg Place.depth same.place
    rw [depth, length]
    exact h.depth c origin
  parent := by
    intro b member
    obtain ⟨c, origin, same⟩ := exists_of_mem_settle alike member
    have parent : b.parent = c.parent := congrArg Place.parent same.place
    rw [parent, ← List.getLast?_map, ids, List.getLast?_map]
    exact h.parent c origin
  leads := by
    have won : (r.settle verdict).winner.score = r.winner.score := (alike r.winner).score_eq
    constructor
    · intro b member
      obtain ⟨c, origin, rfl⟩ := List.mem_map.mp member
      rw [c.score_lose, won]
      exact h.leads.before c origin
    · intro b member
      obtain ⟨c, origin, rfl⟩ := List.mem_map.mp member
      rw [c.score_lose, won]
      exact h.leads.behind c origin

end Round

/-- A known parent is found under its id. -/
theorem Tree.map_id_bind_get? {t : Tree} {parentId : Option String}
    (known : ∀ id, parentId = some id → ∃ b ∈ t.branches, b.id = id) :
    (parentId.bind t.get?).map Branch.id = parentId := by
  cases parentId with
  | none => rfl
  | some id =>
    obtain ⟨b, member, named⟩ := known id rfl
    cases found : t.get? id with
    | none => simpa [named] using List.find?_eq_none.mp found b member
    | some p => simpa [found] using (get?_eq_some found).2

namespace Session

theorem content_recordedBranch {a : Reply.StatedApproach} (unit : Binary64.InUnit a.score) (t : Tree)
    (parentId : Option String) (now : Instant) :
    (recordedBranch a (t.bareBranch a.approach parentId now)).content = a.content := by
  by_cases silent : a.steps = "" <;>
    simp [recordedBranch, Branch.content, Branch.evaluate, Branch.addAction, Tree.bareBranch,
      Reply.StatedApproach.content, silent, unit.clampUnit_eq]

/-- Recording puts branches for the first of some approaches at the end of a tree, all of them below
one parent. -/
theorem recordApproaches_created {t : Tree} (h : t.WellFormed) {parentId : Option String}
    (known : ∀ id, parentId = some id → ∃ b ∈ t.branches, b.id = id) (now : Instant)
    {stated : List Reply.StatedApproach} (units : ∀ a ∈ stated, Binary64.InUnit a.score) :
    ∃ created notices,
      recordApproaches t parentId now stated =
        .ok ⟨({ t with branches := t.branches ++ created }, created.length), notices⟩ ∧
      created.map Branch.content <+: stated.map Reply.StatedApproach.content ∧
      ∀ b ∈ created, b.status = .evaluated ∧ b.parent = parentId := by
  induction stated generalizing t with
  | nil =>
    refine ⟨[], [], ?_, List.prefix_refl _, fun _ member => nomatch member⟩
    simp [recordApproaches]
  | cons a rest ih =>
    obtain ⟨made, whole, formed⟩ := h.createWith (becomes_recordedBranch a) a.approach parentId now
    obtain ⟨refused, -⟩ | ⟨room, shallow, created⟩ :=
      h.createWith_cases (recordedBranch a) a.approach parentId now
    · refine ⟨[], t.refusal parentId, ?_, List.nil_prefix, fun _ member => nomatch member⟩
      rw [recordApproaches_of_refuses a rest now refused, List.append_nil]
      rfl
    · obtain rfl := Except.ok.inj (whole.symm.trans created)
      have recorded := recordApproaches_of_room a rest now room shallow
      generalize making : recordedBranch a (t.bareBranch a.approach parentId now) = b at formed recorded
      have content : b.content = a.content :=
        making ▸ content_recordedBranch (units a List.mem_cons_self) t _ now
      have parent : b.parent = parentId := by
        rw [← t.map_id_bind_get? known, ← making]
        exact congrArg Place.parent (becomes_recordedBranch a _).place
      obtain ⟨more, notices, same, contents, fresh⟩ := ih formed
        (fun id named => (known id named).imp fun _ => And.imp_left (List.mem_append_left _))
        fun a member => units a (List.mem_cons_of_mem _ member)
      refine ⟨b :: more, t.lostParent parentId ++ notices, ?_, ?_, ?_⟩
      · rw [recorded, same]
        simp [Except.map]
      · simpa [content] using contents
      · intro c member
        obtain rfl | later := List.mem_cons.mp member
        · exact ⟨making ▸ rfl, parent⟩
        · exact fresh c later

theorem score_inUnit {created : List Branch} {stated : List Reply.StatedApproach}
    (content : created.map Branch.content <+: stated.map Reply.StatedApproach.content)
    (units : ∀ a ∈ stated, Binary64.InUnit a.score) : ∀ b ∈ created, Binary64.InUnit b.score := by
  intro b member
  obtain ⟨a, origin, same⟩ := List.mem_map.mp (content.mem (List.mem_map_of_mem member))
  have score : a.score = b.score := congrArg Content.score same
  exact score ▸ units a origin

end Session

/-- A tree that some rounds have led to, each of which has extended the path of the winners before it.
The winner of the last round is selected, and all other branches are rejected. -/
structure Explored (given : RunSettings) (t : Tree) (rounds : List Round) : Prop where
  wellFormed : t.WellFormed
  width : t.maxBranches = max given.treeMaxBranches 1
  height : t.maxDepth = max given.treeMaxDepth 1
  branches : t.branches = rounds.flatMap Round.created
  selected : t.selectedId = rounds.getLast?.map fun r => r.winner.id
  extends_path : ∀ earlier r later, rounds = earlier ++ r :: later →
    r.Extends (earlier.map Round.winner)
  settled : ∀ b ∈ t.branches, b.IsSettled
  won : ∀ r ∈ rounds.getLast?, r.winner.status = .selected

namespace Explored

variable {given : RunSettings} {t : Tree} {rounds : List Round}

theorem start (given : RunSettings) (task : String) (now : Instant) :
    Explored given (.start task given.treeMaxBranches given.treeMaxDepth now) [] where
  wellFormed := Tree.start_wellFormed ..
  width := rfl
  height := rfl
  branches := rfl
  selected := rfl
  extends_path := fun earlier _ _ whole => by simp at whole
  settled := fun _ member => nomatch member
  won := fun _ member => nomatch member

theorem winner_mem (h : Explored given t rounds) {r : Round} (member : r ∈ rounds) :
    r.winner ∈ t.branches := by
  rw [h.branches]
  exact List.mem_flatMap.mpr ⟨r, member, List.mem_append_cons_self⟩

/-- New branches below the selected one extend the path of the winners. -/
theorem extends_path_of_grown (h : Explored given t rounds) {round : Round} {grown : Tree}
    (formed : grown.WellFormed) (branches : grown.branches = t.branches ++ round.created)
    (content : round.created.map Branch.content <+:
      (Reply.approaches round.reply).map Reply.StatedApproach.content)
    (parent : ∀ b ∈ round.created, b.parent = t.selectedId)
    (leads : Tree.Leads round.front round.winner round.back) :
    round.Extends (rounds.map Round.winner) where
  content := content
  depth := by
    intro b member
    have child : b ∈ grown.branches := branches ▸ List.mem_append_right _ member
    have below := parent b member
    rw [h.selected] at below
    obtain rfl | ⟨init, last, rfl⟩ := rounds.eq_nil_or_concat'
    · obtain ⟨earlier, later, whole⟩ := List.append_of_mem child
      have root := (formed.follows_at whole).root below
      exact congrArg UInt32.toNat root
    · have above : last.winner ∈ t.branches := h.winner_mem List.mem_concat_self
      have depth := formed.depth_of_isParent
        ⟨branches ▸ List.mem_append_left _ above, child, by simpa using below⟩
      have level := (h.extends_path init last [] rfl).depth last.winner List.mem_append_cons_self
      rw [depth, level, List.map_append, List.length_append]
      rfl
  parent := by
    intro b member
    rw [parent b member, h.selected, List.getLast?_map, Option.map_map]
    rfl
  leads := leads

/-- A selection among new branches settles them and all others. -/
theorem settle (h : Explored given t rounds) {round : Round} {later : Tree}
    (formed : later.WellFormed) (width : later.maxBranches = t.maxBranches)
    (height : later.maxDepth = t.maxDepth)
    (branches : later.branches = t.branches.map Branch.lose ++ (round.settle Branch.win).created)
    (selected : later.selectedId = some round.winner.id)
    (evaluated : ∀ b ∈ round.created, b.status = .evaluated)
    (extends_path : round.Extends (rounds.map Round.winner)) :
    Explored given later (rounds.map (Round.settle Branch.lose) ++ [round.settle Branch.win]) where
  wellFormed := formed
  width := width.trans h.width
  height := height.trans h.height
  branches := by
    rw [branches, h.branches, List.flatMap_append, List.flatMap_singleton, List.map_flatMap,
      List.flatMap_map]
    simp only [Round.created_settle_lose]
  selected := by
    rw [List.getLast?_concat]
    exact selected
  extends_path := by
    refine forall_split_concat ?_ (extends_path.settle Branch.alike_win (Round.map_id_settle rounds))
    intro earlier r rest whole
    obtain ⟨before, others, rfl, rfl, onward⟩ := List.map_eq_append_iff.mp whole
    obtain ⟨s, after, rfl, rfl, rfl⟩ := List.map_eq_cons_iff.mp onward
    exact (h.extends_path before s after rfl).settle Branch.alike_lose (Round.map_id_settle before)
  settled := by
    intro b member
    rw [branches] at member
    obtain old | new := List.mem_append.mp member
    · obtain ⟨c, origin, rfl⟩ := List.mem_map.mp old
      exact .inr (Branch.IsScored.status_lose (.inr (h.settled c origin)))
    · exact Round.isSettled_of_mem_settle evaluated new
  won := by
    intro r last
    rw [List.getLast?_concat] at last
    exact Option.some.inj last ▸ rfl

/-- A reply makes a round where it creates a branch, and otherwise it leaves the rounds as they are. -/
theorem explore (h : Explored given t rounds) (text : String) (now : Instant) :
    ∃ grown later, t.explore text now = .ok grown ∧ Explored given grown later ∧
      let fresh := grown.branches.length - t.branches.length
      later.map Round.yield = rounds.map Round.yield ++ if fresh = 0 then [] else [(text, fresh)] := by
  have units : ∀ a ∈ Reply.approaches text, Binary64.InUnit a.score :=
    fun _ => Reply.score_inUnit_of_mem_approaches
  obtain ⟨created, notices, recorded, content, fresh⟩ :=
    Session.recordApproaches_created h.wellFormed h.wellFormed.known now units
  obtain ⟨_, same, formed⟩ :=
    Session.recordApproaches_wellFormed h.wellFormed t.selectedId now (Reply.approaches text)
  obtain rfl := Except.ok.inj (same.symm.trans recorded)
  obtain rfl | nonempty := eq_or_ne created []
  · have same : t.explore text now = .ok t := by
      simp [Tree.explore, recorded, Except.map]
    exact ⟨t, rounds, same, h, by simp⟩
  · have evaluated : ∀ b ∈ created, b.status = .evaluated ∧ b.score ≤ b.score :=
      fun b member => ⟨(fresh b member).1, (Session.score_inUnit content units b member).self_le⟩
    have extended : ({ t with branches := t.branches ++ created } : Tree).branches =
        t.branches ++ created := rfl
    have explored : t.explore text now =
        .ok (({ t with branches := t.branches ++ created } : Tree).select Scorer.heuristic).1 := by
      simp [Tree.explore, recorded, nonempty, Except.map]
    have selecting := formed.select Scorer.heuristic
    obtain ⟨front, winner, back, rfl, leads, selection⟩ :=
      Tree.select_of_scored extended h.settled nonempty evaluated Scorer.heuristic
    let round : Round := ⟨text, front, winner, back⟩
    have fresh : ∀ b ∈ round.created, b.status = .evaluated ∧ b.parent = t.selectedId := fresh
    have path : round.Extends (rounds.map Round.winner) :=
      h.extends_path_of_grown formed extended content (fun b member => (fresh b member).2) leads
    rw [selection] at explored selecting
    refine ⟨_, _, explored, h.settle selecting rfl rfl rfl rfl (fun b member => (fresh b member).1) path, ?_⟩
    have yield : round.yield = (text, front.length + (back.length + 1)) := by
      simp [round, Round.yield, Round.created]
    simp [Round.yield_settle, Function.comp_def, yield]

theorem length_le_branches (h : Explored given t rounds) : rounds.length ≤ t.branches.length := by
  rw [h.branches, List.length_flatMap, ← List.length_map]
  apply List.length_le_sum_of_one_le
  intro n member
  obtain ⟨r, -, rfl⟩ := List.mem_map.mp member
  rw [Round.created, List.length_append, List.length_cons]
  omega

end Explored

namespace Session

/-- The branches of a session, of which there are none outside tree mode. -/
def branches (s : Session) : List Branch :=
  match s.workspace with
  | .tree t => t.branches
  | _ => []

/-- The replies to some calls that create branches, and how many each of them creates. A call that has
failed gives no reply. -/
def productive (clock : Nat → Instant) (s : Session) : List Cycle → List (String × Nat)
  | [] => []
  | c :: rest =>
    let t := (s.take c.call c.result (clock c.elapsed)).value.1
    let fresh := t.branches.length - s.branches.length
    let replies := c.result.completion?.toList.map fun completion => (completion.text, fresh)
    (if fresh = 0 then [] else replies) ++ productive clock t rest

variable {s : Session} {given : RunSettings} {t : Tree} {rounds : List Round}

/-- A tree makes rounds of the productive replies. -/
theorem tally_explored (clock : Nat → Instant) (cycles : List Cycle) (workspace : s.workspace = .tree t)
    (explored : Explored given t rounds) :
    ∃ later more, (tally clock s cycles).workspace = .tree later ∧ Explored given later more ∧
      more.map Round.yield = rounds.map Round.yield ++ productive clock s cycles := by
  induction cycles generalizing s t rounds with
  | nil =>
    rw [productive, List.append_nil]
    exact ⟨t, rounds, workspace, explored, rfl⟩
  | cons c rest ih =>
    have taken := s.workspace_take c.call c.result (clock c.elapsed)
    rw [workspace, Workspace.after] at taken
    cases given : c.result.completion? with
    | none =>
      rw [given] at taken
      obtain ⟨later, more, written, holds, replies⟩ := ih taken explored
      refine ⟨later, more, written, holds, ?_⟩
      simpa [productive, given] using replies
    | some completion =>
      obtain ⟨tree, grown, same, holds, reply⟩ := explored.explore completion.text (clock c.elapsed)
      simp only [given, Workspace.write, same, Except.map, Except.toOption, Option.getD_some] at taken
      obtain ⟨later, more, written, holds, replies⟩ := ih taken holds
      refine ⟨later, more, written, holds, ?_⟩
      rw [replies, reply, List.append_assoc]
      simp only [productive, branches, given, workspace, taken]
      rfl

section
variable {settings : RunSettings} {catalog : Catalog} {classify : Classifier} {task id : String}
  {clock : Nat → Instant}

end

end Session

end Deliberation
