import Deliberation.Proofs.Selection
/-! The verdicts of a selection on a tree that was made by any operations with numbers for scores. The
first of the best candidates is selected, all other branches that are not given up are rejected, and
nothing else about the tree changes. Then no candidate is left, so that a further selection does
nothing. -/

namespace Deliberation

open Binary64 (InUnit)

namespace Branch

/-- A score in the unit interval, and none at all for a branch that is given up. -/
structure IsRated (b : Branch) : Prop where
  unit : InUnit b.score
  failed : b.status = .failed → b.score = 0

/-- What every new branch has, and what a branch keeps or gets back whatever is done to it, so long as
it is given fitting scores. -/
structure Lasts (fits : Float → Prop) (holds : Branch → Prop) : Prop where
  fresh (t : Tree) (thought : String) (parentId : Option String) (now : Instant) :
    holds (t.bareBranch thought parentId now)
  addAction {b : Branch} (h : holds b) (action observation : String) : holds (b.addAction action observation)
  evaluate (b : Branch) {score : Float} (fit : fits score) : holds (b.evaluate score)
  markFailed (b : Branch) : holds b.markFailed
  pin (b : Branch) : holds { b with score := 0 }
  lose {b : Branch} (h : holds b) : holds b.lose
  win {b : Branch} (h : holds b) : holds b.win

theorem Lasts.assess {fits : Float → Prop} {holds : Branch → Prop} (lasts : Lasts fits holds) {b : Branch}
    (h : holds b) {scorer : Scorer} (fit : b.status = .exploring → fits (scorer b)) :
    holds (b.assess scorer) := by
  unfold Branch.assess
  split
  · rename_i exploring
    exact lasts.evaluate b (fit exploring)
  · exact lasts.pin b
  · exact h

theorem IsRated.lose {b : Branch} (h : b.IsRated) : b.lose.IsRated := by
  unfold Branch.lose
  split
  · exact ⟨h.unit, nofun⟩
  · exact h

/-- A branch is rated as long as its scores are numbers. -/
theorem isRated_lasts : Lasts (fun x => x.isNaN = false) IsRated where
  fresh _ _ _ _ := ⟨Binary64.zero_inUnit, fun _ => rfl⟩
  addAction h _ _ := ⟨h.unit, h.failed⟩
  evaluate _ _ number := ⟨Binary64.clampUnit_inUnit (Binary64.self_le_of_isNaN number), nofun⟩
  markFailed _ := ⟨Binary64.zero_inUnit, fun _ => rfl⟩
  pin _ := ⟨Binary64.zero_inUnit, fun _ => rfl⟩
  lose := IsRated.lose
  win h := ⟨h.unit, nofun⟩

/-- A branch as a selection leaves it that was won by the branch with an id. -/
def verdict (scorer : Scorer) (winner : String) (b : Branch) : Branch :=
  { b with
    status := if b.id = winner then .selected else if b.status = .failed then .failed else .rejected
    score := match b.status with
      | .exploring => Binary64.clampUnit (scorer b)
      | .failed => 0
      | _ => b.score }

theorem lose_assess {scorer : Scorer} {winner : String} {b : Branch} (other : b.id ≠ winner) :
    (b.assess scorer).lose = b.verdict scorer winner := by
  obtain ⟨id, parent, thought, actions, observations, status, score, depth, createdAt⟩ := b
  cases status <;> simp [verdict, assess, lose, evaluate, other]

theorem win_assess {scorer : Scorer} {b : Branch} (scored : (b.assess scorer).status = .evaluated) :
    (b.assess scorer).win = b.verdict scorer b.id := by
  obtain ⟨id, parent, thought, actions, observations, status, score, depth, createdAt⟩ := b
  cases status
  case exploring | evaluated => simp [verdict, assess, win, evaluate]
  all_goals contradiction

/-- A verdict is final: there is nothing to score, and nothing to select. -/
structure IsFinal (b : Branch) : Prop where
  unexplored : b.status ≠ .exploring
  unevaluated : b.status ≠ .evaluated
  failed : b.status = .failed → b.score = 0

theorem isFinal_verdict (scorer : Scorer) (winner : String) (b : Branch) :
    (b.verdict scorer winner).IsFinal := by
  obtain ⟨id, parent, thought, actions, observations, status, score, depth, createdAt⟩ := b
  by_cases won : id = winner
  · constructor <;> simp [verdict, won]
  · cases status <;> constructor <;> simp [verdict, won]

/-- Where scoring makes no candidate of a branch, there was nothing to score. -/
theorem IsRated.isFinal {b : Branch} (h : b.IsRated) (scorer : Scorer)
    (unevaluated : (b.assess scorer).status ≠ .evaluated) : b.IsFinal := by
  refine ⟨fun exploring => ?_, fun evaluated => ?_, h.failed⟩
  · simp [Branch.assess, exploring, evaluate] at unevaluated
  · simp [Branch.assess, evaluated] at unevaluated

theorem IsFinal.assess_eq {b : Branch} (h : b.IsFinal) (scorer : Scorer) : b.assess scorer = b := by
  unfold Branch.assess
  split
  · rename_i exploring
    exact absurd exploring h.unexplored
  · rename_i failed
    rw [← h.failed failed]
  · rfl

end Branch

namespace Tree

/-- Every branch is rated. -/
def Rated (t : Tree) : Prop :=
  ∀ b ∈ t.branches, b.IsRated

/-- The scores that an operation gives to the branches of a tree. -/
def Operation.scores (t : Tree) : Operation → List Float
  | .evaluate id score => (t.get? id).toList.map fun _ => score
  | .evaluateAll scorer | .select scorer =>
    (t.branches.filter fun b => b.status = .exploring).map scorer
  | _ => []

/-- The scores that some operations give, one after the other, up to one that overflows. -/
def scoresGiven (t : Tree) : List Operation → List Float
  | [] => []
  | operation :: rest => operation.scores t ++
    match t.perform operation with
    | .ok u => u.scoresGiven rest
    | .error _ => []

theorem scoresGiven_cons {t u : Tree} {operation : Operation} (done : t.perform operation = .ok u)
    (rest : List Operation) :
    t.scoresGiven (operation :: rest) = operation.scores t ++ u.scoresGiven rest := by
  rw [scoresGiven, done]

theorem scoresGiven_append {t u : Tree} {first : List Operation} (done : t.performAll first = .ok u)
    (second : List Operation) :
    t.scoresGiven (first ++ second) = t.scoresGiven first ++ u.scoresGiven second := by
  induction first generalizing t with
  | nil =>
    obtain rfl := Except.ok.inj done
    rfl
  | cons operation rest ih =>
    obtain ⟨next, step, onward⟩ := performAll_cons done
    rw [List.cons_append, scoresGiven_cons step, scoresGiven_cons step, ih onward, List.append_assoc]

theorem mem_modifyFirst {p : Branch → Bool} {f : Branch → Branch} {branches : List Branch} {b : Branch}
    (member : b ∈ modifyFirst p f branches) :
    b ∈ branches ∨ ∃ c, branches.find? p = some c ∧ b = f c := by
  induction branches with
  | nil => contradiction
  | cons c rest ih =>
    unfold modifyFirst at member
    split at member
    · rename_i first
      obtain rfl | later := List.mem_cons.mp member
      · exact .inr ⟨c, List.find?_cons_of_pos first, rfl⟩
      · exact .inl (List.mem_cons_of_mem c later)
    · rename_i passed
      obtain rfl | later := List.mem_cons.mp member
      · exact .inl List.mem_cons_self
      · rw [List.find?_cons_of_neg passed]
        exact (ih later).imp_left (List.mem_cons_of_mem c)

section
open Branch (Lasts)

variable {fits : Float → Prop} {holds : Branch → Prop} {t u : Tree}

theorem lasts_create (lasts : Lasts fits holds) (h : ∀ b ∈ t.branches, holds b) {thought : String}
    {parentId : Option String} {now : Instant} {made : Noted (Tree × Option Branch)}
    (created : t.create thought parentId now = .ok made) : ∀ b ∈ made.value.1.branches, holds b := by
  obtain ⟨-, same⟩ | ⟨-, -, same⟩ | ⟨-, -, same⟩ := createWith_cases id thought now t parentId
  · obtain rfl := Except.ok.inj (same.symm.trans created)
    exact h
  · exact nomatch same.symm.trans created
  · obtain rfl := Except.ok.inj (same.symm.trans created)
    exact List.forall_mem_append.mpr ⟨h, by simpa using lasts.fresh t thought parentId now⟩

theorem lasts_modify (h : ∀ b ∈ t.branches, holds b) {id : String} {f : Branch → Branch}
    (kept : ∀ b, t.get? id = some b → holds (f b)) : ∀ b ∈ (t.modify id f).branches, holds b := by
  intro b member
  obtain old | ⟨c, found, rfl⟩ := mem_modifyFirst member
  · exact h b old
  · exact kept c found

theorem lasts_evaluateAll (lasts : Lasts fits holds) (h : ∀ b ∈ t.branches, holds b) {scorer : Scorer}
    (fit : ∀ x ∈ (t.branches.filter fun b => b.status = .exploring).map scorer, fits x) :
    ∀ b ∈ (t.evaluateAll scorer).branches, holds b := by
  intro b member
  obtain ⟨c, origin, rfl⟩ := List.mem_map.mp member
  refine lasts.assess (h c origin) fun exploring => fit _ (List.mem_map_of_mem ?_)
  simp [origin, exploring]

theorem lasts_select (lasts : Lasts fits holds) {scorer : Scorer}
    (h : ∀ b ∈ (t.evaluateAll scorer).branches, holds b) : ∀ b ∈ (t.select scorer).1.branches, holds b := by
  intro b member
  obtain ⟨c, origin, rfl | rfl | rfl⟩ := exists_of_mem_select member
  · exact h b origin
  · exact lasts.lose (h c origin)
  · exact lasts.win (h c origin)

theorem lasts_perform (lasts : Lasts fits holds) (h : ∀ b ∈ t.branches, holds b) {operation : Operation}
    (fit : ∀ x ∈ operation.scores t, fits x) (done : t.perform operation = .ok u) :
    ∀ b ∈ u.branches, holds b := by
  cases operation with
  | create thought parentId now =>
    obtain ⟨made, created, rfl⟩ := except_map_eq_ok_iff.mp done
    exact lasts_create lasts h created
  | addAction id action observation =>
    obtain rfl := Except.ok.inj done
    exact lasts_modify h fun b found => lasts.addAction (h b (get?_eq_some found).1) action observation
  | evaluate id score =>
    obtain rfl := Except.ok.inj done
    refine lasts_modify h fun b found => lasts.evaluate b (fit score ?_)
    simp [Operation.scores, found]
  | markFailed id =>
    obtain rfl := Except.ok.inj done
    exact lasts_modify h fun b _ => lasts.markFailed b
  | evaluateAll scorer =>
    obtain rfl := Except.ok.inj done
    exact lasts_evaluateAll lasts h fit
  | select scorer =>
    obtain rfl := Except.ok.inj done
    exact lasts_select lasts (lasts_evaluateAll lasts h fit)
  | complete now =>
    obtain rfl := Except.ok.inj done
    exact h

theorem lasts_performAll (lasts : Lasts fits holds) (h : ∀ b ∈ t.branches, holds b)
    {operations : List Operation} (fit : ∀ x ∈ t.scoresGiven operations, fits x)
    (done : t.performAll operations = .ok u) : ∀ b ∈ u.branches, holds b := by
  induction operations generalizing t with
  | nil =>
    obtain rfl := Except.ok.inj done
    exact h
  | cons operation rest ih =>
    obtain ⟨next, step, onward⟩ := performAll_cons done
    rw [scoresGiven_cons step, List.forall_mem_append] at fit
    exact ih (lasts_perform lasts h fit.1 step) fit.2 onward

end

namespace Rated

variable {t : Tree} {scorer : Scorer}

theorem start (task : String) (maxBranches : UInt64) (maxDepth : UInt32) (now : Instant) :
    (start task maxBranches maxDepth now).Rated :=
  fun _ member => nomatch member

/-- The candidates of a selection have numbers for scores. -/
theorem candidates (h : (t.evaluateAll scorer).Rated) :
    ∀ b ∈ evaluated (t.evaluateAll scorer).branches, b.score ≤ b.score :=
  fun b member => (h b (mem_evaluated.mp member).1).unit.self_le

theorem perform (h : t.Rated) {operation : Operation} {u : Tree}
    (numbers : ∀ x ∈ operation.scores t, x.isNaN = false) (done : t.perform operation = .ok u) : u.Rated :=
  lasts_perform Branch.isRated_lasts h numbers done

theorem performAll (h : t.Rated) {operations : List Operation} {u : Tree}
    (numbers : ∀ x ∈ t.scoresGiven operations, x.isNaN = false) (done : t.performAll operations = .ok u) :
    u.Rated :=
  lasts_performAll Branch.isRated_lasts h numbers done

end Rated

/-- Where all verdicts are final, a selection does nothing. -/
theorem select_of_final {t : Tree} (final : ∀ b ∈ t.branches, b.IsFinal) (scorer : Scorer) :
    t.select scorer = (t, none) := by
  have scored : t.evaluateAll scorer = t :=
    evaluateAll_eq_self fun b member => (final b member).assess_eq scorer
  have unevaluated : ∀ b ∈ (t.evaluateAll scorer).branches, b.status ≠ .evaluated :=
    scored.symm ▸ fun b member => (final b member).unevaluated
  rw [select, best?, bestFrom_of_unevaluated none 0 unevaluated, scored]
  rfl

/-- A selection among candidates gives every branch its verdict and the first of the best the victory. -/
theorem select_of_candidates {t : Tree} (formed : t.WellFormed) {scorer : Scorer}
    (rated : (t.evaluateAll scorer).Rated) (nonempty : evaluated (t.evaluateAll scorer).branches ≠ []) :
    ∃ front winner back, evaluated (t.evaluateAll scorer).branches = front ++ winner :: back ∧
      Leads front winner back ∧
      t.select scorer =
        ({ t with
            branches := t.branches.map (Branch.verdict scorer winner.id)
            selectedId := some winner.id }, some winner.win) := by
  obtain ⟨none, -⟩ | ⟨front, winner, back, whole, won, leads, selection⟩ := t.select_cases rated.candidates
  · exact absurd none nonempty
  refine ⟨evaluated front, winner, evaluated back, ?_, leads, ?_⟩
  · rw [whole, evaluated_append, evaluated_cons_self won]
  obtain ⟨before, others, branches, rfl, onward⟩ := List.map_eq_append_iff.mp whole
  obtain ⟨b, behind, rfl, rfl, rfl⟩ := List.map_eq_cons_iff.mp onward
  have id : (b.assess scorer).id = b.id := congrArg Place.id (b.becomes_assess scorer).place
  have distinct := formed.ids_nodup
  rw [branches, List.map_append, List.map_cons, List.nodup_middle, ← List.map_append,
    List.nodup_cons] at distinct
  have lost (rest : List Branch) (inside : rest ⊆ before ++ behind) :
      (rest.map (Branch.assess scorer)).map Branch.lose = rest.map (Branch.verdict scorer b.id) := by
    rw [List.map_map]
    refine List.map_congr_left fun c member => Branch.lose_assess fun same => ?_
    exact distinct.1 (same ▸ List.mem_map_of_mem (inside member))
  rw [selection, id, lost before (by simp), lost behind (by simp), Branch.win_assess won, branches,
    List.map_append, List.map_cons]

/-- A selection on a tree that was made with numbers for scores. It does nothing where there is no
candidate. Else it selects the first of the best candidates, and gives every other branch its verdict. No
candidate is left in the end, and a further selection does nothing, whatever its scorer. -/
theorem select_performAll_start (task : String) (maxBranches : UInt64) (maxDepth : UInt32) (now : Instant)
    (operations : List Operation) (scorer : Scorer)
    (numbers : ∀ x ∈ (start task maxBranches maxDepth now).scoresGiven (operations ++ [.select scorer]),
      x.isNaN = false) :
    ∃ t, (start task maxBranches maxDepth now).performAll operations = .ok t ∧
    let candidates := (t.evaluateAll scorer).branches.filter fun b => b.status = .evaluated
    let u := (t.select scorer).1
    (candidates = [] → t.select scorer = (t, none)) ∧
    (candidates ≠ [] → ∃ front winner back, candidates = front ++ winner :: back ∧
      (∀ b ∈ front, b.score < winner.score) ∧ (∀ b ∈ back, b.score ≤ winner.score) ∧
      (t.select scorer).2 = some { winner with status := .selected } ∧
      u.get? winner.id = some { winner with status := .selected } ∧
      u = { t with
        branches := t.branches.map (Branch.verdict scorer winner.id)
        selectedId := some winner.id }) ∧
    (∀ b ∈ u.branches, b.status ≠ .exploring ∧ b.status ≠ .evaluated ∧
      (b.status = .failed → b.score = 0)) ∧
    ∀ again, u.select again = (u, none) := by
  obtain ⟨t, done, formed, -⟩ := performAll_start task maxBranches maxDepth now operations
  refine ⟨t, done, ?_⟩
  intro candidates u
  rw [scoresGiven_append done, List.forall_mem_append, scoresGiven_cons rfl, List.forall_mem_append]
    at numbers
  obtain ⟨before, selecting, -⟩ := numbers
  have rated : t.Rated := (Rated.start task maxBranches maxDepth now).performAll before done
  have evaluating : t.perform (.evaluateAll scorer) = .ok (t.evaluateAll scorer) := rfl
  have scored : (t.evaluateAll scorer).Rated := by
    refine rated.perform ?_ evaluating
    exact selecting
  have idle (calm : candidates = []) : ∀ b ∈ t.branches, b.IsFinal := by
    intro b member
    refine (rated b member).isFinal scorer fun evaluated => ?_
    have candidate : b.assess scorer ∈ candidates :=
      mem_evaluated.mpr ⟨List.mem_map_of_mem member, evaluated⟩
    exact List.not_mem_nil (calm ▸ candidate)
  have final : ∀ b ∈ u.branches, b.IsFinal := by
    obtain calm | nonempty := eq_or_ne candidates []
    · have same : u = t := congrArg Prod.fst (select_of_final (idle calm) scorer)
      exact same ▸ idle calm
    · obtain ⟨front, winner, back, -, -, selection⟩ := select_of_candidates formed scored nonempty
      intro b member
      rw [show u = _ from congrArg Prod.fst selection] at member
      obtain ⟨c, -, rfl⟩ := List.mem_map.mp member
      exact c.isFinal_verdict scorer winner.id
  refine ⟨fun calm => select_of_final (idle calm) scorer, fun nonempty => ?_, ?_, select_of_final final⟩
  · obtain ⟨front, winner, back, whole, leads, selection⟩ := select_of_candidates formed scored nonempty
    refine ⟨front, winner, back, whole, leads.before, leads.behind, congrArg Prod.snd selection, ?_,
      congrArg Prod.fst selection⟩
    have chosen : winner.win ∈ u.branches := mem_of_select (congrArg Prod.snd selection)
    exact (formed.select scorer).get?_id chosen
  · exact fun b member => ⟨(final b member).unexplored, (final b member).unevaluated, (final b member).failed⟩

/-- Of two branches with the same score the first is selected, and one that was given up stays as it
is. Then a further selection does nothing. -/
theorem select_performAll_start_of_tied :
    let operations : List Operation := [.create "walk" none Instant.epoch,
      .create "ride" none Instant.epoch, .create "swim" (some "branch_2") Instant.epoch,
      .markFailed "branch_3", .evaluate "branch_2" 0.5]
    let half : Scorer := fun _ => 0.5
    let fresh := start "task" 5 3 Instant.epoch
    (∀ x ∈ fresh.scoresGiven (operations ++ [.select half]), x.isNaN = false) ∧
      ∃ t, fresh.performAll operations = .ok t ∧
        let u := (t.select half).1
        u.selectedId = some "branch_1" ∧ u.branches.map Branch.status = [.selected, .rejected, .failed] ∧
        ∀ again, u.select again = (u, none) := by
  intro operations half fresh
  have numbers : ∀ x ∈ fresh.scoresGiven (operations ++ [.select half]), x.isNaN = false := by
    decide +kernel
  obtain ⟨t, done, -, chosen, -, again⟩ :=
    select_performAll_start "task" 5 3 Instant.epoch operations half numbers
  have facts : ∀ t ∈ (fresh.performAll operations).toOption,
      ((t.evaluateAll half).branches.filter fun b => b.status = .evaluated) ≠ [] ∧
      (t.select half).2.map Branch.id = some "branch_1" ∧
      (t.branches.map (Branch.verdict half "branch_1")).map Branch.status =
        [.selected, .rejected, .failed] := by decide +kernel
  obtain ⟨nonempty, first, statuses⟩ := facts t (by rw [done]; rfl)
  obtain ⟨front, winner, back, -, -, -, selected, -, same⟩ := chosen nonempty
  rw [selected] at first
  have named : winner.id = "branch_1" := Option.some.inj first
  rw [named] at same
  refine ⟨numbers, t, done, congrArg Tree.selectedId same, ?_, again⟩
  exact (congrArg (fun v : Tree => v.branches.map Branch.status) same).trans statuses

end Tree

end Deliberation
