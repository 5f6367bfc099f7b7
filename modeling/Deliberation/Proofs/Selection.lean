import Mathlib.Data.List.Induction
import Deliberation.Proofs.Branches
import Deliberation.Proofs.Scores
/-! The selection of a branch. Among the evaluated branches the first of the best wins, and a selection
settles every branch that has a score: the winner is selected and all others are rejected. -/

namespace Deliberation

namespace Branch

def IsSettled (b : Branch) : Prop :=
  b.status = .selected ∨ b.status = .rejected

def IsScored (b : Branch) : Prop :=
  b.status = .evaluated ∨ b.IsSettled

def win (b : Branch) : Branch :=
  { b with status := .selected }

theorem IsScored.assess_eq {b : Branch} (h : b.IsScored) (scorer : Scorer) : b.assess scorer = b := by
  unfold assess
  split
  · rename_i exploring
    simp [IsScored, IsSettled, exploring] at h
  · rename_i failed
    simp [IsScored, IsSettled, failed] at h
  · rfl

theorem IsScored.status_lose {b : Branch} (h : b.IsScored) : b.lose.status = .rejected := by
  unfold lose
  split
  · rfl
  · rename_i kept
    obtain evaluated | selected | rejected := h
    · exact absurd (.inl evaluated) kept
    · exact absurd (.inr selected) kept
    · exact rejected

theorem score_lose (b : Branch) : b.lose.score = b.score := by
  unfold lose
  split <;> rfl

end Branch

namespace Tree

/-- Where no branch waits for a score, scoring does nothing. -/
theorem evaluateAll_eq_self {t : Tree} {scorer : Scorer}
    (assessed : ∀ b ∈ t.branches, b.assess scorer = b) : t.evaluateAll scorer = t := by
  have same : t.branches.map (Branch.assess scorer) = t.branches :=
    (List.map_congr_left assessed).trans (List.map_id _)
  rw [evaluateAll, same]

/-- Between what is worse and what is not better, a branch is the first of the best. -/
structure Leads (front : List Branch) (winner : Branch) (back : List Branch) : Prop where
  before : ∀ b ∈ front, b.score < winner.score
  behind : ∀ b ∈ back, b.score ≤ winner.score

theorem Leads.alone (b : Branch) : Leads [] b [] where
  before := fun _ member => nomatch member
  behind := fun _ member => nomatch member

theorem Leads.stay {front back : List Branch} {winner b : Branch} (h : Leads front winner back)
    (below : b.score ≤ winner.score) : Leads front winner (back ++ [b]) where
  before := h.before
  behind := by
    intro c member
    obtain earlier | last := List.mem_append.mp member
    · exact h.behind c earlier
    · exact List.mem_singleton.mp last ▸ below

/-- A branch that is better than the best so far is better than all so far. -/
theorem Leads.overtake {front back : List Branch} {winner b : Branch} (h : Leads front winner back)
    (above : winner.score < b.score) : Leads (front ++ winner :: back) b [] where
  before := by
    intro c member
    obtain ahead | rest := List.mem_append.mp member
    · exact Binary64.lt_of_le_of_lt (Binary64.le_of_lt (h.before c ahead)) above
    · obtain rfl | behind := List.mem_cons.mp rest
      · exact above
      · exact Binary64.lt_of_le_of_lt (h.behind c behind) above
  behind := fun _ member => nomatch member

theorem bestFrom_append (best : Option (Nat × Float)) (position : Nat) (front back : List Branch) :
    bestFrom best position (front ++ back) =
      bestFrom (bestFrom best position front) (position + front.length) back := by
  induction front generalizing best position with
  | nil => rfl
  | cons b rest ih =>
    rw [List.cons_append, bestFrom, bestFrom, ih, List.length_cons, Nat.add_right_comm, Nat.add_assoc]

/-- The best so far stays the best, or it is one of the branches that follow, with its score. -/
theorem exists_of_bestFrom {best : Option (Nat × Float)} {position i : Nat} {branches : List Branch}
    {score : Float} (won : bestFrom best position branches = some (i, score)) :
    best = some (i, score) ∨
      ∃ k b, i = position + k ∧ branches[k]? = some b ∧ b.score = score := by
  induction branches generalizing best position with
  | nil => exact .inl won
  | cons b rest ih =>
    obtain same | ⟨k, c, rfl, found, scored⟩ := ih won
    · split at same
      · obtain ⟨rfl, rfl⟩ := Prod.mk.inj (Option.some.inj same)
        exact .inr ⟨0, b, rfl, rfl, rfl⟩
      · exact .inl same
    · exact .inr ⟨k + 1, c, by omega, found, scored⟩

def evaluated (branches : List Branch) : List Branch :=
  branches.filter fun b => b.status = .evaluated

theorem mem_evaluated {branches : List Branch} {b : Branch} :
    b ∈ evaluated branches ↔ b ∈ branches ∧ b.status = .evaluated := by
  simp [evaluated]

theorem evaluated_append (front back : List Branch) :
    evaluated (front ++ back) = evaluated front ++ evaluated back :=
  List.filter_append ..

theorem evaluated_cons_self {b : Branch} (scored : b.status = .evaluated) (rest : List Branch) :
    evaluated (b :: rest) = b :: evaluated rest :=
  List.filter_cons_of_pos (decide_eq_true scored)

theorem evaluated_cons_of_ne {b : Branch} (unscored : b.status ≠ .evaluated) (rest : List Branch) :
    evaluated (b :: rest) = evaluated rest :=
  List.filter_cons_of_neg (by simpa using unscored)

theorem evaluated_eq_self {branches : List Branch} (scored : ∀ b ∈ branches, b.status = .evaluated) :
    evaluated branches = branches :=
  List.filter_eq_self.mpr fun b member => decide_eq_true (scored b member)

/-- A branch that is not evaluated has no part in a selection. -/
theorem bestFrom_of_unevaluated {branches : List Branch} (best : Option (Nat × Float)) (position : Nat)
    (unevaluated : ∀ b ∈ branches, b.status ≠ .evaluated) : bestFrom best position branches = best := by
  induction branches generalizing position with
  | nil => rfl
  | cons b rest ih =>
    have beaten : beats b best = false := by
      simp [beats, unevaluated b List.mem_cons_self]
    rw [bestFrom, beaten, if_neg Bool.false_ne_true]
    exact ih _ fun c member => unevaluated c (List.mem_cons_of_mem b member)

/-- The first of the best evaluated branches wins. A score that is no number would break the order, and is
excluded. -/
theorem bestFrom_of_evaluated {branches : List Branch} (position : Nat)
    (nonempty : evaluated branches ≠ []) (numbers : ∀ b ∈ evaluated branches, b.score ≤ b.score) :
    ∃ front winner back, branches = front ++ winner :: back ∧ winner.status = .evaluated ∧
      Leads (evaluated front) winner (evaluated back) ∧
      bestFrom none position branches = some (position + front.length, winner.score) := by
  induction branches using List.reverseRecOn with
  | nil => contradiction
  | append_singleton init last ih =>
    rw [evaluated_append] at nonempty numbers
    have earlier : ∀ b ∈ evaluated init, b.score ≤ b.score :=
      fun b member => numbers b (List.mem_append_left _ member)
    by_cases scored : last.status = .evaluated
    · have last_number : last.score ≤ last.score := by
        apply numbers last
        simp [evaluated, scored]
      obtain none_before | some_before := eq_or_ne (evaluated init) []
      · have unevaluated : ∀ b ∈ init, b.status ≠ .evaluated := fun b member same =>
          List.not_mem_nil (none_before ▸ mem_evaluated.mpr ⟨member, same⟩)
        refine ⟨init, last, [], rfl, scored, ?_, ?_⟩
        · rw [none_before]
          exact .alone last
        · rw [bestFrom_append, bestFrom_of_unevaluated none position unevaluated]
          simp [bestFrom, beats, scored]
      · obtain ⟨front, winner, back, rfl, won, leads, best⟩ := ih some_before earlier
        have number : winner.score ≤ winner.score :=
          earlier winner (mem_evaluated.mpr ⟨List.mem_append_cons_self, won⟩)
        have candidates : evaluated (front ++ winner :: back) =
            evaluated front ++ winner :: evaluated back := by
          rw [evaluated_append, evaluated_cons_self won]
        rw [bestFrom_append, best]
        by_cases better : winner.score < last.score
        · refine ⟨front ++ winner :: back, last, [], rfl, scored, ?_, ?_⟩
          · rw [candidates]
            exact leads.overtake better
          · simp [bestFrom, beats, scored, better]
        · have stays : last.score ≤ winner.score := Binary64.le_of_not_lt number last_number better
          refine ⟨front, winner, back ++ [last], by simp, won, ?_, ?_⟩
          · rw [evaluated_append, evaluated_cons_self scored]
            exact leads.stay stays
          · simp [bestFrom, beats, better]
    · have passed : evaluated [last] = [] := evaluated_cons_of_ne scored []
      rw [passed, List.append_nil] at nonempty
      obtain ⟨front, winner, back, rfl, won, leads, best⟩ := ih nonempty earlier
      refine ⟨front, winner, back ++ [last], by simp, won, ?_, ?_⟩
      · rw [evaluated_append, passed, List.append_nil]
        exact leads
      · rw [bestFrom_append, best]
        simp [bestFrom, beats, scored]

theorem mark_append_cons (front : List Branch) (winner : Branch) (back : List Branch) :
    mark front.length (front ++ winner :: back) =
      front.map Branch.lose ++ winner.win :: back.map Branch.lose := by
  apply List.ext_getElem?
  intro i
  rw [getElem?_mark]
  obtain before | rfl | behind := lt_trichotomy i front.length
  · simp [List.getElem?_append_left, before, Nat.ne_of_lt before]
  · simp [Branch.win]
  · obtain ⟨k, rfl⟩ := Nat.exists_eq_add_of_lt behind
    simp [List.getElem?_append_right, Nat.add_assoc]

/-- The best branch is selected, and the others lose. -/
theorem select_of_best {t : Tree} {scorer : Scorer} {front : List Branch} {winner : Branch}
    {back : List Branch} (scored : (t.evaluateAll scorer).branches = front ++ winner :: back)
    (best : best? (front ++ winner :: back) = some front.length) :
    t.select scorer =
      ({ t with
          branches := front.map Branch.lose ++ winner.win :: back.map Branch.lose
          selectedId := some winner.id }, some winner.win) := by
  have found : (mark front.length (front ++ winner :: back))[front.length]? = some winner.win := by
    rw [getElem?_mark]
    simp [Branch.win]
  rw [select]
  simp only [scored, best]
  rw [found, mark_append_cons]
  rfl

/-- A selection leaves a branch as it was scored, or it lets it lose or win. -/
theorem exists_of_mem_select {t : Tree} {scorer : Scorer} {b : Branch}
    (member : b ∈ (t.select scorer).1.branches) :
    ∃ c ∈ (t.evaluateAll scorer).branches, b = c ∨ b = c.lose ∨ b = c.win := by
  unfold select at member
  dsimp only at member
  split at member
  · exact ⟨b, member, .inl rfl⟩
  · obtain ⟨i, found⟩ := List.mem_iff_getElem?.mp member
    rw [getElem?_mark] at found
    obtain ⟨c, origin, rfl⟩ := Option.map_eq_some_iff.mp found
    refine ⟨c, List.mem_of_getElem? origin, ?_⟩
    split
    · exact .inr (.inr rfl)
    · exact .inr (.inl rfl)

theorem mem_of_select {t : Tree} {scorer : Scorer} {b : Branch} (selected : (t.select scorer).2 = some b) :
    b ∈ (t.select scorer).1.branches := by
  unfold select at selected ⊢
  dsimp only at selected ⊢
  split at selected
  · contradiction
  · exact List.mem_of_getElem? selected

/-- A selection finds no candidate, or else it selects the first of the best of them. -/
theorem select_cases (t : Tree) {scorer : Scorer}
    (numbers : ∀ b ∈ evaluated (t.evaluateAll scorer).branches, b.score ≤ b.score) :
    (evaluated (t.evaluateAll scorer).branches = [] ∧ t.select scorer = (t.evaluateAll scorer, none)) ∨
      ∃ front winner back, (t.evaluateAll scorer).branches = front ++ winner :: back ∧
        winner.status = .evaluated ∧ Leads (evaluated front) winner (evaluated back) ∧
        t.select scorer =
          ({ t with
              branches := front.map Branch.lose ++ winner.win :: back.map Branch.lose
              selectedId := some winner.id }, some winner.win) := by
  obtain unevaluated | nonempty := eq_or_ne (evaluated (t.evaluateAll scorer).branches) []
  · refine .inl ⟨unevaluated, ?_⟩
    have unscored : ∀ b ∈ (t.evaluateAll scorer).branches, b.status ≠ .evaluated :=
      fun b member same => List.not_mem_nil (unevaluated ▸ mem_evaluated.mpr ⟨member, same⟩)
    rw [select, best?, bestFrom_of_unevaluated none 0 unscored]
    rfl
  · obtain ⟨front, winner, back, whole, won, leads, best⟩ := bestFrom_of_evaluated 0 nonempty numbers
    refine .inr ⟨front, winner, back, whole, won, leads, select_of_best whole ?_⟩
    rw [← whole, best?, best, Nat.zero_add]
    rfl

/-- Where all branches have scores and only some at the end are new, the first of the best of these is
selected. -/
theorem select_of_scored {t : Tree} {old fresh : List Branch} (branches : t.branches = old ++ fresh)
    (settled : ∀ b ∈ old, b.IsSettled) (nonempty : fresh ≠ [])
    (fresh_scored : ∀ b ∈ fresh, b.status = .evaluated ∧ b.score ≤ b.score) (scorer : Scorer) :
    ∃ front winner back, fresh = front ++ winner :: back ∧ Leads front winner back ∧
      (t.select scorer).1 =
        { t with
          branches := old.map Branch.lose ++
            (front.map Branch.lose ++ winner.win :: back.map Branch.lose)
          selectedId := some winner.id } := by
  have scored : t.evaluateAll scorer = t := by
    refine evaluateAll_eq_self fun b member => Branch.IsScored.assess_eq ?_ scorer
    rw [branches] at member
    obtain earlier | new := List.mem_append.mp member
    · exact .inr (settled b earlier)
    · exact .inl (fresh_scored b new).1
  have old_unevaluated : ∀ b ∈ old, b.status ≠ .evaluated := by
    intro b member same
    obtain status | status := settled b member <;> exact nomatch same.symm.trans status
  have all (branches : List Branch) (inside : branches ⊆ fresh) : evaluated branches = branches :=
    evaluated_eq_self fun b member => (fresh_scored b (inside member)).1
  have candidates : evaluated fresh = fresh := all fresh fun _ member => member
  obtain ⟨front, winner, back, rfl, -, leads, best⟩ := bestFrom_of_evaluated old.length
    (candidates.symm ▸ nonempty) fun b member => (fresh_scored b (candidates ▸ member)).2
  rw [all front (by simp), all back (by simp)] at leads
  have winning : best? (old ++ front ++ winner :: back) = some (old ++ front).length := by
    rw [best?, List.append_assoc, bestFrom_append, bestFrom_of_unevaluated none 0 old_unevaluated,
      Nat.zero_add, best, List.length_append]
    rfl
  refine ⟨front, winner, back, rfl, leads, ?_⟩
  have whole : (t.evaluateAll scorer).branches = old ++ front ++ winner :: back := by
    rw [scored, branches, List.append_assoc]
  rw [select_of_best whole winning, List.map_append, List.append_assoc]

end Tree

end Deliberation
