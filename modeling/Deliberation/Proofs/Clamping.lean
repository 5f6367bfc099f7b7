import Deliberation.Proofs.Verdicts
/-! The scores of a tree under any scores that are given to it. Numbers and infinities are moved into the
unit interval, and NaN is the one score that is not. No candidate of a selection is better than the branch
that is selected, but only among numbers does this make it the best. -/

namespace Deliberation

open Binary64 (InUnit)

namespace Branch

/-- A score that was moved into the unit interval, or is no number. -/
def IsClamped (b : Branch) : Prop :=
  InUnit b.score ∨ b.score.isNaN = true

theorem isClamped_lasts : Lasts (fun _ => True) IsClamped where
  fresh _ _ _ _ := .inl Binary64.zero_inUnit
  addAction h _ _ := h
  evaluate _ score _ := Binary64.clampUnit_inUnit_or score
  markFailed _ := .inl Binary64.zero_inUnit
  pin _ := .inl Binary64.zero_inUnit
  lose {b} h := by rwa [IsClamped, score_lose]
  win h := h

end Branch

namespace Tree

/-- The best so far is left for something better only. -/
theorem bestFrom_rises {position i j : Nat} {branches : List Branch} {before score : Float}
    (won : bestFrom (some (i, before)) position branches = some (j, score)) :
    score = before ∨ before < score := by
  induction branches generalizing position i before with
  | nil => exact .inl (congrArg Prod.snd (Option.some.inj won)).symm
  | cons b rest ih =>
    rw [bestFrom] at won
    split at won
    · rename_i beaten
      have above : before < b.score := by simpa [beats] using (Bool.and_eq_true_iff.mp beaten).2
      obtain rfl | rises := ih won
      · exact .inr above
      · exact .inr (Binary64.lt_of_le_of_lt (Binary64.le_of_lt above) rises)
    · exact ih won

theorem not_lt_of_rises {before score : Float} (rises : score = before ∨ before < score) :
    ¬score < before := by
  intro falls
  obtain rfl | above := rises
  · exact Binary64.not_lt_of_le (Binary64.le_of_lt falls) falls
  · exact Binary64.not_lt_of_le (Binary64.le_of_lt above) falls

/-- No evaluated branch is better than the best one, also where scores are no numbers. -/
theorem not_lt_of_bestFrom {best : Option (Nat × Float)} {position j : Nat} {branches : List Branch}
    {score : Float} (won : bestFrom best position branches = some (j, score)) :
    ∀ b ∈ evaluated branches, ¬score < b.score := by
  induction branches generalizing best position with
  | nil => simp [evaluated]
  | cons b rest ih =>
    rw [bestFrom] at won
    intro c member
    obtain ⟨inside, candidate⟩ := mem_evaluated.mp member
    obtain rfl | later := List.mem_cons.mp inside
    · split at won
      · exact not_lt_of_rises (bestFrom_rises won)
      · rename_i unbeaten
        cases best with
        | none => simp [beats, candidate] at unbeaten
        | some before =>
          have passed : ¬before.2 < c.score := by simpa [beats, candidate] using unbeaten
          intro above
          apply passed
          obtain rfl | rises := bestFrom_rises won
          · exact above
          · exact Binary64.lt_of_le_of_lt (Binary64.le_of_lt rises) above
    · exact ih won c (mem_evaluated.mpr ⟨later, candidate⟩)

/-- No candidate is better than the branch that is selected. -/
theorem not_lt_of_select {t : Tree} {scorer : Scorer} {w : Branch} (selected : (t.select scorer).2 = some w) :
    ∀ b ∈ evaluated (t.evaluateAll scorer).branches, ¬w.score < b.score := by
  unfold select at selected
  dsimp only at selected
  split at selected
  · contradiction
  · rename_i winner best
    obtain ⟨⟨_, score⟩, won, rfl⟩ := Option.map_eq_some_iff.mp best
    obtain impossible | ⟨k, c, rfl, found, rfl⟩ := exists_of_bestFrom won
    · contradiction
    · rw [getElem?_mark, Nat.zero_add, found, Option.map_some, if_pos rfl] at selected
      obtain rfl := Option.some.inj selected
      exact not_lt_of_bestFrom won

/-- The scores of a tree that was made by any operations, and of what is selected from it. Every score lies
in the unit interval or is NaN, and none of the candidates is better than the branch that is selected. As
long as no NaN was given for a score, every score lies in the unit interval, and the selected branch is at
least as good as every candidate. -/
theorem score_performAll_start (task : String) (maxBranches : UInt64) (maxDepth : UInt32) (now : Instant)
    (operations : List Operation) (scorer : Scorer) :
    let fresh := start task maxBranches maxDepth now
    ∃ t, fresh.performAll operations = .ok t ∧
    let candidates := (t.evaluateAll scorer).branches.filter fun b => b.status = .evaluated
    (∀ b ∈ t.branches, InUnit b.score ∨ b.score.isNaN = true) ∧
    (∀ w, (t.select scorer).2 = some w → ∀ b ∈ candidates, ¬w.score < b.score) ∧
    ((∀ x ∈ fresh.scoresGiven operations, x.isNaN = false) → ∀ b ∈ t.branches, InUnit b.score) ∧
    ((∀ x ∈ fresh.scoresGiven (operations ++ [.select scorer]), x.isNaN = false) →
      ∀ w, (t.select scorer).2 = some w → InUnit w.score ∧ ∀ b ∈ candidates, b.score ≤ w.score) := by
  intro fresh
  obtain ⟨t, done, -⟩ := performAll_start task maxBranches maxDepth now operations
  refine ⟨t, done, ?_⟩
  intro candidates
  have clamped : ∀ b ∈ t.branches, b.IsClamped :=
    lasts_performAll Branch.isClamped_lasts (List.forall_mem_nil _) (fun _ _ => trivial) done
  have rated (numbers : ∀ x ∈ fresh.scoresGiven operations, x.isNaN = false) : t.Rated :=
    (Rated.start task maxBranches maxDepth now).performAll numbers done
  refine ⟨clamped, fun w selected => not_lt_of_select selected,
    fun numbers b member => (rated numbers b member).unit, fun numbers w selected => ?_⟩
  rw [scoresGiven_append done, List.forall_mem_append, scoresGiven_cons rfl, List.forall_mem_append]
    at numbers
  obtain ⟨before, selecting, -⟩ := numbers
  have evaluating : t.perform (.evaluateAll scorer) = .ok (t.evaluateAll scorer) := rfl
  have scored : (t.evaluateAll scorer).Rated := by
    refine (rated before).perform ?_ evaluating
    exact selecting
  have settled : (t.select scorer).1.Rated := (rated before).perform selecting rfl
  have unit : InUnit w.score := (settled w (mem_of_select selected)).unit
  refine ⟨unit, fun b candidate => ?_⟩
  have number : b.score ≤ b.score := scored.candidates b candidate
  exact Binary64.le_of_not_lt unit.self_le number (not_lt_of_select selected b candidate)

/-- No characters divided by zero are no number. The branch without a thought keeps it for its score, and
being the first one it is selected before a branch whose score is one. -/
theorem exists_score_isNaN :
    let scorer : Scorer := fun b => Float.ofNat b.thought.length / 0
    ∃ t, (start "task" 5 3 Instant.epoch).performAll
        [.create "" none Instant.epoch, .create "walk" none Instant.epoch, .select scorer] = .ok t ∧
      t.branches.map (fun b => (b.thought, b.status, b.score.isNaN)) =
        [("", .selected, true), ("walk", .rejected, false)] ∧
      ∃ b ∈ t.branches, ¬(0 ≤ b.score ∧ b.score ≤ 1) := by
  intro scorer
  refine ⟨_, rfl, ?_⟩
  constructor <;> decide +kernel

end Tree

end Deliberation
