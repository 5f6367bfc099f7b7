import Mathlib.Data.List.Nodup
import Deliberation.Proofs.Catalogs
import Deliberation.Proofs.Scores
/-! The lists that make catalogs. A list of policies makes a catalog where it holds one valid policy for
every strategy, and then its catalog is the only one that takes all policies from the list. So the order
of a list does not matter, and a catalog can be made again from its own policies. -/

namespace Deliberation

/-- What a policy has to be: some iterations, a temperature of the unit interval, and a time that is
positive and finite. -/
structure Policy.Valid (p : Policy) : Prop where
  iterations : 0 < p.maxIterations
  temperature : Binary64.InUnit p.temperature
  finite : p.timeoutSeconds.isFinite = true
  positive : 0 < p.timeoutSeconds

namespace Policy

theorem fault?_eq_none {p : Policy} : p.fault? = none ↔ p.Valid := by
  have some_iterations : 0 < p.maxIterations ↔ p.maxIterations ≠ 0 := UInt32.pos_iff_ne_zero
  unfold fault?
  constructor
  · intro sound
    split at sound
    · contradiction
    · rename_i iterations
      split at sound
      · contradiction
      · rename_i temperature
        split at sound
        · contradiction
        · rename_i timeout
          obtain ⟨nonneg, le_one⟩ := not_not.mp temperature
          obtain ⟨finite, positive⟩ := not_not.mp timeout
          exact ⟨some_iterations.mpr iterations, ⟨nonneg, le_one⟩, finite, positive⟩
  · rintro ⟨iterations, ⟨nonneg, le_one⟩, finite, positive⟩
    rw [if_neg (some_iterations.mp iterations), if_neg (not_not_intro ⟨nonneg, le_one⟩),
      if_neg (not_not_intro ⟨finite, positive⟩)]

theorem validated_eq_ok_iff {p q : Policy} : p.validated = .ok q ↔ q = p ∧ p.Valid := by
  rw [validated_eq_ok, fault?_eq_none]

end Policy

namespace Catalog

/-- Filing succeeds where all policies are valid and each is the first of its strategy. What was filed
before stays, and every other strategy has its policy from the list. -/
theorem file_eq_ok_iff {policies : List Policy} {before after : Strategy → Option Policy} :
    file before policies = .ok after ↔
      (∀ p ∈ policies, p.Valid ∧ before p.strategy = none) ∧ (policies.map Policy.strategy).Nodup ∧
        after = fun s => (before s).or (policies.find? fun p => p.strategy = s) := by
  induction policies generalizing before with
  | nil => simp [file, eq_comm]
  | cons p rest ih =>
    rw [List.forall_mem_cons, List.map_cons, List.nodup_cons]
    cases checked : p.validated with
    | error e =>
      have invalid : ¬p.Valid := by
        intro valid
        have sound := checked.symm.trans (Policy.validated_eq_ok_iff.mpr ⟨rfl, valid⟩)
        contradiction
      simp [file, checked, invalid]
    | ok q =>
      obtain ⟨rfl, valid⟩ := Policy.validated_eq_ok_iff.mp checked
      cases filed : before q.strategy with
      | some r => simp [file, checked, filed]
      | none =>
        have table : (fun s => (if s = q.strategy then some q else before s).or
            (rest.find? fun p => p.strategy = s)) =
              fun s => (before s).or ((q :: rest).find? fun p => p.strategy = s) := by
          funext s
          by_cases same : s = q.strategy
          · simp [same, filed]
          · simp [same, Ne.symm same]
        have open_slot (p : Policy) :
            (if p.strategy = q.strategy then some q else before p.strategy) = none ↔
              p.strategy ≠ q.strategy ∧ before p.strategy = none := by
          split <;> simp [*]
        simp only [file, checked, filed, Option.isSome_none, Bool.false_eq_true, if_false, ih, table,
          open_slot, List.mem_map, not_exists, not_and, valid, true_and]
        constructor
        · rintro ⟨slots, distinct, rfl⟩
          exact ⟨fun p member => ⟨(slots p member).1, (slots p member).2.2⟩,
            ⟨fun p member => (slots p member).2.1, distinct⟩, rfl⟩
        · rintro ⟨slots, ⟨others, distinct⟩, rfl⟩
          exact ⟨fun p member => ⟨(slots p member).1, others p member, (slots p member).2⟩,
            distinct, rfl⟩

/-- A list that holds one valid policy for every strategy. -/
structure Complete (policies : List Policy) : Prop where
  valid : ∀ p ∈ policies, p.Valid
  once : ∀ s, (policies.map Policy.strategy).count s = 1

/-- A catalog that takes the policy of every strategy from a list. -/
def TakenFrom (policies : List Policy) (c : Catalog) : Prop :=
  ∀ s, c.get s ∈ policies ∧ (c.get s).strategy = s

theorem Complete.distinct {policies : List Policy} (h : Complete policies) :
    (policies.map Policy.strategy).Nodup :=
  List.nodup_iff_count_le_one.mpr fun s => (h.once s).le

theorem Complete.unique {policies : List Policy} (h : Complete policies) {p q : Policy}
    (left : p ∈ policies) (right : q ∈ policies) (same : p.strategy = q.strategy) : p = q := by
  exact List.inj_on_of_nodup_map h.distinct left right same

theorem Complete.perm {policies shuffled : List Policy} (h : Complete policies)
    (order : shuffled.Perm policies) : Complete shuffled where
  valid p member := h.valid p (order.mem_iff.mp member)
  once s := ((order.map Policy.strategy).count_eq s).trans (h.once s)

/-- In a list that is complete, the policy that a catalog takes is the one that is found. -/
theorem TakenFrom.find?_eq {policies : List Policy} {c : Catalog} (taken : c.TakenFrom policies)
    (complete : Complete policies) (s : Strategy) :
    (policies.find? fun p => p.strategy = s) = some (c.get s) := by
  obtain ⟨member, named⟩ := taken s
  cases found : policies.find? fun p => p.strategy = s with
  | none => simpa [named] using List.find?_eq_none.mp found (c.get s) member
  | some p =>
    have strategy : p.strategy = s := by simpa using List.find?_some found
    rw [complete.unique (List.mem_of_find?_eq_some found) member (strategy.trans named.symm)]

theorem ofPolicies_eq_ok_iff {policies : List Policy} {c : Catalog} :
    ofPolicies policies = .ok c ↔ Complete policies ∧ c.TakenFrom policies := by
  constructor
  · intro made
    unfold ofPolicies at made
    split at made
    · contradiction
    · rename_i table filing
      obtain ⟨slots, distinct, filed⟩ := file_eq_ok_iff.mp filing
      split at made
      · contradiction
      · rename_i full
        have found (s : Strategy) : ∃ p, table s = some p ∧ p ∈ policies ∧ p.strategy = s := by
          have present := List.find?_eq_none.mp full s s.mem_all
          obtain ⟨p, entry⟩ := Option.ne_none_iff_exists'.mp (by simpa using present)
          have same : (policies.find? fun p => p.strategy = s) = some p := by
            simpa only [filed, Option.none_or] using entry
          exact ⟨p, entry, List.mem_of_find?_eq_some same, by simpa using List.find?_some same⟩
        refine ⟨⟨fun p member => (slots p member).1, fun s => ?_⟩, fun s => ?_⟩
        · obtain ⟨p, -, member, rfl⟩ := found s
          exact List.count_eq_one_of_mem distinct (List.mem_map_of_mem member)
        · obtain ⟨p, entry, listed⟩ := found s
          rw [← Except.ok.inj made]
          simpa only [entry, Option.getD_some] using listed
  · rintro ⟨complete, taken⟩
    have filing : file (fun _ => none) policies = .ok fun s => some (c.get s) := by
      refine file_eq_ok_iff.mpr ⟨fun p member => ⟨complete.valid p member, rfl⟩, complete.distinct, ?_⟩
      funext s
      rw [Option.none_or, taken.find?_eq complete]
    have full : (Strategy.all.find? fun s => (some (c.get s)).isNone) = none := by simp
    simp only [ofPolicies, filing, full, Option.getD_some]

/-- A catalog of sound policies can be made from their list. -/
theorem WellFormed.ofPolicies_policies {c : Catalog} (h : c.WellFormed) :
    ofPolicies c.policies = .ok c := by
  have strategies : c.policies.map Policy.strategy = Strategy.all := by
    rw [policies, List.map_map]
    exact (List.map_congr_left fun s _ => h.named s).trans (List.map_id _)
  refine ofPolicies_eq_ok_iff.mpr ⟨⟨?_, ?_⟩, ?_⟩
  · intro p member
    obtain ⟨s, -, rfl⟩ := List.mem_map.mp member
    exact Policy.fault?_eq_none.mp (h.sound s)
  · intro s
    rw [strategies]
    cases s <;> rfl
  · intro s
    exact ⟨List.mem_map_of_mem s.mem_all, h.named s⟩

/-- A list makes a catalog exactly where it holds one valid policy for every strategy. The catalog has
each policy from the list, in whatever order that is. The policies of every catalog that there is are
valid and stand under their own strategies, and their list makes the same catalog again. -/
theorem ofPolicies_complete :
    (∀ p : Policy, p.temperature.isNaN ∨ p.timeoutSeconds.isNaN → ¬p.Valid) ∧
    (∀ policies, (∃ c, ofPolicies policies = .ok c) ↔
      (∀ p ∈ policies, p.Valid) ∧ ∀ s, (policies.map Policy.strategy).count s = 1) ∧
    (∀ policies c, ofPolicies policies = .ok c →
      (∀ s, c.get s ∈ policies ∧ (c.get s).strategy = s ∧
        ∀ p ∈ policies, p.strategy = s → p = c.get s) ∧
      ∀ shuffled, shuffled.Perm policies → ofPolicies shuffled = .ok c) ∧
    ∀ c : Catalog, c.Made →
      (∀ s, (c.get s).strategy = s ∧ (c.get s).Valid) ∧ ofPolicies c.policies = .ok c := by
  refine ⟨?_, ?_, ?_, ?_⟩
  · rintro p (temperature | timeout) valid
    · have finite := Binary64.isNaN_of_isFinite valid.temperature.isFinite
      exact Bool.false_ne_true (finite.symm.trans temperature)
    · exact Bool.false_ne_true ((Binary64.isNaN_of_isFinite valid.finite).symm.trans timeout)
  · intro policies
    constructor
    · rintro ⟨c, made⟩
      obtain ⟨complete, -⟩ := ofPolicies_eq_ok_iff.mp made
      exact ⟨complete.valid, complete.once⟩
    · rintro ⟨valid, once⟩
      have listed (s : Strategy) : ∃ p, p ∈ policies ∧ p.strategy = s :=
        List.mem_map.mp (List.one_le_count_iff.mp (once s).ge)
      choose get taken using listed
      exact ⟨⟨get⟩, ofPolicies_eq_ok_iff.mpr ⟨⟨valid, once⟩, taken⟩⟩
  · intro policies c made
    obtain ⟨complete, taken⟩ := ofPolicies_eq_ok_iff.mp made
    refine ⟨fun s => ⟨(taken s).1, (taken s).2, fun p member strategy => ?_⟩, fun shuffled order => ?_⟩
    · exact complete.unique member (taken s).1 (strategy.trans (taken s).2.symm)
    · exact ofPolicies_eq_ok_iff.mpr
        ⟨complete.perm order, fun s => ⟨order.mem_iff.mpr (taken s).1, (taken s).2⟩⟩
  · intro c made
    have formed := made.wellFormed
    exact ⟨fun s => ⟨formed.named s, Policy.fault?_eq_none.mp (formed.sound s)⟩,
      formed.ofPolicies_policies⟩

/-- The reversed list of an overridden catalog makes that catalog, and a list with a policy twice makes
none. -/
theorem ofPolicies_complete_of_overridden :
    let tuned := builtin.set .deep { builtin.get .deep with maxIterations := 5 }
    tuned.Made ∧ ofPolicies tuned.policies.reverse = .ok tuned ∧
      ¬∃ c, ofPolicies (tuned.get .fast :: tuned.policies) = .ok c := by
  intro tuned
  have made : tuned.Made := .withOverrides .builtin
    (show builtin.withOverrides [{ strategy := some .deep, maxIterations := some 5 }] = .ok tuned from rfl)
  obtain ⟨-, succeeds, listed, remade⟩ := ofPolicies_complete
  refine ⟨made, (listed _ _ (remade tuned made).2).2 _ (List.reverse_perm _), fun succeeded => ?_⟩
  have once := ((succeeds _).mp succeeded).2 .fast
  exact absurd once (by decide)

end Catalog

end Deliberation
