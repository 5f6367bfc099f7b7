import Deliberation.Strategy.Catalog
/-! Every way of making a catalog files sound policies under their own strategies. Lists are filed one
policy after another, and overrides leave the strategy of a policy alone. -/

namespace Deliberation

theorem Policy.validated_eq_ok {p q : Policy} :
    p.validated = .ok q ↔ q = p ∧ p.fault? = none := by
  unfold Policy.validated
  cases p.fault? <;> simp [eq_comm]

namespace Catalog

/-- Every strategy has a policy of its own, and none of the policies has a fault. -/
structure WellFormed (c : Catalog) : Prop where
  named (s : Strategy) : (c.get s).strategy = s
  sound (s : Strategy) : (c.get s).fault? = none

/-- The times of all policies have spans in nanoseconds, so that no run stops short. -/
def HasSpans (c : Catalog) : Prop :=
  ∀ s, (c.get s).budget?.isSome

/-- The catalogs that there are: the built-in one, those of lists, and those that overrides make. -/
inductive Made : Catalog → Prop where
  | builtin : Made builtin
  | ofPolicies {policies : List Policy} {c : Catalog} (h : ofPolicies policies = .ok c) : Made c
  | withOverrides {c d : Catalog} {overrides : List Override} (made : Made c)
      (h : c.withOverrides overrides = .ok d) : Made d

theorem builtin_wellFormed : builtin.WellFormed where
  named s := by cases s <;> rfl
  sound s := by cases s <;> decide

theorem builtin_hasSpans : builtin.HasSpans := by
  intro s
  cases s <;> decide

/-- A table in which sound policies stand under their own strategies. -/
def Filed (table : Strategy → Option Policy) : Prop :=
  ∀ s p, table s = some p → p.strategy = s ∧ p.fault? = none

theorem file_filed {policies : List Policy} {before after : Strategy → Option Policy}
    (h : file before policies = .ok after) (filed : Filed before) : Filed after := by
  induction policies generalizing before with
  | nil =>
    simp only [file, Except.ok.injEq] at h
    exact h ▸ filed
  | cons p rest ih =>
    simp only [file] at h
    split at h
    · contradiction
    · rename_i q valid
      obtain ⟨rfl, sound⟩ := Policy.validated_eq_ok.mp valid
      split at h
      · contradiction
      · apply ih h
        intro s r entry
        dsimp only at entry
        split at entry
        · rename_i same
          obtain rfl := Option.some.inj entry
          exact ⟨same.symm, sound⟩
        · exact filed s r entry

theorem ofPolicies_wellFormed {policies : List Policy} {c : Catalog}
    (h : ofPolicies policies = .ok c) : c.WellFormed := by
  unfold ofPolicies at h
  split at h
  · contradiction
  · rename_i table filing
    have filed := file_filed filing (fun _ _ entry => nomatch entry)
    split at h
    · contradiction
    · rename_i complete
      obtain rfl := Except.ok.inj h
      have entry (s : Strategy) : ∃ p, table s = some p := by
        have present := List.find?_eq_none.mp complete s s.mem_all
        exact Option.ne_none_iff_exists'.mp (by simpa using present)
      constructor <;> intro s <;> obtain ⟨p, found⟩ := entry s <;> simp only [found, Option.getD_some]
      · exact (filed s p found).1
      · exact (filed s p found).2

theorem withOverride_wellFormed {c d : Catalog} {o : Override} (wellFormed : c.WellFormed)
    (h : c.withOverride o = .ok d) : d.WellFormed := by
  unfold withOverride at h
  split at h
  · exact Except.ok.inj h ▸ wellFormed
  · split at h
    · contradiction
    · rename_i s _
      split at h
      · contradiction
      · rename_i p valid
        obtain ⟨rfl, sound⟩ := Policy.validated_eq_ok.mp valid
        obtain rfl := Except.ok.inj h
        constructor <;> intro t <;> simp only [set] <;> split
        · rename_i same
          exact (wellFormed.named s).trans same.symm
        · exact wellFormed.named t
        · exact sound
        · exact wellFormed.sound t

theorem withOverrides_wellFormed {c d : Catalog} {overrides : List Override}
    (wellFormed : c.WellFormed) (h : c.withOverrides overrides = .ok d) : d.WellFormed := by
  unfold withOverrides at h
  induction overrides generalizing c with
  | nil =>
    simp only [List.foldlM_nil] at h
    exact Except.ok.inj h ▸ wellFormed
  | cons o rest ih =>
    rw [List.foldlM_cons] at h
    cases first : c.withOverride o with
    | error e => rw [first] at h; contradiction
    | ok middle =>
      rw [first] at h
      exact ih (withOverride_wellFormed wellFormed first) h

theorem Made.wellFormed {c : Catalog} (made : Made c) : c.WellFormed := by
  induction made with
  | builtin => exact builtin_wellFormed
  | ofPolicies h => exact ofPolicies_wellFormed h
  | withOverrides _ h ih => exact withOverrides_wellFormed ih h

end Catalog

end Deliberation
