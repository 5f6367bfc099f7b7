import Deliberation.Proofs.Listings
/-! Overrides of a catalog. A list of overrides is accepted where each of them that sets anything names a
strategy and stays in the ranges of the parameters, and then every parameter has the last value that the
list sets for it. Whole policies are checked after each override, and that comes to the same, because the
policies are valid before. So lists can be applied in parts, and order matters within a strategy only. -/

namespace Deliberation

/-- The parameters that an override can set, in the order in which they are checked. -/
inductive Parameter where
  | maxIterations
  | temperature
  | timeoutSeconds
deriving DecidableEq

namespace Parameter

def all : List Parameter :=
  [.maxIterations, .temperature, .timeoutSeconds]

theorem mem_all (p : Parameter) : p ∈ all := by
  cases p <;> simp [all]

/-- The numbers that a parameter is taken from. -/
abbrev Value : Parameter → Type
  | .maxIterations => UInt32
  | .temperature | .timeoutSeconds => Float

def InRange : (p : Parameter) → p.Value → Prop
  | .maxIterations, n => (0 : UInt32) < n
  | .temperature, x => Binary64.InUnit x
  | .timeoutSeconds, x => Float.isFinite x = true ∧ (0 : Float) < x

instance (p : Parameter) (v : p.Value) : Decidable (p.InRange v) :=
  match p, v with
  | .maxIterations, n => inferInstanceAs (Decidable ((0 : UInt32) < n))
  | .temperature, x =>
    decidable_of_iff ((0 : Float) ≤ x ∧ x ≤ (1 : Float))
      ⟨fun h => ⟨h.1, h.2⟩, fun h => ⟨h.nonneg, h.le_one⟩⟩
  | .timeoutSeconds, x => inferInstanceAs (Decidable (Float.isFinite x = true ∧ (0 : Float) < x))

/-- The fault of a policy that has the parameter out of its range. -/
def fault : Parameter → PolicyFault
  | .maxIterations => .noIterations
  | .temperature => .temperature
  | .timeoutSeconds => .timeout

end Parameter

namespace Policy

def value (q : Policy) : (p : Parameter) → p.Value
  | .maxIterations => q.maxIterations
  | .temperature => q.temperature
  | .timeoutSeconds => q.timeoutSeconds

theorem ext_value {q r : Policy} (strategy : q.strategy = r.strategy)
    (description : q.description = r.description) (values : ∀ p, q.value p = r.value p) : q = r := by
  have iterations : q.maxIterations = r.maxIterations := values .maxIterations
  have temperature : q.temperature = r.temperature := values .temperature
  have timeout : q.timeoutSeconds = r.timeoutSeconds := values .timeoutSeconds
  cases q
  cases r
  simp_all only

theorem valid_iff_inRange {q : Policy} : q.Valid ↔ ∀ p : Parameter, p.InRange (q.value p) := by
  constructor
  · intro valid p
    cases p with
    | maxIterations => exact valid.iterations
    | temperature => exact valid.temperature
    | timeoutSeconds => exact ⟨valid.finite, valid.positive⟩
  · intro inRange
    obtain ⟨finite, positive⟩ := inRange .timeoutSeconds
    exact ⟨inRange .maxIterations, inRange .temperature, finite, positive⟩

theorem fault?_eq_find? (q : Policy) :
    q.fault? = (Parameter.all.find? fun p => !decide (p.InRange (q.value p))).map Parameter.fault := by
  have iterations : Parameter.InRange .maxIterations (q.value .maxIterations) ↔ q.maxIterations ≠ 0 :=
    UInt32.pos_iff_ne_zero
  have temperature : Parameter.InRange .temperature (q.value .temperature) ↔
      0 ≤ q.temperature ∧ q.temperature ≤ 1 := ⟨fun h => ⟨h.nonneg, h.le_one⟩, fun h => ⟨h.1, h.2⟩⟩
  have timeout : Parameter.InRange .timeoutSeconds (q.value .timeoutSeconds) ↔
      q.timeoutSeconds.isFinite ∧ 0 < q.timeoutSeconds := Iff.rfl
  unfold fault?
  simp only [Parameter.all, List.find?_cons, List.find?_nil, iterations, temperature, timeout]
  by_cases first : q.maxIterations = 0
  · simp [first, Parameter.fault]
  by_cases second : 0 ≤ q.temperature ∧ q.temperature ≤ 1
  · by_cases third : q.timeoutSeconds.isFinite ∧ 0 < q.timeoutSeconds
    · simp [first, second, third]
    · simp [first, second, third, Parameter.fault]
  · simp [first, second, Parameter.fault]

end Policy

namespace Override

variable {o : Override} {q : Policy} {s : Strategy}

def value? (o : Override) : (p : Parameter) → Option p.Value
  | .maxIterations => o.maxIterations
  | .temperature => o.temperature
  | .timeoutSeconds => o.timeoutSeconds

theorem isEmpty_iff : o.isEmpty = true ↔ ∀ p, o.value? p = none := by
  simp only [isEmpty, Bool.and_eq_true, Option.isNone_iff_eq_none]
  constructor
  · rintro ⟨⟨iterations, temperature⟩, timeout⟩ p
    cases p with
    | maxIterations => exact iterations
    | temperature => exact temperature
    | timeoutSeconds => exact timeout
  · intro nothing
    exact ⟨⟨nothing .maxIterations, nothing .temperature⟩, nothing .timeoutSeconds⟩

theorem value_apply (o : Override) (q : Policy) (p : Parameter) :
    (o.apply q).value p = (o.value? p).getD (q.value p) := by
  cases p <;> rfl

/-- An override that sets anything names a strategy, and all that it sets is in range. -/
def Sound (o : Override) : Prop :=
  o.isEmpty = false → o.strategy.isSome ∧ ∀ p, ∀ v ∈ o.value? p, p.InRange v

theorem sound_of_isEmpty (empty : o.isEmpty = true) : o.Sound :=
  fun set => absurd (set.symm.trans empty) Bool.false_ne_true

/-- The first parameter that an override sets out of its range. -/
def outlier? (o : Override) : Option Parameter :=
  Parameter.all.find? fun p => (o.value? p).any fun v => !decide (p.InRange v)

theorem outlier?_eq_none_iff : o.outlier? = none ↔ ∀ p, ∀ v ∈ o.value? p, p.InRange v := by
  simp [outlier?, Parameter.mem_all, Option.any_eq_false]

theorem outlier?_of_isEmpty (empty : o.isEmpty = true) : o.outlier? = none := by
  refine outlier?_eq_none_iff.mpr fun p v given => ?_
  rw [isEmpty_iff.mp empty p] at given
  contradiction

theorem sound_iff_of_named (named : o.strategy = some s) : o.Sound ↔ o.outlier? = none := by
  cases empty : o.isEmpty with
  | true => exact iff_of_true (sound_of_isEmpty empty) (outlier?_of_isEmpty empty)
  | false => simp [Sound, empty, named, outlier?_eq_none_iff]

theorem fault?_apply (valid : q.Valid) (o : Override) :
    (o.apply q).fault? = o.outlier?.map Parameter.fault := by
  have faulty (p : Parameter) : (!decide (p.InRange ((o.apply q).value p))) =
      (o.value? p).any fun v => !decide (p.InRange v) := by
    rw [value_apply]
    cases o.value? p with
    | none => simpa using Policy.valid_iff_inRange.mp valid p
    | some v => rfl
  rw [Policy.fault?_eq_find?, outlier?, funext faulty]

end Override

/-- The last value that a list of overrides sets for a parameter of a strategy. -/
def lastSet? (overrides : List Override) (s : Strategy) (p : Parameter) : Option p.Value :=
  (overrides.filterMap fun o => if o.strategy = some s then o.value? p else none).getLast?

theorem lastSet?_append (xs ys : List Override) (s : Strategy) (p : Parameter) :
    lastSet? (xs ++ ys) s p = (lastSet? ys s p).or (lastSet? xs s p) := by
  rw [lastSet?, List.filterMap_append, List.getLast?_append]
  rfl

theorem lastSet?_singleton (o : Override) (s : Strategy) (p : Parameter) :
    lastSet? [o] s p = if o.strategy = some s then o.value? p else none := by
  rw [lastSet?, List.filterMap_cons]
  split <;> simp_all

/-- A list without overrides for a strategy, or with empty ones only, sets nothing for it. -/
theorem lastSet?_eq_none {overrides : List Override} {s : Strategy}
    (silent : ∀ o ∈ overrides, o.strategy = some s → o.isEmpty = true) (p : Parameter) :
    lastSet? overrides s p = none := by
  rw [lastSet?, List.getLast?_eq_none_iff, List.filterMap_eq_nil_iff]
  intro o member
  split
  · rename_i named
    exact Override.isEmpty_iff.mp (silent o member named) p
  · rfl

namespace Catalog

/-- The one override of a strategy that does what a whole list does to it. -/
def merged (overrides : List Override) (s : Strategy) : Override where
  strategy := some s
  maxIterations := lastSet? overrides s .maxIterations
  temperature := lastSet? overrides s .temperature
  timeoutSeconds := lastSet? overrides s .timeoutSeconds

/-- The catalog in which every parameter has the last value that is set for it, and else its old one. -/
def revised (c : Catalog) (overrides : List Override) : Catalog where
  get s := (merged overrides s).apply (c.get s)

variable {c d : Catalog} {o : Override} {overrides : List Override}

theorem get_revised (c : Catalog) (overrides : List Override) (s : Strategy) :
    (c.revised overrides).get s = (merged overrides s).apply (c.get s) :=
  rfl

theorem value_revised (c : Catalog) (overrides : List Override) (s : Strategy) (p : Parameter) :
    ((c.revised overrides).get s).value p = (lastSet? overrides s p).getD ((c.get s).value p) := by
  have merge : (merged overrides s).value? p = lastSet? overrides s p := by cases p <;> rfl
  rw [get_revised, Override.value_apply, merge]

theorem revised_append (c : Catalog) (xs ys : List Override) :
    c.revised (xs ++ ys) = (c.revised xs).revised ys := by
  ext s
  refine Policy.ext_value rfl rfl fun p => ?_
  rw [value_revised, value_revised, value_revised, lastSet?_append, Option.getD_or]

theorem revised_cons (c : Catalog) (o : Override) (rest : List Override) :
    c.revised (o :: rest) = (c.revised [o]).revised rest :=
  c.revised_append [o] rest

theorem get_revised_of_silent {s : Strategy}
    (silent : ∀ o ∈ overrides, o.strategy = some s → o.isEmpty = true) :
    (c.revised overrides).get s = c.get s := by
  refine Policy.ext_value rfl rfl fun p => ?_
  rw [value_revised, lastSet?_eq_none silent, Option.getD_none]

/-- Overrides of different strategies do not see each other. -/
theorem revised_comm {xs ys : List Override}
    (apart : ∀ x ∈ xs, ∀ y ∈ ys, ∀ s, x.strategy = some s → y.strategy ≠ some s) (c : Catalog) :
    (c.revised xs).revised ys = (c.revised ys).revised xs := by
  ext s
  have aside {xs ys : List Override} (silent : ∀ x ∈ xs, x.strategy = some s → x.isEmpty = true) :
      ((c.revised xs).revised ys).get s = ((c.revised ys).revised xs).get s := by
    rw [get_revised_of_silent silent, get_revised, get_revised_of_silent silent, get_revised]
  by_cases touched : ∃ x ∈ xs, x.strategy = some s
  · obtain ⟨x, member, named⟩ := touched
    exact (aside fun y other same => absurd same (apart x member y other s named)).symm
  · exact aside fun x member named => absurd ⟨x, member, named⟩ touched

theorem revised_singleton_of_isEmpty (empty : o.isEmpty = true) : c.revised [o] = c :=
  Catalog.ext (funext fun _ => get_revised_of_silent (by simp [empty]))

theorem revised_singleton {s : Strategy} (named : o.strategy = some s) :
    c.revised [o] = c.set s (o.apply (c.get s)) := by
  ext t
  by_cases same : t = s
  · subst same
    simp only [set, if_true]
    refine Policy.ext_value rfl rfl fun p => ?_
    rw [value_revised, lastSet?_singleton, if_pos named, Override.value_apply]
  · simp only [set, if_neg same]
    refine get_revised_of_silent fun x member other => ?_
    obtain rfl := List.mem_singleton.mp member
    exact absurd (Option.some.inj (other.symm.trans named)) same

/-- The check of the whole policy finds exactly what the override has set out of range. -/
theorem withOverride_of_named (formed : c.WellFormed) {s : Strategy} (named : o.strategy = some s) :
    c.withOverride o = match o.outlier? with
      | none => .ok (c.revised [o])
      | some p => .error (.invalidPolicy s.name p.fault.reason) := by
  cases empty : o.isEmpty with
  | true =>
    simp [withOverride, empty, Override.outlier?_of_isEmpty empty, revised_singleton_of_isEmpty empty]
  | false =>
    have valid : (c.get s).Valid := Policy.fault?_eq_none.mp (formed.sound s)
    have strategy : (o.apply (c.get s)).strategy = s := formed.named s
    simp only [withOverride, empty, Bool.false_eq_true, if_false, named, Policy.validated,
      Override.fault?_apply valid, strategy, revised_singleton named]
    cases o.outlier? <;> rfl

theorem withOverride_eq_ok_iff (formed : c.WellFormed) :
    c.withOverride o = .ok d ↔ o.Sound ∧ d = c.revised [o] := by
  cases named : o.strategy with
  | some s =>
    rw [withOverride_of_named formed named, Override.sound_iff_of_named named]
    cases o.outlier? <;> simp [eq_comm]
  | none =>
    cases empty : o.isEmpty with
    | true =>
      simp [withOverride, empty, Override.sound_of_isEmpty empty, revised_singleton_of_isEmpty empty,
        eq_comm]
    | false => simp [withOverride, empty, named, Override.Sound]

theorem withOverrides_append (c : Catalog) (xs ys : List Override) :
    c.withOverrides (xs ++ ys) = (c.withOverrides xs).bind fun d => d.withOverrides ys :=
  List.foldlM_append ..

theorem withOverrides_cons (c : Catalog) (o : Override) (rest : List Override) :
    c.withOverrides (o :: rest) = (c.withOverride o).bind fun d => d.withOverrides rest :=
  List.foldlM_cons ..

theorem withOverrides_filter (c : Catalog) (overrides : List Override) :
    c.withOverrides (overrides.filter fun o => !o.isEmpty) = c.withOverrides overrides := by
  induction overrides generalizing c with
  | nil => rfl
  | cons o rest ih =>
    rw [withOverrides_cons]
    cases empty : o.isEmpty with
    | true =>
      have same : c.withOverride o = .ok c := by simp [withOverride, empty]
      rw [List.filter_cons_of_neg (by simp [empty]), same, ih]
      rfl
    | false =>
      rw [List.filter_cons_of_pos (by simp [empty]), withOverrides_cons]
      exact congrArg _ (funext fun d => ih d)

theorem withOverrides_eq_ok_iff (formed : c.WellFormed) :
    c.withOverrides overrides = .ok d ↔ (∀ o ∈ overrides, o.Sound) ∧ d = c.revised overrides := by
  induction overrides generalizing c with
  | nil =>
    have same : c.revised [] = c := Catalog.ext (funext fun _ => get_revised_of_silent (by simp))
    rw [same, withOverrides, List.foldlM_nil]
    simp [pure, Except.pure, eq_comm]
  | cons o rest ih =>
    rw [withOverrides_cons, List.forall_mem_cons, revised_cons]
    cases first : c.withOverride o with
    | error e =>
      have unsound : ¬o.Sound := by
        intro sound
        have accepted := (withOverride_eq_ok_iff formed).mpr ⟨sound, rfl⟩
        exact nomatch first.symm.trans accepted
      simp [Except.bind, unsound]
    | ok middle =>
      obtain ⟨sound, rfl⟩ := (withOverride_eq_ok_iff formed).mp first
      simp only [Except.bind, ih (withOverride_wellFormed formed first), sound, true_and]

/-- A list of overrides is accepted exactly where each that sets anything names a strategy and sets what is
in range. Then every parameter has the last value that the list sets for it, or its old value where there is
none, and nothing else changes. A list can be applied in two parts, and parts for different strategies in
either order. -/
theorem withOverrides_last_wins (formed : c.WellFormed) :
    (∀ overrides, (∃ d, c.withOverrides overrides = .ok d) ↔
      ∀ o ∈ overrides, o.isEmpty = false → o.strategy.isSome ∧ ∀ p, ∀ v ∈ o.value? p, p.InRange v) ∧
    (∀ overrides d, c.withOverrides overrides = .ok d →
      (∀ s p, (d.get s).value p = (lastSet? overrides s p).getD ((c.get s).value p)) ∧
      (∀ s, (d.get s).strategy = (c.get s).strategy ∧ (d.get s).description = (c.get s).description) ∧
      ∀ s, (∀ o ∈ overrides, o.strategy = some s → o.isEmpty = true) → d.get s = c.get s) ∧
    (∀ xs ys, c.withOverrides (xs ++ ys) = (c.withOverrides xs).bind fun d => d.withOverrides ys) ∧
    ∀ before xs ys after d,
      (∀ x ∈ xs, ∀ y ∈ ys, ∀ s, x.strategy = some s → y.strategy ≠ some s) →
      c.withOverrides (before ++ xs ++ ys ++ after) = .ok d →
      c.withOverrides (before ++ ys ++ xs ++ after) = .ok d := by
  refine ⟨fun overrides => ?_, fun overrides d accepted => ?_, c.withOverrides_append,
    fun before xs ys after d apart accepted => ?_⟩
  · simp only [withOverrides_eq_ok_iff formed, exists_and_left, exists_eq, and_true, Override.Sound]
  · obtain ⟨-, rfl⟩ := (withOverrides_eq_ok_iff formed).mp accepted
    exact ⟨c.value_revised overrides, fun s => ⟨rfl, rfl⟩, fun s => get_revised_of_silent⟩
  · obtain ⟨sound, rfl⟩ := (withOverrides_eq_ok_iff formed).mp accepted
    refine (withOverrides_eq_ok_iff formed).mpr ⟨fun o member => sound o ?_, ?_⟩
    · simp only [List.mem_append] at member ⊢
      tauto
    · simp only [revised_append, revised_comm apart]

/-- Of two temperatures for one strategy the later one counts, and an override that sets nothing needs no
name. A ceiling of zero is refused although a later override would mend it. -/
theorem withOverrides_last_wins_of_repeated :
    let early : Override := { strategy := some .fast, maxIterations := some 9, temperature := some 0.5 }
    let blank : Override := {}
    let deep : Override := { strategy := some .deep, timeoutSeconds := some 60 }
    let late : Override := { strategy := some .fast, temperature := some 0.2 }
    let idle : Override := { strategy := some .fast, maxIterations := some 0 }
    builtin.WellFormed ∧
    (∃ d, builtin.withOverrides [early, blank, deep, late] = .ok d ∧
      builtin.withOverrides [early, blank, late, deep] = .ok d ∧ (d.get .fast).maxIterations = 9 ∧
      (d.get .fast).temperature = 0.2 ∧ d.get .creative = builtin.get .creative) ∧
    ¬∃ d, builtin.withOverrides [idle, early] = .ok d := by
  intro early blank deep late idle
  obtain ⟨accepts, values, -, commute⟩ := withOverrides_last_wins builtin_wellFormed
  have sound : ∀ o ∈ [early, blank, deep, late],
      o.isEmpty = false → o.strategy.isSome ∧ o.outlier? = none := by decide +kernel
  obtain ⟨d, accepted⟩ := (accepts [early, blank, deep, late]).mpr fun o member set =>
    ⟨(sound o member set).1, Override.outlier?_eq_none_iff.mp (sound o member set).2⟩
  obtain ⟨last, -, untouched⟩ := values _ d accepted
  refine ⟨builtin_wellFormed, ⟨d, accepted, ?_, last .fast .maxIterations, last .fast .temperature, ?_⟩, ?_⟩
  · exact commute [early, blank] [deep] [late] [] d (by simp [deep, late]) accepted
  · exact untouched .creative (by decide)
  · rintro accepted
    obtain ⟨-, inRange⟩ := (accepts [idle, early]).mp accepted idle List.mem_cons_self rfl
    exact absurd (inRange .maxIterations 0 rfl) (by decide)

end Catalog

end Deliberation
