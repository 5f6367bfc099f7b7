import Deliberation.Config
import Deliberation.Proofs.Overrides
/-! The catalog of an environment. Each parameter of each strategy has a setting of its own. A setting that is
there and cannot be read is an error before any number is checked, and after that the first number out of its
range is one. Without errors every parameter has the number of its setting, or its built-in one. -/

namespace Deliberation

namespace Parameter

def key : Parameter → String
  | .maxIterations => "MAX_ITERATIONS"
  | .temperature => "TEMPERATURE"
  | .timeoutSeconds => "TIMEOUT_SECS"

def read? : (p : Parameter) → List Char → Option p.Value
  | .maxIterations => Numeral.uint32?
  | .temperature | .timeoutSeconds => Numeral.float?

def ofText? (p : Parameter) (text : String) : Option p.Value :=
  p.read? (Text.trim text.toList)

/-- All parameters of some strategies, strategy by strategy. -/
def ofEach (strategies : List Strategy) : List (Strategy × Parameter) :=
  strategies.flatMap fun s => all.map (Prod.mk s)

theorem find?_ofEach_cons (f : Strategy × Parameter → Bool) (s : Strategy) (rest : List Strategy) :
    (ofEach (s :: rest)).find? f =
      ((all.find? fun p => f (s, p)).map (Prod.mk s)).or ((ofEach rest).find? f) := by
  simp only [ofEach, List.flatMap_cons, List.find?_append, List.find?_map, Function.comp_def]

theorem mem_ofEach_all (s : Strategy) (p : Parameter) : (s, p) ∈ ofEach Strategy.all :=
  List.mem_flatMap.mpr ⟨s, s.mem_all, List.mem_map_of_mem p.mem_all⟩

theorem find?_ofEach_all_eq_none_iff {f : Strategy × Parameter → Bool} :
    (ofEach Strategy.all).find? f = none ↔ ∀ s p, f (s, p) = false := by
  rw [List.find?_eq_none]
  exact ⟨fun h s p => by simpa using h (s, p) (mem_ofEach_all s p), fun h x _ => by simp [h]⟩

theorem exists_find?_ofEach_all {f : Strategy × Parameter → Bool} {s : Strategy} {p : Parameter}
    (h : f (s, p) = true) : ∃ t q, (ofEach Strategy.all).find? f = some (t, q) ∧ f (t, q) = true := by
  obtain ⟨x, found⟩ := Option.isSome_iff_exists.mp
    (List.find?_isSome.mpr ⟨(s, p), mem_ofEach_all s p, h⟩)
  exact ⟨x.1, x.2, found, List.find?_some found⟩

end Parameter

namespace Config

variable (source : SettingSource)

def text? (s : Strategy) (p : Parameter) : Option String :=
  source (s.settingName p.key)

/-- The number that a setting gives a parameter, where it is there and can be read. -/
def given? (s : Strategy) (p : Parameter) : Option p.Value :=
  (text? source s p).bind p.ofText?

def isUnreadable (x : Strategy × Parameter) : Bool :=
  (text? source x.1 x.2).any fun text => (x.2.ofText? text).isNone

/-- Whether the setting of a parameter gives a number out of range. -/
def isOutlier (x : Strategy × Parameter) : Bool :=
  (given? source x.1 x.2).any fun v => !decide (x.2.InRange v)

def misreading (x : Strategy × Parameter) : AppError :=
  .invalidSetting (x.1.settingName x.2.key) ((text? source x.1 x.2).getD "")

/-- The override of a strategy by all its settings that can be read. -/
def given (s : Strategy) : Override where
  strategy := some s
  maxIterations := given? source s .maxIterations
  temperature := given? source s .temperature
  timeoutSeconds := given? source s .timeoutSeconds

variable {source} {s : Strategy} {p : Parameter}

theorem value?_given (s : Strategy) (p : Parameter) : (given source s).value? p = given? source s p := by
  cases p <;> rfl

theorem outlier?_given (s : Strategy) :
    (given source s).outlier? = Parameter.all.find? fun p => isOutlier source (s, p) := by
  simp only [Override.outlier?, value?_given, isOutlier]

theorem misreading_of_isUnreadable (h : isUnreadable source (s, p) = true) :
    ∃ text, text? source s p = some text ∧
      misreading source (s, p) = .invalidSetting (s.settingName p.key) text := by
  obtain ⟨text, present, -⟩ := (Option.any_eq_true _ _).mp h
  exact ⟨text, present, by simp only [misreading, present, Option.getD_some]⟩

theorem settled_iff : isUnreadable source (s, p) = false ∧ isOutlier source (s, p) = false ↔
    ∀ text ∈ text? source s p, ∃ v, p.ofText? text = some v ∧ p.InRange v := by
  simp only [isUnreadable, isOutlier, given?]
  cases text? source s p with
  | none => simp
  | some text => cases read : p.ofText? text <;> simp [read]

theorem setting?_eq (source : SettingSource) (s : Strategy) (p : Parameter) :
    Override.setting? source (s.settingName p.key) p.read? =
      if isUnreadable source (s, p) then .error (misreading source (s, p))
      else .ok (given? source s p) := by
  unfold Override.setting?
  cases present : source (s.settingName p.key) with
  | none =>
    have absent : text? source s p = none := present
    simp [isUnreadable, given?, absent]
  | some text =>
    have there : text? source s p = some text := present
    cases read : p.read? (Text.trim text.toList) <;>
      simp [isUnreadable, misreading, given?, there, Parameter.ofText?, read]

theorem ofSettings_eq (s : Strategy) :
    Override.ofSettings source s = match Parameter.all.find? fun p => isUnreadable source (s, p) with
      | none => .ok (given source s)
      | some p => .error (misreading source (s, p)) := by
  have iterations := setting?_eq source s .maxIterations
  have temperature := setting?_eq source s .temperature
  have timeout := setting?_eq source s .timeoutSeconds
  dsimp only [Parameter.key, Parameter.read?] at iterations temperature timeout
  simp only [Override.ofSettings, iterations, temperature, timeout, Parameter.all, List.find?_cons,
    List.find?_nil]
  cases isUnreadable source (s, .maxIterations) <;> cases isUnreadable source (s, .temperature) <;>
    cases isUnreadable source (s, .timeoutSeconds) <;> rfl

theorem mapM_ofSettings (strategies : List Strategy) :
    strategies.mapM (Override.ofSettings source) =
      match (Parameter.ofEach strategies).find? (isUnreadable source) with
      | none => .ok (strategies.map (given source))
      | some x => .error (misreading source x) := by
  induction strategies with
  | nil => rfl
  | cons s rest ih =>
    rw [List.mapM_cons, ofSettings_eq, ih, Parameter.find?_ofEach_cons]
    cases Parameter.all.find? fun p => isUnreadable source (s, p) with
    | some p => rfl
    | none => cases (Parameter.ofEach rest).find? (isUnreadable source) <;> rfl

theorem withOverrides_given {c : Catalog} (formed : c.WellFormed) (strategies : List Strategy) :
    c.withOverrides (strategies.map (given source)) =
      match (Parameter.ofEach strategies).find? (isOutlier source) with
      | none => .ok (c.revised (strategies.map (given source)))
      | some x => .error (.invalidPolicy x.1.name x.2.fault.reason) := by
  induction strategies generalizing c with
  | nil => exact (Catalog.withOverrides_eq_ok_iff formed).mpr ⟨by simp, rfl⟩
  | cons s rest ih =>
    have first := Catalog.withOverride_of_named formed (o := given source s) rfl
    rw [outlier?_given] at first
    rw [List.map_cons, Catalog.withOverrides_cons, Parameter.find?_ofEach_cons]
    cases outlier : Parameter.all.find? fun p => isOutlier source (s, p) with
    | some p =>
      rw [outlier] at first
      rw [first]
      rfl
    | none =>
      rw [outlier] at first
      rw [first, Except.bind, ih (Catalog.withOverride_wellFormed formed first),
        Catalog.revised_cons c _ (rest.map _)]
      rfl

/-- The catalog of an environment, or the first thing that is wrong with it. -/
theorem catalogOf_eq (source : SettingSource) : catalogOf source =
    match (Parameter.ofEach Strategy.all).find? (isUnreadable source) with
    | some x => .error (misreading source x)
    | none =>
      match (Parameter.ofEach Strategy.all).find? (isOutlier source) with
      | some x => .error (.catalog (.invalidPolicy x.1.name x.2.fault.reason))
      | none => .ok (Catalog.builtin.revised (Strategy.all.map (given source))) := by
  simp only [catalogOf, Override.allOfSettings, mapM_ofSettings]
  cases (Parameter.ofEach Strategy.all).find? (isUnreadable source) with
  | some x => rfl
  | none =>
    simp only [bind, Except.bind, Catalog.withOverrides_filter,
      withOverrides_given Catalog.builtin_wellFormed]
    cases (Parameter.ofEach Strategy.all).find? (isOutlier source) <;> rfl

theorem catalogOf_eq_ok_iff {c : Catalog} : catalogOf source = .ok c ↔
    (∀ s p, isUnreadable source (s, p) = false ∧ isOutlier source (s, p) = false) ∧
      c = Catalog.builtin.revised (Strategy.all.map (given source)) := by
  rw [catalogOf_eq]
  simp only [forall_and, ← Parameter.find?_ofEach_all_eq_none_iff]
  cases (Parameter.ofEach Strategy.all).find? (isUnreadable source) <;>
    cases (Parameter.ofEach Strategy.all).find? (isOutlier source) <;> simp [eq_comm]

theorem lastSet?_given {strategies : List Strategy} (distinct : strategies.Nodup)
    (member : s ∈ strategies) (p : Parameter) :
    lastSet? (strategies.map (given source)) s p = given? source s p := by
  have silent {others : List Strategy} (absent : s ∉ others) :
      lastSet? (others.map (given source)) s p = none := by
    refine lastSet?_eq_none (fun o listed named => ?_) p
    obtain ⟨t, other, rfl⟩ := List.mem_map.mp listed
    exact absurd (Option.some.inj named ▸ other) absent
  obtain ⟨before, after, rfl⟩ := List.append_of_mem member
  obtain ⟨absent, -⟩ := List.nodup_cons.mp (List.nodup_middle.mp distinct)
  rw [List.mem_append, not_or] at absent
  have own : lastSet? [given source s] s p = given? source s p := by
    rw [lastSet?_singleton, value?_given]
    exact if_pos rfl
  rw [List.map_append, List.map_cons, ← List.singleton_append, lastSet?_append, lastSet?_append,
    silent absent.1, silent absent.2, own, Option.none_or, Option.or_none]

/-- A catalog is made of an environment exactly where every setting of a parameter that is there can be read,
blanks around it apart, as a number in the range of the parameter. The catalog then has the numbers of the
settings, and the built-in ones where there is no setting. No other setting counts. A setting that cannot be
read is an error, and the first one is reported; only without such a setting a number out of range is an
error, and then the first one is. -/
theorem catalogOf_settings (source : SettingSource) :
    ((∃ c, catalogOf source = .ok c) ↔
      ∀ s p, ∀ text ∈ text? source s p, ∃ v, p.ofText? text = some v ∧ p.InRange v) ∧
    (∀ c, catalogOf source = .ok c → ∀ s,
      (c.get s).strategy = s ∧ (c.get s).description = (Catalog.builtin.get s).description ∧
      ∀ p, (text? source s p = none → (c.get s).value p = (Catalog.builtin.get s).value p) ∧
        ∀ text ∈ text? source s p, p.ofText? text = some ((c.get s).value p)) ∧
    (∀ other, (∀ s p, text? other s p = text? source s p) → catalogOf other = catalogOf source) ∧
    (∀ s p, isUnreadable source (s, p) → ∃ t q text,
      (Parameter.ofEach Strategy.all).find? (isUnreadable source) = some (t, q) ∧
      text? source t q = some text ∧
      catalogOf source = .error (.invalidSetting (t.settingName q.key) text)) ∧
    ((∀ s p, ¬isUnreadable source (s, p)) → ∀ s p, isOutlier source (s, p) → ∃ t q,
      (Parameter.ofEach Strategy.all).find? (isOutlier source) = some (t, q) ∧
      catalogOf source = .error (.catalog (.invalidPolicy t.name q.fault.reason))) := by
  refine ⟨?_, fun c made s => ?_, fun other same => ?_, fun s p unreadable => ?_,
    fun readable s p outlier => ?_⟩
  · simp only [catalogOf_eq_ok_iff, exists_and_left, exists_eq, and_true, settled_iff]
  · obtain ⟨settled, rfl⟩ := catalogOf_eq_ok_iff.mp made
    refine ⟨by cases s <;> rfl, rfl, fun p => ?_⟩
    rw [Catalog.value_revised, lastSet?_given (by decide) s.mem_all]
    refine ⟨fun absent => by simp [given?, absent], fun text present => ?_⟩
    obtain ⟨v, read, -⟩ := settled_iff.mp (settled s p) text present
    rw [read, given?, present, Option.bind_some, read, Option.getD_some]
  · have settings : Override.ofSettings other = Override.ofSettings source := by
      funext s
      apply Override.ofSettings_congr
      simp only [List.forall_mem_cons]
      exact ⟨same s .maxIterations, same s .temperature, same s .timeoutSeconds, nofun⟩
    simp only [catalogOf, Override.allOfSettings, settings]
  · obtain ⟨t, q, found, first⟩ := Parameter.exists_find?_ofEach_all unreadable
    obtain ⟨text, present, error⟩ := misreading_of_isUnreadable first
    exact ⟨t, q, text, found, present, by rw [catalogOf_eq, found, ← error]⟩
  · obtain ⟨t, q, found, -⟩ := Parameter.exists_find?_ofEach_all outlier
    have none_unreadable := Parameter.find?_ofEach_all_eq_none_iff.mpr fun s p => by simpa using readable s p
    exact ⟨t, q, found, by rw [catalogOf_eq, none_unreadable, found]⟩

/-- Blanks around a number do not matter. A text that is no number counts before a temperature out of range
that stands earlier in the catalog. An infinite time can be read and is out of range. -/
theorem catalogOf_settings_of_tuned :
    let settings (values : List (String × String)) : SettingSource := fun name => List.lookup name values
    let tuned := settings [("STRATEGY_FAST_MAX_ITERATIONS", " 4 "),
      ("STRATEGY_TREE_OF_THOUGHT_TEMPERATURE", "0.4"), ("STRATEGY_SLOW_TEMPERATURE", "hot")]
    let torn := settings [("STRATEGY_FAST_TEMPERATURE", "1.5"), ("STRATEGY_DEEP_TIMEOUT_SECS", "soon"),
      ("STRATEGY_DEEP_MAX_ITERATIONS", "-1")]
    let endless := settings [("STRATEGY_COT_EXPLICIT_TIMEOUT_SECS", "inf"),
      ("STRATEGY_ADAPTIVE_MAX_ITERATIONS", "0")]
    (∃ c, catalogOf tuned = .ok c ∧ (c.get .fast).maxIterations = 4 ∧
      (c.get .treeOfThought).temperature = 0.4 ∧ (c.get .treeOfThought).maxIterations = 25) ∧
    catalogOf torn = .error (.config "STRATEGY_DEEP_MAX_ITERATIONS has invalid value '-1'") ∧
    catalogOf endless =
      .error (.catalog (.invalidPolicy "cot_explicit" "timeout_seconds must be greater than 0")) := by
  intro settings tuned torn endless
  refine ⟨?_, ?_, ?_⟩
  · obtain ⟨accepts, numbers, -⟩ := catalogOf_settings tuned
    have settled : ∀ x ∈ Parameter.ofEach Strategy.all,
        isUnreadable tuned x = false ∧ isOutlier tuned x = false := by decide +kernel
    obtain ⟨c, made⟩ := accepts.mpr fun s p => settled_iff.mp (settled (s, p) (Parameter.mem_ofEach_all s p))
    obtain ⟨-, -, fast⟩ := numbers c made .fast
    obtain ⟨-, -, tree⟩ := numbers c made .treeOfThought
    refine ⟨c, made, ?_, ?_, (tree .maxIterations).1 (by decide +kernel)⟩
    · have read := (fast .maxIterations).2 " 4 " (by decide +kernel)
      exact Option.some.inj (read.symm.trans (by decide +kernel))
    · have read := (tree .temperature).2 "0.4" (by decide +kernel)
      exact Option.some.inj (read.symm.trans (by decide +kernel))
  · obtain ⟨-, -, -, unreadable, -⟩ := catalogOf_settings torn
    obtain ⟨t, q, text, found, present, error⟩ := unreadable .deep .maxIterations (by decide +kernel)
    have first : (Parameter.ofEach Strategy.all).find? (isUnreadable torn) = some (.deep, .maxIterations) := by
      decide +kernel
    obtain ⟨rfl, rfl⟩ := Prod.mk.inj (Option.some.inj (first.symm.trans found))
    obtain rfl : "-1" = text := Option.some.inj ((by decide +kernel : _ = text? torn _ _).trans present)
    exact error.trans (congrArg Except.error (by decide +kernel))
  · obtain ⟨-, -, -, -, outlier⟩ := catalogOf_settings endless
    have readable : ∀ x ∈ Parameter.ofEach Strategy.all, ¬isUnreadable endless x := by decide +kernel
    obtain ⟨t, q, found, error⟩ := outlier (fun s p => readable (s, p) (Parameter.mem_ofEach_all s p))
      .adaptive .maxIterations (by decide +kernel)
    have first : (Parameter.ofEach Strategy.all).find? (isOutlier endless) =
      some (.cotExplicit, .timeoutSeconds) := by decide +kernel
    obtain ⟨rfl, rfl⟩ := Prod.mk.inj (Option.some.inj (first.symm.trans found))
    exact error

end Config

end Deliberation
