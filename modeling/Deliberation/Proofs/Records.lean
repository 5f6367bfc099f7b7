import Mathlib.Data.List.Nodup
import Deliberation.Chain.Record
import Deliberation.Proofs.Scores
import Deliberation.Proofs.Timestamps
import Deliberation.Tree.Record
/-! Records read back. Every field is read from its own member, and all that is written can be read again
but a number that is not finite: such a number becomes `null`, which no record may hold in its place. So
the record of a chain or tree reads back to that chain or tree, or not at all. -/

namespace Deliberation

namespace Json

def slot (members : List (String × Json)) (name : String) : Slot :=
  match members.find? fun m => m.1 == name with
  | some m => .given m.2
  | none => .absent

section
variable {α : Type} {key name : String} {value : Json} {members : List (String × Json)}

/-- An object with distinct keys offers no field twice. -/
theorem slots?_object_bind (distinct : (members.map Prod.fst).Nodup) (names : List String)
    (read? : (String → Slot) → Option α) :
    (slots? names (.object members) >>= read?) = read? (slot members) := by
  have once (name : String) : (members.filter fun m => m.1 == name).length ≤ 1 := by
    have few := List.nodup_iff_count_le_one.mp distinct name
    rwa [List.count, List.countP_map, List.countP_eq_length_filter] at few
  rw [slots?, if_pos (List.all_eq_true.mpr fun name _ => decide_eq_true (once name))]
  rfl

@[simp]
theorem slot_nil : slot [] name = .absent := by
  rw [slot, List.find?_nil]

@[simp]
theorem slot_cons_self : slot ((key, value) :: members) key = .given value := by
  simp [slot]

@[simp]
theorem slot_cons_of_ne (other : key ≠ name) :
    slot ((key, value) :: members) name = slot members name := by
  simp [slot, other]

@[simp]
theorem slot_optionalMember_of_ne (other : key ≠ name) (write : α → Json) (a? : Option α) :
    slot (optionalMember key write a? ++ members) name = slot members name := by
  cases a? <;> simp [optionalMember, other]

-- Not by `rfl`: a rewrite by definition would have the kernel run the readers.
@[simp]
theorem required_given (read? : Json → Option α) : (Slot.given value).required read? = read? value := by
  rw [Slot.required]

/-- A text that is left out where there is none reads back. -/
@[simp]
theorem optional_optionalMember (missing : slot members key = .absent) (s? : Option String) :
    (slot (optionalMember key .string s? ++ members) key).optional string? = some s? := by
  cases s? <;> simp [optionalMember, missing, Slot.optional, string?]

end

@[simp]
theorem string?_string (s : String) : string? (.string s) = some s :=
  rfl

@[simp]
theorem uint32?_ofUInt32 (n : UInt32) : uint32? (ofUInt32 n) = some n := by
  have fits : (n.toNat : Int) < UInt32.size := by exact_mod_cast n.toNat_lt
  simp only [uint32?, ofUInt32, ofNat, natBelow?, Int.natCast_nonneg, fits, and_self, if_true,
    Int.toNat_natCast, Option.map_some, UInt32.ofNat_toNat]

@[simp]
theorem uint64?_ofUInt64 (n : UInt64) : uint64? (ofUInt64 n) = some n := by
  have fits : (n.toNat : Int) < UInt64.size := by exact_mod_cast n.toNat_lt
  simp only [uint64?, ofUInt64, ofNat, natBelow?, Int.natCast_nonneg, fits, and_self, if_true,
    Int.toNat_natCast, Option.map_some, UInt64.ofNat_toNat]

@[simp]
theorem instant?_ofInstant (i : Instant) : instant? (ofInstant i) = some i :=
  Timestamp.read?_text i

/-- Only a finite number reads back. -/
theorem float?_ofFloat (x : Float) : float? (ofFloat x) = if x.isFinite then some x else none := by
  unfold ofFloat
  split <;> rfl

/-- A value that may be missing reads back from `null` and from any value that is not written so. -/
theorem optional_ofOption {α : Type} {write : α → Json} {read? : Json → Option α}
    (back : ∀ a, read? (write a) = some a) (solid : ∀ a, write a ≠ .null) (a? : Option α) :
    (Slot.given (ofOption write a?)).optional read? = some a? := by
  cases a? with
  | none => rfl
  | some a => simp [ofOption, Slot.optional, back, solid]

@[simp]
theorem optional_string (s? : Option String) :
    (Slot.given (ofOption .string s?)).optional string? = some s? :=
  optional_ofOption string?_string (fun _ => nofun) s?

@[simp]
theorem optional_instant (i? : Option Instant) :
    (Slot.given (ofOption ofInstant i?)).optional instant? = some i? :=
  optional_ofOption instant?_ofInstant (fun _ => nofun) i?

/-- A list reads back where all its items do. -/
theorem list?_ofList {α : Type} {write : α → Json} {read? : Json → Option α} {whole : α → Bool}
    (back : ∀ a, read? (write a) = if whole a then some a else none) (items : List α) :
    list? read? (ofList write items) = if items.all whole then some items else none := by
  simp only [list?, ofList]
  induction items with
  | nil => rfl
  | cons a rest ih =>
    rw [List.map_cons, List.mapM_cons, back, ih, List.all_cons]
    cases whole a <;> cases rest.all whole <;> rfl

theorem list?_ofList_eq_some {α : Type} {write : α → Json} {read? : Json → Option α}
    (back : ∀ a, read? (write a) = some a) (items : List α) :
    list? read? (ofList write items) = some items := by
  have always (a : α) : read? (write a) = if (fun _ => true) a then some a else none := back a
  rw [list?_ofList always]
  simp

@[simp]
theorem list?_strings (items : List String) : list? string? (ofList .string items) = some items :=
  list?_ofList_eq_some string?_string items

section
variable {α ι : Type} {write : α → Json} {read? : Json → Option α}

/-- What reads back where the numbers of all its items are finite, reads back exactly then, and never as
anything else. -/
theorem back_or_refused (items : α → List ι) (number : ι → Float)
    (back : ∀ a, read? (write a) = if (items a).all fun i => (number i).isFinite then some a else none)
    (a : α) :
    ((∀ i ∈ items a, (number i).isFinite = true) →
      read? (write a) = some a ∧ (read? (write a)).map write = some (write a)) ∧
    ((∃ i ∈ items a, (number i).isNaN = true ∨ (number i).isInf = true) → read? (write a) = none) ∧
    ∀ b, read? (write a) = some b → b = a := by
  refine ⟨fun finite => ?_, fun ⟨i, member, broken⟩ => ?_, fun b decoded => ?_⟩
  · have same : read? (write a) = some a := by
      rw [back, if_pos (List.all_eq_true.mpr finite)]
    exact ⟨same, by rw [same, Option.map_some]⟩
  · have some_broken : ¬((items a).all fun i => (number i).isFinite) = true := fun all_finite => by
      have finite := List.all_eq_true.mp all_finite i member
      exact absurd finite (by simp [Binary64.isFinite_eq_false.mpr broken])
    rw [back, if_neg some_broken]
  · rw [back] at decoded
    split at decoded
    · exact (Option.some.inj decoded).symm
    · contradiction

end

end Json

namespace Step

theorem ofJson?_toJson (s : Step) :
    ofJson? s.toJson = if s.confidence.isFinite then some s else none := by
  rw [ofJson?, toJson, Json.slots?_object_bind]
  · cases finite : s.confidence.isFinite <;> simp [Json.float?_ofFloat, finite]
  · cases s.action <;> cases s.observation <;> simp [Json.optionalMember]

end Step

namespace Chain

/-- The record of a chain reads back where all confidences are finite. -/
theorem ofJson?_toJson (c : Chain) :
    ofJson? c.toJson = if c.steps.all (·.confidence.isFinite) then some c else none := by
  rw [ofJson?, toJson, Json.slots?_object_bind (by simp)]
  cases finite : c.steps.all (·.confidence.isFinite) <;>
    simp [Json.list?_ofList Step.ofJson?_toJson, finite, -List.all_eq_true, -List.all_eq_false]

end Chain

namespace Branch

theorem ofJson?_toJson (b : Branch) :
    ofJson? b.toJson = if b.score.isFinite then some b else none := by
  rw [ofJson?, toJson, Json.slots?_object_bind (by simp)]
  cases finite : b.score.isFinite <;>
    simp [Json.float?_ofFloat, finite, Json.name?, BranchStatus.ofName?_name]

end Branch

namespace Tree

/-- The record of a tree reads back where all scores are finite. -/
theorem ofJson?_toJson (t : Tree) :
    ofJson? t.toJson = if t.branches.all (·.score.isFinite) then some t else none := by
  rw [ofJson?, toJson, Json.slots?_object_bind (by simp)]
  cases finite : t.branches.all (·.score.isFinite) <;>
    simp [Json.list?_ofList Branch.ofJson?_toJson, finite, -List.all_eq_true, -List.all_eq_false]

end Tree

/-- The record of a chain reads back to the chain where all its confidences are finite, and is refused
where one is NaN or an infinity, so it never reads back to another chain. The same goes for the record
of a tree and its scores. -/
theorem records_read_back :
    (∀ c : Chain,
      ((∀ s ∈ c.steps, s.confidence.isFinite = true) →
        Chain.ofJson? c.toJson = some c ∧ (Chain.ofJson? c.toJson).map Chain.toJson = some c.toJson) ∧
      ((∃ s ∈ c.steps, s.confidence.isNaN = true ∨ s.confidence.isInf = true) →
        Chain.ofJson? c.toJson = none) ∧
      ∀ d, Chain.ofJson? c.toJson = some d → d = c) ∧
    ∀ t : Tree,
      ((∀ b ∈ t.branches, b.score.isFinite = true) →
        Tree.ofJson? t.toJson = some t ∧ (Tree.ofJson? t.toJson).map Tree.toJson = some t.toJson) ∧
      ((∃ b ∈ t.branches, b.score.isNaN = true ∨ b.score.isInf = true) →
        Tree.ofJson? t.toJson = none) ∧
      ∀ u, Tree.ofJson? t.toJson = some u → u = t := by
  exact ⟨Json.back_or_refused Chain.steps Step.confidence Chain.ofJson?_toJson,
    Json.back_or_refused Tree.branches Branch.score Tree.ofJson?_toJson⟩

/-- A chain with a step that has no action, and a finished tree of the largest limits, both from within
a leap second, read back. They do not after a confidence and a score were spoilt. -/
theorem records_read_back_of_leap :
    let now : Instant := ⟨⟨2016, 12, 31, by decide, by decide⟩,
      ⟨23, 59, 59, 1500000000, by decide, by decide, by decide, by decide⟩⟩
    let step : Step := ⟨1, "look", none, some "seen", 0.25, now⟩
    let chain : Chain := ⟨"task", [step], now, none⟩
    let root : Branch := ⟨"root", none, "first", [], [], .evaluated, 0.5, 0, now⟩
    let leaf : Branch := ⟨"leaf", some "root", "second", ["try"], ["done"], .selected, 1, 1, now⟩
    let tree : Tree := ⟨"task", -1, -1, [root, leaf], now, some now, some "leaf"⟩
    Chain.ofJson? chain.toJson = some chain ∧
      Chain.ofJson? { chain with steps := [{ step with confidence := 1 / 0 }] }.toJson = none ∧
      Tree.ofJson? tree.toJson = some tree ∧
      Tree.ofJson? { tree with branches := [root, { leaf with score := 0 / 0 }] }.toJson = none := by
  intro now step chain root leaf tree
  obtain ⟨chains, trees⟩ := records_read_back
  have quarter : (0.25 : Float).isFinite = true := by decide
  have half : (0.5 : Float).isFinite = true := by decide
  have one : (1 : Float).isFinite = true := by decide
  have infinite : (1 / 0 : Float).isInf = true := by decide
  have nan : (0 / 0 : Float).isNaN = true := by decide
  refine ⟨((chains chain).1 ?_).1, (chains _).2.1 ⟨_, List.mem_singleton_self _, .inr infinite⟩,
    ((trees tree).1 ?_).1, (trees _).2.1 ⟨_, List.mem_cons_of_mem _ (List.mem_singleton_self _), .inl nan⟩⟩
  · exact List.forall_mem_singleton.mpr quarter
  · exact List.forall_mem_cons.mpr ⟨half, List.forall_mem_singleton.mpr one⟩

end Deliberation
