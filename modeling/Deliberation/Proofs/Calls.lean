import Deliberation.Proofs.Escalation
import Deliberation.Run.Drive
/-! What one call does to a session. A call is counted, its result decides which totals move and how
the call ends, and only then does the controller hear of it. -/

namespace Deliberation

/-- An element of a list is its last one, or stands among those before the last. -/
theorem cases_of_append_cons_eq_concat {α : Type} {earlier later front : List α} {x last : α}
    (whole : earlier ++ x :: later = front ++ [last]) :
    (later = [] ∧ earlier = front ∧ x = last) ∨
      ∃ middle, later = middle ++ [last] ∧ front = earlier ++ x :: middle := by
  obtain rfl | ⟨middle, newest, rfl⟩ := later.eq_nil_or_concat
  · obtain ⟨same, alone⟩ := List.append_inj' whole rfl
    exact .inl ⟨rfl, same, List.singleton_inj.mp alone⟩
  · rw [List.concat_eq_append, ← List.cons_append, ← List.append_assoc] at whole
    obtain ⟨same, alone⟩ := List.append_inj' whole rfl
    obtain rfl := List.singleton_inj.mp alone
    exact .inr ⟨middle, List.concat_eq_append, same.symm⟩

def CallResult.completion? : CallResult → Option Completion
  | .completed completion => some completion
  | .failed _ | .timedOut => none

def CallResult.answer? (r : CallResult) : Option String :=
  r.completion?.bind fun completion => (Reply.assess completion.text).finalAnswer

def CallResult.isFailed (r : CallResult) : Bool :=
  r.completion?.isNone

/-- Whether a reply is not what a mode asks for: too few reasoned steps, or no approach. -/
def Mode.rejects (mode : Mode) (minSteps : UInt64) (text : String) : Bool :=
  match mode with
  | .adaptive => false
  | .chain => !(Reply.check text minSteps.toNat).valid
  | .tree => (Reply.approaches text).isEmpty

/-- Whether a call was in time with a reply that neither finishes the task nor is what the mode asks
for. -/
def CallResult.isRejected (mode : Mode) (minSteps : UInt64) (r : CallResult) : Bool :=
  r.completion?.any fun completion =>
    (Reply.assess completion.text).finalAnswer.isNone && mode.rejects minSteps completion.text

/-- Whether a call counts as an error. -/
def CallResult.isError (mode : Mode) (minSteps : UInt64) (r : CallResult) : Bool :=
  r.isFailed || r.isRejected mode minSteps

def Workspace.mode : Workspace → Mode
  | .free => .adaptive
  | .chain _ => .chain
  | .tree _ => .tree

structure Report where
  metrics : Metrics
  completes : Bool

namespace Controller

/-- The controller after a report. Where the task is finished it merely records the metrics. -/
def hear (c : Controller) (r : Report) (now : Instant) : Controller :=
  if r.completes then c.record r.metrics else (c.update r.metrics now).value.1

theorem hear_cases (c : Controller) (r : Report) (now : Instant) :
    c.hear r now = c.record r.metrics ∨
      r.completes = false ∧ c.isSpent = false ∧
        ∃ reason, c.hear r now = (c.record r.metrics).climb reason now := by
  unfold hear
  cases completes : r.completes with
  | true => exact .inl rfl
  | false =>
    obtain same | climbed := c.update_cases r.metrics now
    · exact .inl same
    · exact .inr ⟨rfl, climbed⟩

theorem metrics_hear (c : Controller) (r : Report) (now : Instant) :
    (c.hear r now).metrics = r.metrics := by
  obtain same | ⟨-, -, reason, climbed⟩ := c.hear_cases r now
  · rw [same]
    rfl
  · rw [climbed]
    rfl

theorem Coherent.hear {c : Controller} (h : c.Coherent) (r : Report) (now : Instant) :
    (c.hear r now).Coherent := by
  obtain same | ⟨-, room, reason, climbed⟩ := c.hear_cases r now
  · rw [same]
    exact h.record r.metrics
  · rw [climbed]
    exact (h.record r.metrics).climb room reason now

theorem catalog_hear (c : Controller) (r : Report) (now : Instant) :
    (c.hear r now).catalog = c.catalog := by
  obtain same | ⟨-, -, reason, climbed⟩ := c.hear_cases r now
  · rw [same]
    rfl
  · rw [climbed]
    rfl

end Controller

namespace Tree

variable {t : Tree} {parentId : Option String}

/-- The depth of a new branch under a parent, which a word may have no room for. -/
def depthUnder (t : Tree) (parentId : Option String) : Nat :=
  match parentId.bind t.get? with
  | some parent => parent.depth.toNat + 1
  | none => 0

/-- The notices that a new branch cannot hang below its parent, as that is not known. -/
def lostParent (t : Tree) (parentId : Option String) : List Notice :=
  match parentId, parentId.bind t.get? with
  | some id, none => [.unknownParent id]
  | _, _ => []

def bareBranch (t : Tree) (thought : String) (parentId : Option String) (now : Instant) : Branch where
  id := idAt t.branches.length
  parent := (parentId.bind t.get?).map Branch.id
  thought := thought
  actions := []
  observations := []
  status := .exploring
  score := 0
  depth := UInt32.ofNat (t.depthUnder parentId)
  createdAt := now

theorem nextBranch_of_lt (thought : String) (now : Instant) (fits : t.depthUnder parentId < UInt32.size) :
    t.nextBranch thought (parentId.bind t.get?) now = .ok (t.bareBranch thought parentId now) := by
  unfold nextBranch bareBranch
  cases known : parentId.bind t.get? with
  | none =>
    simp only [depthUnder, known]
    rfl
  | some p =>
    simp only [depthUnder, known] at fits ⊢
    rw [fit32_of_lt fits]
    rfl

theorem nextBranch_of_le (thought : String) (now : Instant) (deep : UInt32.size ≤ t.depthUnder parentId) :
    t.nextBranch thought (parentId.bind t.get?) now = .error {} := by
  unfold nextBranch
  cases known : parentId.bind t.get? with
  | none =>
    simp only [depthUnder, known] at deep
    contradiction
  | some p =>
    simp only [depthUnder, known] at deep ⊢
    rw [fit32_eq_error_iff.mpr deep]
    rfl

/-- A tree refuses every branch under a parent: it is full, or the branch would lie too deep. -/
def Refuses (t : Tree) (parentId : Option String) : Prop :=
  t.hasCapacity = false ∨
    t.depthUnder parentId < UInt32.size ∧ t.maxDepth.toNat ≤ t.depthUnder parentId

def refusal (t : Tree) (parentId : Option String) : List Notice :=
  if t.hasCapacity then
    t.lostParent parentId ++ [.depthLimit (UInt32.ofNat (t.depthUnder parentId)) t.maxDepth]
  else [.branchLimit t.maxBranches]

section
variable (grow : Branch → Branch) (thought : String) (now : Instant)

theorem createWith_of_refuses (refused : t.Refuses parentId) :
    t.createWith grow thought parentId now = .ok ⟨(t, none), t.refusal parentId⟩ := by
  obtain full | ⟨fits, deep⟩ := refused
  · simp only [createWith, refusal, full, Bool.not_false, if_true, Bool.false_eq_true, if_false]
  · cases room : t.hasCapacity with
    | false => simp only [createWith, refusal, room, Bool.not_false, if_true, Bool.false_eq_true, if_false]
    | true =>
      have limit : t.maxDepth ≤ (t.bareBranch thought parentId now).depth := by
        rw [UInt32.le_iff_toNat_le, bareBranch, UInt32.toNat_ofNat_of_lt' fits]
        exact deep
      simp only [createWith, refusal, room, Bool.not_true, Bool.false_eq_true, if_false, if_true,
        nextBranch_of_lt thought now fits, Except.map, if_pos limit]
      rfl

theorem createWith_of_overflow (room : t.hasCapacity = true) (deep : UInt32.size ≤ t.depthUnder parentId) :
    t.createWith grow thought parentId now = .error {} := by
  simp only [createWith, room, Bool.not_true, Bool.false_eq_true, if_false,
    nextBranch_of_le thought now deep, Except.map]

theorem createWith_of_room (room : t.hasCapacity = true)
    (shallow : t.depthUnder parentId < t.maxDepth.toNat) :
    let b := grow (t.bareBranch thought parentId now)
    t.createWith grow thought parentId now =
      .ok ⟨({ t with branches := t.branches ++ [b] }, some b), t.lostParent parentId⟩ := by
  have fits : t.depthUnder parentId < UInt32.size := Nat.lt_trans shallow t.maxDepth.toNat_lt
  have above : ¬t.maxDepth ≤ (t.bareBranch thought parentId now).depth := by
    rw [UInt32.le_iff_toNat_le, bareBranch, UInt32.toNat_ofNat_of_lt' fits]
    exact Nat.not_le.mpr shallow
  simp only [createWith, room, Bool.not_true, Bool.false_eq_true, if_false,
    nextBranch_of_lt thought now fits, Except.map, if_neg above]
  rfl

/-- A branch is refused, or its depth has no room in its word, or it comes at the end. -/
theorem createWith_cases (t : Tree) (parentId : Option String) :
    t.Refuses parentId ∧ t.createWith grow thought parentId now = .ok ⟨(t, none), t.refusal parentId⟩ ∨
    t.hasCapacity = true ∧ UInt32.size ≤ t.depthUnder parentId ∧
      t.createWith grow thought parentId now = .error {} ∨
    t.hasCapacity = true ∧ t.depthUnder parentId < t.maxDepth.toNat ∧
      let b := grow (t.bareBranch thought parentId now)
      t.createWith grow thought parentId now =
        .ok ⟨({ t with branches := t.branches ++ [b] }, some b), t.lostParent parentId⟩ := by
  cases room : t.hasCapacity with
  | false => exact .inl ⟨.inl room, createWith_of_refuses grow thought now (.inl room)⟩
  | true =>
    by_cases fits : t.depthUnder parentId < UInt32.size
    · by_cases shallow : t.depthUnder parentId < t.maxDepth.toNat
      · exact .inr (.inr ⟨rfl, shallow, createWith_of_room grow thought now room shallow⟩)
      · have refused : t.Refuses parentId := .inr ⟨fits, Nat.le_of_not_lt shallow⟩
        exact .inl ⟨refused, createWith_of_refuses grow thought now refused⟩
    · have deep := Nat.le_of_not_lt fits
      exact .inr (.inl ⟨rfl, deep, createWith_of_overflow grow thought now room deep⟩)

end

/-- Neither the thought of a branch nor what becomes of it has a part in whether it is refused. -/
theorem refuses_iff {grow : Branch → Branch} {thought : String} {now : Instant} :
    t.Refuses parentId ↔
      ∃ made, t.createWith grow thought parentId now = .ok made ∧ made.value.2 = none := by
  constructor
  · exact fun refused => ⟨_, createWith_of_refuses grow thought now refused, rfl⟩
  · rintro ⟨made, same, unmade⟩
    obtain ⟨refused, -⟩ | ⟨-, -, overflows⟩ | ⟨-, -, created⟩ :=
      createWith_cases grow thought now t parentId
    · exact refused
    · exact nomatch overflows.symm.trans same
    · obtain rfl := Except.ok.inj (created.symm.trans same)
      exact nomatch unmade

end Tree

namespace Session

section
variable {t : Tree} {parentId : Option String} (a : Reply.StatedApproach) (rest : List Reply.StatedApproach)
  (now : Instant)

theorem recordApproaches_of_refuses (refused : t.Refuses parentId) :
    recordApproaches t parentId now (a :: rest) = .ok ⟨(t, 0), t.refusal parentId⟩ := by
  rw [recordApproaches, Tree.createWith_of_refuses _ _ _ refused]
  rfl

theorem recordApproaches_of_overflow (room : t.hasCapacity = true)
    (deep : UInt32.size ≤ t.depthUnder parentId) :
    recordApproaches t parentId now (a :: rest) = .error {} := by
  rw [recordApproaches, Tree.createWith_of_overflow _ _ _ room deep]
  rfl

theorem recordApproaches_of_room (room : t.hasCapacity = true)
    (shallow : t.depthUnder parentId < t.maxDepth.toNat) :
    let b := recordedBranch a (t.bareBranch a.approach parentId now)
    recordApproaches t parentId now (a :: rest) =
      (recordApproaches { t with branches := t.branches ++ [b] } parentId now rest).map fun later =>
        ⟨(later.value.1, later.value.2 + 1), t.lostParent parentId ++ later.notices⟩ := by
  intro b
  rw [recordApproaches, Tree.createWith_of_room _ _ _ room shallow]
  rfl

/-- Recording some approaches creates no branch exactly where each of them would be refused. -/
theorem recordApproaches_eq_zero :
    (∃ grown, recordApproaches t parentId now (a :: rest) = .ok grown ∧ grown.value.2 = 0) ↔
      t.Refuses parentId := by
  constructor
  · rintro ⟨grown, recorded, unmade⟩
    obtain ⟨refused, -⟩ | ⟨room, deep, -⟩ | ⟨room, shallow, -⟩ :=
      Tree.createWith_cases id a.approach now t parentId
    · exact refused
    · exact nomatch (recordApproaches_of_overflow a rest now room deep).symm.trans recorded
    · rw [recordApproaches_of_room a rest now room shallow] at recorded
      obtain ⟨later, -, rfl⟩ := except_map_eq_ok_iff.mp recorded
      exact absurd unmade (Nat.succ_ne_zero _)
  · exact fun refused => ⟨_, recordApproaches_of_refuses a rest now refused, rfl⟩

end

/-- What taking in an output leaves alone, and that it counts what it rejects. -/
structure Writes (s t : Session) (rejected : Bool) : Prop where
  settings : t.settings = s.settings
  controller : t.controller = s.controller
  mode : t.workspace.mode = s.workspace.mode
  iterations : t.iterations = s.iterations
  errors : t.errors = if rejected then s.errors + 1 else s.errors
  failures : t.consecutiveFailures = s.consecutiveFailures
  usage : t.usage = s.usage

variable {s : Session} {text : String} {a : Reply.Assessment} {now : Instant}

theorem absorbChain_writes {c : Chain} (workspace : s.workspace = .chain c)
    (fits : (s.absorbChain c text a now).value.2 ≠ .overflow) :
    s.Writes (s.absorbChain c text a now).value.1
      (a.finalAnswer.isNone && Mode.chain.rejects s.settings.cotMinSteps text) := by
  have mode : Mode.chain = s.workspace.mode := by rw [workspace]; rfl
  rw [absorbChain] at fits ⊢
  cases recorded : recordSteps c (Reply.steps text) now with
  | error =>
    rw [recorded] at fits
    exact absurd rfl fits
  | ok d =>
    simp only [Mode.rejects]
    split
    · rename_i rejected
      exact ⟨rfl, rfl, mode, rfl, by rw [if_pos rejected], rfl, rfl⟩
    · rename_i accepted
      exact ⟨rfl, rfl, mode, rfl, by rw [if_neg accepted], rfl, rfl⟩

theorem absorbTree_writes {t : Tree} (workspace : s.workspace = .tree t) :
    s.Writes (s.absorbTree t text a now).value.1
      (a.finalAnswer.isNone && Mode.tree.rejects s.settings.cotMinSteps text) := by
  have mode : Mode.tree = s.workspace.mode := by rw [workspace]; rfl
  simp only [absorbTree, Mode.rejects]
  cases Reply.approaches text with
  | nil => cases a.finalAnswer <;> exact ⟨rfl, rfl, rfl, rfl, rfl, rfl, rfl⟩
  | cons first rest =>
    simp only [List.isEmpty_cons, Bool.and_false]
    cases recordApproaches t t.selectedId now (first :: rest) with
    | error => exact ⟨rfl, rfl, rfl, rfl, rfl, rfl, rfl⟩
    | ok grown =>
      dsimp only
      split
      · exact ⟨rfl, rfl, mode, rfl, rfl, rfl, rfl⟩
      · split <;> exact ⟨rfl, rfl, mode, rfl, rfl, rfl, rfl⟩

theorem absorbText_writes (fits : (s.absorbText text a now).value.2 ≠ .overflow) :
    s.Writes (s.absorbText text a now).value.1
      (a.finalAnswer.isNone && s.workspace.mode.rejects s.settings.cotMinSteps text) := by
  unfold absorbText at fits ⊢
  split
  · rename_i workspace
    simp only [workspace, Workspace.mode, Mode.rejects, Bool.and_false]
    exact ⟨rfl, rfl, rfl, rfl, rfl, rfl, rfl⟩
  · rename_i c workspace
    rw [workspace] at fits ⊢
    exact absorbChain_writes workspace fits
  · rename_i t workspace
    rw [workspace]
    exact absorbTree_writes workspace

/-- A reply exhausts a tree where it states approaches and none of them can become a branch below
the selected one. -/
def Exhausts (s : Session) (now : Instant) (text : String) : Prop :=
  ∃ t, s.workspace = .tree t ∧ Reply.approaches text ≠ [] ∧
    ∀ a ∈ Reply.approaches text,
      ∃ made, t.create a.approach t.selectedId now = .ok made ∧ made.value.2 = none

theorem absorbTree_eq_treeExhausted {t : Tree} :
    (s.absorbTree t text a now).value.2 = .treeExhausted ↔
      a.finalAnswer = none ∧ Reply.approaches text ≠ [] ∧ t.Refuses t.selectedId := by
  unfold absorbTree
  cases Reply.approaches text with
  | nil => cases a.finalAnswer <;> simp
  | cons first rest =>
    rw [← recordApproaches_eq_zero first rest now]
    dsimp only
    cases recordApproaches t t.selectedId now (first :: rest) with
    | error => simp
    | ok grown =>
      by_cases created : grown.value.2 = 0
      · cases a.finalAnswer <;> simp [created]
      · simp only [created, if_false]
        split <;> simp [created]

theorem absorbText_eq_treeExhausted :
    (s.absorbText text a now).value.2 = .treeExhausted ↔
      a.finalAnswer = none ∧ s.Exhausts now text := by
  unfold absorbText Exhausts
  cases s.workspace with
  | free => simp
  | chain c =>
    dsimp only [absorbChain]
    cases recordSteps c (Reply.steps text) now with
    | error => simp
    | ok d =>
      dsimp only
      split <;> simp
  | tree t =>
    dsimp only
    simp only [absorbTree_eq_treeExhausted, Workspace.tree.injEq, exists_eq_left', Tree.create,
      ← Tree.refuses_iff]
    refine and_congr_right fun _ => and_congr_right fun stated => ?_
    obtain ⟨first, rest, whole⟩ := List.exists_cons_of_ne_nil stated
    exact ⟨fun refused _ _ => refused, fun all => all first (whole ▸ List.mem_cons_self)⟩

/-- What a call counts, and what it leaves alone. -/
structure Counts (s t : Session) (result : CallResult) : Prop where
  settings : t.settings = s.settings
  mode : t.workspace.mode = s.workspace.mode
  iterations : t.iterations = s.iterations + 1
  errors : t.errors =
    if result.isError s.workspace.mode s.settings.cotMinSteps then s.errors + 1 else s.errors
  failures : t.consecutiveFailures = if result.isFailed then s.consecutiveFailures + 1 else 0
  usage : t.usage = match result.completion?.bind Completion.usage with
    | none => s.usage
    | some usage => s.usage + usage
  lastOutput : t.lastOutput = (result.completion?.map Completion.text).getD s.lastOutput

/-- The session that takes in a completion: the call is counted, and the failures before it are over. -/
def counted (s : Session) (completion : Completion) : Session :=
  { s with
    iterations := s.iterations + 1
    consecutiveFailures := 0
    usage := match completion.usage with
      | none => s.usage
      | some usage => s.usage + usage }

/-- A completion is written down before it is looked at for a final answer. -/
theorem take_completed (s : Session) (call : Call) (completion : Completion) (now : Instant) :
    let a := Reply.assess completion.text
    let written := ((s.counted completion).absorbText completion.text a now).value
    let t := { written.1 with lastOutput := completion.text }
    (s.take call (.completed completion) now).value =
      match written.2, a.finalAnswer with
      | .overflow, _ => (t, .overflow)
      | .treeExhausted, _ => (t, .treeExhausted)
      | .goOn, some answer => ({ t with progress := 1 }, .answered answer)
      | .goOn, none => (t, .goOn) := by
  intro a written t
  unfold take
  dsimp only
  change (match written.2, a.finalAnswer with
    | .overflow, _ => (⟨(t, .overflow), _⟩ : Noted (Session × Ending))
    | .treeExhausted, _ => ⟨(t, .treeExhausted), _⟩
    | .goOn, some answer => ⟨({ t with progress := 1 }, .answered answer), _⟩
    | .goOn, none => ⟨(t, .goOn), _⟩).value = _
  split <;> rfl

variable {call : Call} {result : CallResult}

theorem take_eq_overflow :
    (s.take call result now).value.2 = .overflow ↔
      ∃ completion, result = .completed completion ∧
        ((s.counted completion).absorbText completion.text (Reply.assess completion.text) now).value.2 =
          .overflow := by
  cases result with
  | failed error => simp [take]
  | timedOut => simp [take]
  | completed completion =>
    rw [take_completed]
    simp only [CallResult.completed.injEq, exists_eq_left']
    split
    · rename_i overflows
      simp [overflows]
    · rename_i stops
      simp [stops]
    · rename_i goesOn _
      simp [goesOn]
    · rename_i goesOn _
      simp [goesOn]

section
variable (fits : (s.take call result now).value.2 ≠ .overflow)
include fits

theorem take_counts : s.Counts (s.take call result now).value.1 result := by
  cases result with
  | failed error => exact ⟨rfl, rfl, rfl, rfl, rfl, rfl, rfl⟩
  | timedOut => exact ⟨rfl, rfl, rfl, rfl, rfl, rfl, rfl⟩
  | completed completion =>
    have written := absorbText_writes fun overflows => fits (take_eq_overflow.mpr ⟨_, rfl, overflows⟩)
    rw [take_completed]
    split <;> exact ⟨written.settings, written.mode, written.iterations, written.errors,
      written.failures, written.usage, rfl⟩

theorem take_controller : (s.take call result now).value.1.controller = s.controller := by
  cases result with
  | failed error => rfl
  | timedOut => rfl
  | completed completion =>
    have written := absorbText_writes fun overflows => fits (take_eq_overflow.mpr ⟨_, rfl, overflows⟩)
    rw [take_completed]
    split <;> exact written.controller

end

def withController (s : Session) (c : Controller) : Session :=
  { s with controller := c }

theorem absorbChain_withController (s : Session) (controller : Controller) (c : Chain) (text : String)
    (a : Reply.Assessment) (now : Instant) :
    ((s.withController controller).absorbChain c text a now).value =
      ((s.absorbChain c text a now).value.1.withController controller,
        (s.absorbChain c text a now).value.2) := by
  unfold absorbChain
  cases recordSteps c (Reply.steps text) now with
  | error => rfl
  | ok d =>
    cases rejected : a.finalAnswer.isNone && !(Reply.check text s.settings.cotMinSteps.toNat).valid with
    | true => simp only [withController, rejected, if_true]
    | false => simp only [withController, rejected, Bool.false_eq_true, if_false]

theorem absorbTree_withController (s : Session) (controller : Controller) (t : Tree) (text : String)
    (a : Reply.Assessment) (now : Instant) :
    ((s.withController controller).absorbTree t text a now).value =
      ((s.absorbTree t text a now).value.1.withController controller,
        (s.absorbTree t text a now).value.2) := by
  unfold absorbTree
  cases Reply.approaches text with
  | nil => cases a.finalAnswer <;> rfl
  | cons first rest =>
    dsimp only
    cases recordApproaches t t.selectedId now (first :: rest) with
    | error => rfl
    | ok grown =>
      dsimp only
      by_cases created : grown.value.2 = 0
      · simp only [if_pos created]
        rfl
      · simp only [if_neg created]
        split <;> rfl

/-- The controller of a session has no part in taking in an output. -/
theorem absorbText_withController (s : Session) (c : Controller) (text : String) (a : Reply.Assessment)
    (now : Instant) :
    ((s.withController c).absorbText text a now).value =
      ((s.absorbText text a now).value.1.withController c, (s.absorbText text a now).value.2) := by
  have workspace : (s.withController c).workspace = s.workspace := rfl
  simp only [absorbText, workspace]
  cases s.workspace with
  | free => rfl
  | chain chain => exact absorbChain_withController ..
  | tree t => exact absorbTree_withController ..

theorem take_withController (s : Session) (c : Controller) (call : Call) (result : CallResult)
    (now : Instant) :
    ((s.withController c).take call result now).value =
      ((s.take call result now).value.1.withController c, (s.take call result now).value.2) := by
  cases result with
  | failed error => rfl
  | timedOut => rfl
  | completed completion =>
    have same := (s.counted completion).absorbText_withController c completion.text
      (Reply.assess completion.text) now
    have counted : (s.withController c).counted completion = (s.counted completion).withController c :=
      rfl
    rw [take_completed, take_completed, counted, same]
    dsimp only
    split <;> rfl

theorem answer?_of_take_eq_answered {text : String}
    (answered : (s.take call result now).value.2 = .answered text) : result.answer? = some text := by
  cases result with
  | failed error => exact nomatch answered
  | timedOut => exact nomatch answered
  | completed completion =>
    rw [take_completed] at answered
    simp only [CallResult.answer?, CallResult.completion?, Option.bind_some]
    split at answered
    · exact nomatch answered
    · exact nomatch answered
    · rename_i found
      exact found.trans (congrArg some (Ending.answered.inj answered))
    · exact nomatch answered

theorem take_eq_answered (fits : (s.take call result now).value.2 ≠ .overflow) {text : String} :
    (s.take call result now).value.2 = .answered text ↔ result.answer? = some text := by
  refine ⟨answer?_of_take_eq_answered, fun answered => ?_⟩
  cases result with
  | failed error => exact nomatch answered
  | timedOut => exact nomatch answered
  | completed completion =>
    have answered : (Reply.assess completion.text).finalAnswer = some text := answered
    have unstopped : ((s.counted completion).absorbText completion.text (Reply.assess completion.text)
        now).value.2 = .goOn := by
      cases came : ((s.counted completion).absorbText completion.text (Reply.assess completion.text)
          now).value.2 with
      | goOn => rfl
      | overflow => exact absurd (take_eq_overflow.mpr ⟨_, rfl, came⟩) fits
      | treeExhausted =>
        exact nomatch (absorbText_eq_treeExhausted.mp came).1.symm.trans answered
    rw [take_completed]
    simp only [unstopped, answered]

theorem take_eq_failed :
    (s.take call result now).value.2 = .failed ↔ result.isFailed = true := by
  cases result with
  | failed error => simp [take, CallResult.isFailed, CallResult.completion?]
  | timedOut => simp [take, CallResult.isFailed, CallResult.completion?]
  | completed completion =>
    rw [take_completed]
    simp only [CallResult.isFailed, CallResult.completion?, Option.isNone_some, Bool.false_eq_true]
    split <;> simp

theorem take_eq_treeExhausted :
    (s.take call result now).value.2 = .treeExhausted ↔
      ∃ completion, result = .completed completion ∧ result.answer? = none ∧
        s.Exhausts now completion.text := by
  cases result with
  | failed error => simp [take]
  | timedOut => simp [take]
  | completed completion =>
    have exhausted : ((s.counted completion).absorbText completion.text (Reply.assess completion.text)
        now).value.2 = .treeExhausted ↔
        (Reply.assess completion.text).finalAnswer = none ∧ s.Exhausts now completion.text :=
      absorbText_eq_treeExhausted
    rw [take_completed]
    simp only [CallResult.completed.injEq, exists_eq_left', CallResult.answer?,
      CallResult.completion?, Option.bind_some, ← exhausted]
    split
    · rename_i overflows
      simp [overflows]
    · rename_i stops
      simp [stops]
    · rename_i goesOn _
      simp [goesOn]
    · rename_i goesOn _
      simp [goesOn]

def report (s : Session) (result : CallResult) (elapsed : Nat) : Report :=
  ⟨s.metrics elapsed, result.answer?.isSome⟩

theorem absorb_ending (s : Session) (call : Call) (result : CallResult) (elapsed : Nat) (now : Instant) :
    (s.absorb call result elapsed now).value.2 = (s.take call result now).value.2 := by
  unfold absorb
  dsimp only
  split
  · rfl
  · rfl
  · rfl

theorem absorb_value {elapsed : Nat} (fits : (s.absorb call result elapsed now).value.2 ≠ .overflow) :
    let taken := (s.take call result now).value
    (s.absorb call result elapsed now).value =
      (taken.1.withController (s.controller.hear (taken.1.report result elapsed) now), taken.2) := by
  rw [absorb_ending] at fits
  simp only [absorb, Controller.hear, report, take_controller fits]
  split
  · rename_i overflows
    exact absurd overflows fits
  · rename_i text ending
    simp [(take_eq_answered fits).mp ending, withController]
  · rename_i ending
    have unanswered : result.answer? = none := by
      cases h : result.answer? with
      | none => rfl
      | some text => exact absurd ((take_eq_answered fits).mpr h) (ending text)
    simp [unanswered, withController]

end Session

end Deliberation
