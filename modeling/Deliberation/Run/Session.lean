import Deliberation.Chain.Basic
import Deliberation.Chat.Usage
import Deliberation.Controller.Summary
import Deliberation.Reply.Approaches
import Deliberation.Reply.Assessment
import Deliberation.Run.Instructions
import Deliberation.Run.Settings
import Deliberation.Tree.Selection
/-! The state of a run between two calls. A session asks for one call after another: `turn` says what
comes next at a given time, and `absorb` takes in what came of a call. -/

namespace Deliberation

/-- What a run writes down on its way, which depends on its mode. -/
inductive Workspace where
  | free
  | chain (chain : Chain)
  | tree (tree : Tree)
deriving DecidableEq

structure Session where
  settings : RunSettings
  controller : Controller
  workspace : Workspace
  iterations : UInt32 := 0
  errors : UInt32 := 0
  consecutiveFailures : UInt32 := 0
  progress : Float := 0
  confidence : Float := 0
  usage : Usage := {}
  lastOutput : String := ""

structure Prompt where
  mode : Mode
  body : String
deriving DecidableEq, Repr

def Prompt.text (p : Prompt) : String :=
  p.mode.instructions ++ p.body

/-- A call of the backend under a policy, with the time that is left for it in nanoseconds. -/
structure Call where
  prompt : Prompt
  policy : Policy
  maxTokens : UInt32
  remaining : Nat
deriving DecidableEq

inductive CallResult where
  | completed (completion : Completion)
  | failed (error : BackendError)
  | timedOut
deriving DecidableEq

/-- What a session does next. A policy whose time has no span in nanoseconds stops everything. -/
inductive Turn where
  | call (call : Call)
  | stop (reason : StopReason)
  | noSpan

namespace Session

def start (settings : RunSettings) (catalog : Catalog) (classify : Classifier) (task : String)
    (sessionId : String) (now : Instant) : Session :=
  let fresh := (Controller.create task settings.maxEscalations classify sessionId now).withCatalog
    catalog
  { settings
    controller := match settings.initialStrategy with
      | none => fresh
      | some s => fresh.withInitialStrategy s
    workspace := match settings.mode with
      | .adaptive => .free
      | .chain => .chain (.start task now)
      | .tree => .tree (.start task settings.treeMaxBranches settings.treeMaxDepth now) }

/-- The context of a chain: its steps, and the number to go on from. -/
def chainContext (steps : List Step) : String :=
  Text.unlines <| "Steps so far:" ::
    (steps.map fun s => "Step " ++ toString s.number.toNat ++ ": " ++ s.thought) ++
    ["Continue from Step " ++ toString (steps.length + 1) ++ "."]

def treeContext (path : List Branch) : String :=
  if path.isEmpty then "No approach has been selected yet."
  else Text.unlines <| "Current path:" ::
    path.map fun b => "- " ++ b.thought ++ " (score: " ++ Fixed.text 2 b.score ++ ")"

def outputContext (lastOutput : String) : String :=
  if lastOutput.isEmpty then "This is the first iteration."
  else "Previous iteration:\n" ++ lastOutput

/-- What the next prompt says about the work so far. -/
def context (s : Session) : String :=
  match s.workspace with
  | .free => outputContext s.lastOutput
  | .chain c => if c.steps.isEmpty then outputContext s.lastOutput else chainContext c.steps
  | .tree t => treeContext t.selectedPath

def prompt (s : Session) (p : Policy) : Prompt where
  mode := s.settings.mode
  body := "\n\nTask: " ++ s.controller.task ++ "\n\nStrategy: " ++ p.strategy.name ++ " (" ++
    p.description ++ ")\nIteration " ++ toString (s.iterations.toNat + 1) ++ " of " ++
    toString p.maxIterations.toNat ++ "\n\n" ++ s.context

/-- What comes next when the given time has passed since the start. The ceiling of the current policy
is looked at first, and then its time. -/
def turn (s : Session) (elapsed : Nat) : Turn :=
  let policy := s.controller.currentPolicy
  if policy.maxIterations ≤ s.iterations then .stop .iterationCeiling
  else match policy.budget? with
    | none => .noSpan
    | some budget =>
      if budget ≤ elapsed then .stop .timeout
      else .call ⟨s.prompt policy, policy, s.settings.maxTokens, budget - elapsed⟩

theorem iterations_lt_of_turn_eq_call {s : Session} {elapsed : Nat} {call : Call}
    (h : s.turn elapsed = .call call) :
    s.iterations < s.controller.currentPolicy.maxIterations := by
  simp only [turn] at h
  split at h
  · simp at h
  · rename_i hle
    exact UInt32.not_le.1 hle

/-- What the output of one call comes to, before its final answer is looked at. -/
inductive Progressing where
  | goOn
  | treeExhausted
  | overflow
deriving DecidableEq

/-- The thought that is recorded for a stated step, with its reasoning in brackets. -/
def recordedThought (step : Reply.StatedStep) : String :=
  if step.reasoning.isEmpty then step.thought
  else step.thought ++ " (" ++ step.reasoning ++ ")"

def recordSteps (c : Chain) (steps : List Reply.StatedStep) (now : Instant) :
    Except Overflow Chain :=
  steps.foldlM (fun c step => c.addStep (recordedThought step) none none step.confidence now) c

/-- Takes in the output of a call in chain mode. Output that does not finish the task has to hold
enough reasoned steps, or it counts as an error. -/
def absorbChain (s : Session) (c : Chain) (text : String) (a : Reply.Assessment) (now : Instant) :
    Noted (Session × Progressing) :=
  match recordSteps c (Reply.steps text) now with
  | .error _ => ⟨(s, .overflow), []⟩
  | .ok c =>
    let minSteps := s.settings.cotMinSteps
    let rejected := a.finalAnswer.isNone && !(Reply.check text minSteps.toNat).valid
    let s := { s with
      workspace := .chain c
      progress := a.progress.getD s.progress
      confidence := if c.steps.isEmpty then s.confidence else c.averageConfidence }
    if rejected then
      ⟨({ s with errors := s.errors + 1 }, .goOn), [.chainRejected s.iterations minSteps]⟩
    else ⟨(s, .goOn), []⟩

/-- The branch that records a stated approach: scored, and with an action where it has steps. -/
def recordedBranch (a : Reply.StatedApproach) (b : Branch) : Branch :=
  let acted :=
    if a.steps.isEmpty then b
    else b.addAction a.steps ("Pros: " ++ a.pros ++ "; Cons: " ++ a.cons)
  acted.evaluate a.score

/-- Creates branches for approaches until one is refused. Gives the tree, the number of branches that
were created, and the notices. -/
def recordApproaches (t : Tree) (parentId : Option String) (now : Instant) :
    List Reply.StatedApproach → Except Overflow (Noted (Tree × Nat))
  | [] => .ok ⟨(t, 0), []⟩
  | a :: rest => do
    let step ← t.createWith (recordedBranch a) a.approach parentId now
    match step.value.2 with
    | none => return ⟨(step.value.1, 0), step.notices⟩
    | some _ =>
      let later ← recordApproaches step.value.1 parentId now rest
      return ⟨(later.value.1, later.value.2 + 1), step.notices ++ later.notices⟩

/-- Takes in the output of a call in tree mode. The approaches become branches below the selected
one, and the best of them is selected. Where none can be created and the task is not finished, the
tree is exhausted. -/
def absorbTree (s : Session) (t : Tree) (text : String) (a : Reply.Assessment) (now : Instant) :
    Noted (Session × Progressing) :=
  match Reply.approaches text with
  | [] =>
    if a.finalAnswer.isSome then ⟨(s, .goOn), []⟩
    else ⟨({ s with errors := s.errors + 1 }, .goOn), [.noApproaches s.iterations]⟩
  | stated =>
    match recordApproaches t t.selectedId now stated with
    | .error _ => ⟨(s, .overflow), []⟩
    | .ok step =>
      let (t, created) := step.value
      if created = 0 then
        ⟨({ s with workspace := .tree t },
          if a.finalAnswer.isSome then .goOn else .treeExhausted), step.notices⟩
      else
        let (t, selected) := t.select Scorer.heuristic
        let s := { s with workspace := .tree t }
        match selected with
        | none => ⟨(s, .goOn), step.notices⟩
        | some b =>
          ⟨({ s with progress := b.score, confidence := a.confidence.getD b.score }, .goOn),
            step.notices⟩

def absorbFree (s : Session) (a : Reply.Assessment) : Session :=
  { s with
    progress := a.progress.getD s.progress
    confidence := a.confidence.getD s.confidence }

def absorbText (s : Session) (text : String) (a : Reply.Assessment) (now : Instant) :
    Noted (Session × Progressing) :=
  match s.workspace with
  | .free => ⟨(s.absorbFree a, .goOn), []⟩
  | .chain c => s.absorbChain c text a now
  | .tree t => s.absorbTree t text a now

/-- What a call has come to. After an overflow nothing goes on. -/
inductive Ending where
  | goOn
  | answered (text : String)
  | treeExhausted
  | failed
  | overflow
deriving DecidableEq

def take (s : Session) (call : Call) (result : CallResult) (now : Instant) :
    Noted (Session × Ending) :=
  let s := { s with iterations := s.iterations + 1 }
  match result with
  | .failed error =>
    ⟨({ s with errors := s.errors + 1, consecutiveFailures := s.consecutiveFailures + 1 }, .failed),
      [.callFailed call.policy.strategy s.iterations error]⟩
  | .timedOut =>
    ⟨({ s with errors := s.errors + 1, consecutiveFailures := s.consecutiveFailures + 1 }, .failed),
      [.callTimedOut call.policy.strategy s.iterations (call.remaining / Span.millisecond)]⟩
  | .completed completion =>
    let a := Reply.assess completion.text
    let usage := match completion.usage with
      | none => s.usage
      | some u => s.usage + u
    let step := { s with consecutiveFailures := 0, usage }.absorbText completion.text a now
    let s := { step.value.1 with lastOutput := completion.text }
    match step.value.2, a.finalAnswer with
    | .overflow, _ => ⟨(s, .overflow), step.notices⟩
    | .treeExhausted, _ => ⟨(s, .treeExhausted), step.notices⟩
    | .goOn, some answer => ⟨({ s with progress := 1 }, .answered answer), step.notices⟩
    | .goOn, none => ⟨(s, .goOn), step.notices⟩

def metrics (s : Session) (elapsed : Nat) : Metrics where
  iterationsUsed := s.iterations
  timeElapsed := Span.toSeconds elapsed
  errorsEncountered := s.errors
  progress := s.progress
  confidence := s.confidence

def stopAfter? (s : Session) : Ending → Option StopReason
  | .goOn | .overflow => none
  | .answered _ => some .completed
  | .treeExhausted => some .treeExhausted
  | .failed =>
    if s.settings.maxConsecutiveFailures ≤ s.consecutiveFailures then some .backendUnavailable
    else none

/-- The session after a call, and how the call ended. The metrics go to the controller, which may
escalate, but not where the task is finished. -/
def absorb (s : Session) (call : Call) (result : CallResult) (elapsed : Nat) (now : Instant) :
    Noted (Session × Ending) :=
  let taken := s.take call result now
  let (s, ending) := taken.value
  match ending with
  | .overflow => taken
  | .answered _ =>
    ⟨({ s with controller := s.controller.record (s.metrics elapsed) }, ending), taken.notices⟩
  | _ =>
    let updated := s.controller.update (s.metrics elapsed) now
    ⟨({ s with controller := updated.value.1 }, ending), taken.notices ++ updated.notices⟩

end Session

end Deliberation
