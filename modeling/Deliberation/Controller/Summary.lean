import Deliberation.Controller.Basic
import Deliberation.Numeric.Fixed
import Deliberation.Text.Lines
import Deliberation.Time.Elapsed
/-! The wording of escalation reasons, the update step that uses it, and the summary of a session. -/

namespace Deliberation

def Trigger.reason : Trigger → String
  | .errors count => "Stuck: " ++ toString count.toNat ++ " errors encountered"
  | .stuck progress iterations =>
    "Stuck: progress " ++ Fixed.text 2 progress ++ " after " ++ toString iterations.toNat ++
      " iterations"
  | .exhausted strategy progress iterations =>
    strategy.name ++ " strategy exhausted: progress " ++ Fixed.text 2 progress ++ " after " ++
      toString iterations.toNat ++ " iterations"

namespace Controller

/-- Replaces the metrics and escalates where they call for it. Gives the new strategy if it did. -/
def update (c : Controller) (m : Metrics) (now : Instant) : Noted (Controller × Option Strategy) :=
  let recorded := c.record m
  match recorded.trigger? with
  | none => ⟨(recorded, none), []⟩
  | some trigger =>
    let step := recorded.escalate trigger.reason now
    ⟨(step.value.1, step.value.2.map Policy.strategy), step.notices⟩

def updateMetrics (c : Controller) (iterationsUsed : UInt32) (timeElapsed : Float)
    (errorsEncountered : UInt32) (progress confidence : Float) (now : Instant) :
    Noted (Controller × Option Strategy) :=
  c.update { iterationsUsed, timeElapsed, errorsEncountered, progress, confidence } now

def transitionLines (transitions : List Transition) : List String :=
  transitions.zipIdx.map fun (t, i) =>
    "  " ++ toString (i + 1) ++ ". " ++ t.source.name ++ " -> " ++ t.target.name ++
      " at iteration " ++ toString t.iteration.toNat ++ ": " ++ t.reason

/-- The summary of a session, with the texts for its duration and for the time in its metrics. -/
def summaryWith (duration elapsed : String) (c : Controller) : String :=
  let m := c.metrics
  Text.unlines <| [
    "Task: " ++ c.task,
    "Complexity: " ++ c.complexity.name,
    "Duration: " ++ duration ++ "s",
    "Strategy: " ++ c.initialStrategy.name ++ " -> " ++ c.currentStrategy.name,
    "Escalations: " ++ toString c.escalationCount.toNat ++ "/" ++ toString c.maxEscalations.toNat,
    "Metrics: iterations=" ++ toString m.iterationsUsed.toNat ++ ", elapsed=" ++ elapsed ++
      "s, errors=" ++ toString m.errorsEncountered.toNat ++ ", progress=" ++
      Fixed.text 2 m.progress ++ ", confidence=" ++ Fixed.text 2 m.confidence] ++
    if c.transitions.isEmpty then ["Transitions: none"]
    else "Transitions:" :: transitionLines c.transitions

def elapsedText (c : Controller) : String :=
  Fixed.text 1 c.metrics.timeElapsed

def summary (c : Controller) (now : Instant) : String :=
  c.summaryWith (Instant.secondsText c.startedAt now) c.elapsedText

end Controller

end Deliberation
