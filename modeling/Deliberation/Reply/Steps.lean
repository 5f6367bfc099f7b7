import Deliberation.Reply.Number
import Deliberation.Text.Lines
/-! The reasoning steps of a reply, and whether there are enough of them with a reasoning. Reading is
line by line and lenient: lines without a marker, and lines before the first step, do not count. -/

namespace Deliberation.Reply

structure StatedStep where
  thought : String
  reasoning : String := ""
  confidence : Float := 1
deriving DecidableEq

def stepMarker : List Char := "Step ".toList

def reasoningMarker : List Char := "Reasoning:".toList

def confidenceMarker : List Char := "Confidence:".toList

def openedStep? (line : List Char) : Option StatedStep :=
  (Text.after? stepMarker line).map fun _ => { thought := String.ofList (headingText line) }

/-- The step after a line below its heading. A later line of a kind overrides an earlier one, and a
confidence that cannot be read counts as full. -/
def StatedStep.extend (step : StatedStep) (line : List Char) : StatedStep :=
  match Text.after? reasoningMarker line with
  | some rest => { step with reasoning := String.ofList (Text.trim rest) }
  | none =>
    match Text.after? confidenceMarker line with
    | some rest => { step with confidence := (confidence? rest).getD 1 }
    | none => step

/-- The steps of trimmed lines that go on from an open step. -/
def stepsFrom : Option StatedStep → List (List Char) → List StatedStep
  | current, [] => current.toList
  | current, line :: rest =>
    match openedStep? line with
    | some step => current.toList ++ stepsFrom (some step) rest
    | none => stepsFrom (current.map (·.extend line)) rest

def trimmedLines (text : List Char) : List (List Char) :=
  (Text.lines text).map Text.trim

def steps (text : String) : List StatedStep :=
  stepsFrom none (trimmedLines text.toList)

structure Verdict where
  valid : Bool
  stepCount : Nat
  reasonedSteps : Nat
  reason : String
deriving DecidableEq, Repr

def StatedStep.isReasoned (step : StatedStep) : Bool :=
  Text.trim step.reasoning.toList ≠ []

/-- Checks that a reply has enough steps, and enough steps with a reasoning. -/
def check (text : String) (minSteps : Nat) : Verdict :=
  let stated := steps text
  let stepCount := stated.length
  let reasonedSteps := (stated.filter StatedStep.isReasoned).length
  if stepCount < minSteps then
    ⟨false, stepCount, reasonedSteps,
      "found " ++ toString stepCount ++ " steps, need at least " ++ toString minSteps⟩
  else if reasonedSteps < minSteps then
    ⟨false, stepCount, reasonedSteps,
      "only " ++ toString reasonedSteps ++ " of " ++ toString stepCount ++
        " steps include reasoning, need at least " ++ toString minSteps⟩
  else ⟨true, stepCount, reasonedSteps, toString reasonedSteps ++ " steps with reasoning"⟩

end Deliberation.Reply
