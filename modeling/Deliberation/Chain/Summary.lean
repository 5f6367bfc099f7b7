import Deliberation.Chain.Basic
import Deliberation.Numeric.Fixed
import Deliberation.Text.Lines
import Deliberation.Text.Preview
import Deliberation.Time.Elapsed
/-! The summary of a chain of thought. -/

namespace Deliberation

def Step.previewLength : Nat := 80

def Step.summary (s : Step) : String :=
  "  " ++ toString s.number.toNat ++ ". " ++ Text.preview previewLength s.thought ++
    " (confidence: " ++ Fixed.text 2 s.confidence ++ ")"

namespace Chain

def summaryWith (duration : String) (c : Chain) : String :=
  Text.unlines <| [
    "Task: " ++ c.task,
    "Steps: " ++ toString c.steps.length,
    "Duration: " ++ duration ++ "s",
    "Average confidence: " ++ Fixed.text 2 c.averageConfidence] ++
    c.steps.map Step.summary

def summary (c : Chain) (now : Instant) : String :=
  c.summaryWith (Instant.secondsText c.startedAt (c.completedAt.getD now))

end Chain

end Deliberation
