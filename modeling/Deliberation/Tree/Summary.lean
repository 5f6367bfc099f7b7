import Deliberation.Numeric.Fixed
import Deliberation.Text.Lines
import Deliberation.Text.Preview
import Deliberation.Time.Elapsed
import Deliberation.Tree.Selection
/-! The summary of a tree of thought. -/

namespace Deliberation

def Branch.previewLength : Nat := 60

def Branch.summary (b : Branch) : String :=
  "  [" ++ b.id ++ "] " ++ Text.preview previewLength b.thought ++
    " (score: " ++ Fixed.text 2 b.score ++ ")"

namespace Tree

def summaryWith (duration : String) (t : Tree) : String :=
  Text.unlines <| [
    "Task: " ++ t.task,
    "Branches: " ++ toString t.branches.length,
    "Max depth reached: " ++ toString t.maxDepthReached.toNat,
    "Duration: " ++ duration ++ "s"] ++
    if t.selectedPath.isEmpty then ["Selected path: no path selected"]
    else "Selected path:" :: t.selectedPath.map Branch.summary

def summary (t : Tree) (now : Instant) : String :=
  t.summaryWith (Instant.secondsText t.startedAt (t.completedAt.getD now))

end Tree

end Deliberation
