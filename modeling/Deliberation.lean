import Deliberation.Main
import Deliberation.Proofs.Catalogs
import Deliberation.Proofs.Escalation
import Deliberation.Proofs.Calls
import Deliberation.Proofs.Simulation
import Deliberation.Proofs.Course
import Deliberation.Proofs.Accounting
import Deliberation.Proofs.Replay
import Deliberation.Proofs.Stopping
import Deliberation.Proofs.Budgets
import Deliberation.Proofs.Scores
import Deliberation.Proofs.Branches
import Deliberation.Proofs.Workspaces
import Deliberation.Proofs.Overflows
import Deliberation.Proofs.Recording
import Deliberation.Proofs.Exploration
import Deliberation.Proofs.Listings
import Deliberation.Proofs.Timestamps
import Deliberation.Proofs.Records
import Deliberation.Proofs.Resumption
import Deliberation.Proofs.Progress
import Deliberation.Proofs.Ceilings
import Deliberation.Proofs.Retries
import Deliberation.Proofs.Verdicts
import Deliberation.Proofs.Lineage
import Deliberation.Proofs.Creation
import Deliberation.Proofs.Updates
import Deliberation.Proofs.Overrides
import Deliberation.Proofs.Environment
import Deliberation.Proofs.Circles
import Deliberation.Proofs.Clamping
import Deliberation.Proofs.Backoff
import Deliberation.Proofs.Magnitudes
import Deliberation.Proofs.Spans
import Deliberation.Proofs.Sections
import Deliberation.Proofs.Readings
import Deliberation.Proofs.Assessments
import Deliberation.Proofs.Measures
import Deliberation.Proofs.Percentages
import Deliberation.Proofs.Answers
import Deliberation.Proofs.Prompts
import Deliberation.Proofs.Receptions
import Deliberation.Proofs.Depths
import Deliberation.Proofs.Gradings
