import Deliberation.Numeric.Binary64
import Deliberation.Numeric.Overflow
import Deliberation.Time.Instant
/-! Chains of thought: the steps of one task, in order and only ever added to. -/

namespace Deliberation

structure Step where
  number : UInt32
  thought : String
  action : Option String
  observation : Option String
  confidence : Float
  timestamp : Instant
deriving DecidableEq

structure Chain where
  task : String
  steps : List Step
  startedAt : Instant
  completedAt : Option Instant
deriving DecidableEq

namespace Chain

def start (task : String) (now : Instant) : Chain :=
  ⟨task, [], now, none⟩

/-- The step that comes next. It has the number after the word that counts the steps so far, and its
confidence is moved into the unit interval. -/
def nextStep (c : Chain) (thought : String) (action observation : Option String)
    (confidence : Float) (now : Instant) : Except Overflow Step :=
  (fit32 ((UInt32.ofNat c.steps.length).toNat + 1)).map fun number =>
    { number := number
      thought := thought
      action := action
      observation := observation
      confidence := Binary64.clampUnit confidence
      timestamp := now }

def addStep (c : Chain) (thought : String) (action observation : Option String)
    (confidence : Float) (now : Instant) : Except Overflow Chain :=
  (c.nextStep thought action observation confidence now).map fun step =>
    { c with steps := c.steps ++ [step] }

def addThought (c : Chain) (thought : String) (now : Instant) : Except Overflow Chain :=
  c.addStep thought none none 1 now

/-- Ends the work on the task. Only the first end counts. -/
def complete (c : Chain) (now : Instant) : Chain :=
  { c with completedAt := c.completedAt.or (some now) }

def isComplete (c : Chain) : Bool :=
  c.completedAt.isSome

/-- The mean confidence of the steps; zero where there are none. -/
def averageConfidence (c : Chain) : Float :=
  Binary64.mean (c.steps.map Step.confidence)

end Chain

end Deliberation
