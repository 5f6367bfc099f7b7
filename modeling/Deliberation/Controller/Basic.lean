import Deliberation.Complexity
import Deliberation.Strategy.Catalog
import Deliberation.Time.Instant
/-! The controller of a session. It starts from the strategy that fits the task, takes a snapshot of
metrics after every iteration, and moves up the ladder of strategies when the snapshot calls for it
and the budget of escalations allows it. -/

namespace Deliberation

/-- Totals of a session as its caller reports them. -/
structure Metrics where
  iterationsUsed : UInt32 := 0
  timeElapsed : Float := 0
  errorsEncountered : UInt32 := 0
  progress : Float := 0
  confidence : Float := 0
deriving DecidableEq

structure Transition where
  source : Strategy
  target : Strategy
  reason : String
  iteration : UInt32
  timestamp : Instant
deriving DecidableEq

inductive Phase where
  | exploring
  | escalationExhausted
deriving DecidableEq, Repr

namespace Phase

def all : List Phase :=
  [.exploring, .escalationExhausted]

def name : Phase → String
  | .exploring => "exploring"
  | .escalationExhausted => "escalation_exhausted"

def ofName? (text : String) : Option Phase :=
  all.find? fun p => p.name == text

end Phase

/-- The state of one session. The current policy is kept beside the catalog, so that a record of the
session shows the policy that was in force. -/
structure Controller where
  sessionId : String
  task : String
  complexity : Complexity
  initialStrategy : Strategy
  currentStrategy : Strategy
  maxEscalations : UInt32
  escalationCount : UInt32
  transitions : List Transition
  metrics : Metrics
  startedAt : Instant
  currentPolicy : Policy
  catalog : Catalog

/-- What in the metrics calls for an escalation. -/
inductive Trigger where
  | errors (count : UInt32)
  | stuck (progress : Float) (iterations : UInt32)
  | exhausted (strategy : Strategy) (progress : Float) (iterations : UInt32)
deriving DecidableEq

namespace Controller

def defaultMaxEscalations : UInt32 := 3

def errorThreshold : UInt32 := 3

/-- The iterations after which a session with little progress is stuck. -/
def stuckIterations : UInt32 := 5

def stuckProgress : Float := 0.2

/-- The progress that a strategy with a limit has to reach within it. -/
def exhaustionProgress : Float := 0.8

/-- The iterations that a strategy may use before it has to show progress, where there is a limit. -/
def iterationLimit? : Strategy → Option UInt32
  | .fast => some 3
  | .balanced => some 10
  | _ => none

/-- A fresh session, on the built-in catalog and at the strategy that fits the task. -/
def create (task : String) (maxEscalations : UInt32) (classify : Classifier) (sessionId : String)
    (now : Instant) : Controller :=
  let complexity := classify task
  let strategy := complexity.initialStrategy
  { sessionId, task, complexity
    initialStrategy := strategy
    currentStrategy := strategy
    maxEscalations
    escalationCount := 0
    transitions := []
    metrics := {}
    startedAt := now
    currentPolicy := Catalog.builtin.get strategy
    catalog := Catalog.builtin }

def withCatalog (c : Controller) (catalog : Catalog) : Controller :=
  { c with currentPolicy := catalog.get c.currentStrategy, catalog }

/-- The session from another initial strategy. Its transitions stay as they are. -/
def withInitialStrategy (c : Controller) (s : Strategy) : Controller :=
  { c with initialStrategy := s, currentStrategy := s, currentPolicy := c.catalog.get s }

/-- Replaces the metrics and considers no escalation. -/
def record (c : Controller) (m : Metrics) : Controller :=
  { c with metrics := m }

/-- What the metrics call for, without regard to the budget: too many errors, too little progress
after many iterations, or too little progress at the limit of the strategy. -/
def demand? (current : Strategy) (m : Metrics) : Option Trigger :=
  if errorThreshold ≤ m.errorsEncountered then some (.errors m.errorsEncountered)
  else if stuckIterations < m.iterationsUsed ∧ m.progress < stuckProgress then
    some (.stuck m.progress m.iterationsUsed)
  else match iterationLimit? current with
    | none => none
    | some limit =>
      if limit ≤ m.iterationsUsed ∧ m.progress < exhaustionProgress then
        some (.exhausted current m.progress m.iterationsUsed)
      else none

def isSpent (c : Controller) : Bool :=
  c.maxEscalations ≤ c.escalationCount

/-- What calls for an escalation now, if anything does and the budget allows one. -/
def trigger? (c : Controller) : Option Trigger :=
  if c.isSpent then none else demand? c.currentStrategy c.metrics

def climb (c : Controller) (reason : String) (now : Instant) : Controller :=
  let target := c.currentStrategy.escalationTarget
  { c with
    transitions := c.transitions ++ [⟨c.currentStrategy, target, reason, c.metrics.iterationsUsed, now⟩]
    currentStrategy := target
    currentPolicy := c.catalog.get target
    escalationCount := c.escalationCount + 1 }

/-- Moves one rung up the ladder and gives the new policy, or notes that the budget is spent. -/
def escalate (c : Controller) (reason : String) (now : Instant) :
    Noted (Controller × Option Policy) :=
  if c.isSpent then
    ⟨(c, none), [.escalationsSpent c.currentStrategy c.maxEscalations reason]⟩
  else
    let climbed := c.climb reason now
    ⟨(climbed, some climbed.currentPolicy), []⟩

def phase (c : Controller) : Phase :=
  if c.isSpent then .escalationExhausted else .exploring

def remainingEscalations (c : Controller) : UInt32 :=
  if c.isSpent then 0 else c.maxEscalations - c.escalationCount

end Controller

end Deliberation
