import Deliberation.Notice
import Deliberation.Strategy.Policy
/-! Catalogs: one policy for every strategy. A catalog is built in, made from a list, or made from
another one by overrides, and each way of making one checks the policies. -/

namespace Deliberation

/-- One policy for every strategy. -/
@[ext]
structure Catalog where
  get : Strategy → Policy

namespace Catalog

def builtin : Catalog where
  get
    | .fast => ⟨.fast, 3, 0.3, 30.0, "Quick single-pass answers for simple lookups"⟩
    | .balanced => ⟨.balanced, 10, 0.7, 120.0, "General-purpose reasoning with a moderate budget"⟩
    | .deep => ⟨.deep, 20, 0.7, 300.0, "Extended analysis for complex, multi-part tasks"⟩
    | .creative =>
      ⟨.creative, 15, 0.9, 180.0, "High-temperature exploration for open-ended ideation"⟩
    | .cotExplicit =>
      ⟨.cotExplicit, 15, 0.5, 240.0, "Explicit step-by-step chain-of-thought with tracked steps"⟩
    | .treeOfThought =>
      ⟨.treeOfThought, 25, 0.6, 360.0,
        "Branching exploration of competing approaches with scored selection"⟩
    | .adaptive =>
      ⟨.adaptive, 30, 0.7, 300.0, "Runtime-selected strategy with the widest iteration budget"⟩

def policies (c : Catalog) : List Policy :=
  Strategy.all.map c.get

def set (c : Catalog) (s : Strategy) (p : Policy) : Catalog where
  get t := if t = s then p else c.get t

/-- Files a list of policies under their strategies. A policy is checked first, and then whether its
strategy was filed before. -/
def file (filed : Strategy → Option Policy) :
    List Policy → Except CatalogError (Strategy → Option Policy)
  | [] => .ok filed
  | p :: rest =>
    match p.validated with
    | .error e => .error e
    | .ok p =>
      if (filed p.strategy).isSome then .error (.duplicateStrategy p.strategy.name)
      else file (fun s => if s = p.strategy then some p else filed s) rest

def ofPolicies (policies : List Policy) : Except CatalogError Catalog :=
  match file (fun _ => none) policies with
  | .error e => .error e
  | .ok filed =>
    match Strategy.all.find? fun s => (filed s).isNone with
    | some s => .error (.missingStrategy s.name)
    | none => .ok ⟨fun s => (filed s).getD (builtin.get s)⟩

/-- The policy of a strategy given by name. An unknown or missing name means the balanced one. -/
def getByName (c : Catalog) : Option String → Noted Policy
  | some text =>
    match Strategy.parse text with
    | .ok s => ⟨c.get s, []⟩
    | .error _ => ⟨c.get .balanced, [.unknownStrategy text]⟩
  | none => ⟨c.get .balanced, [.noStrategyGiven]⟩

/-- Whether two policies agree, numbers compared as numbers. -/
def samePolicy (p q : Policy) : Bool :=
  p.strategy == q.strategy && p.maxIterations == q.maxIterations && p.temperature == q.temperature &&
    p.timeoutSeconds == q.timeoutSeconds && p.description == q.description

def agrees (c d : Catalog) : Bool :=
  Strategy.all.all fun s => samePolicy (c.get s) (d.get s)

end Catalog

/-- New values for some parameters of one strategy. -/
structure Override where
  strategy : Option Strategy := none
  maxIterations : Option UInt32 := none
  temperature : Option Float := none
  timeoutSeconds : Option Float := none
deriving DecidableEq

namespace Override

def isEmpty (o : Override) : Bool :=
  o.maxIterations.isNone && o.temperature.isNone && o.timeoutSeconds.isNone

def apply (o : Override) (p : Policy) : Policy :=
  { p with
    maxIterations := o.maxIterations.getD p.maxIterations
    temperature := o.temperature.getD p.temperature
    timeoutSeconds := o.timeoutSeconds.getD p.timeoutSeconds }

end Override

namespace Catalog

/-- The catalog after one override. An override that sets nothing changes nothing; any other must
name a strategy and leave it with a valid policy. -/
def withOverride (c : Catalog) (o : Override) : Except CatalogError Catalog :=
  if o.isEmpty then .ok c
  else match o.strategy with
    | none => .error (.invalidPolicy "unnamed" "override does not name a strategy")
    | some s =>
      match (o.apply (c.get s)).validated with
      | .error e => .error e
      | .ok p => .ok (c.set s p)

def withOverrides (c : Catalog) (overrides : List Override) : Except CatalogError Catalog :=
  overrides.foldlM withOverride c

end Catalog

end Deliberation
