import Deliberation.Reply.Steps
/-! The competing approaches of a reply, read line by line as its steps are. -/

namespace Deliberation.Reply

structure StatedApproach where
  approach : String
  steps : String := ""
  pros : String := ""
  cons : String := ""
  score : Float := 0.5
deriving DecidableEq

def approachMarker : List Char := "Approach ".toList

def stepsMarker : List Char := "Steps:".toList

def prosMarker : List Char := "Pros:".toList

def consMarker : List Char := "Cons:".toList

def scoreMarker : List Char := "Score:".toList

def openedApproach? (line : List Char) : Option StatedApproach :=
  (Text.after? approachMarker line).map fun _ => { approach := String.ofList (headingText line) }

/-- The approach after a line below its heading. A later line of a kind overrides an earlier one, and
a score that cannot be read counts as a half. -/
def StatedApproach.extend (a : StatedApproach) (line : List Char) : StatedApproach :=
  match Text.after? stepsMarker line with
  | some rest => { a with steps := String.ofList (Text.trim rest) }
  | none =>
    match Text.after? prosMarker line with
    | some rest => { a with pros := String.ofList (Text.trim rest) }
    | none =>
      match Text.after? consMarker line with
      | some rest => { a with cons := String.ofList (Text.trim rest) }
      | none =>
        match Text.after? scoreMarker line with
        | some rest => { a with score := (score? rest).getD 0.5 }
        | none => a

/-- The approaches of trimmed lines that go on from an open approach. -/
def approachesFrom : Option StatedApproach → List (List Char) → List StatedApproach
  | current, [] => current.toList
  | current, line :: rest =>
    match openedApproach? line with
    | some a => current.toList ++ approachesFrom (some a) rest
    | none => approachesFrom (current.map (·.extend line)) rest

def approaches (text : String) : List StatedApproach :=
  approachesFrom none (trimmedLines text.toList)

end Deliberation.Reply
