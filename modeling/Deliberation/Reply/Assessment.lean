import Deliberation.Reply.Steps
/-! What a reply reports on the state of the work: progress, confidence and the final answer. -/

namespace Deliberation.Reply

/-- The reports of a reply. The last progress and the last confidence that can be read count; the
final answer ends the reading. -/
structure Assessment where
  progress : Option Float := none
  confidence : Option Float := none
  finalAnswer : Option String := none
deriving DecidableEq

def progressMarker : List Char := "Progress:".toList

def answerMarker : List Char := "Final Answer:".toList

/-- The answer that starts in the rest of its marker line and runs through all further lines. There
is none where all of that is blank. -/
def answer? (rest : List Char) (tail : List (List Char)) : Option String :=
  let answer := Text.trim (Text.trim rest ++ (tail.map ('\n' :: ·)).flatten)
  if answer = [] then none else some (String.ofList answer)

def assessFrom (a : Assessment) : List (List Char) → Assessment
  | [] => a
  | raw :: tail =>
    let line := Text.trim raw
    match Text.after? progressMarker line with
    | some rest => assessFrom { a with progress := (progress? rest).or a.progress } tail
    | none =>
      match Text.after? confidenceMarker line with
      | some rest => assessFrom { a with confidence := (confidence? rest).or a.confidence } tail
      | none =>
        match Text.after? answerMarker line with
        | some rest => { a with finalAnswer := answer? rest tail }
        | none => assessFrom a tail

def assess (text : String) : Assessment :=
  assessFrom {} (Text.lines text.toList)

end Deliberation.Reply
