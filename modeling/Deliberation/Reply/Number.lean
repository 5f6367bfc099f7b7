import Deliberation.Numeric.Binary64
import Deliberation.Numeric.Numeral
import Deliberation.Text.Blank
/-! The numbers that a reply reports: confidence, progress and scores. Each is a fraction of the unit
interval, may be given as a percentage, and is dropped where it is not finite. -/

namespace Deliberation.Reply

def isPunctuation (c : Char) : Bool :=
  c = ',' || c = '.' || c = ';'

def withoutPunctuation (word : List Char) : List Char :=
  Text.dropEndWhile isPunctuation word

def beforePercent? (word : List Char) : Option (List Char) :=
  match word.reverse with
  | '%' :: rest => some rest.reverse
  | _ => none

/-- A finite number moved into the unit interval. -/
def unitInterval? (x : Float) : Option Float :=
  if x.isFinite then some (Binary64.clampUnit x) else none

/-- A confidence: the first word of the text, less punctuation, as a fraction or a percentage. -/
def confidence? (text : List Char) : Option Float := do
  let word := withoutPunctuation (← Text.firstWord? text)
  match beforePercent? word with
  | some percent => unitInterval? ((← Numeral.float? (Text.trim percent)) / 100)
  | none => unitInterval? (← Numeral.float? word)

/-- Progress: the first word of the text. With a percent sign at its end it is read as a confidence
is; without one, a number above one is a percentage too. -/
def progress? (text : List Char) : Option Float := do
  let word ← Text.firstWord? text
  match beforePercent? word with
  | some _ => confidence? word
  | none =>
    let x ← Numeral.float? (withoutPunctuation word)
    if x.isFinite then unitInterval? (if 1 < x then x / 100 else x) else none

/-- A score: a ratio of two numbers, or a number out of a hundred. Percent signs at the end do not
count, and a ratio to zero is no score. -/
def score? (text : List Char) : Option Float := do
  let body := Text.trim (Text.dropEndWhile (· = '%') (Text.trim text))
  match Text.cut? '/' body with
  | some (numerator, denominator) =>
    let numerator ← Numeral.float? (Text.trim numerator)
    let denominator ← Numeral.float? (Text.trim denominator)
    if denominator == 0 then none else unitInterval? (numerator / denominator)
  | none => unitInterval? ((← Numeral.float? body) / 100)

/-- The text of a heading line: what follows its first colon, or all of it. -/
def headingText (line : List Char) : List Char :=
  match Text.cut? ':' line with
  | some (_, rest) => Text.trim rest
  | none => line

end Deliberation.Reply
