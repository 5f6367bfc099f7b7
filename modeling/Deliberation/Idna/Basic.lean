import Deliberation.Idna.Label
import Deliberation.Idna.MappingTable
import Deliberation.Idna.Punycode
/-! Internationalized names of hosts, and their one form in ASCII. A name is mapped to lowercase letters
in normal form first. A label outside ASCII is then written in Punycode behind `xn--`, and one that has
been written so has to stand for a label in that form. -/

namespace Deliberation.Idna

open Unicode

def disallowed : Ranges :=
  .ofRows disallowedRows

def ignored : Ranges :=
  .ofRows ignoredRows

def mapped : Images :=
  .ofRows mappedRows

def mapChar? (c : Char) : Option (List Char) :=
  if disallowed.has c then none
  else if ignored.has c then some []
  else
    let run := mappedRuns.find? fun run =>
      run.1 ≤ c.toNat && c.toNat ≤ run.2.1 && (c.toNat - run.1) % run.2.2.1 == 0
    match run with
    | some (first, _, _, image) => some [Char.ofNat (image + (c.toNat - first))]
    | none => some ((mapped.find? c).getD [c])

/-- The form in which names are compared. In ASCII it is lowercase. -/
def canonical? (text : List Char) : Option (List Char) :=
  if text.all Punycode.isAscii then some (text.map Char.toLower)
  else (text.mapM mapChar?).map fun images => normalize images.flatten

structure Label where
  /-- Its characters. -/
  meaning : List Char
  /-- Its form in ASCII. -/
  written : List Char
deriving DecidableEq, Repr

/-- The greatest number of characters of a label that is written in Punycode. -/
def longestMeaning : Nat :=
  1000

def longestWritten : Nat :=
  2000

def Label.read? (text : List Char) : Option Label :=
  match Text.after? "xn--".toList text with
  | some code =>
    if text.all Punycode.isAscii ∧ code.length ≤ longestWritten then do
      let meaning ← Punycode.decode? code
      if !meaning.all Punycode.isAscii && canonical? meaning == some meaning then
        some ⟨meaning, text⟩
      else none
    else none
  | none =>
    if text.all Punycode.isAscii then some ⟨text, text⟩
    else if text.length ≤ longestMeaning then some ⟨text, "xn--".toList ++ Punycode.encode text⟩
    else none

def Label.isAllowed (label : Label) : Bool :=
  !label.meaning.head?.any marks.has && areJoinersAllowed [] label.meaning

def toAscii? (name : List Char) : Option (List Char) := do
  let labels ← (Text.parts (· = '.') (← canonical? name)).mapM Label.read?
  let fromRight := labels.any fun label => label.meaning.any isFromRight
  if labels.all fun label => label.isAllowed && (!fromRight || runsOneWay label.meaning) then
    some (['.'].intercalate (labels.map Label.written))
  else none

end Deliberation.Idna
