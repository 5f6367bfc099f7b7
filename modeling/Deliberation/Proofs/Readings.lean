import Deliberation.Proofs.Scores
import Deliberation.Proofs.Sections
/-! The steps and the approaches of a reply, section by section. Each has the heading of its section for a
text, and for the rest what the last line of each kind below it says. Neither what stands before the first
heading nor the order of the kinds matters, and the parts of a reply can be read one after the other. -/

namespace Deliberation.Reply

open Binary64 (InUnit)

/-- What follows the first colon of a line, or all of it where there is none. -/
def afterColon (line : List Char) : List Char :=
  if ':' ∈ line then Text.trim (line.dropWhile (· ≠ ':')).tail else line

theorem headingText_eq (line : List Char) : headingText line = afterColon line := by
  rw [headingText, Text.cut?_eq, afterColon]
  by_cases colon : ':' ∈ line <;> simp [colon]

/-- What the last line with a marker says, and nothing where there is no such line. -/
def Section.text (s : Section) (marker : List Char) : String :=
  String.ofList (Text.trim ((contents marker s.body).getLast?.getD []))

/-- The number of the last line with a marker. There is none where this line has none, whatever the
others have. -/
def Section.number? (s : Section) (marker : List Char) (read : List Char → Option Float) : Option Float :=
  (contents marker s.body).getLast?.bind read

theorem Section.number?_inUnit (s : Section) {marker : List Char} {read : List Char → Option Float}
    (units : ∀ {text x}, read text = some x → InUnit x) {otherwise : Float} (unit : InUnit otherwise) :
    InUnit ((s.number? marker read).getD otherwise) := by
  cases found : s.number? marker read with
  | none => exact unit
  | some x =>
    obtain ⟨rest, -, given⟩ := Option.bind_eq_some_iff.mp found
    exact units given

section
variable {α : Type} {extend : α → List Char → α} {record : α} {marker : List Char}

theorem Section.foldl_text (s : Section) (get : α → String)
    (sets : ∀ record line, get (extend record line) =
      if marker <+: line then String.ofList (Text.trim (line.drop marker.length)) else get record)
    (fresh : get record = "") : get (s.body.foldl extend record) = s.text marker := by
  rw [foldl_of_sets get (fun rest => String.ofList (Text.trim rest)) sets, fresh, Section.text]
  cases (contents marker s.body).getLast? <;> rfl

theorem Section.foldl_number (s : Section) (get : α → Float) {read : List Char → Option Float}
    {otherwise : Float}
    (sets : ∀ record line, get (extend record line) =
      if marker <+: line then (read (line.drop marker.length)).getD otherwise else get record)
    (fresh : get record = otherwise) :
    get (s.body.foldl extend record) = (s.number? marker read).getD otherwise := by
  rw [foldl_of_sets get (fun rest => (read rest).getD otherwise) sets, fresh, Section.number?]
  cases (contents marker s.body).getLast? <;> rfl

end

def Section.step (s : Section) : StatedStep where
  thought := String.ofList (afterColon s.heading)
  reasoning := s.text reasoningMarker
  confidence := (s.number? confidenceMarker confidence?).getD 1

theorem stepsFrom_eq_scan (current : Option StatedStep) (lines : List (List Char)) :
    stepsFrom current lines = scan openedStep? StatedStep.extend current lines := by
  fun_induction stepsFrom current lines with
  | case1 => rfl
  | case2 current line rest step opens ih => simp only [scan, opens, ih]
  | case3 current line rest opens ih => simp only [scan, opens, ih]

theorem openedStep?_eq (line : List Char) :
    openedStep? line =
      if stepMarker <+: line then some { thought := String.ofList (afterColon line) } else none := by
  rw [openedStep?, Text.after?_eq, headingText_eq]
  split <;> rfl

/-- A line below the heading of a step sets its reasoning or its confidence, or it says nothing. -/
theorem extend_step_eq (step : StatedStep) (line : List Char) :
    step.extend line = { step with
      reasoning := if reasoningMarker <+: line then
        String.ofList (Text.trim (line.drop reasoningMarker.length)) else step.reasoning
      confidence := if confidenceMarker <+: line then
        (confidence? (line.drop confidenceMarker.length)).getD 1 else step.confidence } := by
  unfold StatedStep.extend
  rw [Text.after?_eq, Text.after?_eq]
  by_cases reasoned : reasoningMarker <+: line
  · have unrated : ¬confidenceMarker <+: line := not_marked_of_marked (by decide) reasoned
    simp [reasoned, unrated]
  · by_cases rated : confidenceMarker <+: line <;> simp [reasoned, rated]

theorem foldl_extend_step (s : Section) :
    s.body.foldl StatedStep.extend { thought := String.ofList (afterColon s.heading) } = s.step := by
  generalize opened : ({ thought := String.ofList (afterColon s.heading) } : StatedStep) = step
  have thought : (s.body.foldl StatedStep.extend step).thought = s.step.thought := by
    rw [foldl_of_keeps StatedStep.thought fun step line => by rw [extend_step_eq], ← opened]
    rfl
  have reasoning : (s.body.foldl StatedStep.extend step).reasoning = s.step.reasoning :=
    s.foldl_text StatedStep.reasoning (fun step line => by rw [extend_step_eq]) (by rw [← opened])
  have confidence : (s.body.foldl StatedStep.extend step).confidence = s.step.confidence :=
    s.foldl_number StatedStep.confidence (fun step line => by rw [extend_step_eq]) (by rw [← opened])
  show (⟨_, _, _⟩ : StatedStep) = s.step
  rw [thought, reasoning, confidence]

theorem steps_eq_map_step (text : String) :
    steps text = (sections stepMarker (trimmedLines text.toList)).map Section.step := by
  rw [steps, stepsFrom_eq_scan, scan_eq_sections openedStep?_eq]
  exact List.map_congr_left fun s _ => foldl_extend_step s

theorem confidence_inUnit_of_mem_steps {text : String} {step : StatedStep} (h : step ∈ steps text) :
    InUnit step.confidence := by
  rw [steps_eq_map_step] at h
  obtain ⟨s, -, rfl⟩ := List.mem_map.mp h
  exact s.number?_inUnit confidence?_inUnit Binary64.one_inUnit

theorem valid_check_iff (text : String) (m : Nat) :
    (check text m).valid = true ↔ m ≤ (steps text).countP StatedStep.isReasoned := by
  have fewer := List.countP_le_length (p := StatedStep.isReasoned) (l := steps text)
  unfold check
  dsimp only
  rw [← List.countP_eq_length_filter]
  split
  · rename_i short
    exact iff_of_false Bool.false_ne_true (by omega)
  · split
    · rename_i unreasoned
      exact iff_of_false Bool.false_ne_true (by omega)
    · rename_i enough
      exact iff_of_true rfl (by omega)

/-- A reasoning counts where it has a character that is not blank. -/
theorem isReasoned_eq (step : StatedStep) :
    step.isReasoned = step.reasoning.toList.any fun c => !Text.isBlank c := by
  rw [StatedStep.isReasoned, Bool.eq_iff_iff, decide_eq_true_iff, Ne, Text.trim_eq_nil]
  simp

/-- The steps of a reply are those of its sections, one for each line that starts a step. What stands
before the first of these lines does not matter, and a text that starts with one of them is read after
another text as it is read alone. A check asks for a number of steps that have a reasoning, so that it
holds for every smaller number too. -/
theorem steps_eq_sections (text : String) :
    let lines := trimmedLines text.toList
    steps text = (sections stepMarker lines).map Section.step ∧
    (sections stepMarker lines).map Section.heading = (lines.filter fun line => stepMarker <+: line) ∧
    (∀ front : String, (∀ line ∈ trimmedLines front.toList, ¬stepMarker <+: line) →
      steps (front ++ "\n" ++ text) = steps text) ∧
    (∀ behind : String,
      (behind = "" ∨ ∃ line ∈ (trimmedLines behind.toList).head?, stepMarker <+: line) →
      steps (text ++ "\n" ++ behind) = steps text ++ steps behind) ∧
    (∀ m, (check text m).valid = true ↔
      m ≤ (steps text).countP fun step => step.reasoning.toList.any fun c => !Text.isBlank c) ∧
    ∀ m n, m ≤ n → (check text n).valid = true → (check text m).valid = true := by
  intro lines
  have idle (step : StatedStep) : step.extend [] = step := rfl
  refine ⟨steps_eq_map_step text, map_heading_sections stepMarker lines, ?_, ?_, ?_, ?_⟩
  · intro front plain
    simp only [steps, stepsFrom_eq_scan]
    exact scan_trimmedLines_of_plain openedStep?_eq (by decide) plain text
  · intro behind starts
    simp only [steps, stepsFrom_eq_scan]
    exact scan_trimmedLines_append openedStep?_eq (by decide) idle text starts
  · intro m
    rw [valid_check_iff, funext isReasoned_eq]
  · intro m n fewer valid
    rw [valid_check_iff] at valid ⊢
    exact fewer.trans valid

/-- A step with two lines of either kind, of which the last ones count, between a line that does not
count and a step without a colon. -/
theorem steps_eq_sections_of_repeated :
    let text := "Step 1: look: twice \r\n Reasoning: far\nConfidence: 90%\nReasoning:  near\nConfidence: high"
    let front := "Reasoning: early\n\n"
    let behind := "Step two"
    (∀ line ∈ trimmedLines front.toList, ¬stepMarker <+: line) ∧
      (∃ line ∈ (trimmedLines behind.toList).head?, stepMarker <+: line) ∧
      steps (front ++ "\n" ++ text) = [⟨"look: twice", "near", 1⟩] ∧
      steps (text ++ "\n" ++ behind) = [⟨"look: twice", "near", 1⟩, ⟨"Step two", "", 1⟩] ∧
      (check text 1).valid = true ∧ (check text 0).valid = true := by
  intro text front behind
  obtain ⟨read, -, before, after, valid, fewer⟩ := steps_eq_sections text
  have plain : ∀ line ∈ trimmedLines front.toList, ¬stepMarker <+: line := by decide +kernel
  have starts : ∃ line ∈ (trimmedLines behind.toList).head?, stepMarker <+: line := by decide +kernel
  have one : steps text = [⟨"look: twice", "near", 1⟩] := read.trans (by decide +kernel)
  have last : steps behind = [⟨"Step two", "", 1⟩] := by decide +kernel
  have enough : (check text 1).valid = true := (valid 1).mpr (by rw [one]; decide +kernel)
  refine ⟨plain, starts, ?_, ?_, enough, fewer 0 1 (by decide) enough⟩
  · rw [before front plain, one]
  · rw [after behind (.inr starts), one, last]
    rfl

def Section.approach (s : Section) : StatedApproach where
  approach := String.ofList (afterColon s.heading)
  steps := s.text stepsMarker
  pros := s.text prosMarker
  cons := s.text consMarker
  score := (s.number? scoreMarker score?).getD 0.5

theorem approachesFrom_eq_scan (current : Option StatedApproach) (lines : List (List Char)) :
    approachesFrom current lines = scan openedApproach? StatedApproach.extend current lines := by
  fun_induction approachesFrom current lines with
  | case1 => rfl
  | case2 current line rest approach opens ih => simp only [scan, opens, ih]
  | case3 current line rest opens ih => simp only [scan, opens, ih]

theorem openedApproach?_eq (line : List Char) :
    openedApproach? line =
      if approachMarker <+: line then some { approach := String.ofList (afterColon line) } else none := by
  rw [openedApproach?, Text.after?_eq, headingText_eq]
  split <;> rfl

/-- A line below the heading of an approach sets one of its fields, or it says nothing. -/
theorem extend_approach_eq (a : StatedApproach) (line : List Char) :
    a.extend line = { a with
      steps := if stepsMarker <+: line then String.ofList (Text.trim (line.drop stepsMarker.length))
        else a.steps
      pros := if prosMarker <+: line then String.ofList (Text.trim (line.drop prosMarker.length))
        else a.pros
      cons := if consMarker <+: line then String.ofList (Text.trim (line.drop consMarker.length))
        else a.cons
      score := if scoreMarker <+: line then (score? (line.drop scoreMarker.length)).getD 0.5
        else a.score } := by
  unfold StatedApproach.extend
  simp only [Text.after?_eq]
  by_cases stepped : stepsMarker <+: line
  · have others : ¬prosMarker <+: line ∧ ¬consMarker <+: line ∧ ¬scoreMarker <+: line :=
      ⟨not_marked_of_marked (by decide) stepped, not_marked_of_marked (by decide) stepped,
        not_marked_of_marked (by decide) stepped⟩
    simp [stepped, others]
  by_cases favoured : prosMarker <+: line
  · have others : ¬consMarker <+: line ∧ ¬scoreMarker <+: line :=
      ⟨not_marked_of_marked (by decide) favoured, not_marked_of_marked (by decide) favoured⟩
    simp [stepped, favoured, others]
  by_cases opposed : consMarker <+: line
  · have other : ¬scoreMarker <+: line := not_marked_of_marked (by decide) opposed
    simp [stepped, favoured, opposed, other]
  by_cases scored : scoreMarker <+: line <;> simp [stepped, favoured, opposed, scored]

theorem foldl_extend_approach (s : Section) :
    s.body.foldl StatedApproach.extend { approach := String.ofList (afterColon s.heading) } =
      s.approach := by
  generalize opened : ({ approach := String.ofList (afterColon s.heading) } : StatedApproach) = a
  have approach : (s.body.foldl StatedApproach.extend a).approach = s.approach.approach := by
    rw [foldl_of_keeps StatedApproach.approach fun a line => by rw [extend_approach_eq], ← opened]
    rfl
  have steps : (s.body.foldl StatedApproach.extend a).steps = s.approach.steps :=
    s.foldl_text StatedApproach.steps (fun a line => by rw [extend_approach_eq]) (by rw [← opened])
  have pros : (s.body.foldl StatedApproach.extend a).pros = s.approach.pros :=
    s.foldl_text StatedApproach.pros (fun a line => by rw [extend_approach_eq]) (by rw [← opened])
  have cons : (s.body.foldl StatedApproach.extend a).cons = s.approach.cons :=
    s.foldl_text StatedApproach.cons (fun a line => by rw [extend_approach_eq]) (by rw [← opened])
  have score : (s.body.foldl StatedApproach.extend a).score = s.approach.score :=
    s.foldl_number StatedApproach.score (fun a line => by rw [extend_approach_eq]) (by rw [← opened])
  show (⟨_, _, _, _, _⟩ : StatedApproach) = s.approach
  rw [approach, steps, pros, cons, score]

theorem approaches_eq_map_approach (text : String) :
    approaches text = (sections approachMarker (trimmedLines text.toList)).map Section.approach := by
  rw [approaches, approachesFrom_eq_scan, scan_eq_sections openedApproach?_eq]
  exact List.map_congr_left fun s _ => foldl_extend_approach s

theorem score_inUnit_of_mem_approaches {text : String} {a : StatedApproach} (h : a ∈ approaches text) :
    InUnit a.score := by
  rw [approaches_eq_map_approach] at h
  obtain ⟨s, -, rfl⟩ := List.mem_map.mp h
  exact s.number?_inUnit score?_inUnit Binary64.half_inUnit

/-- The approaches of a reply are those of its sections, one for each line that starts an approach. What
stands before the first of these lines does not matter, and a text that starts with one of them is read
after another text as it is read alone. -/
theorem approaches_eq_sections (text : String) :
    let lines := trimmedLines text.toList
    approaches text = (sections approachMarker lines).map Section.approach ∧
    (sections approachMarker lines).map Section.heading =
      (lines.filter fun line => approachMarker <+: line) ∧
    (∀ front : String, (∀ line ∈ trimmedLines front.toList, ¬approachMarker <+: line) →
      approaches (front ++ "\n" ++ text) = approaches text) ∧
    ∀ behind : String,
      (behind = "" ∨ ∃ line ∈ (trimmedLines behind.toList).head?, approachMarker <+: line) →
      approaches (text ++ "\n" ++ behind) = approaches text ++ approaches behind := by
  intro lines
  have idle (a : StatedApproach) : a.extend [] = a := rfl
  refine ⟨approaches_eq_map_approach text, map_heading_sections approachMarker lines, ?_, ?_⟩
  · intro front plain
    simp only [approaches, approachesFrom_eq_scan]
    exact scan_trimmedLines_of_plain openedApproach?_eq (by decide) plain text
  · intro behind starts
    simp only [approaches, approachesFrom_eq_scan]
    exact scan_trimmedLines_append openedApproach?_eq (by decide) idle text starts

/-- An approach whose second score cannot be read, between lines that do not count and an approach with
its fields in another order. -/
theorem approaches_eq_sections_of_rescored :
    let text := "Approach 1: walk\r\nPros: cheap\nScore: 80\nSteps: go\nScore: good"
    let front := "Score: 10\nSteps: none"
    let behind := " Approach 2 \nScore: 3/4\nCons: late\nSteps: wait\nSteps: ride"
    (∀ line ∈ trimmedLines front.toList, ¬approachMarker <+: line) ∧
      (∃ line ∈ (trimmedLines behind.toList).head?, approachMarker <+: line) ∧
      approaches (front ++ "\n" ++ text) = [⟨"walk", "go", "cheap", "", 0.5⟩] ∧
      approaches (text ++ "\n" ++ behind) =
        [⟨"walk", "go", "cheap", "", 0.5⟩, ⟨"Approach 2", "ride", "", "late", 0.75⟩] := by
  intro text front behind
  obtain ⟨read, -, before, after⟩ := approaches_eq_sections text
  have plain : ∀ line ∈ trimmedLines front.toList, ¬approachMarker <+: line := by decide +kernel
  have starts : ∃ line ∈ (trimmedLines behind.toList).head?, approachMarker <+: line := by decide +kernel
  have first : approaches text = [⟨"walk", "go", "cheap", "", 0.5⟩] := read.trans (by decide +kernel)
  have second : approaches behind = [⟨"Approach 2", "ride", "", "late", 0.75⟩] := by decide +kernel
  refine ⟨plain, starts, ?_, ?_⟩
  · rw [before front plain, first]
  · rw [after behind (.inr starts), first, second]
    rfl

end Deliberation.Reply
