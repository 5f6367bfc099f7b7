import Mathlib.Data.List.ModifyLast
import Deliberation.Proofs.Assessments
import Deliberation.Proofs.Overflows
import Deliberation.Proofs.Readings
/-! What becomes of an answer besides being the answer. The steps and the approaches of a reply are read
from all of its lines, those of its answer among them, so that a line of the answer counts as reasoning
where it has a marker. Answers with the same lines of this kind leave the same workspace behind. -/

namespace Deliberation

namespace Reply

section
variable {marker : List Char} {first second : List (List Char)}

def Section.continued (s : Section) (lines : List (List Char)) : Section :=
  ⟨s.heading, s.body ++ lines⟩

theorem modifyLast_continued (sections : List Section) (first second : List (List Char)) :
    (sections.modifyLast (·.continued first)).modifyLast (·.continued second) =
      sections.modifyLast (·.continued (first ++ second)) := by
  cases sections using List.reverseRecOn with
  | nil => rfl
  | append_singleton earlier last =>
    simp only [List.modifyLast_concat, Section.continued, List.append_assoc]

/-- Further lines go to the last section up to the first one with the marker, and the sections from there on
are their own. -/
theorem sections_append (marker : List Char) (first second : List (List Char)) :
    sections marker (first ++ second) =
      (sections marker first).modifyLast (·.continued (untilMarker marker second)) ++
        sections marker second := by
  induction first using List.reverseRecOn generalizing second with
  | nil => rfl
  | append_singleton front line ih =>
    rw [List.append_assoc, List.singleton_append, ih (line :: second), ih [line]]
    by_cases opens : marker <+: line
    · simp only [untilMarker_cons_of_marked opens, sections, if_pos opens, List.modifyLast_concat,
        Section.continued]
      simp [untilMarker]
    · simp only [untilMarker_cons_of_plain opens, sections, if_neg opens, List.append_nil,
        modifyLast_continued]
      rfl

/-- Lines that neither open a record nor extend one can be left out. -/
theorem scan_filter {α : Type} {opens : List Char → Option α} {extend : α → List Char → α}
    {keep : List Char → Bool}
    (idle : ∀ line, keep line = false → opens line = none ∧ ∀ record, extend record line = record)
    (current : Option α) (lines : List (List Char)) :
    scan opens extend current (lines.filter keep) = scan opens extend current lines := by
  induction lines generalizing current with
  | nil => rfl
  | cons line rest ih =>
    by_cases kept : keep line = true
    · rw [List.filter_cons_of_pos kept, scan, scan]
      cases opens line <;> simp only [ih]
    · obtain ⟨silent, same⟩ := idle line (eq_false_of_ne_true kept)
      have still : current.map (extend · line) = current := by simp [same]
      rw [List.filter_cons_of_neg kept, ih, scan, silent, still]

end

theorem length_sections (marker : List Char) (lines : List (List Char)) :
    (sections marker lines).length = lines.countP fun line => marker <+: line := by
  rw [List.countP_eq_length_filter, ← map_heading_sections, List.length_map]

theorem trimmedLines_of_lines {text : String} {before later : List (List Char)} {first : List Char}
    (whole : Text.lines text.toList = before ++ first :: later) :
    trimmedLines text.toList = (before ++ [first]).map Text.trim ++ later.map Text.trim := by
  rw [trimmedLines, whole, ← List.map_append, List.append_assoc, List.singleton_append]

theorem finalAnswer_of_lines {text : String} {before later : List (List Char)} {first : List Char}
    (whole : Text.lines text.toList = before ++ first :: later)
    (unanswered : ∀ line ∈ before, ¬answerMarker <+: Text.trim line)
    (answers : answerMarker <+: Text.trim first) :
    (assess text).finalAnswer = answerOf? (first :: later) := by
  rw [assess_eq, whole, List.dropWhile_append_of_pos (by simpa using unanswered),
    List.dropWhile_cons_of_neg (by simpa using answers)]

end Reply

namespace Workspace

open Reply

def markers : Workspace → List (List Char)
  | .free => []
  | .chain _ => [stepMarker, reasoningMarker, confidenceMarker]
  | .tree _ => [approachMarker, stepsMarker, prosMarker, consMarker, scoreMarker]

def heeds (w : Workspace) (line : List Char) : Bool :=
  w.markers.any fun marker => marker <+: line

theorem steps_filter (c : Chain) (text : String) :
    stepsFrom none ((trimmedLines text.toList).filter (chain c).heeds) = steps text := by
  rw [steps, stepsFrom_eq_scan, stepsFrom_eq_scan]
  apply scan_filter
  intro line unmarked
  have unmarked : ¬stepMarker <+: line ∧ ¬reasoningMarker <+: line ∧ ¬confidenceMarker <+: line := by
    simpa [heeds, markers] using unmarked
  obtain ⟨closed, unreasoned, unrated⟩ := unmarked
  refine ⟨opens_of_plain openedStep?_eq closed, ?_⟩
  intro step
  rw [extend_step_eq, if_neg unreasoned, if_neg unrated]

theorem approaches_filter (t : Tree) (text : String) :
    approachesFrom none ((trimmedLines text.toList).filter (tree t).heeds) = approaches text := by
  rw [approaches, approachesFrom_eq_scan, approachesFrom_eq_scan]
  apply scan_filter
  intro line unmarked
  have unmarked : ¬approachMarker <+: line ∧ ¬stepsMarker <+: line ∧ ¬prosMarker <+: line ∧
      ¬consMarker <+: line ∧ ¬scoreMarker <+: line := by
    simpa [heeds, markers] using unmarked
  obtain ⟨closed, stepless, unfavoured, unopposed, unscored⟩ := unmarked
  refine ⟨opens_of_plain openedApproach?_eq closed, ?_⟩
  intro a
  rw [extend_approach_eq, if_neg stepless, if_neg unfavoured, if_neg unopposed, if_neg unscored]

/-- Texts that have the same lines with a marker leave the same workspace. -/
theorem write_eq_of_filter (w : Workspace) {first second : String} (now : Instant)
    (same : (trimmedLines first.toList).filter w.heeds = (trimmedLines second.toList).filter w.heeds) :
    w.write first now = w.write second now := by
  cases w with
  | free => rfl
  | chain c =>
    have steps : steps first = steps second := by
      rw [← steps_filter c first, same, steps_filter]
    simp only [write, steps]
  | tree t =>
    have approaches : approaches first = approaches second := by
      rw [← approaches_filter t first, same, approaches_filter]
    simp only [write, Tree.explore, approaches]

end Workspace

namespace Session

open Reply

/-- Replies that agree up to their first answer line leave the same workspace behind where the lines of
their answers with a marker of the mode are the same, as where there are none. Answer lines with a marker
count like all others: they go on with the last step or approach before the answer, or make further ones,
as long as there are numbers for them. -/
theorem workspace_take_of_answer (s : Session) (call : Call) (now : Instant)
    {before : List (List Char)} {first : List Char}
    (unanswered : ∀ line ∈ before, ¬answerMarker <+: Text.trim line)
    (answers : answerMarker <+: Text.trim first) :
    let head := (before ++ [first]).map Text.trim
    let taken (x : Completion) := (s.take call (.completed x) now).value
    let after (x : Completion) := (taken x).1.workspace
    (∀ (x : Completion) later, Text.lines x.text.toList = before ++ first :: later →
      let body := later.map Text.trim
      (assess x.text).finalAnswer = answerOf? (first :: later) ∧
      steps x.text = ((sections stepMarker head).modifyLast
        (·.continued (untilMarker stepMarker body)) ++ sections stepMarker body).map Section.step ∧
      approaches x.text = ((sections approachMarker head).modifyLast
        (·.continued (untilMarker approachMarker body)) ++ sections approachMarker body).map
          Section.approach ∧
      ∀ c, s.workspace = .chain c →
        let further := (head.countP fun line => stepMarker <+: line) +
          body.countP fun line => stepMarker <+: line
        ((taken x).2 = .overflow ↔ UInt32.size ≤ c.steps.length % UInt32.size + further) ∧
        ((taken x).2 ≠ .overflow → ∃ d, after x = .chain d ∧
          d.steps.length = c.steps.length + further)) ∧
    ∀ (x y : Completion) forward backward,
      Text.lines x.text.toList = before ++ first :: forward →
      Text.lines y.text.toList = before ++ first :: backward →
      (forward.map Text.trim).filter s.workspace.heeds =
        (backward.map Text.trim).filter s.workspace.heeds →
      after x = after y := by
  intro head taken after
  have written (x : Completion) : after x = s.workspace.after (.completed x) now := s.workspace_take ..
  constructor
  · intro x later whole body
    refine ⟨finalAnswer_of_lines whole unanswered answers, ?_, ?_, ?_⟩
    · rw [steps_eq_map_step, trimmedLines_of_lines whole, sections_append]
    · rw [approaches_eq_map_approach, trimmedLines_of_lines whole, sections_append]
    · intro c workspace further
      have length : (steps x.text).length = further := by
        rw [steps_eq_map_step, List.length_map, length_sections, trimmedLines_of_lines whole,
          List.countP_append]
      have overflow : (taken x).2 = .overflow ↔
          ((recordSteps c (steps x.text) now).map .chain : Except Overflow Workspace) = .error {} := by
        simp [taken, take_eq_overflow_iff, CallResult.completion?, workspace, Workspace.write]
      have after : after x = s.workspace.after (.completed x) now := written x
      simp only [Workspace.after, CallResult.completion?, workspace, Workspace.write] at after
      obtain ⟨d, recorded, longer, few⟩ | ⟨full, recorded⟩ := recordSteps_cases c (steps x.text) now
      · rw [recorded] at overflow after
        rw [length] at longer few
        have fits : (taken x).2 ≠ .overflow := overflow.not.mpr (by simp [Except.map])
        exact ⟨iff_of_false fits (Nat.not_le.mpr few), fun _ => ⟨d, after, longer⟩⟩
      · rw [recorded] at overflow
        have overflows := overflow.mpr rfl
        exact ⟨iff_of_true overflows (length ▸ full), fun fits => absurd overflows fits⟩
  · intro x y forward backward one other same
    rw [written, written]
    simp only [Workspace.after, CallResult.completion?]
    congr 2
    apply Workspace.write_eq_of_filter
    rw [trimmedLines_of_lines one, trimmedLines_of_lines other, List.filter_append, List.filter_append,
      same]

/-- A reply whose answer has a line with a marker but not at its front, and one whose answer says nothing of
the kind. -/
theorem workspace_take_of_answer_of_plain :
    let fresh := start { mode := .chain } Catalog.builtin (fun _ => .simple) "task" "id" Instant.epoch
    let policy := fresh.controller.currentPolicy
    let after (reply : String) := (fresh.take ⟨fresh.prompt policy, policy, 2000, 1⟩
      (.completed ⟨reply, none⟩) Instant.epoch).value.1.workspace
    let head := "Step 1: look\nReasoning: it is near\nFinal Answer: here:\n"
    after (head ++ "See Step 2: that is all.") = after (head ++ "four") ∧
      (assess (head ++ "four")).finalAnswer = some "here:\nfour" ∧
      ∃ d, after (head ++ "four") = .chain d ∧ d.steps.length = 1 := by
  intro fresh policy after head
  have unanswered : ∀ line ∈ ["Step 1: look".toList, "Reasoning: it is near".toList],
      ¬answerMarker <+: Text.trim line := by decide +kernel
  have answers : answerMarker <+: Text.trim "Final Answer: here:".toList := by decide +kernel
  obtain ⟨each, both⟩ := workspace_take_of_answer fresh ⟨fresh.prompt policy, policy, 2000, 1⟩
    Instant.epoch unanswered answers
  have one : Text.lines (head ++ "See Step 2: that is all.").toList =
      ["Step 1: look".toList, "Reasoning: it is near".toList] ++ "Final Answer: here:".toList ::
        ["See Step 2: that is all.".toList] := by decide +kernel
  have other : Text.lines (head ++ "four").toList =
      ["Step 1: look".toList, "Reasoning: it is near".toList] ++ "Final Answer: here:".toList ::
        ["four".toList] := by decide +kernel
  obtain ⟨answer, -, -, chain⟩ := each ⟨head ++ "four", none⟩ _ other
  obtain ⟨overflow, recorded⟩ := chain (.start "task" Instant.epoch) rfl
  obtain ⟨d, written, length⟩ := recorded (overflow.not.mpr (by decide +kernel))
  refine ⟨?_, answer.trans (by decide +kernel), d, written, length.trans (by decide +kernel)⟩
  exact both ⟨head ++ "See Step 2: that is all.", none⟩ ⟨head ++ "four", none⟩ _ _ one other
    (by decide +kernel)

/-- Replies that differ in nothing but their answers, and what is recorded of them: a step that is part of
an answer, and an approach that is the best one because an answer says so. -/
theorem exists_answer_recorded :
    let outcome (mode : Mode) (reply : String) :=
      ((start { mode := mode } Catalog.builtin (fun _ => .simple) "task" "id" Instant.epoch).drive
        scripted (fun _ => Instant.epoch) 0 [⟨0, .ok ⟨reply, none⟩⟩]).toOption.map fun r => r.1.outcome
    let thoughts (o : Outcome) := o.chain.map fun c => c.steps.map Step.thought
    let path (o : Outcome) := o.tree.map fun t => t.selectedPath.map Branch.thought
    let step := "Step 1: look\nReasoning: it is near\nFinal Answer: do this:\n"
    let approach := "Approach 1: walk\nScore: 60\nFinal Answer: do this:\n"
    (outcome .chain (step ++ "open it")).bind thoughts = some ["look (it is near)"] ∧
      (outcome .chain (step ++ "Step 1: open it")).bind thoughts =
        some ["look (it is near)", "open it"] ∧
      (outcome .chain (step ++ "Step 1: open it")).map Outcome.answer =
        some "do this:\nStep 1: open it" ∧
      (outcome .tree (approach ++ "ride")).bind path = some ["walk"] ∧
      (outcome .tree (approach ++ "Approach 2: ride\nScore: 90")).bind path = some ["ride"] ∧
      (outcome .tree (approach ++ "Approach 2: ride\nScore: 90")).map Outcome.answer =
        some "do this:\nApproach 2: ride\nScore: 90" := by
  decide +kernel

end Session

end Deliberation
