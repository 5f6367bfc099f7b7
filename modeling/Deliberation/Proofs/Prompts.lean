import Deliberation.Proofs.Layout
import Deliberation.Proofs.Recording
/-! Prompts in chain mode read back. Every recorded thought fits into one line, so that the lines of the
context are the steps under their numbers, and the steps that a reply with these lines would state are the
recorded thoughts. -/

namespace Deliberation

namespace Text

theorem isLine_append {front back : List Char} (first : IsLine front) (second : IsLine back) :
    IsLine (front ++ back) := by
  constructor
  · simp [first.feedless, second.feedless]
  · intro last
    rw [List.getLast?_append] at last
    cases newest : back.getLast? with
    | none =>
      rw [newest] at last
      exact first.last last
    | some c =>
      rw [newest] at last
      exact second.last (newest.trans last)

theorem isLine_trim {text : List Char} (feedless : '\n' ∉ text) : IsLine (trim text) := by
  constructor
  · exact fun member => feedless (mem_of_mem_trim member)
  · intro last
    have solid : isBlank '\r' = false := last_trim _ last
    contradiction

end Text

namespace Reply

open Text (IsLine)

theorem isLine_of_mem_trimmedLines {text line : List Char} (member : line ∈ trimmedLines text) :
    IsLine line := by
  obtain ⟨raw, origin, rfl⟩ := List.mem_map.mp member
  exact Text.isLine_trim (Text.feedless_of_mem_lines origin)

theorem isLine_afterColon {line : List Char} (whole : IsLine line) : IsLine (afterColon line) := by
  unfold afterColon
  split
  · apply Text.isLine_trim
    intro member
    exact whole.feedless ((List.dropWhile_sublist _).mem (List.mem_of_mem_tail member))
  · exact whole

theorem mem_of_mem_sections {marker : List Char} {lines : List (List Char)} {s : Section}
    (member : s ∈ sections marker lines) : s.heading ∈ lines ∧ ∀ line ∈ s.body, line ∈ lines := by
  induction lines with
  | nil => simp [sections] at member
  | cons line rest ih =>
    unfold sections at member
    split at member
    · cases member with
      | head =>
        refine ⟨List.mem_cons_self, fun below inside => ?_⟩
        exact List.mem_cons_of_mem _ ((List.takeWhile_sublist _).mem inside)
      | tail _ later =>
        obtain ⟨heading, body⟩ := ih later
        exact ⟨List.mem_cons_of_mem _ heading, fun below inside => List.mem_cons_of_mem _ (body below inside)⟩
    · obtain ⟨heading, body⟩ := ih member
      exact ⟨List.mem_cons_of_mem _ heading, fun below inside => List.mem_cons_of_mem _ (body below inside)⟩

theorem Section.isLine_text {s : Section} (each : ∀ line ∈ s.body, IsLine line) (marker : List Char) :
    IsLine (s.text marker).toList := by
  rw [Section.text, String.toList_ofList]
  apply Text.isLine_trim
  cases last : (contents marker s.body).getLast? with
  | none => simp
  | some rest =>
    obtain ⟨line, marked, rfl⟩ := List.mem_map.mp (List.mem_of_getLast? last)
    have inside : line ∈ s.body := List.mem_of_mem_filter marked
    exact fun member => (each line inside).feedless (List.mem_of_mem_drop member)

theorem isLine_of_mem_steps {text : String} {step : StatedStep} (member : step ∈ steps text) :
    IsLine step.thought.toList ∧ IsLine step.reasoning.toList := by
  rw [steps_eq_map_step] at member
  obtain ⟨s, origin, rfl⟩ := List.mem_map.mp member
  obtain ⟨heading, body⟩ := mem_of_mem_sections origin
  constructor
  · rw [Section.step, String.toList_ofList]
    exact isLine_afterColon (isLine_of_mem_trimmedLines heading)
  · exact s.isLine_text (fun line inside => isLine_of_mem_trimmedLines (body line inside)) _

end Reply

open Text (IsLine)

theorem Step.Records.isLine {s : Step} {stated : Reply.StatedStep × Nat} (records : s.Records stated)
    (each : IsLine stated.1.thought.toList ∧ IsLine stated.1.reasoning.toList) :
    IsLine s.thought.toList := by
  rw [records.thought]
  split
  · exact each.1
  · simp only [String.toList_append]
    have opening : IsLine " (".toList := ⟨by decide, by decide⟩
    have closing : IsLine ")".toList := ⟨by decide, by decide⟩
    exact Text.isLine_append (Text.isLine_append (Text.isLine_append each.1 opening) each.2) closing

theorem isLine_of_records {steps : List Step} {stated : List (Reply.StatedStep × Nat)}
    (records : List.Forall₂ Step.Records steps stated)
    (each : ∀ p ∈ stated, IsLine p.1.thought.toList ∧ IsLine p.1.reasoning.toList) :
    ∀ s ∈ steps, IsLine s.thought.toList := by
  induction records with
  | nil => simp
  | cons recorded _ ih =>
    obtain ⟨here, later⟩ := List.forall_mem_cons.mp each
    exact List.forall_mem_cons.mpr ⟨recorded.isLine here, ih later⟩

theorem isLine_of_mem_statedSteps {cycles : List Cycle} {step : Reply.StatedStep}
    (member : step ∈ statedSteps cycles) : IsLine step.thought.toList ∧ IsLine step.reasoning.toList := by
  obtain ⟨c, -, inside⟩ := List.mem_flatMap.mp member
  obtain ⟨completion, -, stated⟩ := List.mem_flatMap.mp inside
  exact Reply.isLine_of_mem_steps stated

def stepLine (number : Nat) (thought : String) : List Char :=
  ("Step " ++ toString number ++ ": " ++ thought).toList

theorem not_mem_toString {c : Char} (other : c.isDigit = false) (n : Nat) : c ∉ (toString n).toList := by
  intro member
  have written : (toString n).toList = Nat.toDigits 10 n := Nat.toList_repr
  rw [written] at member
  have digit := Nat.isDigit_of_mem_toDigits (by decide) (by decide) member
  simp [digit] at other

theorem isLine_toString (n : Nat) : IsLine (toString n).toList := by
  constructor
  · exact not_mem_toString (by decide) n
  · exact fun last => not_mem_toString (by decide) n (List.mem_of_getLast? last)

theorem isLine_stepLine (number : Nat) {thought : String} (whole : IsLine thought.toList) :
    IsLine (stepLine number thought) := by
  simp only [stepLine, String.toList_append]
  have opening : IsLine "Step ".toList := ⟨by decide, by decide⟩
  have colon : IsLine ": ".toList := ⟨by decide, by decide⟩
  exact Text.isLine_append (Text.isLine_append (Text.isLine_append opening (isLine_toString number))
    colon) whole

def onwardLine (number : Nat) : List Char :=
  ("Continue from Step " ++ toString number ++ ".").toList

theorem isLine_onwardLine (number : Nat) : IsLine (onwardLine number) := by
  simp only [onwardLine, String.toList_append]
  have opening : IsLine "Continue from Step ".toList := ⟨by decide, by decide⟩
  have closing : IsLine ".".toList := ⟨by decide, by decide⟩
  exact Text.isLine_append (Text.isLine_append opening (isLine_toString number)) closing

theorem lines_chainContext {steps : List Step} (each : ∀ s ∈ steps, IsLine s.thought.toList) :
    Text.lines (Session.chainContext steps).toList =
      "Steps so far:".toList :: (steps.map fun s => stepLine s.number.toNat s.thought) ++
        [onwardLine (steps.length + 1)] := by
  have whole : (Session.chainContext steps).toList = ['\n'].intercalate
      ("Steps so far:".toList :: (steps.map fun s => stepLine s.number.toNat s.thought) ++
        [onwardLine (steps.length + 1)]) := by
    rw [Session.chainContext, Text.unlines, String.toList_intercalate, List.map_append, List.map_cons,
      List.map_map]
    rfl
  rw [whole]
  apply Text.lines_intercalate
  · intro line member
    simp only [List.cons_append, List.mem_cons, List.mem_append, List.mem_map, List.not_mem_nil,
      or_false] at member
    rcases member with rfl | ⟨s, origin, rfl⟩ | rfl
    · exact ⟨by decide, by decide⟩
    · exact isLine_stepLine _ (each s origin)
    · exact isLine_onwardLine _
  · intro line last
    rw [List.getLast?_concat] at last
    obtain rfl := Option.some.inj last
    simp [onwardLine, String.toList_append]

namespace Reply

theorem scan_of_opened {α : Type} {opens : List Char → Option α} {extend : α → List Char → α}
    {lines : List (List Char)} {records : List α}
    (each : List.Forall₂ (fun line record => opens line = some record) lines records)
    (current : Option α) : scan opens extend current lines = current.toList ++ records := by
  induction each generalizing current with
  | nil => simp [scan]
  | cons opened _ ih => simp [scan, opened, ih]

theorem trim_stepLine (number : Nat) (thought : String) :
    Text.trim (stepLine number thought) =
      ("Step ".toList ++ (toString number).toList) ++ ':' :: Text.trimEnd (' ' :: thought.toList) := by
  have whole : stepLine number thought =
      ("Step ".toList ++ (toString number).toList ++ [':']) ++ ' ' :: thought.toList := by
    simp [stepLine, String.toList_append]
  rw [whole, Text.trim_append_of_solid _ _ (by simp), List.append_assoc, List.singleton_append]
  · simp [Text.isBlank]
  · intro c last
    rw [List.getLast?_concat] at last
    obtain rfl := Option.some.inj last
    decide

theorem openedStep?_stepLine (number : Nat) (thought : String) :
    openedStep? (Text.trim (stepLine number thought)) = some { thought := Text.trimmed thought } := by
  have colonless : ∀ c ∈ "Step ".toList ++ (toString number).toList, decide (c ≠ ':') = true := by
    intro c member
    rw [decide_eq_true_iff]
    rintro rfl
    rcases List.mem_append.mp member with inside | digit
    · revert inside
      decide
    · exact not_mem_toString (by decide) number digit
  have marked : stepMarker <+: Text.trim (stepLine number thought) := by
    rw [trim_stepLine, List.append_assoc]
    exact List.prefix_append _ _
  have colon : ':' ∈ Text.trim (stepLine number thought) := by
    rw [trim_stepLine]
    simp
  rw [openedStep?_eq, if_pos marked, afterColon, if_pos colon, trim_stepLine,
    List.dropWhile_append_of_pos colonless, List.dropWhile_cons_of_neg (by simp), List.tail_cons,
    Text.trim_trimEnd, Text.trim_cons_of_isBlank (by decide)]
  rfl

theorem onwardLine_idle (number : Nat) :
    openedStep? (Text.trim (onwardLine number)) = none ∧
      ∀ step : StatedStep, step.extend (Text.trim (onwardLine number)) = step := by
  have whole : onwardLine number =
      "Continue".toList ++ (" from Step ".toList ++ (toString number).toList ++ ['.']) := by
    simp [onwardLine, String.toList_append]
  have starts : "Continue".toList <+: Text.trim (onwardLine number) := by
    rw [whole, Text.trim_append_of_solid (by rintro _ ⟨⟩; rfl) (by rintro _ ⟨⟩; rfl) (by decide)]
    exact List.prefix_append _ _
  have closed : ¬stepMarker <+: Text.trim (onwardLine number) := not_marked_of_marked (by decide) starts
  have unreasoned : ¬reasoningMarker <+: Text.trim (onwardLine number) :=
    not_marked_of_marked (by decide) starts
  have unrated : ¬confidenceMarker <+: Text.trim (onwardLine number) :=
    not_marked_of_marked (by decide) starts
  refine ⟨opens_of_plain openedStep?_eq closed, ?_⟩
  intro step
  rw [extend_step_eq, if_neg unreasoned, if_neg unrated]

/-- The steps of a context are the thoughts that it lists. -/
theorem steps_chainContext {recorded : List Step} (each : ∀ s ∈ recorded, IsLine s.thought.toList) :
    steps (Session.chainContext recorded) =
      recorded.map fun s => { thought := Text.trimmed s.thought } := by
  have heading : ∀ line ∈ [Text.trim "Steps so far:".toList], openedStep? line = none := by
    decide +kernel
  have idle : ∀ line ∈ [onwardLine (recorded.length + 1)].map Text.trim,
      openedStep? line = none ∧ ∀ step : StatedStep, step.extend line = step := by
    simpa using onwardLine_idle (recorded.length + 1)
  have opened : List.Forall₂ (fun line step => openedStep? line = some step)
      ((recorded.map fun s => stepLine s.number.toNat s.thought).map Text.trim)
      (recorded.map fun s => { thought := Text.trimmed s.thought }) := by
    rw [List.map_map, List.forall₂_map_left_iff, List.forall₂_map_right_iff, List.forall₂_same]
    exact fun s _ => openedStep?_stepLine _ _
  rw [steps, stepsFrom_eq_scan, trimmedLines, lines_chainContext each, List.map_append, List.map_cons,
    ← List.singleton_append, List.append_assoc, scan_of_plain heading, scan_of_idle idle,
    scan_of_opened opened]
  rfl

end Reply

namespace Session

variable {settings : RunSettings} {catalog : Catalog} {classify : Classifier} {task id : String}
  {clock : Nat → Instant} {now : Instant} {elapsed time : Nat} {past : List Cycle} {t : Session}

theorem lines_eq_of_numbers {steps : List Step}
    (numbers : (steps.map fun s => s.number.toNat) = List.range' 1 steps.length) :
    (steps.map fun s => stepLine s.number.toNat s.thought) =
      (steps.zipIdx 1).map fun p => stepLine p.2 p.1.thought := by
  apply List.ext_getElem
  · simp
  · intro i first second
    have bound : i < steps.length := by simpa using first
    have number : steps[i].number.toNat = 1 + i := by
      have same := congrArg (·[i]?) numbers
      simpa [bound] using same
    simp [number]

/-- In chain mode the context of a prompt has one line for each step, under the numbers from one on. The
steps that a reply with this text would state are the recorded thoughts, whatever stands in them, and the
next number is the one behind the last. -/
theorem context_reads_back (mode : settings.mode = .chain)
    (reached : Reaches clock (start settings catalog classify task id now) elapsed past t time) :
    ∃ chain, t.workspace = .chain chain ∧
      (0 < chain.steps.length → chain.steps.length < UInt32.size →
        (∀ p, ∃ front, (t.prompt p).text = front ++ chainContext chain.steps) ∧
        Text.lines (chainContext chain.steps).toList = "Steps so far:".toList ::
          ((chain.steps.zipIdx 1).map fun p => stepLine p.2 p.1.thought) ++
            [onwardLine (chain.steps.length + 1)] ∧
        Reply.steps (chainContext chain.steps) =
          chain.steps.map fun s => ⟨Text.trimmed s.thought, "", 1⟩) := by
  have opened : (start settings catalog classify task id now).workspace = .chain (.start task now) := by
    simp only [start, mode]
  have nothing : List.Forall₂ Step.Records (Chain.start task now).steps
      (([] : List Reply.StatedStep).zipIdx 1) := .nil
  obtain ⟨held, -, counted, room⟩ :=
    reached.invariant Numbered (start_numbered classify task id mode now) Makes.numbered
  have few : ([] : List Reply.StatedStep).length + (statedSteps past).length < UInt32.size := by
    rw [List.length_nil, Nat.zero_add, ← counted]
    exact room
  obtain ⟨chain, written, -, records⟩ := tally_records clock few opened nothing
  rw [List.nil_append] at records
  refine ⟨chain, reached.workspace_eq.trans written, ?_⟩
  intro some_steps few
  have whole : ∀ s ∈ chain.steps, IsLine s.thought.toList := by
    apply isLine_of_records records
    exact fun p member => isLine_of_mem_statedSteps (List.fst_mem_of_mem_zipIdx member)
  have length : chain.steps.length = (statedSteps past).length := by simpa using records.length_eq
  have numbers := numbers_eq_range records (by omega)
  refine ⟨?_, ?_, Reply.steps_chainContext whole⟩
  · intro p
    have context := context_of_chain (reached.workspace_eq.trans written) some_steps
    rw [Prompt.text, prompt, context, ← String.append_assoc]
    exact ⟨_, rfl⟩
  · rw [lines_chainContext whole, lines_eq_of_numbers numbers]

/-- Thoughts with colons and a reasoning that looks like a step, in the prompt after the first reply. -/
theorem context_reads_back_of_colons :
    let fresh := start { mode := .chain } Catalog.builtin (fun _ => .simple) "task" "id" Instant.epoch
    ∃ past t chain, Reaches (fun _ => Instant.epoch) fresh 0 past t 5 ∧ t.workspace = .chain chain ∧
      chain.steps.map Step.thought = ["a: b (Step 9: c)", "Step two"] ∧
      Text.lines (chainContext chain.steps).toList = ["Steps so far:".toList,
        "Step 1: a: b (Step 9: c)".toList, "Step 2: Step two".toList, "Continue from Step 3.".toList] ∧
      Reply.steps (chainContext chain.steps) = [⟨"a: b (Step 9: c)", "", 1⟩, ⟨"Step two", "", 1⟩] := by
  intro fresh
  let completion : Completion := ⟨"Step 1: a: b\nReasoning: Step 9: c\nStep two", none⟩
  let policy := fresh.controller.currentPolicy
  let call : Call := ⟨fresh.prompt policy, policy, fresh.settings.maxTokens, 30000000000⟩
  let next := (fresh.absorb call (.completed completion) 5 Instant.epoch).value
  let chain : Chain := { Chain.start "task" Instant.epoch with
    steps := [⟨1, "a: b (Step 9: c)", none, none, 1, Instant.epoch⟩,
      ⟨2, "Step two", none, none, 1, Instant.epoch⟩] }
  have asks : fresh.turn 0 = .call call := by
    have span : policy.budget? = some 30000000000 := by decide +kernel
    simp only [turn, span, policy]
    exact if_neg (by decide +kernel)
  have made : fresh.Makes (fun _ => Instant.epoch) 0 ⟨call, .completed completion, 5⟩ next.1 next.2 :=
    ⟨⟨asks, .after 5 (.ok completion), by decide +kernel⟩, rfl, by decide +kernel⟩
  have reached := Reaches.call .start made (by decide +kernel)
  have holds : next.1.workspace = .chain chain := by decide +kernel
  obtain ⟨same, written, reads⟩ := context_reads_back rfl reached
  obtain rfl := Workspace.chain.inj (written.symm.trans holds)
  obtain ⟨-, lines, steps⟩ := reads (by decide) (by decide)
  exact ⟨_, _, chain, reached, written, rfl, lines.trans (by decide +kernel),
    steps.trans (by decide +kernel)⟩

end Session

end Deliberation
