import Deliberation.Reply.Assessment
import Deliberation.Proofs.Scores
import Deliberation.Proofs.Sections
/-! The reports of a reply. Progress and confidence are the last ones that can be read before the first
line with a final answer, and the answer is all that follows its marker, whatever stands in it. -/

namespace Deliberation

namespace Text

theorem dropWhile_infix {p : Char → Bool} {inner outer : List Char} (h : inner <:+: outer) :
    inner.dropWhile p <:+: outer.dropWhile p := by
  obtain ⟨front, back, rfl⟩ := h
  rw [List.append_assoc, List.dropWhile_append]
  split
  · rw [List.dropWhile_append]
    split
    · rename_i nothing
      rw [List.isEmpty_iff.mp nothing]
      exact List.nil_infix
    · exact (List.prefix_append _ _).isInfix
  · have whole : inner <:+: front.dropWhile p ++ (inner ++ back) :=
      (List.prefix_append inner back).isInfix.trans (List.suffix_append _ _).isInfix
    exact (List.dropWhile_suffix p).isInfix.trans whole

/-- A part of a text keeps its place between the blanks around the text, up to its own blanks. -/
theorem trim_infix {inner outer : List Char} (h : inner <:+: outer) : trim inner <:+: trim outer := by
  unfold trim trimEnd dropEndWhile
  rw [List.reverse_infix]
  apply dropWhile_infix
  rw [List.reverse_infix]
  exact dropWhile_infix h

def nonblank? (text : List Char) : Option String :=
  if trim text = [] then none else some (String.ofList (trim text))

theorem exists_nonblank? {inner outer : List Char} (h : inner <:+: outer) (content : trim inner ≠ []) :
    ∃ found, nonblank? outer = some found ∧ trim inner <:+: found.toList := by
  have inside := trim_infix h
  refine ⟨String.ofList (trim outer), if_neg ?_, by rwa [String.toList_ofList]⟩
  intro nothing
  rw [nothing, List.infix_nil] at inside
  exact content inside

/-- A line feed at the front is a blank like any other. -/
theorem nonblank?_cons {c : Char} (blank : isBlank c = true) (text : List Char) :
    nonblank? (c :: text) = nonblank? text := by
  rw [nonblank?, nonblank?, trim_cons_of_isBlank blank]

end Text

namespace Reply

open Binary64 (InUnit)

/-- The last value that can be read from lines with a marker. -/
def lastRead? (read : List Char → Option Float) (marker : List Char) (lines : List (List Char)) :
    Option Float :=
  ((contents marker lines).filterMap read).getLast?

/-- The answer of the lines from an answer line on: the rest of that line, and all further lines as they
stand. -/
def answerOf? : List (List Char) → Option String
  | [] => none
  | first :: later =>
    Text.nonblank? (['\n'].intercalate (Text.trim ((Text.trim first).drop answerMarker.length) :: later))

section
variable {read : List Char → Option Float} {marker line : List Char} {lines : List (List Char)}

theorem lastRead?_cons_of_marked (marked : marker <+: line) :
    lastRead? read marker (line :: lines) =
      (lastRead? read marker lines).or (read (line.drop marker.length)) := by
  cases given : read (line.drop marker.length) with
  | none => simp [lastRead?, contents, marked, given]
  | some x => simp [lastRead?, contents, marked, given, List.getLast?_cons]

theorem lastRead?_cons_of_plain (plain : ¬marker <+: line) :
    lastRead? read marker (line :: lines) = lastRead? read marker lines := by
  simp [lastRead?, contents, plain]

end

theorem intercalate_cons (line : List Char) (lines : List (List Char)) :
    ['\n'].intercalate (line :: lines) = line ++ (lines.map ('\n' :: ·)).flatten := by
  induction lines generalizing line with
  | nil => simp
  | cons next rest ih =>
    rw [List.intercalate_cons_cons, ih, List.map_cons, List.flatten_cons]
    simp

theorem answer?_eq (rest : List Char) (tail : List (List Char)) :
    answer? rest tail = Text.nonblank? (['\n'].intercalate (Text.trim rest :: tail)) := by
  rw [intercalate_cons]
  rfl

/-- The lines before the first one with an answer, without the blanks around them. -/
def reports (lines : List (List Char)) : List (List Char) :=
  (lines.takeWhile fun line => ¬answerMarker <+: Text.trim line).map Text.trim

theorem reports_cons_of_plain {raw : List Char} (plain : ¬answerMarker <+: Text.trim raw)
    (lines : List (List Char)) : reports (raw :: lines) = Text.trim raw :: reports lines := by
  simp [reports, plain]

theorem assessFrom_eq {a : Assessment} (unanswered : a.finalAnswer = none) (lines : List (List Char)) :
    assessFrom a lines =
      { progress := (lastRead? progress? progressMarker (reports lines)).or a.progress
        confidence := (lastRead? confidence? confidenceMarker (reports lines)).or a.confidence
        finalAnswer := answerOf? (lines.dropWhile fun line => ¬answerMarker <+: Text.trim line) } := by
  induction lines generalizing a with
  | nil =>
    obtain ⟨progress, confidence, finalAnswer⟩ := a
    obtain rfl : finalAnswer = none := unanswered
    simp [assessFrom, reports, lastRead?, contents, answerOf?]
  | cons raw tail ih =>
    simp only [assessFrom, Text.after?_eq]
    by_cases answers : answerMarker <+: Text.trim raw
    · have unprogressing : ¬progressMarker <+: Text.trim raw :=
        not_marked_of_marked (by decide) answers
      have unconfident : ¬confidenceMarker <+: Text.trim raw := not_marked_of_marked (by decide) answers
      simp [unprogressing, unconfident, answers, reports, lastRead?, contents, answerOf?, answer?_eq]
    rw [reports_cons_of_plain answers, List.dropWhile_cons_of_pos (by simpa using answers)]
    by_cases progressing : progressMarker <+: Text.trim raw
    · have unconfident : ¬confidenceMarker <+: Text.trim raw :=
        not_marked_of_marked (by decide) progressing
      rw [lastRead?_cons_of_marked progressing, lastRead?_cons_of_plain unconfident]
      simp [progressing, ih, unanswered, Option.or_assoc]
    by_cases confident : confidenceMarker <+: Text.trim raw
    · rw [lastRead?_cons_of_plain progressing, lastRead?_cons_of_marked confident]
      simp [progressing, confident, ih, unanswered, Option.or_assoc]
    · rw [lastRead?_cons_of_plain progressing, lastRead?_cons_of_plain confident]
      simp [progressing, confident, answers, ih, unanswered]

theorem assess_eq (text : String) :
    assess text =
      { progress := lastRead? progress? progressMarker (reports (Text.lines text.toList))
        confidence := lastRead? confidence? confidenceMarker (reports (Text.lines text.toList))
        finalAnswer := answerOf?
          ((Text.lines text.toList).dropWhile fun line => ¬answerMarker <+: Text.trim line) } := by
  rw [assess, assessFrom_eq rfl, Option.or_none, Option.or_none]

theorem exists_of_lastRead? {read : List Char → Option Float} {marker : List Char}
    {lines : List (List Char)} {x : Float} (h : lastRead? read marker lines = some x) :
    ∃ rest, read rest = some x := by
  obtain ⟨rest, -, given⟩ := List.mem_filterMap.mp (List.mem_of_getLast? h)
  exact ⟨rest, given⟩

theorem assess_progress_inUnit (text : String) : ∀ x ∈ (assess text).progress, InUnit x := by
  intro x given
  rw [assess_eq] at given
  obtain ⟨rest, reported⟩ := exists_of_lastRead? given
  exact progress?_inUnit reported

theorem assess_confidence_inUnit (text : String) : ∀ x ∈ (assess text).confidence, InUnit x := by
  intro x given
  rw [assess_eq] at given
  obtain ⟨rest, reported⟩ := exists_of_lastRead? given
  exact confidence?_inUnit reported

theorem answerOf?_of_blank {first : List Char}
    (blank : Text.trim ((Text.trim first).drop answerMarker.length) = []) (later : List (List Char)) :
    answerOf? (first :: later) = Text.nonblank? (['\n'].intercalate later) := by
  rw [answerOf?, blank]
  cases later with
  | nil => rfl
  | cons next rest => exact Text.nonblank?_cons (by decide) _

/-- Every line behind an answer line is a part of the answer, unless it is blank. -/
theorem exists_answerOf? (first : List Char) {later : List (List Char)} {line : List Char}
    (member : line ∈ later) (content : Text.trim line ≠ []) :
    ∃ answer, answerOf? (first :: later) = some answer ∧ Text.trim line <:+: answer.toList := by
  apply Text.exists_nonblank? _ content
  rw [intercalate_cons]
  have inside : '\n' :: line <:+: (later.map ('\n' :: ·)).flatten :=
    List.infix_of_mem_flatten (List.mem_map_of_mem member)
  exact (List.suffix_cons _ _).isInfix.trans (inside.trans (List.suffix_append _ _).isInfix)

/-- Progress and confidence are the last ones that can be read in the lines before the first answer line.
The answer is what follows the marker of this line up to the end of the text, unless all of it is blank.
Where the answer line says nothing more, the lines below it are the answer, and further answer lines among
them are parts of it. -/
theorem assess_eq_reports (text : String) :
    let lines := Text.lines text.toList
    let before := (lines.takeWhile fun line => ¬answerMarker <+: Text.trim line).map Text.trim
    let rest := lines.dropWhile fun line => ¬answerMarker <+: Text.trim line
    assess text =
      { progress := lastRead? progress? progressMarker before
        confidence := lastRead? confidence? confidenceMarker before
        finalAnswer := answerOf? rest } ∧
    ∀ first later, rest = first :: later →
      (Text.trim ((Text.trim first).drop answerMarker.length) = [] →
        (assess text).finalAnswer = Text.nonblank? (['\n'].intercalate later)) ∧
      ∀ line ∈ later, answerMarker <+: Text.trim line →
        ∃ answer, (assess text).finalAnswer = some answer ∧ Text.trim line <:+: answer.toList := by
  intro lines before rest
  refine ⟨assess_eq text, fun first later whole => ?_⟩
  have answered : (assess text).finalAnswer = answerOf? (first :: later) := by
    rw [← whole, assess_eq]
  rw [answered]
  refine ⟨fun blank => answerOf?_of_blank blank later, fun line member answers => ?_⟩
  apply exists_answerOf? first member
  intro nothing
  rw [nothing, List.prefix_nil] at answers
  contradiction

/-- Reports behind an answer line do not count, and a second answer line belongs to the answer of the
first one, which says nothing in its own line. -/
theorem assess_eq_reports_of_twice :
    let text := "Progress: 40%\nProgress: soon\r\n Final Answer: \nProgress: 90%\n  Final Answer: 4\n"
    let first := " Final Answer: ".toList
    let later := ["Progress: 90%".toList, "  Final Answer: 4".toList]
    (Text.lines text.toList).dropWhile (fun line => ¬answerMarker <+: Text.trim line) =
        first :: later ∧
      Text.trim ((Text.trim first).drop answerMarker.length) = [] ∧
      answerMarker <+: Text.trim "  Final Answer: 4".toList ∧
      assess text = ⟨some 0.4, none, some "Progress: 90%\n  Final Answer: 4"⟩ ∧
      (assess text).finalAnswer = Text.nonblank? (['\n'].intercalate later) ∧
      ∃ answer, (assess text).finalAnswer = some answer ∧ "Final Answer: 4".toList <:+: answer.toList := by
  intro text first later
  obtain ⟨read, answers⟩ := assess_eq_reports text
  have whole : (Text.lines text.toList).dropWhile (fun line => ¬answerMarker <+: Text.trim line) =
      first :: later := by decide +kernel
  have blank : Text.trim ((Text.trim first).drop answerMarker.length) = [] := by decide +kernel
  have again : answerMarker <+: Text.trim "  Final Answer: 4".toList := by decide +kernel
  obtain ⟨alone, further⟩ := answers first later whole
  obtain ⟨answer, same, inside⟩ := further _ (by simp [later]) again
  have trimmed : Text.trim "  Final Answer: 4".toList = "Final Answer: 4".toList := by decide +kernel
  rw [trimmed] at inside
  exact ⟨whole, blank, again, read.trans (by decide +kernel), alone blank, answer, same, inside⟩

end Reply

end Deliberation
