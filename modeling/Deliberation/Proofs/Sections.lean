import Mathlib.Data.List.Induction
import Mathlib.Data.List.TakeWhile
import Deliberation.Reply.Approaches
/-! Texts in sections. A section is a line with a marker and the lines below it, up to the next line with
the marker. Records that are read line by line, by opening one at a marker and extending the open one, are
the records of the sections, and what a record holds of one kind is what the last line of that kind says. -/

namespace Deliberation

namespace Text

theorem trim_concat_of_isBlank {c : Char} (blank : isBlank c = true) (text : List Char) :
    trim (text ++ [c]) = trim text := by
  unfold trim trimStart
  rw [List.dropWhile_append]
  split
  · rename_i nothing
    rw [List.isEmpty_iff.mp nothing, List.dropWhile_cons_of_pos blank, List.dropWhile_nil]
  · rw [trimEnd, trimEnd, dropEndWhile, dropEndWhile, List.reverse_concat,
      List.dropWhile_cons_of_pos blank]

theorem trim_cons_of_isBlank {c : Char} (blank : isBlank c = true) (text : List Char) :
    trim (c :: text) = trim text := by
  rw [trim, trimStart, List.dropWhile_cons_of_pos blank]
  rfl

theorem trim_eq_nil {text : List Char} : trim text = [] ↔ ∀ c ∈ text, isBlank c = true := by
  rw [trim, trimEnd, dropEndWhile, List.reverse_eq_nil_iff, List.dropWhile_eq_nil_iff]
  simp only [List.mem_reverse, trimStart]
  constructor
  · intro blank c member
    rw [← List.takeWhile_append_dropWhile (p := isBlank) (l := text)] at member
    obtain front | rest := List.mem_append.mp member
    · exact List.mem_takeWhile_imp front
    · exact blank c rest
  · intro blank c member
    exact blank c ((List.dropWhile_sublist isBlank).mem member)

theorem trim_dropReturn (line : List Char) : trim (dropReturn line).reverse = trim line.reverse := by
  unfold dropReturn
  split
  · rw [List.reverse_cons, trim_concat_of_isBlank (by decide)]
  · rfl

/-- A line feed between two texts ends the last line of the first one, or it makes an empty line. -/
theorem map_trim_linesFrom_append (line first second : List Char) :
    ∃ gap, (∀ l ∈ gap, l = []) ∧ (linesFrom line (first ++ '\n' :: second)).map trim =
      (linesFrom line first).map trim ++ gap ++ (lines second).map trim := by
  induction first generalizing line with
  | nil =>
    cases line with
    | nil => exact ⟨[[]], by simp, rfl⟩
    | cons c line =>
      refine ⟨[], by simp, ?_⟩
      simp [linesFrom, lines, trim_dropReturn]
  | cons c rest ih =>
    by_cases ends : c = '\n'
    · obtain ⟨gap, empty, same⟩ := ih []
      refine ⟨gap, empty, ?_⟩
      simp only [List.cons_append, linesFrom, ends, if_true, List.map_cons, same]
    · obtain ⟨gap, empty, same⟩ := ih (c :: line)
      refine ⟨gap, empty, ?_⟩
      simp only [List.cons_append, linesFrom, ends, if_false, same]

/-- What follows a marker that a text starts with. -/
theorem after?_eq (marker text : List Char) :
    after? marker text = if marker <+: text then some (text.drop marker.length) else none := by
  split
  · rename_i starts
    obtain ⟨rest, rfl⟩ := starts
    rw [List.drop_left]
    exact after?_eq_some.mpr rfl
  · rename_i other
    cases found : after? marker text with
    | none => rfl
    | some rest => exact absurd ⟨rest, (after?_eq_some.mp found).symm⟩ other

theorem cut?_eq (separator : Char) (text : List Char) :
    cut? separator text = if separator ∈ text then
      some (text.takeWhile (· ≠ separator), (text.dropWhile (· ≠ separator)).tail) else none := by
  induction text with
  | nil => rfl
  | cons c rest ih =>
    by_cases same : c = separator
    · simp [cut?, same]
    · by_cases later : separator ∈ rest <;> simp [cut?, same, Ne.symm same, later, ih]

end Text

namespace Reply

/-- No text starts with two markers, neither of which starts with the other. -/
theorem not_marked_of_marked {marker other line : List Char}
    (apart : ¬marker <+: other ∧ ¬other <+: marker) (starts : marker <+: line) : ¬other <+: line := by
  intro also
  obtain inside | inside := List.prefix_or_prefix_of_prefix starts also
  · exact apart.1 inside
  · exact apart.2 inside

/-- Two texts with a line feed between them have the trimmed lines of both, and perhaps an empty one. -/
theorem trimmedLines_append (first second : String) :
    ∃ gap, (∀ l ∈ gap, l = []) ∧ trimmedLines (first ++ "\n" ++ second).toList =
      trimmedLines first.toList ++ gap ++ trimmedLines second.toList := by
  obtain ⟨gap, empty, same⟩ := Text.map_trim_linesFrom_append [] first.toList second.toList
  refine ⟨gap, empty, ?_⟩
  simpa [trimmedLines, Text.lines] using same

/-- The lines before the first one with the marker. -/
def untilMarker (marker : List Char) (lines : List (List Char)) : List (List Char) :=
  lines.takeWhile fun line => ¬marker <+: line

/-- A line with a marker, and the lines below it. -/
structure Section where
  heading : List Char
  body : List (List Char)

/-- The sections of some lines, one for each line with the marker. What stands before the first of these
lines is in no section. -/
def sections (marker : List Char) : List (List Char) → List Section
  | [] => []
  | line :: rest =>
    if marker <+: line then ⟨line, untilMarker marker rest⟩ :: sections marker rest
    else sections marker rest

def contents (marker : List Char) (lines : List (List Char)) : List (List Char) :=
  (lines.filter fun line => marker <+: line).map (List.drop marker.length)

section
variable {marker line : List Char} {lines : List (List Char)}

theorem untilMarker_cons_of_marked (opens : marker <+: line) :
    untilMarker marker (line :: lines) = [] :=
  List.takeWhile_cons_of_neg (by simpa using opens)

theorem untilMarker_cons_of_plain (plain : ¬marker <+: line) :
    untilMarker marker (line :: lines) = line :: untilMarker marker lines :=
  List.takeWhile_cons_of_pos (by simpa using plain)

theorem map_heading_sections (marker : List Char) (lines : List (List Char)) :
    (sections marker lines).map Section.heading = lines.filter fun line => marker <+: line := by
  induction lines with
  | nil => rfl
  | cons line rest ih => by_cases opens : marker <+: line <;> simp [sections, opens, ih]

theorem contents_concat (marker : List Char) (lines : List (List Char)) (line : List Char) :
    contents marker (lines ++ [line]) =
      contents marker lines ++ if marker <+: line then [line.drop marker.length] else [] := by
  by_cases marked : marker <+: line <;> simp [contents, marked]

end

/-- The records of some lines that go on from an open record. A line opens a record, or else it
extends the one that is open. -/
def scan {α : Type} (opens : List Char → Option α) (extend : α → List Char → α) :
    Option α → List (List Char) → List α
  | current, [] => current.toList
  | current, line :: rest =>
    match opens line with
    | some record => current.toList ++ scan opens extend (some record) rest
    | none => scan opens extend (current.map (extend · line)) rest

section
variable {α β : Type} {marker : List Char} {opens : List Char → Option α} {opened : List Char → α}
  {extend : α → List Char → α} {first second : List (List Char)}

/-- The records of some lines are the open record with the lines up to the first section, and a record of
each section. -/
theorem scan_eq_sections
    (opens_eq : ∀ line, opens line = if marker <+: line then some (opened line) else none)
    (current : Option α) (lines : List (List Char)) :
    scan opens extend current lines =
      (current.map fun record => (untilMarker marker lines).foldl extend record).toList ++
        (sections marker lines).map fun s => s.body.foldl extend (opened s.heading) := by
  induction lines generalizing current with
  | nil => simp [scan, untilMarker, sections]
  | cons line rest ih =>
    unfold scan
    rw [opens_eq]
    by_cases heading : marker <+: line
    · simp [heading, ih, sections, untilMarker_cons_of_marked]
    · simp [heading, ih, sections, untilMarker_cons_of_plain, Function.comp_def]

/-- A field that the lines of one kind set, each in the place of what was there, has in the end what the
last of them says. -/
theorem foldl_of_sets (get : α → β) (read : List Char → β)
    (sets : ∀ record line, get (extend record line) =
      if marker <+: line then read (line.drop marker.length) else get record)
    (record : α) (lines : List (List Char)) :
    get (lines.foldl extend record) = ((contents marker lines).getLast?.map read).getD (get record) := by
  induction lines using List.reverseRecOn with
  | nil => rfl
  | append_singleton lines line ih =>
    rw [List.foldl_append, List.foldl_cons, List.foldl_nil, sets, contents_concat]
    split
    · rw [List.getLast?_concat]
      rfl
    · rw [List.append_nil]
      exact ih

theorem foldl_of_keeps (get : α → β) (keeps : ∀ record line, get (extend record line) = get record)
    (record : α) (lines : List (List Char)) : get (lines.foldl extend record) = get record := by
  induction lines generalizing record with
  | nil => rfl
  | cons line rest ih => rw [List.foldl_cons, ih, keeps]

theorem scan_of_plain (plain : ∀ line ∈ first, opens line = none) :
    scan opens extend none (first ++ second) = scan opens extend none second := by
  induction first with
  | nil => rfl
  | cons line rest ih =>
    obtain ⟨here, later⟩ := List.forall_mem_cons.mp plain
    rw [List.cons_append, scan, here]
    exact ih later

theorem scan_of_idle (idle : ∀ line ∈ second, opens line = none ∧ ∀ record, extend record line = record)
    (current : Option α) (first : List (List Char)) :
    scan opens extend current (first ++ second) = scan opens extend current first := by
  induction first generalizing current with
  | nil =>
    induction second with
    | nil => rfl
    | cons line rest ih =>
      obtain ⟨here, later⟩ := List.forall_mem_cons.mp idle
      have same : current.map (extend · line) = current := by simp [here.2]
      simp only [List.nil_append, scan, here.1, same]
      exact ih later
  | cons line rest ih =>
    rw [List.cons_append, scan, scan]
    cases opens line <;> simp [ih]

/-- Lines that open a record at first leave the records before them as they are. -/
theorem scan_append (starts : ∀ line ∈ second.head?, ∃ record, opens line = some record)
    (current : Option α) (first : List (List Char)) :
    scan opens extend current (first ++ second) =
      scan opens extend current first ++ scan opens extend none second := by
  induction first generalizing current with
  | nil =>
    cases second with
    | nil => simp [scan]
    | cons line rest =>
      obtain ⟨record, opens_line⟩ := starts line rfl
      simp [scan, opens_line]
  | cons line rest ih =>
    rw [List.cons_append, scan, scan]
    cases opens line <;> simp [ih]

variable (opens_eq : ∀ line, opens line = if marker <+: line then some (opened line) else none)
  (nonempty : marker ≠ [])
include opens_eq

theorem opens_of_plain {line : List Char} (plain : ¬marker <+: line) : opens line = none := by
  rw [opens_eq, if_neg plain]

include nonempty

/-- What stands before the first line with the marker does not matter. -/
theorem scan_trimmedLines_of_plain {front : String}
    (plain : ∀ line ∈ trimmedLines front.toList, ¬marker <+: line) (text : String) :
    scan opens extend none (trimmedLines (front ++ "\n" ++ text).toList) =
      scan opens extend none (trimmedLines text.toList) := by
  obtain ⟨gap, empty, same⟩ := trimmedLines_append front text
  rw [same]
  apply scan_of_plain
  intro line member
  apply opens_of_plain opens_eq
  obtain before | between := List.mem_append.mp member
  · exact plain line before
  · rw [empty line between, List.prefix_nil]
    exact nonempty

/-- A text that is empty or has the marker in its first line is read after another text as it is read
alone. -/
theorem scan_trimmedLines_append (idle : ∀ record, extend record [] = record) (text : String)
    {behind : String}
    (starts : behind = "" ∨ ∃ line ∈ (trimmedLines behind.toList).head?, marker <+: line) :
    scan opens extend none (trimmedLines (text ++ "\n" ++ behind).toList) =
      scan opens extend none (trimmedLines text.toList) ++
        scan opens extend none (trimmedLines behind.toList) := by
  obtain ⟨gap, empty, same⟩ := trimmedLines_append text behind
  have heads : ∀ line ∈ (trimmedLines behind.toList).head?, ∃ record, opens line = some record := by
    intro line member
    obtain rfl | ⟨first, also, starts⟩ := starts
    · contradiction
    · obtain rfl := Option.some.inj (also.symm.trans member)
      exact ⟨opened first, by rw [opens_eq, if_pos starts]⟩
  rw [same, scan_append heads, scan_of_idle]
  intro line member
  rw [empty line member]
  refine ⟨opens_of_plain opens_eq ?_, idle⟩
  rw [List.prefix_nil]
  exact nonempty

end

end Reply

end Deliberation
