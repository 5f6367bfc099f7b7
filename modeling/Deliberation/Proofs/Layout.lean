import Mathlib.Data.List.DropRight
import Deliberation.Proofs.Sections
/-! Blanks and lines. What is trimmed and what is the first word does not depend on the blanks around a text,
and lines that are put together and split again are the same lines. -/

namespace Deliberation.Text

section
variable {p : Char → Bool} {text front back : List Char}

theorem takeWhile_append_of_head (stops : ∀ c ∈ back.head?, p c = false) (front : List Char) :
    (front ++ back).takeWhile p = front.takeWhile p := by
  have nothing : back.takeWhile p = [] := by
    cases back with
    | nil => rfl
    | cons c rest => exact List.takeWhile_cons_of_neg (by simp [stops c rfl])
  rw [List.takeWhile_append, nothing, List.append_nil]
  split
  · rename_i all
    exact ((List.takeWhile_prefix p).eq_of_length all).symm
  · rfl

theorem dropWhile_append_of_head (stops : ∀ c ∈ back.head?, p c = false) (front : List Char) :
    (front ++ back).dropWhile p = front.dropWhile p ++ back := by
  rw [List.dropWhile_append]
  split
  · rename_i nothing
    rw [List.isEmpty_iff.mp nothing]
    cases back with
    | nil => rfl
    | cons c rest => exact List.dropWhile_cons_of_neg (by simp [stops c rfl])
  · rfl

theorem exists_dropEndWhile_append (p : Char → Bool) (text : List Char) :
    ∃ back, text = dropEndWhile p text ++ back ∧ ∀ c ∈ back, p c = true := by
  refine ⟨text.rtakeWhile p, (List.rdropWhile_append_rtakeWhile (p := p)).symm, ?_⟩
  intro c member
  exact List.mem_rtakeWhile_imp member

theorem last_dropEndWhile : ∀ c ∈ (dropEndWhile p text).getLast?, p c = false := by
  intro c last
  have nonempty : dropEndWhile p text ≠ [] := by
    intro empty
    simp [empty] at last
  rw [List.getLast?_eq_some_getLast nonempty] at last
  obtain rfl := Option.some.inj last
  exact eq_false_of_ne_true (List.rdropWhile_last_not p text nonempty)

theorem dropEndWhile_eq_self (last : ∀ c ∈ text.getLast?, p c = false) : dropEndWhile p text = text := by
  refine List.rdropWhile_eq_self_iff.mpr ?_
  intro nonempty
  simp [last _ (List.getLast?_eq_some_getLast nonempty)]

theorem dropEndWhile_append_of_all (dropped : ∀ c ∈ back, p c = true) :
    dropEndWhile p (front ++ back) = dropEndWhile p front := by
  induction back using List.reverseRecOn with
  | nil => rw [List.append_nil]
  | append_singleton back c ih =>
    rw [← List.append_assoc]
    have here : p c = true := dropped c (by simp)
    refine (List.rdropWhile_concat_pos p (front ++ back) c here).trans (ih ?_)
    intro d member
    exact dropped d (by simp [member])

theorem dropEndWhile_append_of_last (kept : ∀ c ∈ front.getLast?, p c = false) (back : List Char) :
    dropEndWhile p (front ++ back) = front ++ dropEndWhile p back := by
  obtain ⟨dropped, whole, all⟩ := exists_dropEndWhile_append p back
  have last : ∀ c ∈ (front ++ dropEndWhile p back).getLast?, p c = false := by
    intro c member
    rw [List.getLast?_append] at member
    cases newest : (dropEndWhile p back).getLast? with
    | none =>
      rw [newest] at member
      exact kept c member
    | some d =>
      rw [newest] at member
      obtain rfl := Option.some.inj member
      exact last_dropEndWhile d newest
  conv => lhs; rw [whole, ← List.append_assoc, dropEndWhile_append_of_all all]
  exact dropEndWhile_eq_self last

end

section
variable {text front back : List Char}

theorem trim_append_of_blank (blank : ∀ c ∈ back, isBlank c = true) : trim (text ++ back) = trim text := by
  induction back using List.reverseRecOn with
  | nil => rw [List.append_nil]
  | append_singleton back c ih =>
    rw [← List.append_assoc, trim_concat_of_isBlank (blank c (by simp))]
    apply ih
    intro d member
    exact blank d (by simp [member])

theorem trim_trimEnd (text : List Char) : trim (trimEnd text) = trim text := by
  obtain ⟨back, whole, blank⟩ := exists_dropEndWhile_append isBlank text
  conv => rhs; rw [whole]
  exact (trim_append_of_blank blank).symm

/-- What stands before the blanks of a text stays as it is. -/
theorem trim_append_of_solid (first : ∀ c ∈ front.head?, isBlank c = false)
    (last : ∀ c ∈ front.getLast?, isBlank c = false) (nonempty : front ≠ []) (back : List Char) :
    trim (front ++ back) = front ++ trimEnd back := by
  have starts : trimStart (front ++ back) = front ++ back := by
    cases front with
    | nil => exact absurd rfl nonempty
    | cons c rest => exact List.dropWhile_cons_of_neg (by simp [first c rfl])
  rw [trim, starts]
  exact dropEndWhile_append_of_last last back

theorem last_trim : ∀ c ∈ (trim text).getLast?, isBlank c = false :=
  last_dropEndWhile

theorem mem_of_mem_trim {c : Char} (member : c ∈ trim text) : c ∈ text := by
  have inside : c ∈ trimStart text := List.IsPrefix.mem member (List.rdropWhile_prefix isBlank _)
  exact (List.dropWhile_sublist isBlank).mem inside

end

section
variable {text word back : List Char}

theorem firstWord?_cons_of_isBlank {c : Char} (blank : isBlank c = true) (text : List Char) :
    firstWord? (c :: text) = firstWord? text := by
  rw [firstWord?, trimStart, List.dropWhile_cons_of_pos blank]
  rfl

theorem firstWord?_append_of_blank (blank : ∀ c ∈ back, isBlank c = true) :
    firstWord? (text ++ back) = firstWord? text := by
  have nothing : back.dropWhile isBlank = [] := List.dropWhile_eq_nil_iff.mpr blank
  have stops : ∀ c ∈ back.head?, (!isBlank c) = false := by
    intro c head
    simp [blank c (List.mem_of_mem_head? head)]
  unfold firstWord? trimStart
  rw [List.dropWhile_append]
  cases content : text.dropWhile isBlank with
  | nil => simp [nothing]
  | cons c rest => simpa using takeWhile_append_of_head stops (c :: rest)

theorem firstWord?_trimEnd (text : List Char) : firstWord? (trimEnd text) = firstWord? text := by
  obtain ⟨back, whole, blank⟩ := exists_dropEndWhile_append isBlank text
  conv => rhs; rw [whole]
  exact (firstWord?_append_of_blank blank).symm

theorem solid_of_firstWord? (first : firstWord? text = some word) :
    word ≠ [] ∧ ∀ c ∈ word, isBlank c = false := by
  unfold firstWord? at first
  split at first
  · contradiction
  · rename_i nonempty
    obtain rfl := Option.some.inj first
    constructor
    · have head : isBlank ((trimStart text).head nonempty) = false :=
        List.head_dropWhile_not isBlank nonempty
      cases content : trimStart text with
      | nil => exact absurd content nonempty
      | cons c rest =>
        simp only [content, List.head_cons] at head
        simp [head]
    · intro c member
      simpa using List.mem_takeWhile_imp member

/-- A word is its own first word. -/
theorem firstWord?_of_firstWord? (first : firstWord? text = some word) : firstWord? word = some word := by
  obtain ⟨nonempty, solid⟩ := solid_of_firstWord? first
  have whole : word.takeWhile (fun c => !isBlank c) = word := by
    rw [List.takeWhile_eq_self_iff]
    intro c member
    simp [solid c member]
  cases word with
  | nil => exact absurd rfl nonempty
  | cons c rest =>
    have starts : trimStart (c :: rest) = c :: rest :=
      List.dropWhile_cons_of_neg (by simp [solid c List.mem_cons_self])
    simp only [firstWord?, starts, whole]

end

section
variable {line front text : List Char}

theorem linesFrom_append (feedless : '\n' ∉ line) (front rest : List Char) :
    linesFrom front (line ++ '\n' :: rest) = (dropReturn (line.reverse ++ front)).reverse :: lines rest := by
  induction line generalizing front with
  | nil => cases front <;> simp [linesFrom, lines]
  | cons c line ih =>
    simp only [List.mem_cons, not_or] at feedless
    simp [linesFrom, Ne.symm feedless.1, ih feedless.2]

theorem linesFrom_of_feedless (feedless : '\n' ∉ line) (nonempty : front ≠ [] ∨ line ≠ []) :
    linesFrom front line = [front.reverse ++ line] := by
  induction line generalizing front with
  | nil =>
    cases front with
    | nil => simp at nonempty
    | cons c front => simp [linesFrom]
  | cons c line ih =>
    simp only [List.mem_cons, not_or] at feedless
    simp [linesFrom, Ne.symm feedless.1, ih feedless.2]

/-- A line that a text can have for one of its lines, as it stands. -/
structure IsLine (line : List Char) : Prop where
  feedless : '\n' ∉ line
  last : line.getLast? ≠ some '\r'

theorem dropReturn_reverse (last : line.getLast? ≠ some '\r') : dropReturn line.reverse = line.reverse := by
  unfold dropReturn
  split
  · rename_i rest whole
    refine absurd ?_ last
    rw [← List.head?_reverse, whole, List.head?_cons]
  · rfl

/-- Lines that are put together with line feeds between them split into the same lines again, where the
last of them is not empty. -/
theorem lines_intercalate {list : List (List Char)} (each : ∀ line ∈ list, IsLine line)
    (nonempty : ∀ line ∈ list.getLast?, line ≠ []) : lines (['\n'].intercalate list) = list := by
  induction list with
  | nil => rfl
  | cons line rest ih =>
    obtain ⟨here, later⟩ := List.forall_mem_cons.mp each
    cases rest with
    | nil =>
      have content : line ≠ [] := nonempty line rfl
      simp [lines, linesFrom_of_feedless here.feedless (.inr content)]
    | cons next rest =>
      rw [List.intercalate_cons_cons, List.append_assoc, List.singleton_append, lines,
        linesFrom_append here.feedless, List.append_nil, dropReturn_reverse here.last, List.reverse_reverse,
        ih later nonempty]

theorem feedless_dropReturn (before : '\n' ∉ front) : '\n' ∉ (dropReturn front).reverse := by
  unfold dropReturn
  split
  · rw [List.mem_reverse]
    exact fun member => before (List.mem_cons_of_mem _ member)
  · rwa [List.mem_reverse]

theorem feedless_of_mem_linesFrom (before : '\n' ∉ front) (member : line ∈ linesFrom front text) :
    '\n' ∉ line := by
  induction text generalizing front with
  | nil =>
    cases front with
    | nil => simp [linesFrom] at member
    | cons c front =>
      simp only [linesFrom, List.mem_singleton] at member
      rwa [member, List.mem_reverse]
  | cons c rest ih =>
    simp only [linesFrom] at member
    split at member
    · obtain rfl | later := List.mem_cons.mp member
      · exact feedless_dropReturn before
      · exact ih List.not_mem_nil later
    · rename_i other
      refine ih ?_ member
      simp only [List.mem_cons, not_or]
      exact ⟨Ne.symm other, before⟩

theorem feedless_of_mem_lines (member : line ∈ lines text) : '\n' ∉ line :=
  feedless_of_mem_linesFrom List.not_mem_nil member

end

end Deliberation.Text
