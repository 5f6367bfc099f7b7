import Mathlib.Algebra.Ring.Nat
import Deliberation.Complexity
import Deliberation.Proofs.Layout
import Deliberation.Proofs.Occurrences
import Deliberation.Text.Lowercase
/-! Grading a task of several lines. Each keyword is counted as often as it can stand in the task without
overlaps. Lowercasing looks no farther than to the end of a line, so that keywords within lines are counted
line by line, and lines that do not speak against each other give their grade to the task. -/

namespace Deliberation

namespace Text

theorem isCaseIgnorable_feed : isCaseIgnorable '\n' = false := by
  decide +kernel

theorem isCased_feed : isCased '\n' = false := by
  decide +kernel

theorem lowercaseChar_feed : lowercaseChar '\n' = ['\n'] := by
  decide

/-- What is cased around a letter is looked for in its line only. -/
theorem meetsCased_append_feed (line rest : List Char) : meetsCased (line ++ '\n' :: rest) = meetsCased line := by
  have stops : ∀ c ∈ ('\n' :: rest).head?, isCaseIgnorable c = false := by
    rintro _ ⟨⟩
    exact isCaseIgnorable_feed
  unfold meetsCased
  rw [dropWhile_append_of_head stops]
  cases line.dropWhile isCaseIgnorable with
  | nil => exact isCased_feed
  | cons c _ => rfl

theorem lowercaseAfter_append_feed (before earlier text : List Char) :
    lowercaseAfter (before ++ '\n' :: earlier) text = lowercaseAfter before text := by
  induction text generalizing before with
  | nil => rfl
  | cons c rest ih => rw [lowercaseAfter, lowercaseAfter, meetsCased_append_feed, ← List.cons_append, ih]

theorem lowercaseAfter_feed (before rest : List Char) :
    lowercaseAfter before ('\n' :: rest) = '\n' :: lowercase rest := by
  rw [lowercaseAfter, if_neg (by decide), lowercaseChar_feed]
  exact congrArg ('\n' :: ·) (lowercaseAfter_append_feed [] before rest)

theorem lowercaseAfter_lines (before line rest : List Char) :
    lowercaseAfter before (line ++ '\n' :: rest) = lowercaseAfter before line ++ '\n' :: lowercase rest := by
  induction line generalizing before with
  | nil => exact lowercaseAfter_feed before rest
  | cons c line ih =>
    rw [List.cons_append, lowercaseAfter, lowercaseAfter, meetsCased_append_feed, ih, List.append_assoc]

theorem lowercase_lines (line rest : List Char) :
    lowercase (line ++ '\n' :: rest) = lowercase line ++ '\n' :: lowercase rest :=
  lowercaseAfter_lines [] line rest

theorem lt_simpleLowercase {code : Nat} (other : 10 < code) : 10 < simpleLowercase code := by
  have images : ∀ run ∈ lowercaseRuns, 10 < run.2.2.2 := by decide +kernel
  unfold simpleLowercase
  split
  · rename_i run found
    exact Nat.lt_add_right _ (images run (List.mem_of_find?_eq_some found))
  · exact other

theorem toLower_ne_feed {c : Char} (other : c ≠ '\n') : c.toLower ≠ '\n' := by
  unfold Char.toLower
  split
  · rename_i upper
    intro same
    have least : 65 ≤ c.toNat := upper.1
    have greatest : c.toNat ≤ 90 := upper.2
    have code : (c.val + 32).toNat = 10 := congrArg Char.toNat same
    rw [UInt32.toNat_add, Char.toNat_val] at code
    change (c.toNat + 32) % UInt32.size = 10 at code
    simp only [UInt32.size] at code
    omega
  · exact other

theorem ofNat_ne_feed {code : Nat} (other : 10 < code) : Char.ofNat code ≠ '\n' := by
  unfold Char.ofNat
  by_cases valid : code.isValidChar
  · rw [dif_pos valid]
    intro same
    have equal : code = 10 := congrArg Char.toNat same
    omega
  · rw [dif_neg valid]
    decide

theorem feed_notMem_lowercaseChar {c : Char} (other : c ≠ '\n') : '\n' ∉ lowercaseChar c := by
  unfold lowercaseChar
  split
  · exact fun member => toLower_ne_feed other (List.mem_singleton.mp member).symm
  · rename_i high
    split
    · decide
    · have above : 10 < simpleLowercase c.toNat := lt_simpleLowercase (by omega)
      exact fun member => ofNat_ne_feed above (List.mem_singleton.mp member).symm

theorem feed_notMem_lowercaseAfter {text : List Char} (within : '\n' ∉ text) (before : List Char) :
    '\n' ∉ lowercaseAfter before text := by
  induction text generalizing before with
  | nil => exact within
  | cons c rest ih =>
    rw [List.mem_cons, not_or] at within
    rw [lowercaseAfter, List.mem_append, not_or]
    refine ⟨?_, ih within.2 _⟩
    split
    · split <;> decide
    · exact feed_notMem_lowercaseChar (Ne.symm within.1)

end Text

namespace Keywords

/-- Every keyword has characters, and they are on one line. -/
def IsPlain (k : Keywords) : Prop :=
  ∀ word ∈ k.complex ++ k.simple, word ≠ [] ∧ '\n' ∉ word

theorem count_cons (word : List Char) (words : List (List Char)) (text : List Char) :
    count (word :: words) text = count [word] text + count words text :=
  rfl

theorem count_isMostOften {word : List Char} (solid : word ≠ []) (text : List Char) :
    Text.IsMostOften word text (count [word] text) := by
  cases word with
  | nil => contradiction
  | cons k ks => exact Text.occurrences_isMostOften k ks text

theorem count_eq_sum (words : List (List Char)) (text : List Char) :
    count words text = (words.map fun word => count [word] text).sum := by
  induction words with
  | nil => rfl
  | cons word words ih => rw [count_cons, ih, List.map_cons, List.sum_cons]

theorem count_lines {words : List (List Char)} (plain : ∀ word ∈ words, '\n' ∉ word) (line rest : List Char) :
    count words (line ++ '\n' :: rest) = count words line + count words rest := by
  induction words with
  | nil => rfl
  | cons word words ih =>
    obtain ⟨free, others⟩ := List.forall_mem_cons.mp plain
    have first : count [word] (line ++ '\n' :: rest) = count [word] line + count [word] rest := by
      cases word with
      | nil => rfl
      | cons k ks => exact Text.occurrences_append_cons free line rest
    rw [count_cons word words, count_cons word words line, count_cons word words rest, first, ih others]
    omega

def grade (complex simple : Nat) : Complexity :=
  if simple < complex then .complex
  else if complex < simple then .simple
  else .moderate

theorem classify_eq_grade (k : Keywords) (task : String) :
    k.classify task =
      grade (count k.complex (Text.lowercase task.toList)) (count k.simple (Text.lowercase task.toList)) :=
  rfl

section
variable {complex simple : Nat}

theorem grade_eq_complex : grade complex simple = .complex ↔ simple < complex := by
  unfold grade
  split_ifs with more less <;> simp [more]

theorem grade_eq_simple : grade complex simple = .simple ↔ complex < simple := by
  unfold grade
  split_ifs with more less
  · simp [Nat.le_of_lt more]
  · simp [less]
  · simp [less]

theorem grade_eq_moderate : grade complex simple = .moderate ↔ complex = simple := by
  unfold grade
  split_ifs with more less
  · simp [Nat.ne_of_gt more]
  · simp [Nat.ne_of_lt less]
  · simp [Nat.le_antisymm (Nat.not_lt.mp more) (Nat.not_lt.mp less)]

theorem grade_ne_unknown : grade complex simple ≠ .unknown := by
  unfold grade
  split_ifs <;> simp

end

/-- Counts that do not speak against each other come to the grade of one of them together. -/
theorem grade_add {c s d r : Nat} {g : Complexity} (first : grade c s = g ∨ grade c s = .moderate)
    (second : grade d r = g ∨ grade d r = .moderate) (one : grade c s = g ∨ grade d r = g) :
    grade (c + d) (s + r) = g := by
  cases g with
  | complex =>
    rw [grade_eq_complex, grade_eq_moderate] at first second
    rw [grade_eq_complex, grade_eq_complex] at one
    rw [grade_eq_complex]
    omega
  | simple =>
    rw [grade_eq_simple, grade_eq_moderate] at first second
    rw [grade_eq_simple, grade_eq_simple] at one
    rw [grade_eq_simple]
    omega
  | moderate =>
    rw [or_self, grade_eq_moderate] at first second
    rw [grade_eq_moderate, first, second]
  | unknown => exact absurd one (not_or.mpr ⟨grade_ne_unknown, grade_ne_unknown⟩)

theorem classify_lines {k : Keywords} (plain : k.IsPlain) {a b : String} {g : Complexity}
    (first : k.classify a = g ∨ k.classify a = .moderate)
    (second : k.classify b = g ∨ k.classify b = .moderate)
    (one : k.classify a = g ∨ k.classify b = g) : k.classify (a ++ "\n" ++ b) = g := by
  have free := List.forall_mem_append.mp fun word member => (plain word member).2
  have text : (a ++ "\n" ++ b).toList = a.toList ++ '\n' :: b.toList := by simp
  rw [classify_eq_grade] at first second one ⊢
  rw [text, Text.lowercase_lines, count_lines free.1, count_lines free.2]
  exact grade_add first second one

/-- Keywords from texts of one line each are plain. -/
theorem isPlain_ofTexts {complex simple : List String}
    (plain : ∀ text ∈ complex ++ simple, '\n' ∉ text.toList) : (ofTexts complex simple).IsPlain := by
  have normal {texts : List String} (inside : texts ⊆ complex ++ simple) {word : List Char}
      (member : word ∈ (texts.map fun t => Text.lowercase t.toList).filter fun w => !w.isEmpty) :
      word ≠ [] ∧ '\n' ∉ word := by
    obtain ⟨origin, solid⟩ := List.mem_filter.mp member
    obtain ⟨text, given, rfl⟩ := List.mem_map.mp origin
    exact ⟨by simpa using solid, Text.feed_notMem_lowercaseAfter (plain text (inside given)) []⟩
  intro word member
  obtain hard | easy := List.mem_append.mp member
  · exact normal (List.subset_append_left ..) hard
  · exact normal (List.subset_append_right ..) easy

theorem isPlain_standard : standard.IsPlain :=
  isPlain_ofTexts (by decide)

/-- Keywords are counted as often as each of them can stand in a text without overlaps. If they lie within
lines, as those of texts of one line do and the standard ones among them, the counts of two parts of a text
that are separated by the end of a line add up. A task of two such parts has a grade that one of them has,
if the other has the same grade or is moderate. -/
theorem counted_by_line :
    (∀ words : List (List Char), (∀ word ∈ words, word ≠ []) → ∀ text,
      ∃ most : List Char → Nat, (∀ word ∈ words, Text.IsMostOften word text (most word)) ∧
        count words text = (words.map most).sum) ∧
    (∀ words : List (List Char), (∀ word ∈ words, word ≠ [] ∧ '\n' ∉ word) → ∀ a b,
      count words (a ++ '\n' :: b) = count words a + count words b) ∧
    (∀ k : Keywords, k.IsPlain → ∀ (a b : String) (g : Complexity),
      (k.classify a = g ∨ k.classify a = .moderate) → (k.classify b = g ∨ k.classify b = .moderate) →
      (k.classify a = g ∨ k.classify b = g) → k.classify (a ++ "\n" ++ b) = g) ∧
    (∀ complex simple : List String, (∀ text ∈ complex ++ simple, '\n' ∉ text.toList) →
      (ofTexts complex simple).IsPlain) ∧
    standard.IsPlain := by
  refine ⟨?_, ?_, ?_, fun _ _ => isPlain_ofTexts, isPlain_standard⟩
  · intro words solid text
    exact ⟨fun word => count [word] text, fun word member => count_isMostOften (solid word member) text,
      count_eq_sum words text⟩
  · intro words plain
    exact count_lines fun word member => (plain word member).2
  · intro k plain a b g first second one
    exact classify_lines plain first second one

theorem counted_by_line_of_standard :
    Text.IsMostOften "aa".toList "aaaaa".toList 2 ∧
      standard.classify ("Compare the offers" ++ "\n" ++ "write a haiku") = .complex := by
  obtain ⟨most_often, -, lines, -, plain⟩ := counted_by_line
  constructor
  · obtain ⟨most, often, count_eq⟩ := most_often ["aa".toList] (by decide) "aaaaa".toList
    have twice : count ["aa".toList] "aaaaa".toList = 2 := by decide +kernel
    rw [twice, List.map_singleton, List.sum_singleton] at count_eq
    exact count_eq ▸ often _ List.mem_cons_self
  · have first : standard.classify "Compare the offers" = .complex := by decide +kernel
    have second : standard.classify "write a haiku" = .moderate := by decide +kernel
    exact lines standard plain _ _ .complex (.inl first) (.inr second) (.inl first)

end Keywords

end Deliberation
