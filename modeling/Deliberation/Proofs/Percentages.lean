import Deliberation.Proofs.Assessments
import Deliberation.Proofs.Layout
/-! Progress and confidence read in the same way. A percent sign counts for both where it ends its word, and
for confidence also where punctuation follows it. A numeral that is at most one is the same for both,
whatever punctuation follows. -/

namespace Deliberation

namespace Numeral

def closing : List Char :=
  ",.;%".toList

theorem not_isAlpha_of_isDigit {c : Char} (digit : isDigit c = true) : c.isAlpha = false := by
  have bounds : '0' ≤ c ∧ c ≤ '9' := by simpa [isDigit] using digit
  have above : c.toNat ≤ 57 := bounds.2
  unfold Char.isAlpha Char.isUpper Char.isLower
  simp [UInt32.le_iff_toNat_le]
  omega

theorem toLower_of_not_isAlpha {c : Char} (other : c.isAlpha = false) : c.toLower = c := by
  have caseless : c.isUpper = false := (Bool.or_eq_false_iff.mp other).1
  unfold Char.toLower
  split
  · rename_i upper
    have cased : c.isUpper = true := by
      unfold Char.isUpper
      simpa using upper
    exact absurd cased (by simp [caseless])
  · rfl

def names : List (List Char) :=
  ["inf".toList, "infinity".toList, "nan".toList]

theorem not_mem_names {text : List Char} {c : Char} (last : c ∈ text.getLast?)
    (other : c.isAlpha = false) : text.map Char.toLower ∉ names := by
  intro named
  have letter : ∀ name ∈ names, name.getLast?.all Char.isAlpha = true := by decide
  have lower : (text.map Char.toLower).getLast? = some c := by
    rw [List.getLast?_map, last, Option.map_some, toLower_of_not_isAlpha other]
  have alpha := letter _ named
  rw [lower, Option.all_some] at alpha
  simp [alpha] at other

theorem float?_of_unnamed {text : List Char} (unnamed : (splitSign text).2.map Char.toLower ∉ names) :
    float? text =
      (unsignedFloat? (splitSign text).2).map fun x => if (splitSign text).1 then -x else x := by
  simp only [names, List.mem_cons, List.not_mem_nil, or_false, not_or] at unnamed
  obtain ⟨short, long, other⟩ := unnamed
  simp only [float?, if_neg (not_or.mpr ⟨short, long⟩), if_neg other]

theorem exists_of_splitSign (text : List Char) : ∃ sign, text = sign ++ (splitSign text).2 := by
  unfold splitSign
  split
  · exact ⟨['+'], rfl⟩
  · exact ⟨['-'], rfl⟩
  · exact ⟨[], rfl⟩

section
variable {text : List Char} {c : Char} {x : Float} (mark : c ∈ closing)
include mark

theorem cases_of_closing : c = ',' ∨ c = '.' ∨ c = ';' ∨ c = '%' := by
  simpa [closing] using mark

theorem isDigit_of_closing : isDigit c = false := by
  rcases cases_of_closing mark with rfl | rfl | rfl | rfl <;> rfl

theorem not_isAlpha_of_closing : c.isAlpha = false := by
  rcases cases_of_closing mark with rfl | rfl | rfl | rfl <;> rfl

theorem splitSign_concat (text : List Char) :
    splitSign (text ++ [c]) = ((splitSign text).1, (splitSign text).2 ++ [c]) := by
  cases text with
  | nil => rcases cases_of_closing mark with rfl | rfl | rfl | rfl <;> rfl
  | cons d rest =>
    rw [List.cons_append]
    unfold splitSign
    split <;> split <;> simp_all

theorem exponent?_concat (text : List Char) : exponent? (text ++ [c]) = none := by
  cases text with
  | nil => rcases cases_of_closing mark with rfl | rfl | rfl | rfl <;> rfl
  | cons d rest =>
    rw [List.cons_append, exponent?, splitSign_concat mark]
    simp [isDigit_of_closing mark]

/-- No sign can follow the numeral but a point behind digits alone, which changes nothing. -/
theorem unsignedFloat?_concat (read : unsignedFloat? (text ++ [c]) = some x) :
    c = '.' ∧ text ≠ [] ∧ (∀ d ∈ text, isDigit d = true) ∧ unsignedFloat? text = some x := by
  have stops : ∀ d ∈ [c].head?, isDigit d = false := by
    intro d head
    obtain rfl := Option.some.inj head
    exact isDigit_of_closing mark
  unfold unsignedFloat? at read
  rw [Text.takeWhile_append_of_head stops, Text.dropWhile_append_of_head stops] at read
  cases behind : text.dropWhile isDigit with
  | nil =>
    have digits : ∀ d ∈ text, isDigit d = true := List.dropWhile_eq_nil_iff.mp behind
    by_cases point : c = '.'
    · subst point
      refine ⟨rfl, ?_, digits, ?_⟩
      · rintro rfl
        simp at read
      · unfold unsignedFloat?
        simpa [behind] using read
    · have nothing : exponent? [c] = none := exponent?_concat mark []
      simp [behind, point, nothing] at read
  | cons d rest =>
    by_cases point : d = '.'
    · subst point
      simp [behind, Text.dropWhile_append_of_head stops, exponent?_concat mark] at read
    · have nothing : exponent? (d :: (rest ++ [c])) = none := exponent?_concat mark (d :: rest)
      simp [behind, point, nothing] at read

theorem float?_concat (read : float? (text ++ [c]) = some x) :
    c = '.' ∧ float? text = some x ∧ ∃ d ∈ text.getLast?, isDigit d = true := by
  have unnamed : (splitSign (text ++ [c])).2.map Char.toLower ∉ names := by
    rw [splitSign_concat mark]
    exact not_mem_names List.getLast?_concat (not_isAlpha_of_closing mark)
  rw [float?_of_unnamed unnamed, splitSign_concat mark, Option.map_eq_some_iff] at read
  obtain ⟨y, read, rfl⟩ := read
  obtain ⟨point, nonempty, digits, same⟩ := unsignedFloat?_concat mark read
  cases last : (splitSign text).2.getLast? with
  | none => exact absurd (List.getLast?_eq_none_iff.mp last) nonempty
  | some d =>
    have digit : isDigit d = true := digits d (List.mem_of_getLast? last)
    refine ⟨point, ?_, d, ?_, digit⟩
    · rw [float?_of_unnamed (not_mem_names last (not_isAlpha_of_isDigit digit)), same]
      rfl
    · obtain ⟨sign, whole⟩ := exists_of_splitSign text
      rw [whole]
      simp [List.getLast?_append, last]

end

end Numeral

namespace Reply

section
variable {text word number : List Char} {x : Float}

theorem beforePercent?_eq_some : beforePercent? word = some number ↔ word = number ++ ['%'] := by
  constructor
  · intro found
    unfold beforePercent? at found
    split at found
    · rename_i rest reversed
      obtain rfl := Option.some.inj found
      rw [← List.reverse_cons, ← reversed, List.reverse_reverse]
    · contradiction
  · rintro rfl
    simp [beforePercent?]

theorem beforePercent?_of_float? (read : Numeral.float? word = some x) : beforePercent? word = none := by
  cases found : beforePercent? word with
  | none => rfl
  | some number =>
    rw [beforePercent?_eq_some.mp found] at read
    have point : '%' = '.' := (Numeral.float?_concat (by decide) read).1
    contradiction

theorem withoutPunctuation_append {marks : List Char} (all : ∀ c ∈ marks, isPunctuation c = true) :
    withoutPunctuation (word ++ marks) = withoutPunctuation word :=
  Text.dropEndWhile_append_of_all all

theorem withoutPunctuation_concat {c : Char} (other : isPunctuation c = false) (word : List Char) :
    withoutPunctuation (word ++ [c]) = word ++ [c] := by
  apply Text.dropEndWhile_eq_self
  intro d last
  rw [List.getLast?_concat] at last
  obtain rfl := Option.some.inj last
  exact other

/-- A point at the end of a numeral is punctuation as well, but nothing is lost with it. -/
theorem float?_withoutPunctuation (read : Numeral.float? word = some x) :
    Numeral.float? (withoutPunctuation word) = some x := by
  induction word using List.reverseRecOn with
  | nil => exact read
  | append_singleton word c ih =>
    by_cases mark : isPunctuation c = true
    · rw [withoutPunctuation_append (by simpa using mark)]
      have closing : c ∈ Numeral.closing := by
        have cases : (c = ',' ∨ c = '.') ∨ c = ';' := by simpa [isPunctuation] using mark
        rcases cases with (rfl | rfl) | rfl <;> decide
      exact ih (Numeral.float?_concat closing read).2.1
    · rwa [withoutPunctuation_concat (eq_false_of_ne_true mark)]

theorem confidence?_of_firstWord? (first : Text.firstWord? text = some word) :
    confidence? word = confidence? text := by
  simp only [confidence?, Text.firstWord?_of_firstWord? first, first]

theorem progress?_of_percent (first : Text.firstWord? text = some word)
    (percent : withoutPunctuation word = number ++ ['%']) :
    progress? text = if word = number ++ ['%'] then confidence? text else none := by
  split
  · rename_i plain
    have found : beforePercent? word = some number := beforePercent?_eq_some.mpr plain
    simp [progress?, first, found, confidence?_of_firstWord? first]
  · rename_i marked
    have hidden : beforePercent? word = none := by
      cases found : beforePercent? word with
      | none => rfl
      | some front =>
        have ends : word = front ++ ['%'] := beforePercent?_eq_some.mp found
        have bare := withoutPunctuation_concat (c := '%') (by decide) front
        exact absurd (ends.trans (bare.symm.trans (ends ▸ percent))) marked
    have unread : Numeral.float? (number ++ ['%']) = none := by
      cases read : Numeral.float? (number ++ ['%']) with
      | none => rfl
      | some x =>
        have point : '%' = '.' := (Numeral.float?_concat (by decide) read).1
        contradiction
    simp [progress?, first, hidden, percent, unread]

variable {numeral marks : List Char}

theorem confidence?_of_numeral (first : Text.firstWord? text = some (numeral ++ marks))
    (all : ∀ c ∈ marks, isPunctuation c = true) (read : Numeral.float? numeral = some x) :
    confidence? text = unitInterval? x := by
  have bare := float?_withoutPunctuation read
  simp [confidence?, first, withoutPunctuation_append all, beforePercent?_of_float? bare, bare]

theorem progress?_of_numeral (first : Text.firstWord? text = some (numeral ++ marks))
    (all : ∀ c ∈ marks, isPunctuation c = true) (read : Numeral.float? numeral = some x)
    (small : ¬1 < x) : progress? text = unitInterval? x := by
  have bare := float?_withoutPunctuation read
  have plain : beforePercent? (numeral ++ marks) = none := by
    cases marks using List.reverseRecOn with
    | nil => rw [List.append_nil, beforePercent?_of_float? read]
    | append_singleton front c =>
      have mark : isPunctuation c = true := all c (by simp)
      cases found : beforePercent? (numeral ++ (front ++ [c])) with
      | none => rfl
      | some number =>
        have ends := beforePercent?_eq_some.mp found
        rw [← List.append_assoc] at ends
        obtain ⟨-, same⟩ := List.append_inj' ends rfl
        obtain rfl : c = '%' := by simpa using same
        contradiction
  simp [progress?, first, plain, withoutPunctuation_append all, bare, small, unitInterval?]

end

section
variable {first second : List Char}

theorem progress?_congr (same : Text.firstWord? first = Text.firstWord? second) :
    progress? first = progress? second := by
  simp only [progress?, same]

theorem confidence?_congr (same : Text.firstWord? first = Text.firstWord? second) :
    confidence? first = confidence? second := by
  simp only [confidence?, same]

/-- What a reply of one line reports is what stands behind its marker. -/
theorem lastRead?_reports_of_line (read : List Char → Option Float) {marker text : List Char}
    (nonempty : marker ≠ []) (all : (marker.all fun c => !Text.isBlank c) = true)
    (apart : ¬marker <+: answerMarker ∧ ¬answerMarker <+: marker) (feedless : '\n' ∉ text)
    (insensitive : ∀ first second, Text.firstWord? first = Text.firstWord? second → read first = read second) :
    lastRead? read marker (reports (Text.lines (marker ++ ' ' :: text))) = read text := by
  have solid : ∀ c ∈ marker, Text.isBlank c = false := by simpa using all
  have unbroken : '\n' ∉ marker ++ ' ' :: text := by
    simp only [List.mem_append, List.mem_cons, not_or]
    refine ⟨fun member => ?_, by decide, feedless⟩
    have blank : Text.isBlank '\n' = false := solid _ member
    contradiction
  have line : Text.lines (marker ++ ' ' :: text) = [marker ++ ' ' :: text] := by
    rw [Text.lines, Text.linesFrom_of_feedless unbroken (.inr (by simp))]
    rfl
  have trimmed : Text.trim (marker ++ ' ' :: text) = marker ++ Text.trimEnd (' ' :: text) := by
    apply Text.trim_append_of_solid _ _ nonempty
    · exact fun c head => solid c (List.mem_of_mem_head? head)
    · exact fun c last => solid c (List.mem_of_getLast? last)
  have word : Text.firstWord? (Text.trimEnd (' ' :: text)) = Text.firstWord? text := by
    rw [Text.firstWord?_trimEnd, Text.firstWord?_cons_of_isBlank (by decide)]
  have marked : marker <+: marker ++ Text.trimEnd (' ' :: text) := List.prefix_append _ _
  have unanswered : ¬answerMarker <+: Text.trim (marker ++ ' ' :: text) := by
    rw [trimmed]
    exact not_marked_of_marked apart marked
  rw [line, reports_cons_of_plain unanswered, trimmed, lastRead?_cons_of_marked marked, List.drop_left,
    insensitive _ _ word]
  rfl

theorem progress_assess {text : List Char} (feedless : '\n' ∉ text) :
    (assess ("Progress: " ++ String.ofList text)).progress = progress? text := by
  have whole : ("Progress: " ++ String.ofList text).toList = progressMarker ++ ' ' :: text := by
    simp only [String.toList_append, String.toList_ofList]
    rfl
  rw [assess_eq, whole]
  exact lastRead?_reports_of_line progress? (by decide) (by decide) (by decide) feedless
    fun _ _ => progress?_congr

theorem confidence_assess {text : List Char} (feedless : '\n' ∉ text) :
    (assess ("Confidence: " ++ String.ofList text)).confidence = confidence? text := by
  have whole : ("Confidence: " ++ String.ofList text).toList = confidenceMarker ++ ' ' :: text := by
    simp only [String.toList_append, String.toList_ofList]
    rfl
  rw [assess_eq, whole]
  exact lastRead?_reports_of_line confidence? (by decide) (by decide) (by decide) feedless
    fun _ _ => confidence?_congr

end

/-- A percentage with no punctuation behind it is read alike as progress and as confidence. With punctuation
behind the percent sign it is no progress at all, whatever the confidence. A numeral that is not above one
is read alike with any punctuation. Both hold as well of replies of one line. -/
theorem percentages_read_alike (text : List Char) :
    (∀ word number, Text.firstWord? text = some word → withoutPunctuation word = number ++ ['%'] →
      progress? text = (if word = number ++ ['%'] then confidence? text else none) ∧
      (progress? text = confidence? text ↔ word = number ++ ['%'] ∨ confidence? text = none)) ∧
    (∀ numeral marks x, Text.firstWord? text = some (numeral ++ marks) →
      (∀ c ∈ marks, isPunctuation c = true) → Numeral.float? numeral = some x → ¬1 < x →
      progress? text = unitInterval? x ∧ confidence? text = unitInterval? x) ∧
    ('\n' ∉ text →
      (assess ("Progress: " ++ String.ofList text)).progress = progress? text ∧
      (assess ("Confidence: " ++ String.ofList text)).confidence = confidence? text) := by
  refine ⟨?_, ?_, ?_⟩
  · intro word number first percent
    have read := progress?_of_percent first percent
    refine ⟨read, ?_⟩
    rw [read]
    split
    · rename_i plain
      simp [plain]
    · rename_i marked
      simp [marked, eq_comm]
  · intro numeral marks x first all read small
    exact ⟨progress?_of_numeral first all read small, confidence?_of_numeral first all read⟩
  · intro feedless
    exact ⟨progress_assess feedless, confidence_assess feedless⟩

/-- A plain percentage, one in a sentence, and a numeral at the end of one. -/
theorem percentages_read_alike_of_sentences :
    progress? " 80% done".toList = confidence? " 80% done".toList ∧
      progress? "80%, or so".toList = none ∧
      progress? "0.8.".toList = confidence? "0.8.".toList ∧
      (assess ("Progress: " ++ String.ofList "80%, or so".toList)).progress = none := by
  obtain ⟨plain, -, -⟩ := percentages_read_alike " 80% done".toList
  obtain ⟨marked, -, reply⟩ := percentages_read_alike "80%, or so".toList
  obtain ⟨-, numeral, -⟩ := percentages_read_alike "0.8.".toList
  have same := (plain "80%".toList "80".toList (by decide +kernel) (by decide +kernel)).2
  have none := (marked "80%,".toList "80".toList (by decide +kernel) (by decide +kernel)).1
  obtain ⟨progress, confidence⟩ :=
    numeral "0.8".toList ".".toList 0.8 (by decide +kernel) (by simp [isPunctuation])
      (by decide +kernel) (by decide +kernel)
  refine ⟨same.mpr (.inl rfl), none, progress.trans confidence.symm, ?_⟩
  exact (reply (by decide)).1.trans none

/-- A comma behind a percentage takes it away from the progress of a reply, but not from its confidence. -/
theorem exists_percentage_read_once :
    ∃ text word number, Text.firstWord? text = some word ∧
      withoutPunctuation word = number ++ ['%'] ∧ progress? text ≠ confidence? text ∧
      (assess ("Progress: " ++ String.ofList text)).progress = none ∧
      (assess ("Confidence: " ++ String.ofList text)).confidence = some 0.8 := by
  refine ⟨"80%,".toList, "80%,".toList, "80".toList, ?_, ?_, ?_, ?_, ?_⟩ <;> decide +kernel

end Reply

end Deliberation
