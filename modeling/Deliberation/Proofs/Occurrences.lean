import Mathlib.Data.Finset.Card
import Mathlib.Order.Bounds.Defs
import Deliberation.Text.Occurrences
/-! The count of a word in a text is the greatest number of places where it stands without overlaps, also
where it could overlap itself. A character that the word does not have keeps what is on its two sides apart,
so that the counts of both sides add up. -/

namespace Deliberation.Text

/-- Places in a text where a word stands, no two of which overlap. -/
structure IsPacking (word text : List Char) (places : Finset Nat) : Prop where
  stands : ∀ p ∈ places, word <+: text.drop p
  apart : ∀ p ∈ places, ∀ q ∈ places, p < q → p + word.length ≤ q

/-- The greatest number of places where a word stands without overlaps. -/
def IsMostOften (word text : List Char) (n : Nat) : Prop :=
  IsGreatest {size | ∃ places, IsPacking word text places ∧ places.card = size} n

/-- The places from a cut on, counted from there. -/
def placesFrom (n : Nat) (places : Finset Nat) : Finset Nat :=
  (places.filter fun p => n ≤ p).image fun p => p - n

theorem mem_placesFrom {n p : Nat} {places : Finset Nat} : p ∈ placesFrom n places ↔ p + n ∈ places := by
  simp only [placesFrom, Finset.mem_image, Finset.mem_filter]
  constructor
  · rintro ⟨q, ⟨member, beyond⟩, rfl⟩
    rwa [Nat.sub_add_cancel beyond]
  · intro member
    exact ⟨p + n, ⟨member, Nat.le_add_left n p⟩, Nat.add_sub_cancel p n⟩

theorem card_placesFrom (n : Nat) (places : Finset Nat) :
    (placesFrom n places).card = (places.filter fun p => n ≤ p).card := by
  refine Finset.card_image_of_injOn ?_
  intro p first q second same
  have first := (Finset.mem_filter.mp first).2
  have second := (Finset.mem_filter.mp second).2
  dsimp only at same
  omega

namespace IsPacking

variable {word text : List Char} {places : Finset Nat}

theorem empty (word text : List Char) : IsPacking word text ∅ where
  stands := nofun
  apart := nofun

/-- Places in what is left of a text are places in the text. -/
theorem shift {n : Nat} (h : IsPacking word (text.drop n) places) :
    IsPacking word text (places.image (· + n)) where
  stands := by
    intro _ member
    obtain ⟨p, inside, rfl⟩ := Finset.mem_image.mp member
    have stands := h.stands p inside
    rwa [List.drop_drop, Nat.add_comm n p] at stands
  apart := by
    intro _ first _ second before
    obtain ⟨p, p_inside, rfl⟩ := Finset.mem_image.mp first
    obtain ⟨q, q_inside, rfl⟩ := Finset.mem_image.mp second
    have apart := h.apart p p_inside q q_inside (by omega)
    omega

theorem cut (h : IsPacking word text places) (n : Nat) :
    IsPacking word (text.drop n) (placesFrom n places) where
  stands := by
    intro p member
    have stands := h.stands (p + n) (mem_placesFrom.mp member)
    rwa [List.drop_drop, Nat.add_comm n p]
  apart := by
    intro p first q second before
    have apart := h.apart (p + n) (mem_placesFrom.mp first) (q + n) (mem_placesFrom.mp second) (by omega)
    omega

/-- A cut that is no longer than the word drops at most one place: two of them would overlap. -/
theorem card_le_succ (h : IsPacking word text places) {n : Nat} (short : n ≤ word.length) :
    places.card ≤ (placesFrom n places).card + 1 := by
  have dropped : (places.filter fun p => ¬n ≤ p).card ≤ 1 := by
    refine Finset.card_le_one.mpr ?_
    intro p first q second
    obtain ⟨p_inside, p_before⟩ := Finset.mem_filter.mp first
    obtain ⟨q_inside, q_before⟩ := Finset.mem_filter.mp second
    obtain before | same | after := Nat.lt_trichotomy p q
    · have apart := h.apart p p_inside q q_inside before
      omega
    · exact same
    · have apart := h.apart q q_inside p p_inside after
      omega
  have parts := places.card_filter_add_card_filter_not fun p => n ≤ p
  rw [card_placesFrom]
  omega

/-- Where the word does not stand at the front, the first character can be dropped. -/
theorem card_eq_of_not_isPrefix (h : IsPacking word text places) (different : ¬word <+: text) :
    places.card = (placesFrom 1 places).card := by
  rw [card_placesFrom, Finset.filter_true_of_mem]
  intro p member
  obtain rfl | beyond := Nat.eq_zero_or_pos p
  · exact absurd (h.stands 0 member) different
  · exact beyond

/-- The place at the front goes with all places behind the word there. -/
theorem insert_zero (h : IsPacking word text places) (front : word <+: text)
    (behind : ∀ p ∈ places, word.length ≤ p) : IsPacking word text (insert 0 places) where
  stands := (Finset.forall_mem_insert ..).mpr ⟨front, h.stands⟩
  apart := by
    intro p first q second before
    have beyond : q ∈ places := Finset.mem_of_mem_insert_of_ne second (Nat.ne_zero_of_lt before)
    obtain rfl | inside := Finset.mem_insert.mp first
    · rw [Nat.zero_add]
      exact behind q beyond
    · exact h.apart p inside q beyond before

end IsPacking

namespace IsMostOften

variable {word text : List Char} {n : Nat}

theorem nil (solid : word ≠ []) : IsMostOften word [] 0 := by
  refine ⟨⟨∅, .empty .., rfl⟩, ?_⟩
  rintro _ ⟨places, packing, rfl⟩
  refine Nat.le_zero.mpr (Finset.card_eq_zero.mpr (Finset.eq_empty_of_forall_notMem ?_))
  intro p member
  have stands := packing.stands p member
  rw [List.drop_nil, List.prefix_nil] at stands
  exact solid stands

/-- A word at the front is one place more than there are behind it. -/
theorem hit (solid : word ≠ []) (h : IsMostOften word text n) : IsMostOften word (word ++ text) (n + 1) := by
  have rest : (word ++ text).drop word.length = text := List.drop_left
  obtain ⟨⟨places, packing, rfl⟩, bound⟩ := h
  constructor
  · rw [← rest] at packing
    have beyond : ∀ p ∈ places.image (· + word.length), word.length ≤ p := by
      intro _ member
      obtain ⟨p, -, rfl⟩ := Finset.mem_image.mp member
      exact Nat.le_add_left ..
    refine ⟨_, packing.shift.insert_zero (List.prefix_append word text) beyond, ?_⟩
    have new : 0 ∉ places.image (· + word.length) :=
      fun member => absurd (beyond 0 member) (Nat.not_le.mpr (List.length_pos_iff.mpr solid))
    rw [Finset.card_insert_of_notMem new, Finset.card_image_of_injective _ fun _ _ => Nat.add_right_cancel]
  · -- Whatever else is chosen, the word at the front takes the room of one place at most.
    rintro _ ⟨chosen, chosen_packing, rfl⟩
    have left := chosen_packing.cut word.length
    rw [rest] at left
    exact (chosen_packing.card_le_succ (Nat.le_refl _)).trans (Nat.succ_le_succ (bound ⟨_, left, rfl⟩))

theorem skip {c : Char} (different : ¬word <+: c :: text) (h : IsMostOften word text n) :
    IsMostOften word (c :: text) n := by
  have rest : (c :: text).drop 1 = text := rfl
  obtain ⟨⟨places, packing, rfl⟩, bound⟩ := h
  constructor
  · rw [← rest] at packing
    exact ⟨_, packing.shift, Finset.card_image_of_injective _ fun _ _ => Nat.add_right_cancel⟩
  · rintro _ ⟨chosen, chosen_packing, rfl⟩
    rw [chosen_packing.card_eq_of_not_isPrefix different]
    exact bound ⟨_, chosen_packing.cut 1, rfl⟩

end IsMostOften

variable {k : Char} {ks : List Char}

theorem occurrences_of_found {rest tail : List Char} (found : after? ks rest = some tail) :
    occurrences k ks (k :: rest) = occurrences k ks tail + 1 := by
  rw [occurrences, if_pos rfl, found]

theorem occurrences_of_missed {rest : List Char} (missed : after? ks rest = none) :
    occurrences k ks (k :: rest) = occurrences k ks rest := by
  rw [occurrences, if_pos rfl, missed]

/-- Taking every place that comes first is best. -/
theorem occurrences_isMostOften (k : Char) (ks text : List Char) :
    IsMostOften (k :: ks) text (occurrences k ks text) := by
  have solid : k :: ks ≠ [] := List.cons_ne_nil k ks
  fun_induction occurrences k ks text with
  | case1 => exact .nil solid
  | case2 rest tail found ih =>
    obtain rfl := after?_eq_some.mp found
    exact ih.hit solid
  | case3 rest missed ih =>
    refine ih.skip ?_
    rintro ⟨tail, whole⟩
    rw [List.cons_append, List.cons.injEq] at whole
    rw [after?_eq_some.mpr whole.2.symm] at missed
    contradiction
  | case4 c rest other ih =>
    refine ih.skip ?_
    intro front
    exact other (List.cons_prefix_cons.mp front).1

/-- A word does not reach over a character that it does not have. -/
theorem after?_append_cons {word : List Char} {c : Char} (free : c ∉ word) (front back : List Char) :
    after? word (front ++ c :: back) = (after? word front).map (· ++ c :: back) := by
  induction word generalizing front with
  | nil => rfl
  | cons w word ih =>
    rw [List.mem_cons, not_or] at free
    cases front with
    | nil => simp [after?, Ne.symm free.1]
    | cons d front =>
      by_cases same : w = d
      · simp [after?, same, ih free.2]
      · simp [after?, same]

theorem occurrences_append_cons {c : Char} (free : c ∉ k :: ks) (front back : List Char) :
    occurrences k ks (front ++ c :: back) = occurrences k ks front + occurrences k ks back := by
  rw [List.mem_cons, not_or] at free
  fun_induction occurrences k ks front with
  | case1 => simp [occurrences, Ne.symm free.1]
  | case2 rest tail found ih =>
    have farther : after? ks (rest ++ c :: back) = some (tail ++ c :: back) := by
      rw [after?_append_cons free.2, found, Option.map_some]
    rw [List.cons_append, occurrences_of_found farther, ih, Nat.add_right_comm]
  | case3 rest missed ih =>
    have missed_again : after? ks (rest ++ c :: back) = none := by
      rw [after?_append_cons free.2, missed, Option.map_none]
    rw [List.cons_append, occurrences_of_missed missed_again, ih]
  | case4 d rest other ih => rw [List.cons_append, occurrences, if_neg other, ih]

end Deliberation.Text
