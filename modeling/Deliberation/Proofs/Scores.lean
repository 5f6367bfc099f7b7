import Mathlib.Data.Prod.Lex
import Deliberation.Reply.Number
/-! The order of binary64 numbers, and the numbers that a reply reports. Every number but NaN has a
place in one linear order, and whatever a reply writes, the scores and confidences that are read from
it lie in the unit interval, where recording them changes nothing. -/

namespace Deliberation

namespace Binary64

open Float.Model (UnpackedFloat)

/-- The place of a number in the order of numbers. Both zeros share one, and NaN has none. -/
def place? : UnpackedFloat → Option (Int ×ₗ Int ×ₗ Int)
  | .notANumber => none
  | .infinity .negative => some (toLex (-2, toLex (0, 0)))
  | .finite .negative mantissa exponent _ => some (toLex (-1, toLex (-exponent, -mantissa)))
  | .zero _ => some (toLex (0, toLex (0, 0)))
  | .finite .positive mantissa exponent _ => some (toLex (1, toLex (exponent, mantissa)))
  | .infinity .positive => some (toLex (2, toLex (0, 0)))

theorem compare_natCast (m n : Nat) : compare (m : Int) n = compare m n := by
  simp only [compare, compareOfLessAndEq, Int.ofNat_lt, Int.natCast_inj]

theorem compare_neg (m n : Int) : compare (-m) (-n) = (compare m n).swap := by
  rw [Int.compare_swap]
  simp only [compare, compareOfLessAndEq]
  grind

/-- Numbers compare as their places do, and not at all where one of them is NaN. -/
theorem compare_eq (a b : UnpackedFloat) :
    a.compare b = (place? a).bind fun p => (place? b).map fun q => compare p q := by
  rcases a with (_ | _) | _ | _ | ⟨_ | _, m, e, _⟩ <;>
    rcases b with (_ | _) | _ | _ | ⟨_ | _, n, f, _⟩
  case finite.negative.finite.negative =>
    dsimp only [UnpackedFloat.compare, place?, Option.map_some, Option.bind_some]
    simp [Prod.Lex.compare_def, compareLex, compareOn, compare_neg, compare_natCast, Ordering.swap_then]
  case finite.positive.finite.positive =>
    dsimp only [UnpackedFloat.compare, place?, Option.map_some, Option.bind_some]
    simp [Prod.Lex.compare_def, compareLex, compareOn, compare_natCast]
  all_goals rfl

theorem place?_of_isNaN {a : UnpackedFloat} (h : a.isNaN = false) : ∃ p, place? a = some p := by
  rcases a with (_ | _) | _ | _ | ⟨_ | _, m, e, _⟩
  case notANumber => contradiction
  all_goals exact ⟨_, rfl⟩

theorem place?_eq_none {a : UnpackedFloat} (h : a.isNaN = true) : place? a = none := by
  cases a with
  | notANumber => rfl
  | infinity | zero | finite => contradiction

def rank? (x : Float) : Option (Int ×ₗ Int ×ₗ Int) :=
  place? x.toModel.unpack

theorem lt_iff_rank {x y : Float} : x < y ↔ ∃ p q, rank? x = some p ∧ rank? y = some q ∧ p < q := by
  have unpacked : x < y ↔ x.toModel.unpack.lt y.toModel.unpack = true := decide_eq_true_iff
  simp only [unpacked, UnpackedFloat.lt, compare_eq, rank?]
  cases place? x.toModel.unpack <;> cases place? y.toModel.unpack <;> simp [compare_lt_iff_lt]

theorem le_iff_rank {x y : Float} : x ≤ y ↔ ∃ p q, rank? x = some p ∧ rank? y = some q ∧ p ≤ q := by
  have unpacked : x ≤ y ↔ x.toModel.unpack.le y.toModel.unpack = true := decide_eq_true_iff
  simp only [unpacked, UnpackedFloat.le, compare_eq, rank?]
  cases place? x.toModel.unpack <;> cases place? y.toModel.unpack <;>
    simp [← compare_le_iff_le, Ordering.ne_gt_iff_isLE]

section
variable {x y z : Float}

theorem lt_of_le_of_lt (first : x ≤ y) (second : y < z) : x < z := by
  obtain ⟨p, q, px, qy, below⟩ := le_iff_rank.mp first
  obtain ⟨r, s, ry, sz, under⟩ := lt_iff_rank.mp second
  obtain rfl := Option.some.inj (qy.symm.trans ry)
  exact lt_iff_rank.mpr ⟨p, s, px, sz, below.trans_lt under⟩

theorem le_of_lt (h : x < y) : x ≤ y := by
  obtain ⟨p, q, px, qy, below⟩ := lt_iff_rank.mp h
  exact le_iff_rank.mpr ⟨p, q, px, qy, below.le⟩

theorem not_lt_of_le (h : x ≤ y) : ¬y < x := by
  intro above
  obtain ⟨p, q, px, qy, below⟩ := lt_iff_rank.mp (lt_of_le_of_lt h above)
  obtain rfl := Option.some.inj (px.symm.trans qy)
  exact lt_irrefl p below

/-- A number that is at most itself is not NaN, and two of those can be compared. -/
theorem le_of_not_lt (hx : x ≤ x) (hy : y ≤ y) (h : ¬x < y) : y ≤ x := by
  obtain ⟨p, -, px, -, -⟩ := le_iff_rank.mp hx
  obtain ⟨q, -, qy, -, -⟩ := le_iff_rank.mp hy
  refine le_iff_rank.mpr ⟨q, p, qy, px, ?_⟩
  exact not_lt.mp fun below => h (lt_iff_rank.mpr ⟨p, q, px, qy, below⟩)

theorem not_lt_of_isNaN (h : x.isNaN = true) : ¬x < y := by
  intro below
  obtain ⟨p, -, place, -, -⟩ := lt_iff_rank.mp below
  exact absurd (place.symm.trans (place?_eq_none h)) (Option.some_ne_none p)

theorem not_gt_of_isNaN (h : y.isNaN = true) : ¬x < y := by
  intro below
  obtain ⟨-, q, -, place, -⟩ := lt_iff_rank.mp below
  exact absurd (place.symm.trans (place?_eq_none h)) (Option.some_ne_none q)

theorem self_le_of_isNaN (h : x.isNaN = false) : x ≤ x := by
  obtain ⟨p, place⟩ := place?_of_isNaN h
  exact le_iff_rank.mpr ⟨p, p, place, place, le_rfl⟩

end

structure InUnit (x : Float) : Prop where
  nonneg : 0 ≤ x
  le_one : x ≤ 1

theorem zero_inUnit : InUnit 0 :=
  ⟨by decide, by decide⟩

theorem half_inUnit : InUnit 0.5 :=
  ⟨by decide, by decide⟩

theorem one_inUnit : InUnit 1 :=
  ⟨by decide, by decide⟩

theorem InUnit.self_le {x : Float} (h : InUnit x) : x ≤ x := by
  obtain ⟨-, p, -, px, -⟩ := le_iff_rank.mp h.nonneg
  exact le_iff_rank.mpr ⟨p, p, px, px, le_rfl⟩

theorem InUnit.clampUnit_eq {x : Float} (h : InUnit x) : clampUnit x = x := by
  simp only [clampUnit, not_lt_of_le h.nonneg, not_lt_of_le h.le_one, if_false]

theorem isFinite_eq_false {x : Float} : x.isFinite = false ↔ x.isNaN = true ∨ x.isInf = true := by
  change x.toModel.unpack.isFinite = false ↔
    x.toModel.unpack.isNaN = true ∨ x.toModel.unpack.isInf = true
  cases x.toModel.unpack with
  | notANumber => exact iff_of_true rfl (.inl rfl)
  | infinity => exact iff_of_true rfl (.inr rfl)
  | zero | finite =>
    refine iff_of_false (Ne.symm Bool.false_ne_true) ?_
    rintro (nan | infinite) <;> contradiction

theorem isNaN_of_isFinite {x : Float} (h : x.isFinite = true) : x.isNaN = false := by
  by_contra nan
  have infinite := isFinite_eq_false.mpr (.inl (eq_true_of_ne_false nan))
  exact absurd h (by simp [infinite])

theorem InUnit.isFinite {x : Float} (h : InUnit x) : x.isFinite = true := by
  have nonneg : (0 : Float).toModel.unpack.le x.toModel.unpack = true := decide_eq_true_iff.mp h.nonneg
  have le_one : x.toModel.unpack.le (1 : Float).toModel.unpack = true := decide_eq_true_iff.mp h.le_one
  change x.toModel.unpack.isFinite = true
  cases unpacked : x.toModel.unpack with
  | notANumber =>
    rw [unpacked] at nonneg
    contradiction
  | infinity sign =>
    rw [unpacked] at nonneg le_one
    cases sign <;> contradiction
  | zero | finite => rfl

theorem clampUnit_inUnit {x : Float} (h : x ≤ x) : InUnit (clampUnit x) := by
  unfold clampUnit
  split
  · exact zero_inUnit
  · rename_i nonneg
    split
    · exact one_inUnit
    · rename_i small
      exact ⟨le_of_not_lt h (by decide) nonneg, le_of_not_lt (by decide) h small⟩

/-- NaN alone is not moved into the unit interval. -/
theorem clampUnit_inUnit_or (x : Float) : InUnit (clampUnit x) ∨ (clampUnit x).isNaN = true := by
  cases nan : x.isNaN with
  | false => exact .inl (clampUnit_inUnit (self_le_of_isNaN nan))
  | true =>
    have stays : clampUnit x = x := by
      simp only [clampUnit, not_lt_of_isNaN nan, not_gt_of_isNaN nan, if_false]
    exact .inr (stays.symm ▸ nan)

end Binary64

namespace Reply

open Binary64 (InUnit)

theorem unitInterval?_inUnit {x y : Float} (h : unitInterval? x = some y) : InUnit y := by
  unfold unitInterval? at h
  split at h
  · rename_i finite
    obtain rfl := Option.some.inj h
    exact Binary64.clampUnit_inUnit (Binary64.self_le_of_isNaN (Binary64.isNaN_of_isFinite finite))
  · contradiction

theorem confidence?_inUnit {text : List Char} {x : Float} (h : confidence? text = some x) :
    InUnit x := by
  obtain ⟨word, -, h⟩ := Option.bind_eq_some_iff.mp h
  dsimp only at h
  split at h <;> obtain ⟨_, -, h⟩ := Option.bind_eq_some_iff.mp h <;> exact unitInterval?_inUnit h

theorem score?_inUnit {text : List Char} {x : Float} (h : score? text = some x) : InUnit x := by
  simp only [score?] at h
  split at h
  · obtain ⟨numerator, -, h⟩ := Option.bind_eq_some_iff.mp h
    obtain ⟨denominator, -, h⟩ := Option.bind_eq_some_iff.mp h
    split at h
    · contradiction
    · exact unitInterval?_inUnit h
  · obtain ⟨_, -, h⟩ := Option.bind_eq_some_iff.mp h
    exact unitInterval?_inUnit h

theorem progress?_inUnit {text : List Char} {x : Float} (h : progress? text = some x) : InUnit x := by
  obtain ⟨word, -, h⟩ := Option.bind_eq_some_iff.mp h
  split at h
  · exact confidence?_inUnit h
  · obtain ⟨_, -, h⟩ := Option.bind_eq_some_iff.mp h
    split at h
    · exact unitInterval?_inUnit h
    · contradiction

end Reply

end Deliberation
