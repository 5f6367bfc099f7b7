import Mathlib.Algebra.Order.Field.Basic
import Mathlib.Data.Rat.Cast.Order
import Mathlib.Tactic.FieldSimp
import Mathlib.Tactic.Linarith
import Deliberation.Proofs.Scores
/-! What binary64 numbers stand for as rational numbers, and which natural number a fraction is rounded to.
The value that is read off the bits of a number is the one that it is compared and calculated with. -/

namespace Deliberation.Binary64

open Float.Model (Format UnpackedFloat)
open Float.Model.UnpackedFloat (Sign unpackSign unpackExponent unpackMantissa)

def isNegative : Sign → Bool
  | .negative => true
  | .positive => false

def Value.ofUnpacked : UnpackedFloat → Value
  | .notANumber => .nan
  | .infinity sign => .infinite (isNegative sign)
  | .zero sign => .finite (isNegative sign) 0 (-1074)
  | .finite sign significand exponent _ => .finite (isNegative sign) significand exponent

section
variable (b : BitVec Format.binary64.numBits)

theorem toNat_unpackMantissa : (unpackMantissa b).toNat = b.toNat % leadingBit :=
  BitVec.extractLsb_toNat 51 0 b

theorem toNat_unpackExponent : (unpackExponent b).toNat = b.toNat / leadingBit % 2048 := by
  have bits : (unpackExponent b).toNat = b.toNat >>> 52 % 2048 := BitVec.extractLsb_toNat 62 52 b
  rw [bits, Nat.shiftRight_eq_div_pow]
  rfl

theorem toNat_unpackSign : (unpackSign b).toNat = b.toNat / 0x8000000000000000 := by
  have bits : (unpackSign b).toNat = b.toNat >>> 63 % 2 := BitVec.extractLsb_toNat 63 63 b
  have above : b.toNat / 2 ^ 63 < 2 := Nat.div_lt_of_lt_mul b.isLt
  rw [bits, Nat.shiftRight_eq_div_pow, Nat.mod_eq_of_lt above]
  rfl

theorem isNegative_unpackSign :
    isNegative (.ofBitVec (unpackSign b)) = (b.toNat / 0x8000000000000000 == 1) := by
  rw [← toNat_unpackSign]
  generalize unpackSign b = sign
  revert sign
  decide

theorem toNat_implicit : (1#1 ++ unpackMantissa b).toNat = leadingBit + (unpackMantissa b).toNat := by
  rw [BitVec.toNat_append, ← Nat.shiftLeft_add_eq_or_of_lt (unpackMantissa b).isLt]
  rfl

theorem Value.ofUnpacked_unpack :
    let negative := isNegative (.ofBitVec (unpackSign b))
    let field := (unpackExponent b).toNat
    let fraction := (unpackMantissa b).toNat
    ofUnpacked (.unpack Format.binary64 b) =
      if field = 2047 then if fraction = 0 then .infinite negative else .nan
      else if field = 0 then .finite negative fraction (-1074)
      else .finite negative (leadingBit + fraction) (field - 1075) := by
  intro negative field fraction
  have full : unpackExponent b = -1#11 ↔ field = 2047 := BitVec.toNat_inj.symm
  have empty : unpackExponent b = 0#11 ↔ field = 0 := BitVec.toNat_inj.symm
  have nothing : unpackMantissa b = 0#52 ↔ fraction = 0 := BitVec.toNat_inj.symm
  unfold UnpackedFloat.unpack
  by_cases special : field = 2047
  · rw [if_pos special, if_pos (full.mpr special)]
    by_cases blank : fraction = 0
    · rw [if_pos blank, if_pos (nothing.mpr blank)]
      rfl
    · rw [if_neg blank, if_neg (mt nothing.mp blank)]
      rfl
  · rw [if_neg special, if_neg (mt full.mp special)]
    by_cases subnormal : field = 0
    · rw [if_pos subnormal, if_pos (empty.mpr subnormal)]
      by_cases blank : fraction = 0
      · rw [dif_pos (nothing.mpr blank), blank]
        rfl
      · rw [dif_neg (mt nothing.mp blank)]
        change finite negative fraction (field - 1075 + 1) = _
        rw [subnormal]
        rfl
    · rw [if_neg subnormal, if_neg (mt empty.mp subnormal)]
      change finite negative (1#1 ++ unpackMantissa b).toNat (field - 1075) = _
      rw [toNat_implicit]

end

theorem value_eq (x : Float) : value x = .ofUnpacked x.toModel.unpack := by
  rw [Float.Model.unpack, Value.ofUnpacked_unpack, isNegative_unpackSign, toNat_unpackMantissa,
    toNat_unpackExponent]
  rfl

/-- The rational number that a value is. What is not finite counts as zero. -/
def Value.rational : Value → ℚ
  | .finite negative significand exponent => (if negative then -1 else 1) * significand * 2 ^ exponent
  | _ => 0

/-- The rational number that a number stands for, if it is finite. -/
def rational (x : Float) : ℚ :=
  (value x).rational

theorem exists_value_of_pos {x : Float} (finite : x.isFinite = true) (positive : 0 < x) :
    ∃ significand exponent, 0 < significand ∧ value x = .finite false significand exponent := by
  obtain ⟨zero, place, atZero, found, above⟩ := lt_iff_rank.mp positive
  obtain rfl : toLex (0, toLex (0, 0)) = zero := Option.some.inj atZero
  have finite : x.toModel.unpack.isFinite = true := finite
  rw [value_eq]
  rw [rank?] at found
  cases unpacked : x.toModel.unpack with
  | notANumber | infinity =>
    rw [unpacked] at finite
    contradiction
  | zero =>
    rw [unpacked] at found
    obtain rfl := Option.some.inj found
    exact absurd above (lt_irrefl _)
  | finite sign significand exponent nonzero =>
    rw [unpacked] at found
    cases sign with
    | positive => exact ⟨significand, exponent, nonzero, rfl⟩
    | negative =>
      obtain rfl := Option.some.inj found
      simp [Prod.Lex.toLex_lt_toLex] at above

theorem rational_of_value {x : Float} {significand : Nat} {exponent : Int}
    (read : value x = .finite false significand exponent) : rational x = significand * 2 ^ exponent := by
  rw [rational, read, Value.rational, if_neg Bool.false_ne_true, one_mul]

theorem rational_pos {x : Float} (finite : x.isFinite = true) (positive : 0 < x) : 0 < rational x := by
  obtain ⟨significand, exponent, nonzero, read⟩ := exists_value_of_pos finite positive
  rw [rational_of_value read]
  exact mul_pos (Nat.cast_pos.mpr nonzero) (zpow_pos two_pos exponent)

theorem power_two_pos (exponent : Int) : 0 < (power 2 exponent).2 := by
  unfold power
  split
  · exact Nat.one_pos
  · exact Nat.two_pow_pos _

theorem power_two_eq (exponent : Int) : ((power 2 exponent).1 / (power 2 exponent).2 : ℚ) = 2 ^ exponent := by
  unfold power
  split
  · rename_i nonneg
    lift exponent to ℕ using nonneg
    simp
  · rename_i negative
    obtain ⟨n, rfl⟩ := Int.exists_eq_neg_ofNat (Int.le_of_lt (Int.lt_of_not_ge negative))
    simp

/-- The natural number nearest to a fraction, and the even one where there are two. -/
structure IsNearest (q : ℚ) (n : Nat) : Prop where
  near : |q - n| ≤ 1 / 2
  even : |q - n| = 1 / 2 → Even n

theorem isNearest_of_lt {q : ℚ} {n : Nat} (near : |q - n| < 1 / 2) : IsNearest q n where
  near := near.le
  even tie := absurd tie near.ne

theorem isNearest_of_eq {q : ℚ} {n : Nat} (tie : |q - n| = 1 / 2) (even : Even n) : IsNearest q n where
  near := tie.le
  even _ := even

theorem roundHalfEven_isNearest (numerator : Nat) {denominator : Nat} (positive : 0 < denominator) :
    IsNearest (numerator / denominator) (roundHalfEven numerator denominator) := by
  have scale : (0 : ℚ) < denominator := Nat.cast_pos.mpr positive
  have rest_lt := Nat.mod_lt numerator positive
  have whole : (numerator : ℚ) = (numerator / denominator : ℕ) * denominator + (numerator % denominator : ℕ) :=
    mod_cast (Nat.div_add_mod' numerator denominator).symm
  unfold roundHalfEven
  rw [whole, add_div, mul_div_cancel_right₀ _ scale.ne']
  generalize numerator / denominator = quotient at *
  generalize numerator % denominator = rest at *
  have nonneg : (0 : ℚ) ≤ rest / denominator := by positivity
  have below : (rest / denominator : ℚ) < 1 := (div_lt_one scale).mpr (mod_cast rest_lt)
  dsimp only
  split
  · rename_i low
    have low : (rest / denominator : ℚ) < 1 / 2 := by
      rw [div_lt_div_iff₀ scale two_pos]
      exact_mod_cast (by omega : rest * 2 < 1 * denominator)
    apply isNearest_of_lt
    rw [abs_lt]
    constructor <;> linarith
  · split
    · rename_i high
      have high : 1 / 2 < (rest / denominator : ℚ) := by
        rw [div_lt_div_iff₀ two_pos scale]
        exact_mod_cast (by omega : 1 * denominator < rest * 2)
      apply isNearest_of_lt
      rw [abs_lt]
      push_cast
      constructor <;> linarith
    · have half : (rest / denominator : ℚ) = 1 / 2 := by
        rw [div_eq_div_iff scale.ne' two_ne_zero]
        exact_mod_cast (by omega : rest * 2 = 1 * denominator)
      rw [half]
      obtain even | odd := Nat.mod_two_eq_zero_or_one quotient
      · rw [even, Nat.add_zero]
        refine isNearest_of_eq ?_ (Nat.even_iff.mpr even)
        rw [add_sub_cancel_left, abs_of_pos one_half_pos]
      · rw [odd]
        refine isNearest_of_eq ?_ (Nat.even_iff.mpr (Nat.succ_mod_two_eq_zero_iff.mpr odd))
        rw [Nat.cast_succ, add_sub_add_left_eq_sub]
        norm_num [abs_div]

theorem IsNearest.pos_iff {q : ℚ} {n : Nat} (nearest : IsNearest q n) (nonneg : 0 ≤ q) :
    0 < n ↔ 1 / 2 < q := by
  obtain ⟨near, even⟩ := nearest
  cases n with
  | zero =>
    rw [Nat.cast_zero, sub_zero, abs_of_nonneg nonneg] at near
    exact iff_of_false (Nat.lt_irrefl 0) near.not_gt
  | succ n =>
    refine iff_of_true n.succ_pos (lt_of_not_ge fun small => ?_)
    have close := (abs_le.mp near).1
    rw [Nat.cast_succ] at close
    have first : n = 0 := Nat.le_zero.mp (Nat.cast_le.mp (by push_cast; linarith : (n : ℚ) ≤ (0 : ℕ)))
    subst first
    obtain rfl : q = 1 / 2 := by linarith
    exact absurd (even (by norm_num [abs_div])) (by decide)

end Deliberation.Binary64
