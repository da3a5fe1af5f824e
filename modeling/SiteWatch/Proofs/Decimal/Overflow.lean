/-
# Numbers that are too large

A ratio of natural numbers has a double precision value unless it is too large. The bound lies half
way between the largest finite value and the next one that the format would have if its exponents
went on: a number at the bound or above is rounded away, every smaller one to a finite value. It is
shown by reading the exponent that is chosen for a ratio as that of the power of two below it.
-/

import Mathlib.Algebra.Order.Field.Power
import Mathlib.Data.Rat.Cast.Order
import Mathlib.Tactic.FieldSimp
import Mathlib.Tactic.GCongr
import Mathlib.Tactic.NormNum
import Mathlib.Tactic.Positivity
import SiteWatch.Decimal.Double

namespace SiteWatch.Double

variable {numerator denominator : Nat}

/-- The least number that is too large for a double precision value. -/
def overflowBound : Nat := (2 ^ 54 - 1) * 2 ^ 970

/-! ## Scaling -/

theorem scaledBy_snd_pos (numerator : Nat) (hdenominator : 0 < denominator) (exponent : Int) :
    0 < (scaledBy numerator denominator exponent).2 := by
  unfold scaledBy
  split
  · exact Nat.mul_pos hdenominator (Nat.pow_pos (by decide))
  · exact hdenominator

/-- Scaling divides a ratio by a power of two. -/
theorem scaledBy_ratio (numerator denominator : Nat) (exponent : Int) :
    ((scaledBy numerator denominator exponent).1 : ℚ) / (scaledBy numerator denominator exponent).2 =
      (numerator : ℚ) / denominator / 2 ^ exponent := by
  unfold scaledBy
  split
  · rename_i hexponent
    have hpower : (2 : ℚ) ^ exponent = 2 ^ exponent.toNat := by
      rw [← zpow_natCast, Int.toNat_of_nonneg hexponent]
    simp only [Nat.pow_eq, Nat.cast_mul, Nat.cast_pow, Nat.cast_ofNat, hpower, div_div]
  · rename_i hexponent
    have hpower : (2 : ℚ) ^ exponent = (2 ^ (-exponent).toNat)⁻¹ := by
      rw [← zpow_natCast, Int.toNat_of_nonneg (by omega), zpow_neg, inv_inv]
    simp only [Nat.pow_eq, Nat.cast_mul, Nat.cast_pow, Nat.cast_ofNat, hpower]
    rw [div_inv_eq_mul, div_mul_eq_mul_div]

/-- A scaled ratio has so many bits if the ratio itself is below a power of two. -/
theorem scaledBy_lt_iff (numerator : Nat) (hdenominator : 0 < denominator) (exponent : Int)
    (bits : Nat) :
    (scaledBy numerator denominator exponent).1 <
        2 ^ bits * (scaledBy numerator denominator exponent).2 ↔
      (numerator : ℚ) / denominator < 2 ^ (exponent + bits) := by
  have hunit : (0 : ℚ) < (scaledBy numerator denominator exponent).2 := by
    exact_mod_cast scaledBy_snd_pos numerator hdenominator exponent
  rw [← Nat.cast_lt (α := ℚ), Nat.cast_mul, ← div_lt_iff₀ hunit, scaledBy_ratio,
    div_lt_iff₀ (by positivity), zpow_add₀ (by norm_num), zpow_natCast, mul_comm, Nat.cast_pow,
    Nat.cast_ofNat]

/-! ## The exponent of a ratio -/

section

variable (hnumerator : 0 < numerator) (hdenominator : 0 < denominator)
include hnumerator hdenominator

/-- The logarithms of numerator and denominator tell a ratio up to a factor of four. -/
theorem ratio_bounds :
    (2 : ℚ) ^ ((Nat.log2 numerator : Int) - Nat.log2 denominator - 1) <
        (numerator : ℚ) / denominator ∧
      (numerator : ℚ) / denominator <
        2 ^ ((Nat.log2 numerator : Int) - Nat.log2 denominator + 1) := by
  have hlow : ((2 : ℚ) ^ Nat.log2 numerator) ≤ numerator := by
    exact_mod_cast Nat.log2_self_le (Nat.pos_iff_ne_zero.mp hnumerator)
  have hhigh : (numerator : ℚ) < 2 ^ (Nat.log2 numerator + 1) := by
    exact_mod_cast Nat.lt_log2_self
  have hunder : ((2 : ℚ) ^ Nat.log2 denominator) ≤ denominator := by
    exact_mod_cast Nat.log2_self_le (Nat.pos_iff_ne_zero.mp hdenominator)
  have hover : (denominator : ℚ) < 2 ^ (Nat.log2 denominator + 1) := by
    exact_mod_cast Nat.lt_log2_self
  have hpositive : (0 : ℚ) < denominator := by exact_mod_cast hdenominator
  constructor
  · rw [lt_div_iff₀ hpositive]
    calc (2 : ℚ) ^ ((Nat.log2 numerator : Int) - Nat.log2 denominator - 1) * denominator
        < 2 ^ ((Nat.log2 numerator : Int) - Nat.log2 denominator - 1) *
            2 ^ (Nat.log2 denominator + 1) := by gcongr
      _ = 2 ^ Nat.log2 numerator := by
          rw [← zpow_natCast, ← zpow_natCast, ← zpow_add₀ (by norm_num)]
          congr 1
          omega
      _ ≤ numerator := hlow
  · rw [div_lt_iff₀ hpositive]
    calc (numerator : ℚ) < 2 ^ (Nat.log2 numerator + 1) := hhigh
      _ = 2 ^ ((Nat.log2 numerator : Int) - Nat.log2 denominator + 1) *
            2 ^ Nat.log2 denominator := by
          rw [← zpow_natCast, ← zpow_natCast, ← zpow_add₀ (by norm_num)]
          congr 1
          omega
      _ ≤ 2 ^ ((Nat.log2 numerator : Int) - Nat.log2 denominator + 1) * denominator := by gcongr

/-- The exponent that is chosen for a ratio puts it below 53 bits, and not below 52 unless the
exponent is the least one of the format. -/
theorem exponentFor_bounds :
    (numerator : ℚ) / denominator < 2 ^ (exponentFor numerator denominator + 53) ∧
      (exponentFor numerator denominator = minExponent ∨
        2 ^ (exponentFor numerator denominator + 52) ≤ (numerator : ℚ) / denominator) := by
  obtain ⟨hlow, hhigh⟩ := ratio_bounds hnumerator hdenominator
  obtain ⟨guess, hguess⟩ : ∃ guess : Int,
      guess = (Nat.log2 numerator : Int) - Nat.log2 denominator - 52 := ⟨_, rfl⟩
  -- Whether the guess is one too many is told by the ratio itself.
  have hshort : (scaledBy numerator denominator guess).1 /
        (scaledBy numerator denominator guess).2 < 2 ^ 52 ↔
      (numerator : ℚ) / denominator < 2 ^ (guess + 52) :=
    (Nat.div_lt_iff_lt_mul (scaledBy_snd_pos numerator hdenominator guess)).trans
      (scaledBy_lt_iff numerator hdenominator guess 52)
  have hfitted : ∃ fitted : Int, exponentFor numerator denominator = max fitted minExponent ∧
      (numerator : ℚ) / denominator < 2 ^ (fitted + 53) ∧
      2 ^ (fitted + 52) ≤ (numerator : ℚ) / denominator := by
    refine ⟨if (scaledBy numerator denominator guess).1 /
      (scaledBy numerator denominator guess).2 < 2 ^ 52 then guess - 1 else guess, ?_, ?_⟩
    · rw [exponentFor, ← hguess]
      rfl
    · by_cases hless : (numerator : ℚ) / denominator < 2 ^ (guess + 52)
      · have hupper : guess - 1 + 53 = guess + 52 := by omega
        have hlower : guess - 1 + 52 = (Nat.log2 numerator : Int) - Nat.log2 denominator - 1 := by
          omega
        rw [if_pos (hshort.mpr hless), hupper, hlower]
        exact ⟨hless, hlow.le⟩
      · have hupper : guess + 53 = (Nat.log2 numerator : Int) - Nat.log2 denominator + 1 := by
          omega
        rw [if_neg (mt hshort.mp hless), hupper]
        exact ⟨hhigh, not_lt.mp hless⟩
  obtain ⟨fitted, hexponent, hbelow, habove⟩ := hfitted
  rw [hexponent]
  constructor
  · exact hbelow.trans_le (zpow_le_zpow_right₀ (by norm_num) (by omega))
  · rcases le_total fitted minExponent with hle | hle
    · exact .inl (max_eq_right hle)
    · exact .inr (by rwa [max_eq_left hle])

end

/-! ## Rounding -/

/-- A quotient below a power of two is rounded up to it if it is at most a half below. -/
theorem roundedQuotient_eq_iff {scaled unit : Nat} (hunit : 0 < unit)
    (hscaled : scaled < 2 ^ 53 * unit) :
    roundedQuotient scaled unit = 2 ^ 53 ↔ (2 ^ 54 - 1) * unit ≤ 2 * scaled := by
  have hdivision := Nat.div_add_mod scaled unit
  have hrest := Nat.mod_lt scaled hunit
  have hquotient : scaled / unit < 2 ^ 53 := (Nat.div_lt_iff_lt_mul hunit).mpr hscaled
  unfold roundedQuotient
  dsimp only
  generalize scaled / unit = quotient at hdivision hquotient
  generalize scaled % unit = rest at hdivision hrest
  rcases Nat.lt_or_ge quotient (2 ^ 53 - 1) with hsmall | hlarge
  · have hproduct : unit * quotient ≤ unit * (2 ^ 53 - 2) := Nat.mul_le_mul_left unit (by omega)
    split
    · omega
    · split <;> omega
  · obtain rfl : quotient = 2 ^ 53 - 1 := by omega
    split
    · omega
    · split <;> omega

theorem overflowBound_pos : 0 < overflowBound := by
  unfold overflowBound
  positivity

theorem overflowBound_eq : (overflowBound : ℚ) = (2 ^ 54 - 1 : Nat) * 2 ^ (970 : Int) := by
  have hpower : ((2 ^ 970 : Nat) : ℚ) = 2 ^ (970 : Int) := by
    rw [Nat.cast_pow, ← zpow_natCast]
    rfl
  rw [overflowBound, Nat.cast_mul, hpower]

/-- Only the exponent decides whether a ratio has a double precision value. -/
theorem ofRatio_eq_none (negative : Bool) (hnumerator : 0 < numerator) (denominator : Nat) :
    ofRatio negative numerator denominator = none ↔
      maxExponent < exponentFor numerator denominator ∨
        exponentFor numerator denominator = maxExponent ∧
          roundedQuotient (scaledBy numerator denominator maxExponent).1
            (scaledBy numerator denominator maxExponent).2 = 2 ^ 53 := by
  obtain ⟨exponent, hexponent⟩ :
      ∃ exponent, exponent = exponentFor numerator denominator := ⟨_, rfl⟩
  simp only [ofRatio, if_neg (Nat.pos_iff_ne_zero.mp hnumerator), ← hexponent, Nat.pow_eq]
  by_cases hfull : roundedQuotient (scaledBy numerator denominator exponent).1
      (scaledBy numerator denominator exponent).2 = 2 ^ 53
  · simp only [if_pos hfull]
    rcases lt_trichotomy exponent maxExponent with hless | rfl | hmore
    · have hin : ¬ exponent + 1 > maxExponent := by omega
      rw [if_neg hin]
      simp [hless.not_gt, hless.ne]
    · simp [hfull]
    · have hout : exponent + 1 > maxExponent := by omega
      simp [hout, hmore]
  · have hnone : ¬ (exponent = maxExponent ∧
        roundedQuotient (scaledBy numerator denominator maxExponent).1
          (scaledBy numerator denominator maxExponent).2 = 2 ^ 53) := by
      rintro ⟨rfl, hmost⟩
      exact hfull hmost
    simp only [if_neg hfull, hnone, or_false]
    split
    · simpa using by assumption
    · rename_i hin
      rw [iff_false_right hin]
      split <;> simp

/-- With the largest exponent a ratio that reaches the bound is at most a half below the power of two
that has no place in the format. -/
theorem scaledBy_reaches_iff (numerator : Nat) (hdenominator : 0 < denominator) :
    (2 ^ 54 - 1) * (scaledBy numerator denominator maxExponent).2 ≤
        2 * (scaledBy numerator denominator maxExponent).1 ↔
      ((2 ^ 54 - 1 : Nat) : ℚ) * 2 ^ (970 : Int) ≤ (numerator : ℚ) / denominator := by
  have hunit : (0 : ℚ) < (scaledBy numerator denominator maxExponent).2 := by
    exact_mod_cast scaledBy_snd_pos numerator hdenominator maxExponent
  have hhalf : (2 : ℚ) ^ maxExponent = 2 * 2 ^ (970 : Int) := zpow_one_add₀ (by norm_num) 970
  have hratio := scaledBy_ratio numerator denominator maxExponent
  rw [hhalf, div_eq_iff hunit.ne'] at hratio
  have htwice (ratio unit : ℚ) :
      2 * (ratio / (2 * 2 ^ (970 : Int)) * unit) = ratio / 2 ^ (970 : Int) * unit := by
    field_simp
  rw [← Nat.cast_le (α := ℚ), Nat.cast_mul, Nat.cast_mul, hratio, Nat.cast_ofNat, htwice,
    mul_le_mul_iff_left₀ hunit, le_div_iff₀ (by positivity)]

/-- A ratio has no double precision value just if it reaches the bound. -/
theorem ofRatio_eq_none_iff (negative : Bool) (numerator : Nat) (hdenominator : 0 < denominator) :
    ofRatio negative numerator denominator = none ↔ overflowBound * denominator ≤ numerator := by
  have hpositive : (0 : ℚ) < denominator := by exact_mod_cast hdenominator
  have hratio : overflowBound * denominator ≤ numerator ↔
      ((2 ^ 54 - 1 : Nat) : ℚ) * 2 ^ (970 : Int) ≤ (numerator : ℚ) / denominator := by
    rw [le_div_iff₀ hpositive, ← overflowBound_eq]
    exact_mod_cast Iff.rfl
  rcases Nat.eq_zero_or_pos numerator with rfl | hnumerator
  · exact iff_of_false nofun (Nat.not_le.mpr (Nat.mul_pos overflowBound_pos hdenominator))
  obtain ⟨hbelow, habove⟩ := exponentFor_bounds hnumerator hdenominator
  rw [ofRatio_eq_none negative hnumerator, hratio]
  rcases lt_trichotomy (exponentFor numerator denominator) maxExponent with hlow | hexact | hhigh
  · -- The ratio stays below a power of two that the bound exceeds.
    refine iff_of_false (by omega) (not_le.mpr (hbelow.trans_le ?_))
    calc (2 : ℚ) ^ (exponentFor numerator denominator + 53)
        ≤ 2 ^ (53 + 970 : Int) := zpow_le_zpow_right₀ (by norm_num) (by unfold maxExponent at hlow; omega)
      _ = 2 ^ (53 : Int) * 2 ^ (970 : Int) := zpow_add₀ (by norm_num) _ _
      _ ≤ ((2 ^ 54 - 1 : Nat) : ℚ) * 2 ^ (970 : Int) := by gcongr; norm_num
  · have hunit := scaledBy_snd_pos numerator hdenominator maxExponent
    have hscaled : (scaledBy numerator denominator maxExponent).1 <
        2 ^ 53 * (scaledBy numerator denominator maxExponent).2 :=
      (scaledBy_lt_iff numerator hdenominator maxExponent 53).mpr (hexact ▸ hbelow)
    rw [hexact, roundedQuotient_eq_iff hunit hscaled, scaledBy_reaches_iff numerator hdenominator]
    simp only [lt_irrefl, false_or, true_and]
  · have hnormal : exponentFor numerator denominator ≠ minExponent := by
      rintro hleast
      rw [hleast] at hhigh
      exact absurd hhigh (by decide)
    refine iff_of_true (.inl hhigh) (le_trans ?_ (habove.resolve_left hnormal))
    calc ((2 ^ 54 - 1 : Nat) : ℚ) * 2 ^ (970 : Int)
        ≤ 2 ^ (54 : Int) * 2 ^ (970 : Int) := by gcongr; norm_num
      _ = 2 ^ (54 + 970 : Int) := (zpow_add₀ (by norm_num) _ _).symm
      _ ≤ 2 ^ (exponentFor numerator denominator + 52) :=
          zpow_le_zpow_right₀ (by norm_num) (by unfold maxExponent at hhigh; omega)

/-- A decimal with some places has no double precision value just if it reaches the bound. -/
theorem ofDecimal_eq_none_iff (negative : Bool) (significand places : Nat) :
    ofDecimal negative significand (-(places : Int)) = none ↔
      overflowBound * 10 ^ places ≤ significand := by
  unfold ofDecimal
  split
  · rename_i hplaces
    obtain rfl : places = 0 := by omega
    rw [ofRatio_eq_none_iff negative _ (by decide)]
    simp
  · rw [neg_neg, Int.toNat_natCast]
    exact ofRatio_eq_none_iff negative significand (Nat.pow_pos (by decide))

end SiteWatch.Double
