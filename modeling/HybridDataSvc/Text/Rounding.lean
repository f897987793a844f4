import HybridDataSvc.Text.Numbers
import Mathlib.Algebra.Order.Field.Power
import Mathlib.Data.Rat.Cast.Order
import Mathlib.Tactic.FieldSimp
import Mathlib.Tactic.GCongr
import Mathlib.Tactic.Linarith
import Mathlib.Tactic.Positivity
import Mathlib.Tactic.Ring

namespace NumberText

/-!
# How far rounding goes

A number has 53 significant bits, so rounding moves it by at most half of the
last of them; below the smallest exponent, by less than anything that matters.
-/

/-- Rounding a quotient moves it by half at most. -/
theorem abs_roundQuotient_sub_le (a : Nat) {b : Nat} (positive : 0 < b) :
    |(roundQuotient a b : Rat) - a / b| ≤ 1 / 2 := by
  have bRat : (0 : Rat) < b := by exact_mod_cast positive
  have split : (a : Rat) / b = (a / b : Nat) + (a % b : Nat) / b := by
    have whole : ((b * (a / b) + a % b : Nat) : Rat) = a := by exact_mod_cast Nat.div_add_mod a b
    rw [← whole]
    push_cast
    field_simp
  have rest : ((a % b : Nat) : Rat) < b := by exact_mod_cast Nat.mod_lt a positive
  have below : (0 : Rat) ≤ (a % b : Nat) / b := by positivity
  rw [split, abs_le]
  unfold roundQuotient
  split
  · rename_i small
    have half : ((a % b : Nat) : Rat) / b ≤ 1 / 2 := by
      rw [div_le_iff₀ bRat]
      have small' : (2 : Rat) * (a % b : Nat) < b := by exact_mod_cast small
      linarith
    constructor <;> linarith
  · split
    · rename_i large
      have half : (1 : Rat) / 2 ≤ ((a % b : Nat) : Rat) / b := by
        rw [le_div_iff₀ bRat]
        have large' : (b : Rat) < 2 * (a % b : Nat) := by exact_mod_cast large
        linarith
      have most : ((a % b : Nat) : Rat) / b ≤ 1 := by
        rw [div_le_iff₀ bRat]
        linarith
      push_cast
      constructor <;> linarith
    · rename_i notSmall notLarge
      have half : ((a % b : Nat) : Rat) / b = 1 / 2 := by
        rw [div_eq_iff bRat.ne']
        have tie : 2 * (a % b) = b := by omega
        have tie' : (2 : Rat) * (a % b : Nat) = b := by exact_mod_cast tie
        linarith
      have parity : (a / b % 2 : Nat) = 0 ∨ (a / b % 2 : Nat) = 1 := by omega
      rcases parity with even | odd
      · rw [half, even]
        push_cast
        constructor <;> linarith
      · rw [half, odd]
        push_cast
        constructor <;> linarith

/-- The powers at the heads of numerator and denominator bound a quotient. -/
theorem zpow_log2_mul_le {a : Nat} (b : Nat) (nonzero : a ≠ 0) :
    (2 : Rat) ^ ((a.log2 : Int) - b.log2 - 1) * b ≤ a := by
  have two : (2 : Rat) ≠ 0 := by norm_num
  have low : ((2 ^ a.log2 : Nat) : Rat) ≤ a := by exact_mod_cast Nat.log2_self_le nonzero
  have high : (b : Rat) ≤ ((2 ^ (b.log2 + 1) : Nat) : Rat) := by
    exact_mod_cast (@Nat.lt_log2_self b).le
  push_cast at low high
  calc
    (2 : Rat) ^ ((a.log2 : Int) - b.log2 - 1) * b
      ≤ (2 : Rat) ^ ((a.log2 : Int) - b.log2 - 1) * 2 ^ (b.log2 + 1) :=
        mul_le_mul_of_nonneg_left high (by positivity)
    _ = (2 : Rat) ^ a.log2 := by
        rw [← zpow_natCast, ← zpow_natCast, ← zpow_add₀ two]
        congr 1
        push_cast
        ring
    _ ≤ a := low

/-- The power below a quotient. -/
theorem zpow_floorLog_le {a b : Nat} (nonzero : a ≠ 0) (positive : 0 < b) :
    (2 : Rat) ^ floorLog a b ≤ a / b := by
  have bRat : (0 : Rat) < b := by exact_mod_cast positive
  have two : (2 : Rat) ≠ 0 := by norm_num
  have low := zpow_log2_mul_le b nonzero
  rw [le_div_iff₀ bRat]
  simp only [floorLog]
  generalize (a.log2 : Int) - b.log2 = e at low ⊢
  by_cases up : 0 ≤ e
  · simp only [if_pos up]
    split
    · rename_i fits
      have exact_ : ((b * 2 ^ e.toNat : Nat) : Rat) ≤ a := by exact_mod_cast fits
      have power : (2 : Rat) ^ e = (2 : Rat) ^ e.toNat := by
        rw [← zpow_natCast, Int.toNat_of_nonneg up]
      rw [power, mul_comm]
      push_cast at exact_
      exact exact_
    · exact low
  · simp only [if_neg up]
    split
    · rename_i fits
      have exact_ : (b : Rat) ≤ ((a * 2 ^ (-e).toNat : Nat) : Rat) := by exact_mod_cast fits
      have power : (2 : Rat) ^ e * (2 : Rat) ^ (-e).toNat = 1 := by
        rw [← zpow_natCast, Int.toNat_of_nonneg (by omega), ← zpow_add₀ two]
        simp
      push_cast at exact_
      calc
        (2 : Rat) ^ e * b ≤ (2 : Rat) ^ e * (a * (2 : Rat) ^ (-e).toNat) :=
            mul_le_mul_of_nonneg_left exact_ (by positivity)
        _ = a * ((2 : Rat) ^ e * (2 : Rat) ^ (-e).toNat) := by ring
        _ = a := by rw [power, mul_one]
    · exact low

/-- A size is a whole multiple of its last bit. -/
theorem roundSize_eq (a b : Nat) :
    roundSize a b = (if 0 ≤ lastBit a b then roundQuotient a (b * 2 ^ (lastBit a b).toNat)
      else roundQuotient (a * 2 ^ (-lastBit a b).toNat) b : Nat) * (2 : Rat) ^ lastBit a b := by
  have two : (2 : Rat) ≠ 0 := by norm_num
  have power : (2 : Rat) ^ lastBit a b =
      (2 : Rat) ^ (lastBit a b).toNat / (2 : Rat) ^ (-lastBit a b).toNat := by
    rw [← zpow_natCast, ← zpow_natCast, ← zpow_sub₀ two]
    congr 1
    omega
  simp only [roundSize, Rat.mkRat_eq_div, power]
  push_cast
  rw [mul_div_assoc]

/-- The last bit bounds the error. -/
theorem abs_roundSize_sub_le (a : Nat) {b : Nat} (positive : 0 < b) :
    |roundSize a b - a / b| ≤ (2 : Rat) ^ lastBit a b / 2 := by
  have bRat : (0 : Rat) < b := by exact_mod_cast positive
  have two : (2 : Rat) ≠ 0 := by norm_num
  have unit : (0 : Rat) < (2 : Rat) ^ lastBit a b := by positivity
  obtain ⟨n, d, dPositive, same, quotient⟩ : exists n d : Nat, 0 < d ∧
      roundSize a b = (roundQuotient n d : Rat) * (2 : Rat) ^ lastBit a b ∧
      (n : Rat) / d * (2 : Rat) ^ lastBit a b = a / b := by
    rw [roundSize_eq]
    by_cases up : 0 ≤ lastBit a b
    · refine ⟨a, b * 2 ^ (lastBit a b).toNat, by positivity, by rw [if_pos up], ?_⟩
      have power : (2 : Rat) ^ lastBit a b = (2 : Rat) ^ (lastBit a b).toNat := by
        rw [← zpow_natCast, Int.toNat_of_nonneg up]
      rw [power]
      push_cast
      field_simp
    · refine ⟨a * 2 ^ (-lastBit a b).toNat, b, positive, by rw [if_neg up], ?_⟩
      have power : (2 : Rat) ^ (-lastBit a b).toNat * (2 : Rat) ^ lastBit a b = 1 := by
        rw [← zpow_natCast, Int.toNat_of_nonneg (by omega), ← zpow_add₀ two]
        simp
      push_cast
      calc
        (a : Rat) * 2 ^ (-lastBit a b).toNat / b * (2 : Rat) ^ lastBit a b
          = a / b * ((2 : Rat) ^ (-lastBit a b).toNat * (2 : Rat) ^ lastBit a b) := by ring
        _ = a / b := by rw [power, mul_one]
  have moved := abs_roundQuotient_sub_le n dPositive
  calc
    |roundSize a b - a / b|
      = |((roundQuotient n d : Rat) - n / d) * (2 : Rat) ^ lastBit a b| := by
        rw [same, ← quotient]
        ring_nf
    _ = |(roundQuotient n d : Rat) - n / d| * (2 : Rat) ^ lastBit a b := by
        rw [abs_mul, abs_of_pos unit]
    _ ≤ 1 / 2 * (2 : Rat) ^ lastBit a b := mul_le_mul_of_nonneg_right moved unit.le
    _ = (2 : Rat) ^ lastBit a b / 2 := by ring

/-- The last of 53 bits, or one that is too small to matter. -/
theorem zpow_lastBit_le {a b : Nat} (nonzero : a ≠ 0) (positive : 0 < b) :
    (2 : Rat) ^ lastBit a b ≤ (a / b + 1) / 2 ^ 52 := by
  have two : (2 : Rat) ≠ 0 := by norm_num
  have size : (0 : Rat) ≤ a / b := by positivity
  unfold lastBit
  split
  · have floor := zpow_floorLog_le nonzero positive
    have power : (2 : Rat) ^ (floorLog a b - 52) = (2 : Rat) ^ floorLog a b / 2 ^ 52 := by
      rw [zpow_sub₀ two]
      rfl
    rw [power]
    gcongr
    linarith
  · have tiny : (2 : Rat) ^ (-1074 : Int) ≤ (2 : Rat) ^ (-52 : Int) :=
      zpow_le_zpow_right₀ (by norm_num) (by norm_num)
    have unit : (2 : Rat) ^ (-52 : Int) = 1 / 2 ^ 52 := by
      rw [zpow_neg, one_div]
      rfl
    rw [unit] at tiny
    refine tiny.trans ?_
    gcongr
    linarith

/-- Rounding moves a number by a part in `2 ^ 53`, counted from one on. -/
theorem abs_nearest_sub_le (x : Rat) : |nearest x - x| ≤ (|x| + 1) / 2 ^ 53 := by
  have size : ((x.num.natAbs : Nat) : Rat) / (x.den : Nat) = |x| := by
    have natural : ((x.num.natAbs : Nat) : Rat) = |(x.num : Rat)| := by
      rw [← Int.cast_natCast, Int.natCast_natAbs, Int.cast_abs]
    have denominator : (x.den : Rat) = |(x.den : Rat)| := (abs_of_nonneg (Nat.cast_nonneg _)).symm
    rw [natural, denominator, ← abs_div, Rat.num_div_den]
  have rounded : |roundSize x.num.natAbs x.den - abs x| ≤ (|x| + 1) / 2 ^ 53 := by
    have moved := abs_roundSize_sub_le x.num.natAbs x.den_pos
    rw [size] at moved
    by_cases zero : x.num.natAbs = 0
    · have none : roundSize x.num.natAbs x.den = 0 := by
        rw [roundSize_eq, zero]
        simp [roundQuotient]
      have same : |x| = 0 := by rw [← size, zero]; simp
      rw [none, same]
      norm_num
    · have unit := zpow_lastBit_le zero x.den_pos
      rw [size] at unit
      refine moved.trans ?_
      linarith
  unfold nearest
  split
  · rename_i negative
    have flipped : |x| = -x := abs_of_neg negative
    have same : -roundSize x.num.natAbs x.den - x = -(roundSize x.num.natAbs x.den - abs x) := by
      rw [flipped]
      ring
    rw [same, abs_neg]
    exact rounded
  · rename_i notNegative
    have same : |x| = x := abs_of_nonneg (not_lt.mp notNegative)
    rw [same] at rounded ⊢
    exact rounded

theorem nearest_le {x bound : Rat} (small : |x| ≤ bound) : nearest x ≤ x + (bound + 1) / 2 ^ 53 := by
  have moved := (abs_le.mp (abs_nearest_sub_le x)).2
  have wider : (|x| + 1) / 2 ^ 53 ≤ (bound + 1) / 2 ^ 53 := by gcongr
  linarith

theorem le_nearest {x bound : Rat} (small : |x| ≤ bound) : x - (bound + 1) / 2 ^ 53 ≤ nearest x := by
  have moved := (abs_le.mp (abs_nearest_sub_le x)).1
  have wider : (|x| + 1) / 2 ^ 53 ≤ (bound + 1) / 2 ^ 53 := by gcongr
  linarith

end NumberText
