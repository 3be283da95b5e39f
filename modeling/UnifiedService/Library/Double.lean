import Mathlib.Algebra.Order.Floor.Ring
import Mathlib.Data.Int.Log
import Mathlib.Data.Rat.Floor
import Mathlib.Tactic.Linarith
import Mathlib.Tactic.NormNum
import Mathlib.Tactic.Positivity

/-! Double-precision results of exact rational arithmetic: the nearest double, ties to
even, and the rounding of a number to an integer. -/

set_option autoImplicit false

namespace UnifiedService.Library

def roundHalfEven (value : ℚ) : ℤ :=
  let low := ⌊value⌋
  if value - low < 1 / 2 then low
  else if 1 / 2 < value - low then low + 1
  else if low % 2 = 0 then low else low + 1

namespace Double

def spacing (value : ℚ) : ℚ := 2 ^ max (Int.log 2 |value| - 52) (-1074)

def nearest (value : ℚ) : ℚ := roundHalfEven (value / spacing value) * spacing value

def ofDecimal (mantissa exponent : ℤ) : Option ℚ :=
  let value := nearest (mantissa * 10 ^ exponent)
  if |value| < 2 ^ 1024 then some value else none

/-- `Math.round`: the nearest integer, ties upward. -/
def mathRound (value : ℚ) : ℤ := ⌊value + 1 / 2⌋

theorem spacing_pos (value : ℚ) : 0 < spacing value := zpow_pos (by norm_num) _

theorem roundHalfEven_nonneg {value : ℚ} (nonneg : 0 ≤ value) : 0 ≤ roundHalfEven value := by
  have low : 0 ≤ ⌊value⌋ := Int.floor_nonneg.mpr nonneg
  unfold roundHalfEven
  dsimp only
  split_ifs <;> omega

theorem roundHalfEven_le {value : ℚ} {bound : ℤ} (below : value ≤ bound) :
    roundHalfEven value ≤ bound := by
  have low : ⌊value⌋ ≤ bound := by
    have floored := Int.floor_le_floor below
    rwa [Int.floor_intCast] at floored
  by_cases reached : ⌊value⌋ = bound
  · -- Only the bound itself has the bound as its floor.
    have exactly : value - ⌊value⌋ < 1 / 2 := by
      rw [reached]
      linarith
    unfold roundHalfEven
    dsimp only
    rw [if_pos exactly]
    exact low
  · unfold roundHalfEven
    dsimp only
    split_ifs <;> omega

theorem nearest_nonneg {value : ℚ} (nonneg : 0 ≤ value) : 0 ≤ nearest value := by
  have spaced := spacing_pos value
  have rounded : (0 : ℚ) ≤ roundHalfEven (value / spacing value) := by
    exact_mod_cast roundHalfEven_nonneg (div_nonneg nonneg spaced.le)
  exact mul_nonneg rounded spaced.le

theorem nearest_le {value bound : ℚ} {steps : ℤ} (below : value ≤ bound)
    (isDouble : bound = steps * spacing value) : nearest value ≤ bound := by
  have spaced := spacing_pos value
  have scaled : value / spacing value ≤ steps := by
    rw [div_le_iff₀ spaced, ← isDouble]
    exact below
  have rounded : (roundHalfEven (value / spacing value) : ℚ) ≤ steps := by
    exact_mod_cast roundHalfEven_le scaled
  rw [isDouble]
  exact mul_le_mul_of_nonneg_right rounded spaced.le

theorem multiple_of_power {factor : ℕ} {power exponent : ℤ} (smaller : exponent ≤ power) :
    ∃ steps : ℤ, (factor : ℚ) * 2 ^ power = steps * 2 ^ exponent := by
  refine ⟨factor * 2 ^ (power - exponent).toNat, ?_⟩
  have split : (2 : ℚ) ^ power = 2 ^ (power - exponent).toNat * 2 ^ exponent := by
    rw [← zpow_natCast, ← zpow_add₀ (by norm_num), Int.toNat_of_nonneg (by omega)]
    congr 1
    omega
  rw [split]
  push_cast
  ring

theorem roundHalfEven_int (value : ℤ) : roundHalfEven value = value := by
  have below : (value : ℚ) - value < 1 / 2 := by norm_num
  unfold roundHalfEven
  dsimp only
  rw [Int.floor_intCast, if_pos below]

theorem nearest_natCast {number : ℕ} (small : number < 2 ^ 53) : nearest number = number := by
  have exponent : max (Int.log 2 |(number : ℚ)| - 52) (-1074) ≤ 0 := by
    have log : Nat.log 2 number ≤ 52 := Nat.lt_succ_iff.mp (Nat.log_lt_of_lt_pow' (by decide) small)
    rw [Nat.abs_cast, Int.log_natCast]
    omega
  obtain ⟨steps, shape⟩ := @multiple_of_power number 0 _ exponent
  rw [zpow_zero, mul_one] at shape
  have spaced : spacing number ≠ 0 := (spacing_pos _).ne'
  have scaled : (number : ℚ) / spacing number = steps := by
    rw [div_eq_iff spaced]
    exact shape
  unfold nearest
  rw [scaled, roundHalfEven_int]
  exact shape.symm

theorem mathRound_nonneg {value : ℚ} (nonneg : 0 ≤ value) : 0 ≤ mathRound value := by
  refine Int.floor_nonneg.mpr ?_
  linarith

theorem mathRound_le {value : ℚ} {bound : ℤ} (below : value ≤ bound) :
    mathRound value ≤ bound := by
  unfold mathRound
  rw [← Int.lt_add_one_iff, Int.floor_lt]
  push_cast
  linarith

end Double

end UnifiedService.Library
