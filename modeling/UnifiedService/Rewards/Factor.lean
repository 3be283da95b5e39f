import UnifiedService.Library.Double
import UnifiedService.Rewards.Evaluator
import UnifiedService.Rewards.Programs

/-! The factor evaluator: runs a provider and makes its answer safe. -/

set_option autoImplicit false

namespace UnifiedService.Rewards

open UnifiedService.Library

inductive ProviderAnswer where
  | number (raw : ℚ)
  | notFinite
  | threw
  deriving DecidableEq, Repr

namespace FactorEvaluator

/-- Fails closed: an unknown provider scores zero rather than defaulting to full. -/
def resolve (code : String) : Option ProviderAnswer :=
  if code = constantOneFactorProvider then some (.number 1) else none

def basisPointsOf : Option ProviderAnswer → ℤ
  | some (.number raw) =>
      Double.mathRound (Double.nearest (min (max raw 0) 1 * factorBasisPointsMax))
  | some .notFinite => 0
  | some .threw => 0
  | none => 0

theorem log_scaled_le {value : ℚ} (positive : 0 < value) (bound : value ≤ 10000) :
    Int.log 2 value ≤ 13 := by
  have below : Int.log 2 value < 14 := by
    rw [← Int.lt_zpow_iff_log_lt (by norm_num) positive]
    norm_num
    linarith
  omega

theorem nearest_scaled_le {value : ℚ} (nonneg : 0 ≤ value) (bound : value ≤ 10000) :
    Double.nearest value ≤ 10000 := by
  have small : max (Int.log 2 |value| - 52) (-1074) ≤ 4 := by
    rcases nonneg.eq_or_lt with rfl | positive
    · simp
    · rw [abs_of_pos positive]
      have bounded := log_scaled_le positive bound
      omega
  obtain ⟨steps, multiple⟩ := @Double.multiple_of_power 625 4 _ small
  refine @Double.nearest_le value 10000 steps bound ?_
  rw [Double.spacing, ← multiple]
  norm_num

theorem basisPointsOf_bounds (answer : Option ProviderAnswer) :
    0 ≤ basisPointsOf answer ∧ basisPointsOf answer ≤ factorBasisPointsMax := by
  cases answer with
  | none => exact ⟨le_refl 0, by decide⟩
  | some answer =>
      cases answer with
      | notFinite => exact ⟨le_refl 0, by decide⟩
      | threw => exact ⟨le_refl 0, by decide⟩
      | number raw =>
          have low : 0 ≤ min (max raw 0) 1 := le_min (le_max_right raw 0) (by norm_num)
          have high : min (max raw 0) 1 ≤ 1 := min_le_right _ _
          have scaledLow : 0 ≤ min (max raw 0) 1 * (factorBasisPointsMax : ℚ) := by positivity
          have scaledHigh : min (max raw 0) 1 * (factorBasisPointsMax : ℚ) ≤ 10000 := by
            rw [factorBasisPointsMax]
            push_cast
            linarith
          refine ⟨Double.mathRound_nonneg (Double.nearest_nonneg scaledLow),
            Double.mathRound_le ?_⟩
          exact_mod_cast nearest_scaled_le scaledLow scaledHigh

def evaluate (answer : Option ProviderAnswer) : FactorResult where
  basisPoints := (basisPointsOf answer).toNat
  clamped := by
    have bounds := basisPointsOf_bounds answer
    omega

/-- Three of ten thousandths, six tenths and what lies out of range. -/
example : [some (.number (3 / 10000)), some (.number (3 / 5)), some (.number (-2)),
    some (.number (7 / 2)), some .notFinite, none].map (fun answer =>
      (evaluate answer).basisPoints) = [3, 6000, 0, 10000, 0, 0] := by
  decide +kernel

end FactorEvaluator

end UnifiedService.Rewards
