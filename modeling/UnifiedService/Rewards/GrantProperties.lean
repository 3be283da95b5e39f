import UnifiedService.Rewards.Factor
import UnifiedService.Rewards.RefusalProperties

/-! A grant pays all of a rule's benefits or none, each within its ceiling. -/

set_option autoImplicit false

namespace UnifiedService.Rewards

open UnifiedService.Library

/-! ### Amounts -/

def amountOf (stored : RewardBenefitInput) (basisPoints : Nat) (stated : Int) : Int :=
  match stored.awardMode, stored.awardCap with
  | .upTo, some cap => scaleByFactor cap basisPoints
  | _, _ => stated

def Compensation.Pays (stored : RewardBenefitInput) (basisPoints : Nat) : Compensation → Prop
  | .points _ _ amount => ∃ stated, stored.config = .grantPoints stated ∧
      amount = amountOf stored basisPoints stated
  | .minorUnits _ _ amount => ∃ stated currencyCode,
      stored.config = .grantCurrency stated currencyCode ∧
      amount = amountOf stored basisPoints stated
  | .entitlement _ => stored.benefitKind = .issueEntitlement
  | .conversion _ _ burned granted _ _ => ∃ burnPoints grantMinor currencyCode times,
      stored.config = .convertValue burnPoints grantMinor currencyCode ∧ 1 ≤ times ∧
      burned = times * burnPoints ∧ granted = times * grantMinor

/-- The factor a grant's benefits are scaled by; without one, nothing is scaled. -/
def GrantInput.basisPoints (input : GrantInput) (factor : FactorResult) : Option Nat :=
  if input.needsFactor then some factor.basisPoints else none

def WithinCap (stored : RewardBenefitInput) (factor : FactorResult) : Prop :=
  ∀ cap stated, stored.awardMode = .upTo → stored.awardCap = some cap →
    1 ≤ amountOf stored factor.basisPoints stated ∧
      amountOf stored factor.basisPoints stated ≤ cap ∧
      (factor.basisPoints = factorBasisPointsMax →
        amountOf stored factor.basisPoints stated = cap)

end UnifiedService.Rewards
