import UnifiedService.Rewards.Programs

/-! A rule added to a programme on its own: its form, the refinements the form must pass,
and the call that stores it. -/

set_option autoImplicit false

namespace UnifiedService.Rewards

open UnifiedService.Library

structure CreateRewardRuleInput where
  programId : Nat
  triggerKind : RewardTriggerKind
  triggerConfig : RewardTriggerConfig := {}
  capScope : RewardCapScope := .none
  capCount : Nat := 1
  holdHours : Nat := 0
  priority : Nat := 0
  conditions : List RewardConditionConfig := []
  benefits : List RewardBenefitInput
  deriving DecidableEq, Repr

def CreateRewardRuleInput.wellTyped (intl : Intl) (input : CreateRewardRuleInput) : Bool :=
  input.triggerConfig.accepted &&
    decide (0 < input.capCount ∧ input.capCount ≤ 1000) &&
    decide (input.holdHours ≤ 720) &&
    decide (input.priority ≤ 10000) &&
    decide (input.conditions.length ≤ 16) &&
    input.conditions.all (fun condition => condition.parse == some condition) &&
    decide (1 ≤ input.benefits.length ∧ input.benefits.length ≤ 16) &&
    input.benefits.all (fun benefit => benefit.parse intl == some benefit)

structure RuleRefinement where
  holds : CreateRewardRuleInput → Bool
  message : String
  path : List String

/-- The refinements of `CreateRewardRuleSchema`, in its order. -/
def ruleRefinements : List RuleRefinement :=
  [ { holds := fun form => form.triggerKind.isAvailable
      message :=
        "that trigger is modelled but has no producer yet, so this rule could never fire"
      path := ["triggerKind"] },
    { holds := fun form => form.capScope != .none || form.capCount == 1
      message := "capCount only means something with a capScope"
      path := ["capCount"] },
    { holds := fun form =>
        (form.triggerKind == .pointsBalanceReached) == form.triggerConfig.minPointsBalance.isSome
      message := "minPointsBalance is required for points_balance_reached and means nothing on " ++
        "any other trigger"
      path := ["triggerConfig", "minPointsBalance"] },
    { holds := fun form =>
        form.triggerKind != .pointsBalanceReached || form.triggerConfig.channelIds.isNone
      message :=
        "points_balance_reached is not a channel event and cannot be scoped to channels"
      path := ["triggerConfig", "channelIds"] },
    { holds := fun form => form.benefits.all fun benefit => benefit.benefitKind.isAvailable
      message := "that reward is modelled but has nothing behind it yet, so it could be " ++
        "promised and never honoured"
      path := ["benefits"] },
    { holds := fun form =>
        form.benefits.all fun benefit =>
          benefitSuitsTriggers benefit.benefitKind [form.triggerKind]
      message := "turning points into money only means something when the trigger is the " ++
        "balance itself"
      path := ["benefits"] },
    { holds := fun form =>
        form.benefits.all fun benefit =>
          benefit.awardMode != .upTo || benefit.benefitKind.isScalable
      message := "this reward cannot be \"up to\" — it is exact or it is nothing"
      path := ["benefits"] },
    { holds := fun form => benefitsAreDistinct form.benefits
      message := "two rewards here do the same thing — combine them into one, or make them " ++
        "different"
      path := ["benefits"] } ]

def CreateRewardRuleInput.accepted (intl : Intl) (input : CreateRewardRuleInput) : Bool :=
  input.wellTyped intl && ruleRefinements.all fun refinement => refinement.holds input

def assertBenefitsAreCoherent : List RewardBenefitInput → Except RewardError Unit
  | [] => .ok ()
  | benefit :: rest =>
      if benefit.awardMode ≠ .upTo then assertBenefitsAreCoherent rest
      else if !benefit.benefitKind.isScalable then
        .error (.app .rewardBenefitNotScalable
          [{ field := "benefits", issue := benefit.benefitKind.text ++ " cannot be \"up to\"" }])
      else if benefit.awardCap.isNone then
        .error (.app .validationFailed
          [{ field := "awardCap"
             issue := "an \"up to\" benefit needs a cap for the factor to scale" }])
      else assertBenefitsAreCoherent rest

def CreateRewardRuleInput.rule (input : CreateRewardRuleInput) : RuleInput where
  triggerKind := input.triggerKind
  triggerConfig := input.triggerConfig
  capScope := input.capScope
  capCount := input.capCount
  holdHours := input.holdHours
  reversalPolicy := .none
  priority := input.priority
  benefits := input.benefits
  conditions := input.conditions

def createRule (enterpriseId : Nat) (input : CreateRewardRuleInput) :
    Statement RewardDb RewardError Nat := fun db =>
  match db.findProgramById enterpriseId input.programId with
  | none => .error (.app .rewardProgramNotFound [])
  | some _ => do
      assertBenefitsAreCoherent input.benefits
      assertMoneyHasACurrency input.benefits (db.businesses enterpriseId).currencyCode
      assertCalendarRulesHaveATimezone input.capScope input.conditions
        (db.businesses enterpriseId).timezone
      createRuleWithin enterpriseId input.programId input.rule db

end UnifiedService.Rewards
