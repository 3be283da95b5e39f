import UnifiedService.Rewards.Benefits
import UnifiedService.Rewards.Conditions

/-! One rule against one event, and the grant that applies a rule's benefits. -/

set_option autoImplicit false

namespace UnifiedService.Rewards

open UnifiedService.Library

structure RewardTriggerEvent where
  enterpriseId : Nat
  customerId : Nat
  triggerKind : RewardTriggerKind
  sourceRefKind : String
  sourceRefId : Nat
  channelId : Option Nat
  occurredAtUtc : Int
  content : Option String
  customerFirstSeenAt : Option Int
  pointsBalance : Option Int
  deriving DecidableEq, Repr

def millisecondsPerHour : Int := 60 * 60 * 1000

def factorBasisPointsMax : Nat := 10000

/-- What a factor provider's answer is made into at the boundary: 0 to 10000. -/
structure FactorResult where
  basisPoints : Nat
  clamped : basisPoints ≤ factorBasisPointsMax
  deriving DecidableEq, Repr

def scaleByFactor (cap : Int) (basisPoints : Nat) : Int :=
  (cap * basisPoints + 5000) / 10000

def scalesToNothing (stored : RewardBenefitInput) (basisPoints : Nat) : Bool :=
  match stored.awardMode, stored.awardCap with
  | .upTo, some cap => decide (scaleByFactor cap basisPoints < 1)
  | _, _ => false

/-- The business's currency fills in only for the kinds that take one. -/
def withDefaultCurrency (config : RewardBenefitConfig) (defaultCurrencyCode : Option String) :
    RewardBenefitConfig :=
  match config with
  | .grantCurrency minorUnits none => .grantCurrency minorUnits defaultCurrencyCode
  | .convertValue burnPoints grantMinor none =>
      .convertValue burnPoints grantMinor defaultCurrencyCode
  | other => other

def withAmount (config : RewardBenefitConfig) (amount : Int) : RewardBenefitConfig :=
  match config with
  | .grantPoints _ => .grantPoints amount
  | .grantCurrency _ currencyCode => .grantCurrency amount currencyCode
  | other => other

def resolveConfig (stored : RewardBenefitInput) (basisPoints : Option Nat)
    (defaultCurrencyCode : Option String) : RewardBenefitConfig :=
  let config := withDefaultCurrency stored.config defaultCurrencyCode
  match stored.awardMode, basisPoints, stored.awardCap with
  | .upTo, some basisPoints, some cap => withAmount config (scaleByFactor cap basisPoints)
  | _, _, _ => config

structure GrantInput where
  enterpriseId : Nat
  awardId : Nat
  customerId : Nat
  rule : Stored RewardRuleRow
  defaultCurrencyCode : Option String
  periodKey : Option String
  occurredAtUtc : Int
  benefits : List RewardBenefitInput

def GrantInput.dispatch (input : GrantInput) : DispatchContext where
  enterpriseId := input.enterpriseId
  customerId := input.customerId
  awardId := input.awardId
  ruleId := input.rule.id
  ruleVersion := input.rule.row.version
  occurredAtUtc := input.occurredAtUtc

def GrantInput.capKey (input : GrantInput) (periodKey : String) : CapKey where
  enterpriseId := input.enterpriseId
  ruleId := input.rule.id
  customerId := input.customerId
  periodKey := periodKey

def GrantInput.needsFactor (input : GrantInput) : Bool :=
  input.benefits.any fun benefit => benefit.awardMode == .upTo

def GrantInput.worthless (input : GrantInput) (factor : FactorResult) : Bool :=
  input.needsFactor &&
    (factor.basisPoints == 0 ||
      input.benefits.any fun benefit => scalesToNothing benefit factor.basisPoints)

/-- `grant_points` is the only kind that raises a points balance. -/
def GrantInput.creditsPoints (input : GrantInput) : Bool :=
  input.benefits.any fun benefit => benefit.benefitKind == .grantPoints

def applyBenefits (intl : Intl) (input : GrantInput) (basisPoints : Option Nat) :
    Nat → List RewardBenefitInput → Statement RewardDb RewardError Unit
  | _, [], db => .ok ((), db)
  | index, stored :: rest, db => do
      match (resolveConfig stored basisPoints input.defaultCurrencyCode).parse intl with
      | none =>
          .error (.benefitDoesNotMatchSchema stored.benefitKind input.rule.id
            input.rule.row.version)
      | some benefit =>
          let (_, db) ← BenefitDispatcher.apply benefit input.dispatch index db
          applyBenefits intl input basisPoints (index + 1) rest db

/-- Runs the factor and applies the benefits: all of them, or none. Tells whether
a points balance went up. -/
def grant (intl : Intl) (input : GrantInput) (factor : FactorResult) :
    Statement RewardDb RewardError Bool := fun db =>
  let basisPoints := if input.needsFactor then some factor.basisPoints else none
  if input.worthless factor then
    -- A zero factor does not consume the cap slot.
    let db := match input.periodKey with
      | some periodKey => db.releaseCapSlot (input.capKey periodKey) input.awardId
      | none => db
    .ok (false, db.markSkipped input.enterpriseId input.awardId .skippedZeroFactor
      (if factor.basisPoints = 0 then "factor_zero" else "factor_scaled_to_zero")
      input.periodKey)
  else do
    let (_, db) ← applyBenefits intl input basisPoints 0 input.benefits db
    pure (input.creditsPoints,
      db.markGranted input.enterpriseId input.awardId basisPoints input.periodKey)

/-- The rules that could apply to an event: programme switch, campaign dates, the
rule's own flag; by priority, then id. -/
def findMatchingRules (db : RewardDb) (enterpriseId : Nat) (triggerKind : RewardTriggerKind)
    (occurredAt : Int) : List (Stored RewardRuleRow) :=
  let running (programId : Nat) : Bool :=
    (db.findProgramById enterpriseId programId).any fun program =>
      program.row.status == .active &&
        program.row.startsAt.all (fun startsAt => decide (startsAt ≤ occurredAt)) &&
        program.row.endsAt.all fun endsAt => decide (occurredAt < endsAt)
  RewardDb.orderBy (fun rule => (rule.row.priority : Int)) <|
    db.rules.select fun rule =>
      rule.enterpriseId == enterpriseId && rule.triggerKind == triggerKind && rule.isActive &&
        running rule.programId

def ruleMatchesEvent (rule : Stored RewardRuleRow) (event : RewardTriggerEvent) : Bool :=
  rule.row.triggerConfig.accepted &&
    matchesTriggerConfig rule.row.triggerConfig
      { channelId := event.channelId, pointsBalance := event.pointsBalance }

def holdUntil (rule : RewardRuleRow) (event : RewardTriggerEvent) : Option Int :=
  if 0 < rule.holdHours then
    some (event.occurredAtUtc + rule.holdHours * millisecondsPerHour)
  else none

def conditionOutcome (intl : Intl) (db : RewardDb) (rule : Stored RewardRuleRow)
    (event : RewardTriggerEvent) : ConditionOutcome :=
  let conditions := db.loadConditions event.enterpriseId rule.id rule.row.version
  let needsTenure := conditions.any fun condition => condition.conditionKind == .customerTenure
  evaluateConditions intl
    { occurredAtUtc := event.occurredAtUtc
      timezone := (db.businesses event.enterpriseId).timezone
      content := event.content
      customerFirstSeenAt := event.customerFirstSeenAt.orElse fun _ =>
        if needsTenure then db.firstSeenAt event.enterpriseId event.customerId else none }
    conditions

def awardInput (rule : Stored RewardRuleRow) (event : RewardTriggerEvent) (passed : Bool) :
    RewardDb.CreateAwardInput where
  enterpriseId := event.enterpriseId
  programId := rule.row.programId
  ruleId := rule.id
  ruleVersion := rule.row.version
  customerId := event.customerId
  channelId := event.channelId
  sourceRefKind := event.sourceRefKind
  sourceRefId := event.sourceRefId
  status := if passed then .held else .skippedCondition
  heldUntil := if passed then holdUntil rule.row event else none
  occurredAtUtc := event.occurredAtUtc

def eventPeriod (intl : Intl) (db : RewardDb) (rule : RewardRuleRow)
    (event : RewardTriggerEvent) : Option String :=
  (db.businesses event.enterpriseId).timezone.bind fun timezone =>
    derivePeriodKey intl event.occurredAtUtc timezone rule.capScope

def slotOf (rule : Stored RewardRuleRow) (event : RewardTriggerEvent) (periodKey : Option String) :
    Option CapKey :=
  if rule.row.capScope = .none then none
  else periodKey.map fun periodKey =>
    { enterpriseId := event.enterpriseId, ruleId := rule.id, customerId := event.customerId,
      periodKey }

/-- Takes the event's slot, if it needs one. False means capped. -/
def claimSlot (slot : Option CapKey) (cap awardId : Nat) :
    Statement RewardDb RewardError Bool := fun db =>
  match slot with
  | none => .ok (true, db)
  | some key => RewardDb.claimCapSlot key cap awardId db

def evaluateRule (intl : Intl) (rule : Stored RewardRuleRow) (event : RewardTriggerEvent)
    (factor : FactorResult) : Statement RewardDb RewardError (Option Nat) := fun db =>
  match db.findProgramById event.enterpriseId rule.row.programId with
  | none => .ok (none, db)
  | some _ =>
    let business := db.businesses event.enterpriseId
    let outcome := conditionOutcome intl db rule event
    match db.createIfAbsent (awardInput rule event outcome.hasPassed) with
    | none => .ok (none, db)
    | some (awardId, db) =>
      match outcome with
      | .failed failedKind =>
          .ok (none, db.markSkipped event.enterpriseId awardId .skippedCondition
            ("condition_failed:" ++ failedKind.text) none)
      | .passed =>
        if rule.row.capScope ≠ .none ∧ business.timezone = none then
          .ok (none, db.markSkipped event.enterpriseId awardId .skippedCondition
            "enterprise_timezone_not_set" none)
        else do
          let periodKey := eventPeriod intl db rule.row event
          let (claimed, db) ←
            claimSlot (slotOf rule event periodKey) rule.row.capCount awardId db
          if !claimed then
            .ok (none, db.markSkipped event.enterpriseId awardId .skippedCap "cap_consumed"
              periodKey)
          -- A held award stops here, its slot claimed and its period key not written.
          else if (holdUntil rule.row event).isSome then .ok (none, db)
          else do
            let (creditedPoints, db) ← grant intl
              { enterpriseId := event.enterpriseId
                awardId
                customerId := event.customerId
                rule
                defaultCurrencyCode := business.currencyCode
                periodKey
                occurredAtUtc := event.occurredAtUtc
                benefits := db.loadBenefits event.enterpriseId rule.id rule.row.version }
              factor db
            pure (if creditedPoints then some awardId else none, db)

end UnifiedService.Rewards
