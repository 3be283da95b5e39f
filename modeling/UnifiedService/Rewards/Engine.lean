import Mathlib.Tactic.Simps.Basic
import UnifiedService.Library.Machine
import UnifiedService.Rewards.Evaluator
import UnifiedService.Rewards.Programs

/-! The reward engine as calls whose atomic steps may interleave: events, the
grant sweep, reversals of deleted content, and the management of programmes. -/

set_option autoImplicit false

namespace UnifiedService.Rewards

open UnifiedService.Library

def grantBatchSize : Nat := 100

inductive GrantOutcome where
  | notGranted
  | granted (creditedPoints : Bool) (triggerKind : RewardTriggerKind)
  deriving DecidableEq, Repr

@[simps] def heldGrantInput (db : RewardDb) (award : Stored RewardAwardRow) (rule : Stored RewardRuleRow) :
    GrantInput where
  enterpriseId := award.row.enterpriseId
  awardId := award.id
  customerId := award.row.customerId
  rule := rule
  defaultCurrencyCode := (db.businesses award.row.enterpriseId).currencyCode
  periodKey := award.row.periodKey
  occurredAtUtc := award.row.occurredAtUtc
  benefits := db.loadBenefits award.row.enterpriseId award.row.ruleId award.row.ruleVersion

def grantHeldAward (intl : Intl) (award : Stored RewardAwardRow) (factor : FactorResult) :
    Statement RewardDb RewardError GrantOutcome := fun db =>
  if !db.lockHeldAward award.row.enterpriseId award.id then .ok (.notGranted, db)
  else
    match db.findRuleById award.row.enterpriseId award.row.ruleId with
    | none => .ok (.notGranted, db)
    | some rule =>
        match db.findProgramById award.row.enterpriseId rule.row.programId with
        | none => .ok (.notGranted, db)
        | some _ => do
            let (creditedPoints, db) ← grant intl (heldGrantInput db award rule) factor db
            pure (.granted creditedPoints rule.row.triggerKind, db)

structure ReversalInput where
  enterpriseId : Nat
  sourceRefKind : String
  sourceRefId : Nat
  reasonCode : String
  deriving DecidableEq, Repr

/-- Only a granted or held award, under a rule that takes awards back, is reversed.
Both are read before the transaction opens. -/
def isReversible (db : RewardDb) (award : Stored RewardAwardRow) (input : ReversalInput) : Bool :=
  (award.row.status == .granted || award.row.status == .held) &&
    (db.findRuleById input.enterpriseId award.row.ruleId).any fun rule =>
      rule.row.reversalPolicy == .onContentDeleted

def reversalContext (award : Stored RewardAwardRow) (input : ReversalInput) : DispatchContext where
  enterpriseId := input.enterpriseId
  customerId := award.row.customerId
  awardId := award.id
  ruleId := award.row.ruleId
  ruleVersion := award.row.ruleVersion
  occurredAtUtc := award.row.occurredAtUtc

/-- Value is taken back only where the award was listed as granted. -/
def takeBackValue (award : Stored RewardAwardRow) (input : ReversalInput) :
    Statement RewardDb RewardError Unit := fun db =>
  if award.row.status = .granted then
    BenefitDispatcher.compensateAward (reversalContext award input) db
  else .ok ((), db)

/-- The slot handed back with a period key, as both release sites do it. -/
def releaseFor (db : RewardDb) (enterpriseId ruleId customerId awardId : Nat)
    (periodKey : Option String) : RewardDb :=
  match periodKey with
  | some periodKey => db.releaseCapSlot { enterpriseId, ruleId, customerId, periodKey } awardId
  | none => db

/-- The transaction that takes an award back. It trusts the status that was read. -/
def reverseAward (award : Stored RewardAwardRow) (input : ReversalInput) :
    Statement RewardDb RewardError Unit := fun db => do
  let (_, db) ← takeBackValue award input db
  let db := releaseFor db input.enterpriseId award.row.ruleId award.row.customerId award.id
    award.row.periodKey
  pure ((), db.markReversed input.enterpriseId award.id input.reasonCode)

structure ThresholdOffer where
  enterpriseId : Nat
  customerId : Nat
  occurredAtUtc : Int
  awardId : Nat
  grantingTriggerKind : RewardTriggerKind
  deriving DecidableEq, Repr

/-- The event a threshold offer raises, where there is a rule to offer it to and
a balance to offer. A threshold rule never fires another. -/
def thresholdEvent (db : RewardDb) (offer : ThresholdOffer) : Option RewardTriggerEvent :=
  if offer.grantingTriggerKind = .pointsBalanceReached then none
  else if (findMatchingRules db offer.enterpriseId .pointsBalanceReached
      offer.occurredAtUtc).isEmpty then none
  else
    match db.store.findCustomerWallet
        { enterpriseId := offer.enterpriseId, customerId := offer.customerId
          walletKind := .points, currencyCode := none } with
    | .ok (some wallet) =>
        if wallet.row.balance ≤ 0 then none
        else some
          { enterpriseId := offer.enterpriseId
            customerId := offer.customerId
            triggerKind := .pointsBalanceReached
            sourceRefKind := "award"
            sourceRefId := offer.awardId
            channelId := none
            occurredAtUtc := offer.occurredAtUtc
            content := none
            customerFirstSeenAt := none
            pointsBalance := some wallet.row.balance }
    | .ok none => none
    | .error _ => none

inductive ManagementCall where
  | createProgram (enterpriseId : Nat) (input : CreateRewardProgramInput)
  | updateProgram (enterpriseId programId : Nat) (input : CreateRewardProgramInput)
  | setProgramStatus (enterpriseId programId : Nat) (status : RewardProgramStatus)
  | setRuleActive (enterpriseId ruleId : Nat) (isActive : Bool)
  | adjustBalance (enterpriseId : Nat) (input : AdjustRewardBalanceInput)
  deriving DecidableEq, Repr

def ManagementCall.statement (intl : Intl) :
    ManagementCall → Statement RewardDb RewardError Unit
  | .createProgram enterpriseId input => fun db => do
      let (_, db) ← Rewards.createProgram intl enterpriseId input db
      pure ((), db)
  | .updateProgram enterpriseId programId input =>
      Rewards.updateProgram intl enterpriseId programId input
  | .setProgramStatus enterpriseId programId status =>
      Rewards.setProgramStatus enterpriseId programId status
  | .setRuleActive enterpriseId ruleId isActive =>
      Rewards.setRuleActive enterpriseId ruleId isActive
  | .adjustBalance enterpriseId input => Rewards.adjustBalance enterpriseId input

inductive EngineCall where
  | onTriggerEvent (event : RewardTriggerEvent)
  | grantDueAwards
  | reverseForDeletedContent (input : ReversalInput)
  | manage (call : ManagementCall)

/-- The steps of the calls. A listed award or rule travels as it was read. -/
inductive EngineTask where
  | findRules (event : RewardTriggerEvent)
  | evaluate (rule : Stored RewardRuleRow) (event : RewardTriggerEvent)
  | offerBalanceThresholds (offer : ThresholdOffer)
  | claimDueHeldAwards
  | grantHeld (award : Stored RewardAwardRow)
  | findBySource (input : ReversalInput)
  | reverse (award : Stored RewardAwardRow) (input : ReversalInput)
  | manage (call : ManagementCall)

structure EngineChoice where
  now : Int
  factor : FactorResult

/-- One step: a read that lists further steps, or one transaction. A throw is
contained: it is logged, and the loop goes on. -/
def engineStep (intl : Intl) (db : RewardDb) (task : EngineTask) (choice : EngineChoice) :
    RewardDb × List EngineTask :=
  match task with
  | .findRules event =>
      let candidates := findMatchingRules db event.enterpriseId event.triggerKind
        event.occurredAtUtc
      (db, (candidates.filter fun rule => ruleMatchesEvent rule event).map fun rule =>
        .evaluate rule event)
  | .evaluate rule event =>
      match transact (evaluateRule intl rule event choice.factor) db with
      | (.ok (some awardId), db) =>
          (db, [.offerBalanceThresholds
            { enterpriseId := event.enterpriseId
              customerId := event.customerId
              occurredAtUtc := event.occurredAtUtc
              awardId
              grantingTriggerKind := rule.row.triggerKind }])
      | (_, db) => (db, [])
  | .offerBalanceThresholds offer =>
      match thresholdEvent db offer with
      | some event => (db, [.findRules event])
      | none => (db, [])
  | .claimDueHeldAwards =>
      (db, (db.claimDueHeldAwards choice.now grantBatchSize).map .grantHeld)
  | .grantHeld award =>
      match transact (grantHeldAward intl award choice.factor) db with
      | (.ok (.granted true triggerKind), db) =>
          (db, [.offerBalanceThresholds
            { enterpriseId := award.row.enterpriseId
              customerId := award.row.customerId
              occurredAtUtc := award.row.occurredAtUtc
              awardId := award.id
              grantingTriggerKind := triggerKind }])
      | (_, db) => (db, [])
  | .findBySource input =>
      (db, (db.findBySource input.enterpriseId input.sourceRefKind input.sourceRefId).map
        fun award => .reverse award input)
  | .reverse award input =>
      if isReversible db award input then ((transact (reverseAward award input) db).2, [])
      else (db, [])
  | .manage call => ((transact (call.statement intl) db).2, [])

def engine (intl : Intl) : Machine RewardDb EngineTask EngineCall EngineChoice where
  opening
    | .onTriggerEvent event => [.findRules event]
    | .grantDueAwards => [.claimDueHeldAwards]
    | .reverseForDeletedContent input => [.findBySource input]
    | .manage call => [.manage call]
  run := engineStep intl

end UnifiedService.Rewards
