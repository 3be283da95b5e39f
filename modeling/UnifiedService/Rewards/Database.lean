import Mathlib.Data.List.Sort
import UnifiedService.Rewards.Contract
import UnifiedService.Rewards.Wallet

/-! The reward tables as one database state, and the statements of the award
repository over it. -/

set_option autoImplicit false

namespace UnifiedService.Rewards

open UnifiedService.Library

structure Business where
  timezone : Option String
  currencyCode : Option String
  deriving DecidableEq, Repr

structure RewardProgramRow where
  enterpriseId : Nat
  name : String
  displayName : Option String
  status : RewardProgramStatus
  startsAt : Option Int
  endsAt : Option Int
  forwardProviderCode : Option String
  deriving DecidableEq, Repr

/-- A rule and the two child sets it owns. The index of a benefit or condition
is its position. -/
structure RewardRuleRow where
  enterpriseId : Nat
  programId : Nat
  version : Nat
  supersedesRuleId : Option Nat
  triggerKind : RewardTriggerKind
  triggerConfig : RewardTriggerConfig
  factorProviderCode : String
  capScope : RewardCapScope
  capCount : Nat
  holdHours : Nat
  reversalPolicy : RewardReversalPolicy
  priority : Nat
  isActive : Bool
  benefits : List RewardBenefitInput
  conditions : List RewardConditionConfig
  deriving DecidableEq, Repr

structure RewardAwardRow where
  enterpriseId : Nat
  programId : Nat
  ruleId : Nat
  ruleVersion : Nat
  customerId : Nat
  channelId : Option Nat
  sourceRefKind : String
  sourceRefId : Nat
  status : RewardAwardStatus
  heldUntil : Option Int
  occurredAtUtc : Int
  periodKey : Option String
  reasonCode : Option String
  factorBasisPoints : Option Nat
  deriving DecidableEq, Repr

structure CapKey where
  enterpriseId : Nat
  ruleId : Nat
  customerId : Nat
  periodKey : String
  deriving DecidableEq, Repr

structure CapCounter where
  used : Nat
  cap : Nat
  deriving DecidableEq, Repr

inductive Compensation where
  | points (entryId walletId : Nat) (points : Int)
  | minorUnits (entryId walletId : Nat) (minorUnits : Int)
  | entitlement (entitlementId : Nat)
  | conversion (pointsWalletId currencyWalletId : Nat) (burnedPoints grantedMinor : Int)
      (outEntryId inEntryId : Nat)
  deriving DecidableEq, Repr

def Compensation.benefitKind : Compensation → RewardBenefitKind
  | .points _ _ _ => .grantPoints
  | .minorUnits _ _ _ => .grantCurrency
  | .entitlement _ => .issueEntitlement
  | .conversion _ _ _ _ _ _ => .convertValue

/-- An applied benefit. Its kind is that of the handler that wrote the compensation. -/
structure AwardBenefitRow where
  enterpriseId : Nat
  awardId : Nat
  benefitIndex : Nat
  status : RewardBenefitStatus
  compensation : Compensation
  idempotencyKey : String
  deriving DecidableEq, Repr

structure EntitlementRow where
  enterpriseId : Nat
  customerId : Nat
  awardId : Nat
  itemRef : String
  status : RewardEntitlementStatus
  expiresAt : Option Int
  deriving DecidableEq, Repr

inductive SlotMove where
  | claimed (awardId : Nat)
  | released (awardId : Nat)
  deriving DecidableEq, Repr

/-- The reward tables. `slotMoves` is history the code does not keep: every slot
claimed and every slot released, in order, with the award it was for. -/
structure RewardDb where
  businesses : Nat → Business
  firstSeenAt : Nat → Nat → Option Int
  programs : Table RewardProgramRow
  rules : Table RewardRuleRow
  awards : Table RewardAwardRow
  awardBenefits : Table AwardBenefitRow
  entitlements : Table EntitlementRow
  counters : CapKey → Option CapCounter
  store : WalletStore
  slotMoves : List SlotMove

namespace RewardDb

def launch (businesses : Nat → Business) (firstSeenAt : Nat → Nat → Option Int)
    (programs : Table RewardProgramRow) (rules : Table RewardRuleRow) : RewardDb where
  businesses := businesses
  firstSeenAt := firstSeenAt
  programs := programs
  rules := rules
  awards := .empty
  awardBenefits := .empty
  entitlements := .empty
  counters := fun _ => none
  store := { wallets := .empty, entries := .empty }
  slotMoves := []

def onStore {Value : Type} (statement : Statement WalletStore RewardError Value) :
    Statement RewardDb RewardError Value := fun db => do
  let (value, store) ← statement db.store
  pure (value, { db with store })

def findRuleById (db : RewardDb) (enterpriseId id : Nat) : Option (Stored RewardRuleRow) :=
  ((db.rules.get? id).filter fun rule => rule.enterpriseId == enterpriseId).map (⟨id, ·⟩)

def findProgramById (db : RewardDb) (enterpriseId id : Nat) :
    Option (Stored RewardProgramRow) :=
  ((db.programs.get? id).filter fun program => program.enterpriseId == enterpriseId).map (⟨id, ·⟩)

def loadBenefits (db : RewardDb) (enterpriseId ruleId ruleVersion : Nat) :
    List RewardBenefitInput :=
  match db.rules.get? ruleId with
  | some rule =>
      if rule.enterpriseId = enterpriseId ∧ rule.version = ruleVersion then rule.benefits else []
  | none => []

def loadConditions (db : RewardDb) (enterpriseId ruleId ruleVersion : Nat) :
    List RewardConditionConfig :=
  match db.rules.get? ruleId with
  | some rule =>
      if rule.enterpriseId = enterpriseId ∧ rule.version = ruleVersion then rule.conditions else []
  | none => []

/-! ### Awards -/

structure CreateAwardInput where
  enterpriseId : Nat
  programId : Nat
  ruleId : Nat
  ruleVersion : Nat
  customerId : Nat
  channelId : Option Nat
  sourceRefKind : String
  sourceRefId : Nat
  status : RewardAwardStatus
  heldUntil : Option Int
  occurredAtUtc : Int
  deriving DecidableEq, Repr

def CreateAwardInput.row (input : CreateAwardInput) : RewardAwardRow where
  enterpriseId := input.enterpriseId
  programId := input.programId
  ruleId := input.ruleId
  ruleVersion := input.ruleVersion
  customerId := input.customerId
  channelId := input.channelId
  sourceRefKind := input.sourceRefKind
  sourceRefId := input.sourceRefId
  status := input.status
  heldUntil := input.heldUntil
  occurredAtUtc := input.occurredAtUtc
  periodKey := none
  reasonCode := none
  factorBasisPoints := none

/-- The columns of `reward_awards_source_uniq`. -/
def CreateAwardInput.sameSource (input : CreateAwardInput) (award : RewardAwardRow) : Bool :=
  award.enterpriseId == input.enterpriseId && award.ruleId == input.ruleId &&
    award.customerId == input.customerId && award.sourceRefKind == input.sourceRefKind &&
    award.sourceRefId == input.sourceRefId

/-- Creates the award, or returns nothing because it already exists. -/
def createIfAbsent (db : RewardDb) (input : CreateAwardInput) : Option (Nat × RewardDb) :=
  match db.awards.find? input.sameSource with
  | some _ => none
  | none => some (db.awards.nextId, { db with awards := db.awards.insert input.row })

def takeSlot (db : RewardDb) (key : CapKey) (counter : CapCounter) (awardId : Nat) : RewardDb :=
  { db with
    counters := fun other => if other = key then some counter else db.counters other
    slotMoves := db.slotMoves ++ [.claimed awardId] }

/-- Claims one slot in a capped period. False means capped. -/
def claimCapSlot (key : CapKey) (cap awardId : Nat) :
    Statement RewardDb RewardError Bool := fun db =>
  match db.counters key with
  | none =>
      if 1 ≤ cap then .ok (true, db.takeSlot key { used := 1, cap } awardId)
      else .error (.checkViolation "reward_cap_counters_used_chk")
  | some counter =>
      if counter.used < counter.cap then
        .ok (true, db.takeSlot key { counter with used := counter.used + 1 } awardId)
      else .ok (false, db)

/-- Hands a claimed slot back. A double release does not go below zero. -/
def releaseCapSlot (db : RewardDb) (key : CapKey) (awardId : Nat) : RewardDb :=
  { db with
    counters := fun other =>
      if other = key then
        (db.counters key).map fun counter => { counter with used := counter.used - 1 }
      else db.counters other
    slotMoves := db.slotMoves ++ [.released awardId] }

def updateAward (db : RewardDb) (enterpriseId awardId : Nat)
    (change : RewardAwardRow → RewardAwardRow) : RewardDb :=
  { db with awards := db.awards.update awardId fun award =>
      if award.enterpriseId = enterpriseId then change award else award }

def markSkipped (db : RewardDb) (enterpriseId awardId : Nat) (status : RewardAwardStatus)
    (reasonCode : String) (periodKey : Option String) : RewardDb :=
  db.updateAward enterpriseId awardId fun award =>
    { award with
      status
      reasonCode := some reasonCode
      periodKey := periodKey.orElse fun _ => award.periodKey }

def markGranted (db : RewardDb) (enterpriseId awardId : Nat) (factorBasisPoints : Option Nat)
    (periodKey : Option String) : RewardDb :=
  db.updateAward enterpriseId awardId fun award =>
    { award with
      status := .granted
      factorBasisPoints
      periodKey := periodKey.orElse fun _ => award.periodKey }

def markReversed (db : RewardDb) (enterpriseId awardId : Nat) (reasonCode : String) : RewardDb :=
  db.updateAward enterpriseId awardId fun award =>
    { award with status := .reversed, reasonCode := some reasonCode }

def lockHeldAward (db : RewardDb) (enterpriseId awardId : Nat) : Bool :=
  (db.awards.get? awardId).any fun award =>
    award.enterpriseId == enterpriseId && award.status == .held

/-- Rows in ascending order of a key, rows with equal keys as they came. -/
def orderBy {Row : Type} (key : Row → Int) (rows : List Row) : List Row :=
  rows.insertionSort fun first second => key first ≤ key second

/-- The grant sweep: held awards whose hold has elapsed, the longest due first. -/
def claimDueHeldAwards (db : RewardDb) (now : Int) (limit : Nat) :
    List (Stored RewardAwardRow) :=
  let due := db.awards.select fun award =>
    award.status == .held && award.heldUntil.any fun heldUntil => decide (heldUntil ≤ now)
  (orderBy (fun award => award.row.heldUntil.getD 0) due).take limit

def findBySource (db : RewardDb) (enterpriseId : Nat) (sourceRefKind : String)
    (sourceRefId : Nat) : List (Stored RewardAwardRow) :=
  db.awards.select fun award =>
    award.enterpriseId == enterpriseId && award.sourceRefKind == sourceRefKind &&
      award.sourceRefId == sourceRefId

/-! ### Applied benefits -/

def recordBenefit (row : AwardBenefitRow) : Statement RewardDb RewardError Unit := fun db =>
  if (db.awardBenefits.find? fun other =>
      other.enterpriseId == row.enterpriseId &&
        other.idempotencyKey == row.idempotencyKey).isSome then
    .error (.uniqueViolation "reward_award_benefits_idem_uniq")
  else if (db.awardBenefits.find? fun other =>
      other.enterpriseId == row.enterpriseId && other.awardId == row.awardId &&
        other.benefitIndex == row.benefitIndex).isSome then
    .error (.uniqueViolation "reward_award_benefits_slot_uniq")
  else .ok ((), { db with awardBenefits := db.awardBenefits.insert row })

/-- What an award did, in benefit order. Compensated benefits are listed too. -/
def listAppliedBenefits (db : RewardDb) (enterpriseId awardId : Nat) :
    List (Stored AwardBenefitRow) :=
  orderBy (fun benefit => (benefit.row.benefitIndex : Int)) <|
    db.awardBenefits.select fun benefit =>
      benefit.enterpriseId == enterpriseId && benefit.awardId == awardId

def markBenefitCompensated (db : RewardDb) (enterpriseId benefitId : Nat) : RewardDb :=
  { db with awardBenefits := db.awardBenefits.update benefitId fun benefit =>
      if benefit.enterpriseId = enterpriseId then { benefit with status := .compensated }
      else benefit }

/-! ### Entitlements -/

/-- Issues a right. The redemption code is random and read by nothing modelled. -/
def issueEntitlement (db : RewardDb) (row : EntitlementRow) : Nat × RewardDb :=
  (db.entitlements.nextId, { db with entitlements := db.entitlements.insert row })

/-- Withdraws an issued right; one that was used stays used. -/
def revokeIfUnredeemed (db : RewardDb) (enterpriseId entitlementId : Nat) : RewardDb :=
  { db with entitlements := db.entitlements.update entitlementId fun entitlement =>
      if entitlement.enterpriseId = enterpriseId ∧ entitlement.status = .issued then
        { entitlement with status := .revoked }
      else entitlement }

end RewardDb

end UnifiedService.Rewards
