import UnifiedService.Rewards.Database

/-! The benefit handlers and the dispatcher that applies benefits, records what
each one did, and undoes what an award did. -/

set_option autoImplicit false

namespace UnifiedService.Rewards

open UnifiedService.Library

structure BenefitContext where
  enterpriseId : Nat
  customerId : Nat
  awardId : Nat
  ruleId : Nat
  ruleVersion : Nat
  occurredAtUtc : Int
  idempotencyKey : String
  deriving DecidableEq, Repr

def benefitKey (awardId benefitIndex : Nat) : String :=
  s!"award:{awardId}:benefit:{benefitIndex}"

def BenefitContext.entryInput (context : BenefitContext) (walletId : Nat)
    (entryKind : RewardEntryKind) (amount : Int) (suffix : String) : PostEntryInput where
  enterpriseId := context.enterpriseId
  walletId := walletId
  entryKind := entryKind
  amount := amount
  idempotencyKey := context.idempotencyKey ++ suffix
  occurredAtUtc := context.occurredAtUtc
  awardId := some context.awardId
  ruleId := some context.ruleId
  ruleVersion := some context.ruleVersion

/-- A reversing entry: it names the entry it reverses and says why. -/
def BenefitContext.reversalInput (context : BenefitContext) (walletId : Nat) (amount : Int)
    (suffix : String) (ruleId : Option Nat) (reversesEntryId : Nat) (reasonCode : String) :
    PostEntryInput where
  enterpriseId := context.enterpriseId
  walletId := walletId
  entryKind := .reversal
  amount := amount
  idempotencyKey := context.idempotencyKey ++ suffix
  occurredAtUtc := context.occurredAtUtc
  awardId := some context.awardId
  ruleId := ruleId
  reversesEntryId := some reversesEntryId
  reasonCode := some reasonCode

def BenefitContext.walletInput (context : BenefitContext) (walletKind : RewardWalletKind)
    (currencyCode : Option String) : CustomerWalletInput where
  enterpriseId := context.enterpriseId
  customerId := context.customerId
  walletKind := walletKind
  currencyCode := currencyCode

def ensureWallet (context : BenefitContext) (walletKind : RewardWalletKind)
    (currencyCode : Option String) : Statement RewardDb RewardError (Stored RewardWalletRow) :=
  RewardDb.onStore (WalletStore.ensureCustomerWallet (context.walletInput walletKind currencyCode))

def applyGrantPoints (points : Int) (context : BenefitContext) :
    Statement RewardDb RewardError Compensation := fun db => do
  let (wallet, db) ← ensureWallet context .points none db
  let (entry, db) ← RewardDb.onStore
    (WalletStore.credit (context.entryInput wallet.id .earn points "")) db
  pure (.points entry.id wallet.id points, db)

def applyGrantCurrency (minorUnits : Int) (currencyCode : Option String)
    (context : BenefitContext) : Statement RewardDb RewardError Compensation := fun db =>
  match currencyCode with
  | none => .error (.app .enterpriseCurrencyNotSet [])
  | some currencyCode => do
      let (wallet, db) ← ensureWallet context .currency (some currencyCode) db
      let (entry, db) ← RewardDb.onStore
        (WalletStore.credit (context.entryInput wallet.id .earn minorUnits "")) db
      pure (.minorUnits entry.id wallet.id minorUnits, db)

def millisecondsPerDay : Int := 24 * 60 * 60 * 1000

def applyIssueEntitlement (itemRef : String) (validForDays : Option Nat)
    (context : BenefitContext) : Statement RewardDb RewardError Compensation := fun db =>
  let (entitlementId, db) := db.issueEntitlement
    { enterpriseId := context.enterpriseId
      customerId := context.customerId
      awardId := context.awardId
      itemRef
      status := .issued
      expiresAt := validForDays.map fun days => context.occurredAtUtc + days * millisecondsPerDay }
  .ok (.entitlement entitlementId, db)

def maxConversionsPerApply : Int := 100

def applyConvertValue (burnPoints grantMinor : Int) (currencyCode : Option String)
    (context : BenefitContext) : Statement RewardDb RewardError Compensation := fun db =>
  match currencyCode with
  | none => .error (.app .enterpriseCurrencyNotSet [])
  | some currencyCode => do
      let (pointsWallet, db) ← ensureWallet context .points none db
      let affordable := pointsWallet.row.balance / burnPoints
      let times := min affordable maxConversionsPerApply
      if times < 1 then
        .error (.insufficientPoints burnPoints pointsWallet.row.balance)
      else
        let totalBurn := times * burnPoints
        let totalGrant := times * grantMinor
        let (burned, db) ← RewardDb.onStore (WalletStore.debitIfSufficient
          (context.entryInput pointsWallet.id .convertOut (-totalBurn) ":out")) db
        match burned with
        | none => .error (.insufficientPoints totalBurn pointsWallet.row.balance)
        | some burned =>
            let (currencyWallet, db) ← ensureWallet context .currency (some currencyCode) db
            let (granted, db) ← RewardDb.onStore (WalletStore.credit
              (context.entryInput currencyWallet.id .convertIn totalGrant ":in")) db
            pure (.conversion pointsWallet.id currencyWallet.id totalBurn totalGrant
              burned.id granted.id, db)

def applyBenefit (benefit : RewardBenefitConfig) (context : BenefitContext) :
    Statement RewardDb RewardError Compensation :=
  match benefit with
  | .grantPoints points => applyGrantPoints points context
  | .grantCurrency minorUnits currencyCode => applyGrantCurrency minorUnits currencyCode context
  | .issueEntitlement itemRef validForDays => applyIssueEntitlement itemRef validForDays context
  | .convertValue burnPoints grantMinor currencyCode =>
      applyConvertValue burnPoints grantMinor currencyCode context

def compensateBenefit (compensation : Compensation) (context : BenefitContext) :
    Statement RewardDb RewardError Unit := fun db =>
  match compensation with
  | .points entryId walletId points => do
      let (_, db) ← RewardDb.onStore (WalletStore.postUnchecked (context.reversalInput walletId
        (-points) ":reversal" (some context.ruleId) entryId "benefit_compensated")) db
      pure ((), db)
  | .minorUnits entryId walletId minorUnits => do
      let (_, db) ← RewardDb.onStore (WalletStore.postUnchecked (context.reversalInput walletId
        (-minorUnits) ":reversal" (some context.ruleId) entryId "benefit_compensated")) db
      pure ((), db)
  | .entitlement entitlementId =>
      .ok ((), db.revokeIfUnredeemed context.enterpriseId entitlementId)
  | .conversion pointsWalletId currencyWalletId burnedPoints grantedMinor outEntryId inEntryId => do
      -- What was given is taken back before what was taken returns.
      let (_, db) ← RewardDb.onStore (WalletStore.postUnchecked
        (context.reversalInput currencyWalletId (-grantedMinor) ":in:reversal" none inEntryId
          "conversion_reversed")) db
      let (_, db) ← RewardDb.onStore (WalletStore.postUnchecked
        (context.reversalInput pointsWalletId burnedPoints ":out:reversal" none outEntryId
          "conversion_reversed")) db
      pure ((), db)

structure DispatchContext where
  enterpriseId : Nat
  customerId : Nat
  awardId : Nat
  ruleId : Nat
  ruleVersion : Nat
  occurredAtUtc : Int
  deriving DecidableEq, Repr

def DispatchContext.benefit (context : DispatchContext) (benefitIndex : Nat) : BenefitContext where
  enterpriseId := context.enterpriseId
  customerId := context.customerId
  awardId := context.awardId
  ruleId := context.ruleId
  ruleVersion := context.ruleVersion
  occurredAtUtc := context.occurredAtUtc
  idempotencyKey := benefitKey context.awardId benefitIndex

namespace BenefitDispatcher

def apply (benefit : RewardBenefitConfig) (context : DispatchContext) (benefitIndex : Nat) :
    Statement RewardDb RewardError Unit := fun db => do
  let (compensation, db) ← applyBenefit benefit (context.benefit benefitIndex) db
  RewardDb.recordBenefit
    { enterpriseId := context.enterpriseId
      awardId := context.awardId
      benefitIndex
      status := .applied
      compensation
      idempotencyKey := benefitKey context.awardId benefitIndex } db

def compensateRows (context : DispatchContext) :
    List (Stored AwardBenefitRow) → Statement RewardDb RewardError Unit
  | [], db => .ok ((), db)
  | benefit :: rest, db => do
      let (_, db) ← compensateBenefit benefit.row.compensation
        (context.benefit benefit.row.benefitIndex) db
      compensateRows context rest (db.markBenefitCompensated context.enterpriseId benefit.id)

/-- Undoes everything an award did, newest benefit first. -/
def compensateAward (context : DispatchContext) : Statement RewardDb RewardError Unit :=
  fun db =>
    compensateRows context
      (db.listAppliedBenefits context.enterpriseId context.awardId).reverse db

end BenefitDispatcher

end UnifiedService.Rewards
