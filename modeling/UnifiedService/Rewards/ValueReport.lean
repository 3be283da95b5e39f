import UnifiedService.Rewards.Database

/-! The report of what every program put into customers' hands. -/

set_option autoImplicit false

namespace UnifiedService.Rewards

open UnifiedService.Library

def RewardWalletKind.text : RewardWalletKind → String
  | .points => "points"
  | .currency => "currency"

structure ProgramValueKey where
  programId : Nat
  walletKind : RewardWalletKind
  currencyCode : Option String
  deriving DecidableEq, Repr

/-- The order of the report: by program, wallet kind, then currency with none first. -/
def ProgramValueKey.precedes (first second : ProgramValueKey) : Bool :=
  if first.programId = second.programId then
    if first.walletKind = second.walletKind then
      match first.currencyCode, second.currencyCode with
      | none, _ => true
      | some _, none => false
      | some code, some other => decide (code ≤ other)
    else decide (first.walletKind.text ≤ second.walletKind.text)
  else decide (first.programId ≤ second.programId)

namespace RewardDb

/-- The group an entry falls in, once joined to its award and its wallet. -/
def valueKey (db : RewardDb) (enterpriseId : Nat) (entry : LedgerEntryRow) :
    Option ProgramValueKey := do
  let award ← (entry.awardId.bind db.awards.get?).filter fun award =>
    award.enterpriseId == entry.enterpriseId
  let wallet ← (db.store.wallets.get? entry.walletId).filter fun wallet =>
    wallet.enterpriseId == entry.enterpriseId
  if entry.enterpriseId = enterpriseId then
    some
      { programId := award.programId
        walletKind := wallet.walletKind
        currencyCode := wallet.currencyCode }
  else none

/-- Spending points and adjusting by hand are not a program's doing. -/
def isReported (entry : LedgerEntryRow) : Bool :=
  entry.entryKind != .convertOut && entry.entryKind != .adjust

def netOf (db : RewardDb) (enterpriseId : Nat) (key : ProgramValueKey) : Int :=
  db.store.entries.total fun entry =>
    if isReported entry = true ∧ db.valueKey enterpriseId entry = some key then entry.amount else 0

/-- Net value every program put into customers' hands, one row a group. -/
def valueByProgram (db : RewardDb) (enterpriseId : Nat) : List (ProgramValueKey × Int) :=
  let keys := (db.store.entries.rows.filter isReported).filterMap (db.valueKey enterpriseId)
  (keys.dedup.insertionSort fun first second => first.precedes second).map fun key =>
    (key, db.netOf enterpriseId key)

def reportedNet (db : RewardDb) (enterpriseId : Nat) (key : ProgramValueKey) : Int :=
  ((db.valueByProgram enterpriseId).lookup key).getD 0

end RewardDb

end UnifiedService.Rewards
