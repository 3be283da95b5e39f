import UnifiedService.Library.Journal
import UnifiedService.Library.Table
import UnifiedService.Library.Transaction
import UnifiedService.Rewards.Vocabulary

/-! Reward wallets and the ledger behind them. The balance is a projection of
the ledger, written in the statement that writes the entry. -/

set_option autoImplicit false

namespace UnifiedService.Rewards

open UnifiedService.Library

structure RewardWalletRow where
  enterpriseId : Nat
  accountKind : RewardAccountKind
  customerId : Option Nat
  walletKind : RewardWalletKind
  currencyCode : Option String
  balance : Int
  lifetimeEarned : Int
  isDeleted : Bool
  deriving DecidableEq, Repr

structure LedgerEntryRow where
  enterpriseId : Nat
  walletId : Nat
  entryKind : RewardEntryKind
  amount : Int
  balanceAfter : Int
  awardId : Option Nat
  ruleId : Option Nat
  ruleVersion : Option Nat
  reversesEntryId : Option Nat
  idempotencyKey : String
  reasonCode : Option String
  occurredAtUtc : Int
  deriving DecidableEq, Repr

structure PostEntryInput where
  enterpriseId : Nat
  walletId : Nat
  entryKind : RewardEntryKind
  amount : Int
  idempotencyKey : String
  occurredAtUtc : Int
  awardId : Option Nat := none
  ruleId : Option Nat := none
  ruleVersion : Option Nat := none
  reversesEntryId : Option Nat := none
  reasonCode : Option String := none
  deriving DecidableEq, Repr

def PostEntryInput.entry (input : PostEntryInput) (balanceAfter : Int) : LedgerEntryRow where
  enterpriseId := input.enterpriseId
  walletId := input.walletId
  entryKind := input.entryKind
  amount := input.amount
  balanceAfter := balanceAfter
  awardId := input.awardId
  ruleId := input.ruleId
  ruleVersion := input.ruleVersion
  reversesEntryId := input.reversesEntryId
  idempotencyKey := input.idempotencyKey
  reasonCode := input.reasonCode
  occurredAtUtc := input.occurredAtUtc

structure CustomerWalletInput where
  enterpriseId : Nat
  customerId : Nat
  walletKind : RewardWalletKind
  currencyCode : Option String
  deriving DecidableEq, Repr

/-- The tables `reward_wallets` and `reward_ledger_entries`. -/
structure WalletStore where
  wallets : Table RewardWalletRow
  entries : Table LedgerEntryRow
  deriving DecidableEq, Repr

namespace WalletStore

/-- `reward_wallets_currency_chk`: points have no currency, currency has one. -/
def currencyCheck (walletKind : RewardWalletKind) (currencyCode : Option String) : Bool :=
  match walletKind with
  | .points => currencyCode.isNone
  | .currency => currencyCode.isSome

/-- The predicate and columns of `reward_wallets_customer_uniq`. -/
def customerKey (input : CustomerWalletInput) (wallet : RewardWalletRow) : Bool :=
  wallet.enterpriseId == input.enterpriseId && wallet.customerId == some input.customerId &&
    wallet.walletKind == input.walletKind &&
    wallet.currencyCode.getD "---" == input.currencyCode.getD "---" &&
    wallet.accountKind == .customer && !wallet.isDeleted

/-- The wallet as it is returned: every bigint column goes through the parser. -/
def readWallet (wallet : Stored RewardWalletRow) : Except RewardError (Stored RewardWalletRow) := do
  let _ ← readBigint wallet.row.balance
  let _ ← readBigint wallet.row.lifetimeEarned
  pure wallet

def ensureCustomerWallet (input : CustomerWalletInput) :
    Statement WalletStore RewardError (Stored RewardWalletRow) := fun store =>
  if currencyCheck input.walletKind input.currencyCode then
    match store.wallets.find? (customerKey input) with
    | some wallet => do
        let wallet ← readWallet wallet
        pure (wallet, store)
    | none =>
        let row : RewardWalletRow :=
          { enterpriseId := input.enterpriseId, accountKind := .customer,
            customerId := some input.customerId, walletKind := input.walletKind,
            currencyCode := input.currencyCode, balance := 0, lifetimeEarned := 0,
            isDeleted := false }
        .ok (⟨store.wallets.nextId, row⟩, { store with wallets := store.wallets.insert row })
  else .error (.checkViolation "reward_wallets_currency_chk")

def entryFor (store : WalletStore) (enterpriseId : Nat) (idempotencyKey : String) :
    Option (Stored LedgerEntryRow) :=
  store.entries.find? fun entry =>
    entry.enterpriseId == enterpriseId && entry.idempotencyKey == idempotencyKey

def ownedWallet (store : WalletStore) (enterpriseId walletId : Nat) : Option RewardWalletRow :=
  (store.wallets.get? walletId).filter fun wallet =>
    wallet.enterpriseId == enterpriseId && !wallet.isDeleted

/-- `reward_ledger_reversal_uniq`: an entry is reversed at most once. -/
def alreadyReversed (store : WalletStore) (enterpriseId : Nat) (reversesEntryId : Option Nat) :
    Bool :=
  reversesEntryId.isSome && (store.entries.find? fun entry =>
    entry.enterpriseId == enterpriseId && entry.reversesEntryId == reversesEntryId).isSome

/-- The entry as it is returned: every bigint column goes through the parser. -/
def readEntry (entry : Stored LedgerEntryRow) : Except RewardError (Stored LedgerEntryRow) := do
  let _ ← readBigint entry.row.amount
  let _ ← readBigint entry.row.balanceAfter
  pure entry

/-- The store after `moved` and `written`: the balance moves by the amount and
the entry carries the balance that leaves. -/
def record (store : WalletStore) (input : PostEntryInput) (wallet : RewardWalletRow)
    (lifetimeDelta : Int) : WalletStore where
  wallets := store.wallets.update input.walletId fun row =>
    { row with
      balance := row.balance + input.amount
      lifetimeEarned := row.lifetimeEarned + lifetimeDelta }
  entries := store.entries.insert (input.entry (wallet.balance + input.amount))

/-- The one statement behind every movement: update the wallet, insert the entry. -/
def move (input : PostEntryInput) (wallet : RewardWalletRow) (lifetimeDelta : Int) :
    Statement WalletStore RewardError (Stored LedgerEntryRow) := fun store => do
  let balance ← writeBigint (wallet.balance + input.amount)
  let _ ← writeBigint (wallet.lifetimeEarned + lifetimeDelta)
  if store.alreadyReversed input.enterpriseId input.reversesEntryId then
    .error (.uniqueViolation "reward_ledger_reversal_uniq")
  else
    let entry ← readEntry ⟨store.entries.nextId, input.entry balance⟩
    pure (entry, store.record input wallet lifetimeDelta)

/-- The balance and its ledger entry, moved together or not at all. -/
def post (input : PostEntryInput) (isEarn : Bool) :
    Statement WalletStore RewardError (Stored LedgerEntryRow) := fun store =>
  let lifetimeDelta := if isEarn && decide (0 < input.amount) then input.amount else 0
  match store.entryFor input.enterpriseId input.idempotencyKey with
  | some existing => do
      let existing ← readEntry existing
      pure (existing, store)
  | none =>
      match store.ownedWallet input.enterpriseId input.walletId with
      | none => .error (.walletNotFound input.walletId)
      | some wallet => move input wallet lifetimeDelta store

def credit (input : PostEntryInput) : Statement WalletStore RewardError (Stored LedgerEntryRow) :=
  post input true

/-- Moves the balance without a sufficiency check. -/
def postUnchecked (input : PostEntryInput) :
    Statement WalletStore RewardError (Stored LedgerEntryRow) :=
  post input false

/-- Removes value only if there is enough, and only once per idempotency key. -/
def debitIfSufficient (input : PostEntryInput) :
    Statement WalletStore RewardError (Option (Stored LedgerEntryRow)) := fun store =>
  if 0 ≤ input.amount then .error .debitNeedsNegativeAmount
  else
    let required := |input.amount|
    match store.entryFor input.enterpriseId input.idempotencyKey with
    | some existing => do
        let existing ← readEntry existing
        pure (some existing, store)
    | none =>
        match store.ownedWallet input.enterpriseId input.walletId with
        | none => .error (.walletNotFound input.walletId)
        | some wallet =>
            -- A refusal writes nothing, so it costs the key nothing.
            if required ≤ wallet.balance then do
              let (entry, next) ← move input wallet 0 store
              pure (some entry, next)
            else .ok (none, store)

def sumEntries (store : WalletStore) (enterpriseId walletId : Nat) : Int :=
  store.entries.total fun entry =>
    if entry.enterpriseId = enterpriseId ∧ entry.walletId = walletId then entry.amount else 0

def findCustomerWallet (store : WalletStore) (input : CustomerWalletInput) :
    Except RewardError (Option (Stored RewardWalletRow)) :=
  match store.wallets.find? fun wallet =>
      wallet.enterpriseId == input.enterpriseId && wallet.customerId == some input.customerId &&
        wallet.walletKind == input.walletKind && wallet.currencyCode == input.currencyCode &&
        wallet.accountKind == .customer && !wallet.isDeleted with
  | none => .ok none
  | some wallet => do
      let wallet ← readWallet wallet
      pure (some wallet)

end WalletStore

end UnifiedService.Rewards
