import UnifiedService.Rewards.CapProperties
import UnifiedService.Rewards.Compensation

/-! What a wallet's lifetime total adds up: the earned entries, and also what
conversions credited. -/

set_option autoImplicit false

namespace UnifiedService.Rewards

open UnifiedService.Library

/-! ### The lifetime total of one store -/

namespace WalletStore

def entered (store : WalletStore) (entryKind : RewardEntryKind) (walletId : Nat) : Int :=
  store.entries.total fun entry =>
    if entry.walletId = walletId ∧ entry.entryKind = entryKind then entry.amount else 0

def Converted (store : WalletStore) (walletId : Nat) : Prop :=
  ∃ entry ∈ store.entries.rows, entry.walletId = walletId ∧ entry.entryKind = .convertIn

structure LifetimeAccounted (conversions : Prop) (store : WalletStore) : Prop where
  lifetime : ∀ id wallet, store.wallets.get? id = some wallet →
    wallet.lifetimeEarned = store.entered .earn id + store.entered .convertIn id
  addressed : ∀ entry ∈ store.entries.rows, entry.walletId < store.wallets.nextId
  converted : ∀ entry ∈ store.entries.rows, entry.entryKind = .convertIn →
    conversions ∧ 0 < entry.amount

theorem entered_record (store : WalletStore) (input : PostEntryInput) (wallet : RewardWalletRow)
    (lifetimeDelta : Int) (entryKind : RewardEntryKind) (walletId : Nat) :
    (store.record input wallet lifetimeDelta).entered entryKind walletId =
      store.entered entryKind walletId +
        if input.walletId = walletId ∧ input.entryKind = entryKind then input.amount else 0 := by
  rw [entered, record, Table.total_insert]
  rfl

theorem entered_eq_zero {store : WalletStore} {entryKind : RewardEntryKind} {walletId : Nat}
    (none : ∀ entry ∈ store.entries.rows,
      ¬ (entry.walletId = walletId ∧ entry.entryKind = entryKind)) :
    store.entered entryKind walletId = 0 := by
  refine List.sum_eq_zero fun amount member => ?_
  obtain ⟨entry, isEntry, rfl⟩ := List.mem_map.mp member
  exact if_neg (none entry isEntry)

namespace LifetimeAccounted

variable {conversions : Prop} {store next : WalletStore}

theorem launch : LifetimeAccounted conversions { wallets := .empty, entries := .empty } where
  lifetime := by simp
  addressed := by simp [Table.empty]
  converted := by simp [Table.empty]

theorem record {input : PostEntryInput} {lifetimeDelta : Int} {entry : Stored LedgerEntryRow}
    (accounted : LifetimeAccounted conversions store) (records : store.Records input lifetimeDelta entry next)
    (delta : lifetimeDelta =
      if input.entryKind = .earn ∨ input.entryKind = .convertIn then input.amount else 0)
    (converted : input.entryKind = .convertIn → conversions ∧ 0 < input.amount) :
    LifetimeAccounted conversions next := by
  obtain ⟨-, ⟨wallet, present, -, -, rfl, rfl⟩, -, -⟩ := records
  constructor
  · intro id row found
    rw [entered_record, entered_record]
    simp only [WalletStore.record, Table.get?_update] at found
    by_cases same : input.walletId = id
    · subst same
      rw [if_pos rfl, present] at found
      obtain rfl := Option.some.inj found
      have before := accounted.lifetime _ wallet present
      dsimp only
      rw [before, delta]
      cases input.entryKind <;> simp <;> ring
    · rw [if_neg same] at found
      rw [if_neg (fun both => same both.1), if_neg (fun both => same both.1), Int.add_zero,
        Int.add_zero]
      exact accounted.lifetime id row found
  · intro other member
    simp only [WalletStore.record, Table.nextId_update]
    rcases List.mem_append.mp member with old | new
    · exact accounted.addressed other old
    · rw [List.mem_singleton.mp new]
      exact Table.get?_lt present
  · intro other member kind
    rcases List.mem_append.mp member with old | new
    · exact accounted.converted other old kind
    · rw [List.mem_singleton.mp new] at kind ⊢
      exact converted kind

theorem ensure {input : CustomerWalletInput} {wallet : Stored RewardWalletRow}
    (accounted : LifetimeAccounted conversions store)
    (ensured : ensureCustomerWallet input store = .ok (wallet, next)) :
    LifetimeAccounted conversions next := by
  obtain ⟨-, ⟨-, rfl⟩ | ⟨-, -, noLifetime, -, rfl⟩⟩ := ensureCustomerWallet_cases ensured
  · exact accounted
  · refine ⟨fun id row found => ?_, fun entry member => ?_, accounted.converted⟩
    · simp only [Table.get?_insert] at found
      split at found
      · next last =>
          obtain rfl := Option.some.inj found
          have unused : ∀ entryKind, store.entered entryKind id = 0 := by
            intro entryKind
            refine entered_eq_zero fun entry member both => ?_
            have bound := accounted.addressed entry member
            omega
          show wallet.row.lifetimeEarned = store.entered .earn id + store.entered .convertIn id
          rw [noLifetime, unused, unused, Int.add_zero]
      · exact accounted.lifetime id row found
    · have bound := accounted.addressed entry member
      simp only [Table.nextId_insert]
      omega

theorem credit {input : PostEntryInput} {entry : Stored LedgerEntryRow}
    (accounted : LifetimeAccounted conversions store)
    (kind : input.entryKind = .earn ∨ input.entryKind = .convertIn)
    (permitted : input.entryKind = .convertIn → conversions) (positive : 0 < input.amount)
    (posted : WalletStore.credit input store = .ok (entry, next)) : LifetimeAccounted conversions next := by
  rcases post_cases posted with replay | records
  · rwa [replay.unchanged]
  · refine accounted.record records ?_ fun converted => ⟨permitted converted, positive⟩
    simp [kind, positive]

theorem postUnchecked {input : PostEntryInput} {entry : Stored LedgerEntryRow}
    (accounted : LifetimeAccounted conversions store)
    (other : input.entryKind ≠ .earn ∧ input.entryKind ≠ .convertIn)
    (posted : WalletStore.postUnchecked input store = .ok (entry, next)) :
    LifetimeAccounted conversions next := by
  rcases post_cases posted with replay | records
  · rwa [replay.unchanged]
  · refine accounted.record records ?_ fun converted => absurd converted other.2
    simp [other.1, other.2]

theorem debit {input : PostEntryInput} {entry : Option (Stored LedgerEntryRow)}
    (accounted : LifetimeAccounted conversions store)
    (other : input.entryKind ≠ .earn ∧ input.entryKind ≠ .convertIn)
    (debited : debitIfSufficient input store = .ok (entry, next)) : LifetimeAccounted conversions next := by
  rcases debitIfSufficient_cases debited with ⟨-, rfl, -⟩ | ⟨written, -, replay | ⟨records, -⟩⟩
  · exact accounted
  · rwa [replay.unchanged]
  · refine accounted.record records ?_ fun converted => absurd converted other.2
    simp [other.1, other.2]

/-- The lifetime total is what was earned exactly where no conversion credited the wallet. -/
theorem lifetime_eq_earned_iff {id : Nat} {wallet : RewardWalletRow}
    (accounted : LifetimeAccounted conversions store) (found : store.wallets.get? id = some wallet) :
    wallet.lifetimeEarned = store.entered .earn id ↔ ¬ store.Converted id := by
  rw [accounted.lifetime id wallet found]
  constructor
  · rintro same ⟨entry, member, onWallet, converted⟩
    have amounts : ∀ amount ∈ store.entries.rows.map (fun entry =>
        if entry.walletId = id ∧ entry.entryKind = .convertIn then entry.amount else 0),
        0 ≤ amount := by
      intro amount isAmount
      obtain ⟨other, isOther, rfl⟩ := List.mem_map.mp isAmount
      split
      · next both => exact Int.le_of_lt (accounted.converted other isOther both.2).2
      · exact le_refl 0
    have counted := List.single_le_sum amounts entry.amount
      (List.mem_map.mpr ⟨entry, member, if_pos ⟨onWallet, converted⟩⟩)
    have positive := (accounted.converted entry member converted).2
    have total : store.entered .convertIn id = (store.entries.rows.map (fun entry =>
      if entry.walletId = id ∧ entry.entryKind = .convertIn then entry.amount else 0)).sum := rfl
    omega
  · intro unconverted
    rw [entered_eq_zero fun entry member both =>
      unconverted ⟨entry, member, both.1, both.2⟩, Int.add_zero]

end LifetimeAccounted

end WalletStore

/-! ### What changes wallets -/

/-- One transaction that moves value: a benefit applied as the evaluator hands it to the
dispatcher, an award compensated, a balance adjusted by hand. -/
inductive WalletChange where
  | apply (benefit : RewardBenefitConfig) (context : DispatchContext) (benefitIndex : Nat)
  | compensate (context : DispatchContext)
  | adjust (enterpriseId : Nat) (input : AdjustRewardBalanceInput)

namespace WalletChange

def statement (intl : Intl) : WalletChange → Statement RewardDb RewardError Unit
  | .apply benefit context benefitIndex => fun db =>
      match benefit.parse intl with
      | none =>
          .error (.benefitDoesNotMatchSchema benefit.benefitKind context.ruleId
            context.ruleVersion)
      | some parsed => BenefitDispatcher.apply parsed context benefitIndex db
  | .compensate context => BenefitDispatcher.compensateAward context
  | .adjust enterpriseId input => adjustBalance enterpriseId input

def perform (intl : Intl) (db : RewardDb) (change : WalletChange) : RewardDb :=
  (transact (change.statement intl) db).2

def performAll (intl : Intl) (db : RewardDb) (changes : List WalletChange) : RewardDb :=
  changes.foldl (perform intl) db

def pointsOf (db : RewardDb) (context : DispatchContext) : Int :=
  ((db.store.wallets.find? (WalletStore.customerKey
    ((context.benefit 0).walletInput .points none))).map (·.row.balance)).getD 0

def converts (db : RewardDb) : WalletChange → Bool
  | .apply (.convertValue burnPoints _ _) context _ => decide (burnPoints ≤ pointsOf db context)
  | _ => false

end WalletChange

/-! ### What each change keeps -/

theorem ensureWallet_store {conversions : Prop} {context : BenefitContext} {walletKind : RewardWalletKind}
    {currencyCode : Option String} {db next : RewardDb} {wallet : Stored RewardWalletRow}
    (accounted : WalletStore.LifetimeAccounted conversions db.store)
    (ensured : ensureWallet context walletKind currencyCode db = .ok (wallet, next)) :
    WalletStore.LifetimeAccounted conversions next.store := by
  obtain ⟨store, ran, rfl⟩ := onStore_ok ensured
  exact accounted.ensure ran

theorem applyBenefit_accounted {conversions : Prop} {intl : Intl} {benefit parsed : RewardBenefitConfig}
    {context : BenefitContext} {db next : RewardDb} {compensation : Compensation}
    (accounted : WalletStore.LifetimeAccounted conversions db.store) (accepted : benefit.parse intl = some parsed)
    (permitted : parsed.benefitKind = .convertValue → conversions)
    (applied : applyBenefit parsed context db = .ok (compensation, next)) :
    WalletStore.LifetimeAccounted conversions next.store := by
  cases benefit with
  | grantPoints points =>
      simp only [RewardBenefitConfig.parse, Option.ite_none_right_eq_some, Option.some.injEq,
        isPositiveInt, Bool.and_eq_true, decide_eq_true_eq] at accepted
      obtain ⟨⟨positive, -⟩, rfl⟩ := accepted
      obtain ⟨wallet, entry, middle, ensured, credited, rfl⟩ := applyGrantPoints_ok applied
      obtain ⟨after, posted, rfl⟩ := onStore_ok credited
      exact (ensureWallet_store accounted ensured).credit (.inl rfl)
        (by simp [BenefitContext.entryInput]) positive posted
  | grantCurrency minorUnits currencyCode =>
      simp only [RewardBenefitConfig.parse, Option.ite_none_right_eq_some,
        Option.map_eq_some_iff, isPositiveInt, Bool.and_eq_true, decide_eq_true_eq] at accepted
      obtain ⟨⟨positive, -⟩, code, -, rfl⟩ := accepted
      obtain ⟨wallet, entry, middle, ensured, credited, rfl⟩ := applyGrantCurrency_ok applied
      obtain ⟨after, posted, rfl⟩ := onStore_ok credited
      exact (ensureWallet_store accounted ensured).credit (.inl rfl)
        (by simp [BenefitContext.entryInput]) positive posted
  | issueEntitlement itemRef validForDays =>
      simp only [RewardBenefitConfig.parse, Option.ite_none_right_eq_some,
        Option.some.injEq] at accepted
      obtain ⟨-, rfl⟩ := accepted
      obtain ⟨-, rfl⟩ := Prod.mk.inj (Except.ok.inj applied)
      exact accounted
  | convertValue burnPoints grantMinor currencyCode =>
      simp only [RewardBenefitConfig.parse, Option.ite_none_right_eq_some,
        Option.map_eq_some_iff, isPositiveInt, Bool.and_eq_true, decide_eq_true_eq] at accepted
      obtain ⟨⟨-, positive, -⟩, code, -, rfl⟩ := accepted
      obtain ⟨pointsWallet, burned, currencyWallet, granted, first, second, third, times, once, -, -,
        ensured, debited, opened, credited, rfl⟩ := applyConvertValue_times applied
      obtain ⟨burnt, burnPosted, rfl⟩ := onStore_ok debited
      obtain ⟨after, posted, rfl⟩ := onStore_ok credited
      have burns := (ensureWallet_store accounted ensured).debit ⟨by simp [BenefitContext.entryInput],
        by simp [BenefitContext.entryInput]⟩ burnPosted
      have amount : 0 < times * grantMinor := Int.mul_pos (by omega) positive
      exact (ensureWallet_store burns opened).credit (.inr rfl) (fun _ => permitted rfl)
        amount posted

theorem reverseLegs_accounted {conversions : Prop} {context : BenefitContext} {ruleId : Option Nat}
    {reasonCode : String} {legs : List Leg} {store next : WalletStore}
    (accounted : WalletStore.LifetimeAccounted conversions store)
    (ran : reverseLegs context ruleId reasonCode legs store = .ok ((), next)) :
    WalletStore.LifetimeAccounted conversions next := by
  induction legs generalizing store with
  | nil =>
      obtain ⟨-, rfl⟩ := Prod.mk.inj (Except.ok.inj ran)
      exact accounted
  | cons leg rest ih =>
      obtain ⟨⟨entry, middle⟩, posted, remaining⟩ := bind_eq_ok.mp ran
      refine ih (accounted.postUnchecked ⟨?_, ?_⟩ posted) remaining <;>
        simp [BenefitContext.legReversal, BenefitContext.reversalInput]

theorem compensateRows_accounted {conversions : Prop} {context : DispatchContext}
    {benefits : List (Stored AwardBenefitRow)} {db next : RewardDb}
    (accounted : WalletStore.LifetimeAccounted conversions db.store)
    (ran : BenefitDispatcher.compensateRows context benefits db = .ok ((), next)) :
    WalletStore.LifetimeAccounted conversions next.store := by
  induction benefits generalizing db with
  | nil =>
      obtain ⟨-, rfl⟩ := Prod.mk.inj (Except.ok.inj ran)
      exact accounted
  | cons benefit rest ih =>
      obtain ⟨⟨_, middle⟩, undone, remaining⟩ := bind_eq_ok.mp ran
      dsimp only at remaining
      have kept := reverseLegs_accounted accounted (compensateBenefit_ok undone).1
      exact @ih (middle.markBenefitCompensated context.enterpriseId benefit.id) kept remaining

theorem ensureCustomerWallet_balance {input : CustomerWalletInput} {store next : WalletStore}
    {wallet : Stored RewardWalletRow}
    (ensured : WalletStore.ensureCustomerWallet input store = .ok (wallet, next)) :
    ((store.wallets.find? (WalletStore.customerKey input)).map (·.row.balance)).getD 0 =
      wallet.row.balance := by
  unfold WalletStore.ensureCustomerWallet at ensured
  split at ensured
  · split at ensured
    · next existing found =>
        obtain ⟨read, same, done⟩ := bind_eq_ok.mp ensured
        obtain rfl := WalletStore.readWallet_ok same
        obtain ⟨rfl, -⟩ := Prod.mk.inj (Except.ok.inj done)
        rw [found]
        rfl
    · next absent =>
        obtain ⟨rfl, -⟩ := Prod.mk.inj (Except.ok.inj ensured)
        rw [absent]
        rfl
  · contradiction

namespace WalletChange

theorem applyConvertValue_paid {burnPoints grantMinor : Int} {currencyCode : Option String}
    {context : DispatchContext} {benefitIndex : Nat} {db next : RewardDb}
    {compensation : Compensation} (positive : 0 < burnPoints)
    (applied : applyConvertValue burnPoints grantMinor currencyCode (context.benefit benefitIndex)
      db = .ok (compensation, next)) : burnPoints ≤ pointsOf db context := by
  obtain ⟨pointsWallet, burned, currencyWallet, granted, first, second, third, times, once,
    affordable, -, ensured, -⟩ := applyConvertValue_times applied
  obtain ⟨store, ran, -⟩ := onStore_ok ensured
  have balance : pointsOf db context = pointsWallet.row.balance := ensureCustomerWallet_balance ran
  have covered := Int.mul_le_of_le_ediv positive (Int.le_trans once affordable)
  rw [balance]
  omega

theorem statement_accounted {conversions : Prop} {intl : Intl} {change : WalletChange}
    {db next : RewardDb} (accounted : WalletStore.LifetimeAccounted conversions db.store)
    (permitted : change.converts db = true → conversions)
    (success : change.statement intl db = .ok ((), next)) :
    WalletStore.LifetimeAccounted conversions next.store := by
  cases change with
  | apply benefit context benefitIndex =>
      rw [statement] at success
      split at success
      · contradiction
      · next parsed accepted =>
          obtain ⟨compensation, middle, handled, recorded⟩ := BenefitDispatcher.apply_ok success
          have kept : WalletStore.LifetimeAccounted conversions middle.store := by
            refine applyBenefit_accounted accounted accepted (fun kind => permitted ?_) handled
            cases benefit with
            | convertValue burnPoints grantMinor currencyCode =>
                simp only [RewardBenefitConfig.parse, Option.ite_none_right_eq_some,
                  Option.map_eq_some_iff, isPositiveInt, Bool.and_eq_true,
                  decide_eq_true_eq] at accepted
                obtain ⟨⟨⟨positive, -⟩, -⟩, code, -, rfl⟩ := accepted
                exact decide_eq_true (applyConvertValue_paid positive handled)
            | grantPoints points =>
                simp only [RewardBenefitConfig.parse, Option.ite_none_right_eq_some,
                  Option.some.injEq] at accepted
                obtain ⟨-, rfl⟩ := accepted
                contradiction
            | grantCurrency minorUnits currencyCode =>
                simp only [RewardBenefitConfig.parse, Option.ite_none_right_eq_some,
                  Option.map_eq_some_iff] at accepted
                obtain ⟨-, code, -, rfl⟩ := accepted
                contradiction
            | issueEntitlement itemRef validForDays =>
                simp only [RewardBenefitConfig.parse, Option.ite_none_right_eq_some,
                  Option.some.injEq] at accepted
                obtain ⟨-, rfl⟩ := accepted
                contradiction
          obtain ⟨rfl, -⟩ := recordBenefit_ok recorded
          exact kept
  | compensate context => exact compensateRows_accounted accounted success
  | adjust enterpriseId input =>
      obtain ⟨⟨wallet, middle⟩, ensured, rest⟩ := bind_eq_ok.mp success
      obtain ⟨⟨entry, after⟩, posted, done⟩ := bind_eq_ok.mp rest
      obtain ⟨-, rfl⟩ := Prod.mk.inj (Except.ok.inj done)
      obtain ⟨opened, ensuredStore, rfl⟩ := onStore_ok ensured
      obtain ⟨store, ran, rfl⟩ := onStore_ok posted
      exact (accounted.ensure ensuredStore).postUnchecked ⟨by simp, by simp⟩ ran

def NoneConverts (intl : Intl) : RewardDb → List WalletChange → Prop
  | _, [] => True
  | db, change :: rest => change.converts db = false ∧ NoneConverts intl (perform intl db change) rest

theorem perform_accounted {conversions : Prop} {intl : Intl} {db : RewardDb}
    {change : WalletChange} (accounted : WalletStore.LifetimeAccounted conversions db.store)
    (permitted : change.converts db = true → conversions) :
    WalletStore.LifetimeAccounted conversions (perform intl db change).store :=
  transact_keeps (fun next : RewardDb => WalletStore.LifetimeAccounted conversions next.store)
    accounted fun _ _ success => statement_accounted accounted permitted success

theorem performAll_accounted {intl : Intl} {db : RewardDb} (changes : List WalletChange)
    (accounted : WalletStore.LifetimeAccounted True db.store) :
    WalletStore.LifetimeAccounted True (performAll intl db changes).store := by
  induction changes generalizing db with
  | nil => exact accounted
  | cons change rest ih => exact ih (perform_accounted accounted fun _ => trivial)

theorem performAll_unconverted {intl : Intl} {db : RewardDb} {changes : List WalletChange}
    (accounted : WalletStore.LifetimeAccounted False db.store)
    (none : NoneConverts intl db changes) :
    WalletStore.LifetimeAccounted False (performAll intl db changes).store := by
  induction changes generalizing db with
  | nil => exact accounted
  | cons change rest ih =>
      obtain ⟨notHere, notLater⟩ := none
      refine ih (perform_accounted accounted fun converts => ?_) notLater
      rw [notHere] at converts
      contradiction

/-- After any changes a wallet's lifetime total is what it earned exactly where no
conversion ever credited it, and everywhere when no change converts. -/
theorem lifetime_is_what_was_earned (intl : Intl) (businesses : Nat → Business)
    (firstSeenAt : Nat → Nat → Option Int) (programs : Table RewardProgramRow)
    (rules : Table RewardRuleRow) (changes : List WalletChange) :
    let start := RewardDb.launch businesses firstSeenAt programs rules
    let store := (performAll intl start changes).store
    (∀ id wallet, store.wallets.get? id = some wallet →
      (wallet.lifetimeEarned = store.entered .earn id ↔ ¬ store.Converted id)) ∧
    (NoneConverts intl start changes → ∀ id wallet, store.wallets.get? id = some wallet →
      wallet.lifetimeEarned = store.entered .earn id) := by
  intro start store
  constructor
  · intro id wallet found
    have accounted : WalletStore.LifetimeAccounted True store := performAll_accounted changes .launch
    exact accounted.lifetime_eq_earned_iff found
  · intro none id wallet found
    have accounted : WalletStore.LifetimeAccounted False store :=
      performAll_unconverted .launch none
    refine (accounted.lifetime_eq_earned_iff found).mpr ?_
    rintro ⟨entry, member, -, converted⟩
    exact (accounted.converted entry member converted).1

def awardOfSeven (awardId : Nat) : DispatchContext where
  enterpriseId := 1
  customerId := 7
  awardId := awardId
  ruleId := 0
  ruleVersion := 1
  occurredAtUtc := 0

/-- Thirty points earned, two taken by hand, and ten euros earned and taken back. -/
def earnedOnly : List WalletChange :=
  [.apply (.grantPoints 30) (awardOfSeven 0) 0,
    .adjust 1
      { customerId := 7, walletKind := .points, currencyCode := none, amount := -2
        occurredAtUtc := 0, idempotencyKey := "goodwill" },
    .apply (.grantCurrency 10 (some "EUR")) (awardOfSeven 1) 0, .compensate (awardOfSeven 1)]

theorem lifetime_is_what_was_earned_thirty_points :
    NoneConverts fixedIntl (launchOnce 0) earnedOnly ∧
    ∃ wallet, (performAll fixedIntl (launchOnce 0) earnedOnly).store.wallets.get? 0 = some wallet ∧
      wallet.balance = 28 ∧
      wallet.lifetimeEarned =
        (performAll fixedIntl (launchOnce 0) earnedOnly).store.entered .earn 0 := by
  have unconverted : NoneConverts fixedIntl (launchOnce 0) earnedOnly := by
    refine ⟨?_, ?_, ?_, ?_, trivial⟩ <;> rfl
  have opened : ((performAll fixedIntl (launchOnce 0) earnedOnly).store.wallets.get? 0).any
      (fun wallet => wallet.balance == 28) = true := by
    decide +kernel
  obtain ⟨wallet, found, balance⟩ := (Option.any_eq_true _ _).mp opened
  refine ⟨unconverted, wallet, found, beq_iff_eq.mp balance, ?_⟩
  exact (lifetime_is_what_was_earned fixedIntl _ _ _ _ earnedOnly).2 unconverted 0 wallet found

/-- Thirty points, traded for five euros: the conversion counts as earned. -/
theorem conversion_raises_lifetime :
    ¬ ∀ (intl : Intl) (businesses : Nat → Business) (firstSeenAt : Nat → Nat → Option Int)
      (programs : Table RewardProgramRow) (rules : Table RewardRuleRow)
      (changes : List WalletChange) (id : Nat) (wallet : RewardWalletRow),
      (performAll intl (.launch businesses firstSeenAt programs rules) changes).store.wallets.get?
        id = some wallet →
      wallet.lifetimeEarned = (performAll intl (.launch businesses firstSeenAt programs rules)
        changes).store.entered .earn id := by
  intro claimed
  let changes : List WalletChange :=
    [.apply (.grantPoints 30) (awardOfSeven 0) 0,
      .apply (.convertValue 30 500 (some "EUR")) (awardOfSeven 1) 0]
  have converted : ((performAll fixedIntl (launchOnce 0) changes).store.wallets.get? 1).any
      (fun wallet => wallet.lifetimeEarned == 500 &&
        (performAll fixedIntl (launchOnce 0) changes).store.entered .earn 1 == 0) = true := by
    decide +kernel
  obtain ⟨wallet, found, both⟩ := (Option.any_eq_true _ _).mp converted
  simp only [Bool.and_eq_true, beq_iff_eq] at both
  have same := claimed fixedIntl _ _ _ _ changes 1 wallet found
  exact absurd (both.1.symm.trans (same.trans both.2)) (by decide)

end WalletChange

end UnifiedService.Rewards
