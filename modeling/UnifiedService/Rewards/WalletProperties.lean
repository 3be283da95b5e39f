import UnifiedService.Rewards.Wallet

/-! The wallet statements refine an idempotent journal of the ledger entries, and
every balance is the projection of that journal. -/

set_option autoImplicit false

namespace UnifiedService.Rewards

open UnifiedService.Library

namespace WalletStore

/-- The posting a ledger entry records: its wallet, its key within the enterprise
and its amount. -/
def posting (entry : LedgerEntryRow) : Posting (Nat × Nat) (Nat × String) where
  account := (entry.enterpriseId, entry.walletId)
  key := (entry.enterpriseId, entry.idempotencyKey)
  amount := entry.amount

def journal (store : WalletStore) : Journal (Nat × Nat) (Nat × String) :=
  store.entries.rows.map posting

@[simp] theorem posting_account (entry : LedgerEntryRow) :
    (posting entry).account = (entry.enterpriseId, entry.walletId) := rfl

@[simp] theorem posting_key (entry : LedgerEntryRow) :
    (posting entry).key = (entry.enterpriseId, entry.idempotencyKey) := rfl

@[simp] theorem posting_amount (entry : LedgerEntryRow) :
    (posting entry).amount = entry.amount := rfl

@[simp] theorem journal_record (store : WalletStore) (input : PostEntryInput)
    (wallet : RewardWalletRow) (lifetimeDelta : Int) :
    (store.record input wallet lifetimeDelta).journal =
      store.journal ++ [posting (input.entry (wallet.balance + input.amount))] := by
  simp [journal, record, Table.insert]

theorem sumEntries_eq_balance (store : WalletStore) (enterpriseId walletId : Nat) :
    store.sumEntries enterpriseId walletId = store.journal.balance (enterpriseId, walletId) := by
  simp [sumEntries, Table.total, Journal.balance, journal, posting, Function.comp_def]

theorem entryFor_some {store : WalletStore} {enterpriseId : Nat} {key : String}
    {entry : Stored LedgerEntryRow} (found : store.entryFor enterpriseId key = some entry) :
    store.entries.get? entry.id = some entry.row ∧ entry.row.enterpriseId = enterpriseId ∧
      entry.row.idempotencyKey = key := by
  obtain ⟨present, named⟩ := Table.find?_some found
  simp only [Bool.and_eq_true, beq_iff_eq] at named
  exact ⟨present, named.1, named.2⟩

theorem entryFor_eq_none {store : WalletStore} {enterpriseId : Nat} {key : String} :
    store.entryFor enterpriseId key = none ↔ (enterpriseId, key) ∉ store.journal.keys := by
  rw [entryFor, Table.find?_eq_none]
  simp only [journal, Journal.keys, List.map_map, List.mem_map, Table.mem_rows_iff,
    Function.comp_apply, posting_key, Prod.mk.injEq, Bool.and_eq_false_iff, beq_eq_false_iff_ne]
  constructor
  · rintro unused ⟨entry, ⟨id, found⟩, sameEnterprise, sameKey⟩
    rcases unused id entry found with other | other
    · exact other sameEnterprise
    · exact other sameKey
  · intro unused id entry found
    by_contra both
    push Not at both
    exact unused ⟨entry, ⟨id, found⟩, both⟩

theorem ownedWallet_some {store : WalletStore} {enterpriseId walletId : Nat}
    {wallet : RewardWalletRow} (owned : store.ownedWallet enterpriseId walletId = some wallet) :
    store.wallets.get? walletId = some wallet ∧ wallet.enterpriseId = enterpriseId ∧
      wallet.isDeleted = false := by
  simpa [ownedWallet, Option.filter_eq_some_iff] using owned

theorem readEntry_ok {entry result : Stored LedgerEntryRow}
    (read : readEntry entry = .ok result) :
    result = entry ∧ isSafeInteger entry.row.amount = true ∧
      isSafeInteger entry.row.balanceAfter = true := by
  simp only [readEntry, bind_eq_ok] at read
  obtain ⟨_, amount, _, balanceAfter, same⟩ := read
  exact ⟨(Except.ok.inj same).symm, (readBigint_ok amount).2, (readBigint_ok balanceAfter).2⟩

theorem readWallet_ok {wallet result : Stored RewardWalletRow}
    (read : readWallet wallet = .ok result) : result = wallet := by
  simp only [readWallet, bind_eq_ok] at read
  obtain ⟨_, _, _, _, same⟩ := read
  exact (Except.ok.inj same).symm

/-- A movement that succeeds under an unused key: the wallet exists and is the
enterprise's, and its entry is the one appended. -/
structure Records (store : WalletStore) (input : PostEntryInput) (lifetimeDelta : Int)
    (entry : Stored LedgerEntryRow) (next : WalletStore) : Prop where
  unused : (input.enterpriseId, input.idempotencyKey) ∉ store.journal.keys
  wallet : ∃ wallet, store.wallets.get? input.walletId = some wallet ∧
    wallet.enterpriseId = input.enterpriseId ∧
    fitsBigint (wallet.lifetimeEarned + lifetimeDelta) = true ∧
    entry = ⟨store.entries.nextId, input.entry (wallet.balance + input.amount)⟩ ∧
    next = store.record input wallet lifetimeDelta
  unreversed : store.alreadyReversed input.enterpriseId input.reversesEntryId = false
  safe : isSafeInteger entry.row.amount = true ∧ isSafeInteger entry.row.balanceAfter = true

structure Replays (store : WalletStore) (input : PostEntryInput)
    (entry : Stored LedgerEntryRow) (next : WalletStore) : Prop where
  used : store.entryFor input.enterpriseId input.idempotencyKey = some entry
  unchanged : next = store

theorem Replays.key_mem {store next : WalletStore} {input : PostEntryInput}
    {entry : Stored LedgerEntryRow} (replay : store.Replays input entry next) :
    (input.enterpriseId, input.idempotencyKey) ∈ store.journal.keys := by
  by_contra unused
  rw [← entryFor_eq_none, replay.used] at unused
  contradiction

theorem move_ok {store next : WalletStore} {input : PostEntryInput} {wallet : RewardWalletRow}
    {lifetimeDelta : Int} {entry : Stored LedgerEntryRow}
    (unused : store.entryFor input.enterpriseId input.idempotencyKey = none)
    (owned : store.ownedWallet input.enterpriseId input.walletId = some wallet)
    (moved : move input wallet lifetimeDelta store = .ok (entry, next)) :
    store.Records input lifetimeDelta entry next := by
  simp only [move, bind_eq_ok] at moved
  obtain ⟨balance, written, _, lifetimeWritten, inserted⟩ := moved
  obtain ⟨rfl, -⟩ := writeBigint_ok written
  have lifetimeFits := (writeBigint_ok lifetimeWritten).2
  split at inserted
  · contradiction
  · next unreversed =>
      obtain ⟨read, same, done⟩ := bind_eq_ok.mp inserted
      obtain ⟨rfl, amountSafe, balanceSafe⟩ := readEntry_ok same
      obtain ⟨rfl, rfl⟩ := Prod.mk.inj (Except.ok.inj done)
      obtain ⟨present, sameEnterprise, _⟩ := ownedWallet_some owned
      exact ⟨entryFor_eq_none.mp unused, ⟨wallet, present, sameEnterprise, lifetimeFits, rfl, rfl⟩,
        by simpa using unreversed, amountSafe, balanceSafe⟩

theorem post_cases {store next : WalletStore} {input : PostEntryInput} {isEarn : Bool}
    {entry : Stored LedgerEntryRow} (posted : post input isEarn store = .ok (entry, next)) :
    store.Replays input entry next ∨
      store.Records input (if isEarn && decide (0 < input.amount) then input.amount else 0)
        entry next := by
  unfold post at posted
  cases used : store.entryFor input.enterpriseId input.idempotencyKey with
  | some existing =>
      simp only [used, bind_eq_ok] at posted
      obtain ⟨read, same, done⟩ := posted
      obtain ⟨rfl, -⟩ := readEntry_ok same
      obtain ⟨rfl, rfl⟩ := Prod.mk.inj (Except.ok.inj done)
      exact .inl ⟨used, rfl⟩
  | none =>
      cases owned : store.ownedWallet input.enterpriseId input.walletId with
      | none => simp [used, owned] at posted
      | some wallet =>
          simp only [used, owned] at posted
          exact .inr (move_ok used owned posted)

/-- What a successful `debitIfSufficient` does: a refusal, a replay, or one
recorded movement the balance covers. -/
theorem debitIfSufficient_cases {store next : WalletStore} {input : PostEntryInput}
    {entry : Option (Stored LedgerEntryRow)}
    (debited : debitIfSufficient input store = .ok (entry, next)) :
    (entry = none ∧ next = store ∧
        (input.enterpriseId, input.idempotencyKey) ∉ store.journal.keys) ∨
      ∃ written, entry = some written ∧
        (store.Replays input written next ∨
          store.Records input 0 written next ∧ 0 ≤ written.row.balanceAfter) := by
  unfold debitIfSufficient at debited
  split at debited
  · contradiction
  · cases used : store.entryFor input.enterpriseId input.idempotencyKey with
    | some existing =>
        simp only [used, bind_eq_ok] at debited
        obtain ⟨read, same, done⟩ := debited
        obtain ⟨rfl, -⟩ := readEntry_ok same
        obtain ⟨rfl, rfl⟩ := Prod.mk.inj (Except.ok.inj done)
        exact .inr ⟨_, rfl, .inl ⟨used, rfl⟩⟩
    | none =>
        cases owned : store.ownedWallet input.enterpriseId input.walletId with
        | none => simp [used, owned] at debited
        | some wallet =>
            simp only [used, owned] at debited
            split at debited
            · next negative enough =>
              obtain ⟨⟨written, after⟩, moved, done⟩ := bind_eq_ok.mp debited
              obtain ⟨rfl, rfl⟩ := Prod.mk.inj (Except.ok.inj done)
              have records := move_ok used owned moved
              refine .inr ⟨written, rfl, .inr ⟨records, ?_⟩⟩
              obtain ⟨other, present, -, -, rfl, -⟩ := records.wallet
              obtain rfl := Option.some.inj ((ownedWallet_some owned).1.symm.trans present)
              show 0 ≤ wallet.balance + input.amount
              rw [abs_of_neg (Int.not_le.mp negative)] at enough
              omega
            · obtain ⟨rfl, rfl⟩ := Prod.mk.inj (Except.ok.inj debited)
              exact .inl ⟨rfl, rfl, entryFor_eq_none.mp used⟩

/-- What a successful `ensureCustomerWallet` does: it finds the wallet, or
appends an empty one of the enterprise. -/
theorem ensureCustomerWallet_cases {store next : WalletStore} {input : CustomerWalletInput}
    {wallet : Stored RewardWalletRow}
    (ensured : ensureCustomerWallet input store = .ok (wallet, next)) :
    wallet.row.enterpriseId = input.enterpriseId ∧
      ((store.wallets.get? wallet.id = some wallet.row ∧ next = store) ∨
        (wallet.id = store.wallets.nextId ∧ wallet.row.balance = 0 ∧
          wallet.row.lifetimeEarned = 0 ∧ wallet.row.isDeleted = false ∧
          next = { store with wallets := store.wallets.insert wallet.row })) := by
  unfold ensureCustomerWallet at ensured
  split at ensured
  · split at ensured
    · next existing found =>
        obtain ⟨read, same, done⟩ := bind_eq_ok.mp ensured
        obtain rfl := readWallet_ok same
        obtain ⟨rfl, rfl⟩ := Prod.mk.inj (Except.ok.inj done)
        obtain ⟨present, named⟩ := Table.find?_some found
        simp only [customerKey, Bool.and_eq_true, beq_iff_eq] at named
        exact ⟨named.1.1.1.1.1, .inl ⟨present, rfl⟩⟩
    · obtain ⟨rfl, rfl⟩ := Prod.mk.inj (Except.ok.inj ensured)
      exact ⟨rfl, .inr ⟨rfl, rfl, rfl, rfl, rfl⟩⟩
  · contradiction

structure Projected (store : WalletStore) : Prop where
  balance_eq : ∀ id wallet, store.wallets.get? id = some wallet →
    wallet.balance = store.journal.balance (wallet.enterpriseId, id)
  running : store.journal.Running (store.entries.rows.map (·.balanceAfter))
  keys_nodup : store.journal.keys.Nodup
  addressed : ∀ id, store.wallets.nextId ≤ id → ∀ enterpriseId,
    store.journal.balance (enterpriseId, id) = 0

theorem Projected.record {store next : WalletStore} {input : PostEntryInput}
    {lifetimeDelta : Int} {entry : Stored LedgerEntryRow} (projected : store.Projected)
    (records : store.Records input lifetimeDelta entry next) : next.Projected := by
  obtain ⟨unused, ⟨wallet, present, sameEnterprise, -, rfl, rfl⟩, -, -⟩ := records
  have known : wallet.balance = store.journal.balance (input.enterpriseId, input.walletId) :=
    sameEnterprise ▸ projected.balance_eq _ _ present
  refine ⟨fun id row found => ?_, ?_, ?_, fun id beyond enterpriseId => ?_⟩
  · simp only [WalletStore.record, Table.get?_update] at found
    rw [journal_record, Journal.balance_snoc]
    by_cases same : input.walletId = id
    · subst same
      rw [if_pos rfl, present] at found
      cases found
      simpa [sameEnterprise, PostEntryInput.entry] using known
    · rw [if_neg same] at found
      have other : (posting (input.entry (wallet.balance + input.amount))).account ≠
          (row.enterpriseId, id) := fun equal => same (congrArg Prod.snd equal)
      rw [if_neg other, Int.add_zero]
      exact projected.balance_eq id row found
  · have appended : (store.record input wallet lifetimeDelta).entries.rows.map (·.balanceAfter) =
        store.entries.rows.map (·.balanceAfter) ++ [wallet.balance + input.amount] := by
      simp [WalletStore.record, Table.insert, PostEntryInput.entry]
    rw [journal_record, appended]
    exact projected.running.snoc (by simp [journal]) (by rw [known]; rfl)
  · have fresh := Journal.keys_nodup_post
      (posting (input.entry (wallet.balance + input.amount))) projected.keys_nodup
    rwa [Journal.post_fresh unused, ← journal_record] at fresh
  · have bound := Table.get?_lt present
    simp only [WalletStore.record, Table.nextId_update] at beyond
    have other : (posting (input.entry (wallet.balance + input.amount))).account ≠
        (enterpriseId, id) := by
      intro equal
      have same : input.walletId = id := congrArg Prod.snd equal
      omega
    rw [journal_record, Journal.balance_snoc, if_neg other, projected.addressed id beyond]
    rfl

theorem Projected.insertWallet {store : WalletStore} {wallet : RewardWalletRow}
    (projected : store.Projected) (opened : wallet.balance = 0) :
    Projected { store with wallets := store.wallets.insert wallet } := by
  refine ⟨fun id row found => ?_, projected.running, projected.keys_nodup,
    fun id beyond => projected.addressed id ?_⟩
  · simp only [Table.get?_insert] at found
    split at found
    · cases found
      rw [opened]
      exact (projected.addressed id (by omega) _).symm
    · exact projected.balance_eq id row found
  · rw [Table.nextId_insert] at beyond
    omega

end WalletStore

inductive WalletOperation where
  | ensureCustomerWallet (input : CustomerWalletInput)
  | credit (input : PostEntryInput)
  | postUnchecked (input : PostEntryInput)
  | debitIfSufficient (input : PostEntryInput)

namespace WalletOperation

def input? : WalletOperation → Option PostEntryInput
  | .ensureCustomerWallet _ => none
  | .credit input | .postUnchecked input | .debitIfSufficient input => some input

def statement : WalletOperation → Statement WalletStore RewardError Unit
  | .ensureCustomerWallet input => fun store => do
      let (_, next) ← WalletStore.ensureCustomerWallet input store
      pure ((), next)
  | .credit input => fun store => do
      let (_, next) ← WalletStore.credit input store
      pure ((), next)
  | .postUnchecked input => fun store => do
      let (_, next) ← WalletStore.postUnchecked input store
      pure ((), next)
  | .debitIfSufficient input => fun store => do
      let (_, next) ← WalletStore.debitIfSufficient input store
      pure ((), next)

/-- A successful operation changes nothing, opens an empty wallet, or records
one entry under a key of its own. -/
theorem statement_cases {operation : WalletOperation} {store next : WalletStore}
    (success : operation.statement store = .ok ((), next)) :
    next = store ∨
      (∃ wallet, operation.input? = none ∧ wallet.balance = 0 ∧
        next = { store with wallets := store.wallets.insert wallet }) ∨
      ∃ input lifetimeDelta entry, operation.input? = some input ∧
        store.Records input lifetimeDelta entry next := by
  cases operation with
  | ensureCustomerWallet input =>
      obtain ⟨⟨wallet, after⟩, ensured, done⟩ := bind_eq_ok.mp success
      obtain ⟨-, rfl⟩ := Prod.mk.inj (Except.ok.inj done)
      rcases (WalletStore.ensureCustomerWallet_cases ensured).2 with ⟨-, rfl⟩ | opened
      · exact .inl rfl
      · exact .inr (.inl ⟨wallet.row, rfl, opened.2.1, opened.2.2.2.2⟩)
  | credit input | postUnchecked input =>
      obtain ⟨⟨entry, after⟩, posted, done⟩ := bind_eq_ok.mp success
      obtain ⟨-, rfl⟩ := Prod.mk.inj (Except.ok.inj done)
      rcases WalletStore.post_cases posted with replay | records
      · exact .inl replay.unchanged
      · exact .inr (.inr ⟨input, _, entry, rfl, records⟩)
  | debitIfSufficient input =>
      obtain ⟨⟨entry, after⟩, debited, done⟩ := bind_eq_ok.mp success
      obtain ⟨-, rfl⟩ := Prod.mk.inj (Except.ok.inj done)
      rcases WalletStore.debitIfSufficient_cases debited with
        refused | ⟨written, -, replay | ⟨records, -⟩⟩
      · exact .inl refused.2.1
      · exact .inl replay.unchanged
      · exact .inr (.inr ⟨input, 0, written, rfl, records⟩)

end WalletOperation

namespace WalletStore

def opened (wallets : List RewardWalletRow) : WalletStore where
  wallets := ⟨wallets.map fun wallet => { wallet with balance := 0, lifetimeEarned := 0 }⟩
  entries := .empty

def perform (store : WalletStore) (operation : WalletOperation) : WalletStore :=
  (transact operation.statement store).2

def performAll (store : WalletStore) (operations : List WalletOperation) : WalletStore :=
  operations.foldl perform store

theorem Projected.opened (wallets : List RewardWalletRow) : (opened wallets).Projected := by
  refine ⟨fun id wallet found => ?_, fun index _ _ found => ?_, List.nodup_nil, fun _ _ _ => rfl⟩
  · simp only [WalletStore.opened, Table.get?, List.getElem?_map, Option.map_eq_some_iff] at found
    obtain ⟨_, -, rfl⟩ := found
    rfl
  · simp [journal, WalletStore.opened, Table.empty] at found

theorem Projected.perform {store : WalletStore} (projected : store.Projected)
    (operation : WalletOperation) : (store.perform operation).Projected := by
  refine transact_keeps Projected projected fun _ next success => ?_
  rcases WalletOperation.statement_cases success with
    rfl | ⟨wallet, -, empty, rfl⟩ | ⟨input, lifetimeDelta, entry, -, records⟩
  · exact projected
  · exact projected.insertWallet empty
  · exact projected.record records

theorem Projected.performAll {store : WalletStore} (projected : store.Projected)
    (operations : List WalletOperation) : (store.performAll operations).Projected := by
  induction operations generalizing store with
  | nil => exact projected
  | cons operation rest ih => exact ih (projected.perform operation)

theorem perform_of_key_used {store : WalletStore} {operation : WalletOperation}
    {input : PostEntryInput} (asks : operation.input? = some input)
    (used : (input.enterpriseId, input.idempotencyKey) ∈ store.journal.keys) :
    store.perform operation = store := by
  refine transact_keeps (fun next => next = store) rfl fun _ next success => ?_
  rcases WalletOperation.statement_cases success with
    same | ⟨wallet, none, -, -⟩ | ⟨other, lifetimeDelta, entry, found, records⟩
  · exact same
  · rw [asks] at none
    contradiction
  · rw [asks] at found
    cases found
    exact absurd used records.unused

theorem Projected.entry_key_unique {store : WalletStore} (projected : store.Projected)
    {first second : Nat} {one other : LedgerEntryRow}
    (firstFound : store.entries.get? first = some one)
    (secondFound : store.entries.get? second = some other)
    (sameEnterprise : one.enterpriseId = other.enterpriseId)
    (sameKey : one.idempotencyKey = other.idempotencyKey) : first = second := by
  have keyAt : ∀ {id entry}, store.entries.get? id = some entry →
      store.journal.keys[id]? = some (entry.enterpriseId, entry.idempotencyKey) := by
    intro id entry found
    rw [Table.get?] at found
    simp [journal, Journal.keys, found]
  have firstKey := keyAt firstFound
  have secondKey := keyAt secondFound
  rw [← sameEnterprise, ← sameKey, ← firstKey] at secondKey
  have bound : first < store.journal.keys.length := by
    simpa [journal, Journal.keys, Table.nextId] using Table.get?_lt firstFound
  exact (List.getElem?_inj bound projected.keys_nodup).mp secondKey.symm

/-- Whatever is posted, in whatever order and however often: every balance is
the sum of its entries, every entry carries the running balance, no key occurs
twice in an enterprise, and a used key changes nothing. -/
theorem ledger_is_the_record (wallets : List RewardWalletRow)
    (operations : List WalletOperation) :
    let store := (opened wallets).performAll operations
    (∀ id wallet, store.wallets.get? id = some wallet →
      wallet.balance = store.sumEntries wallet.enterpriseId id) ∧
    (∀ id entry, store.entries.get? id = some entry →
      entry.balanceAfter =
        sumEntries { store with entries := ⟨store.entries.rows.take (id + 1)⟩ }
          entry.enterpriseId entry.walletId) ∧
    (∀ first second one other, store.entries.get? first = some one →
      store.entries.get? second = some other → one.enterpriseId = other.enterpriseId →
      one.idempotencyKey = other.idempotencyKey → first = second) ∧
    (∀ operation input, operation.input? = some input →
      (∃ id entry, store.entries.get? id = some entry ∧
        entry.enterpriseId = input.enterpriseId ∧
        entry.idempotencyKey = input.idempotencyKey) →
      store.perform operation = store) := by
  intro store
  have projected : store.Projected := (Projected.opened wallets).performAll operations
  refine ⟨fun id wallet found => ?_, fun id entry found => ?_, ?_, ?_⟩
  · rw [sumEntries_eq_balance, projected.balance_eq id wallet found]
  · rw [sumEntries_eq_balance]
    have carried := projected.running id (posting entry) entry.balanceAfter
      (by rw [Table.get?] at found; simp [journal, found])
      (by rw [Table.get?] at found; simp [found])
    simpa [journal, List.map_take] using carried
  · intro first second one other firstFound secondFound sameEnterprise sameKey
    exact projected.entry_key_unique firstFound secondFound sameEnterprise sameKey
  · rintro operation input asks ⟨id, entry, found, sameEnterprise, sameKey⟩
    refine perform_of_key_used asks ?_
    have member : entry ∈ store.entries.rows := Table.mem_rows_iff.mpr ⟨id, found⟩
    rw [journal, Journal.keys, List.map_map]
    exact List.mem_map.mpr ⟨entry, member, by simp [sameEnterprise, sameKey]⟩

end WalletStore

end UnifiedService.Rewards
