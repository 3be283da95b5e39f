import UnifiedService.Library.Offsets
import UnifiedService.Rewards.LedgerProperties
import UnifiedService.Rewards.ValueReport

/-! What the value report adds up: what benefits put into wallets less what reversals
took back, and also the points a reversed conversion returned. -/

set_option autoImplicit false

namespace UnifiedService.Rewards

open UnifiedService.Library

def LegRole.entryKind : LegRole → RewardEntryKind
  | .earn => .earn
  | .convertOut => .convertOut
  | .convertIn => .convertIn

/-! ### Where entries come from -/

def EntryOfLeg (legs : List Leg) (id : Nat) (entry : LedgerEntryRow) : Prop :=
  ∃ leg ∈ legs, leg.entryId = id ∧ entry.entryKind = leg.role.entryKind ∧
    (leg.role = .convertOut → leg.amount < 0)

inductive EntryOrigin (benefits : Table AwardBenefitRow) (id : Nat) (entry : LedgerEntryRow) :
    Prop where
  | adjusted (kind : entry.entryKind = .adjust) (award : entry.awardId = none)
      (key : ∃ client, entry.idempotencyKey = "adjust:" ++ client)
  | leg (rowId : Nat) (row : AwardBenefitRow) (found : benefits.get? rowId = some row)
      (posted : EntryOfLeg row.compensation.legs id entry)
  | reversal (rowId : Nat) (row : AwardBenefitRow) (leg : Leg) (input : PostEntryInput)
      (balanceAfter : Int) (found : benefits.get? rowId = some row)
      (member : leg ∈ row.compensation.legs) (reverses : IsReversal row leg input)
      (kind : input.entryKind = .reversal) (same : entry = input.entry balanceAfter)

structure EntriesAccounted (origin : Nat → LedgerEntryRow → Prop) (store : WalletStore) :
    Prop where
  origin : ∀ id entry, store.entries.get? id = some entry → origin id entry
  once : ∀ first second one other original, store.entries.get? first = some one →
    store.entries.get? second = some other → one.enterpriseId = other.enterpriseId →
    one.reversesEntryId = some original → other.reversesEntryId = some original → first = second

namespace EntriesAccounted

variable {origin wider : Nat → LedgerEntryRow → Prop} {store next : WalletStore}

theorem launch : EntriesAccounted origin { wallets := .empty, entries := .empty } where
  origin := by simp
  once := by simp

theorem mono (accounted : EntriesAccounted origin store)
    (weaken : ∀ id entry, origin id entry → wider id entry) : EntriesAccounted wider store :=
  ⟨fun id entry found => weaken id entry (accounted.origin id entry found), accounted.once⟩

theorem record {input : PostEntryInput} {lifetimeDelta : Int} {entry : Stored LedgerEntryRow}
    (accounted : EntriesAccounted origin store)
    (records : store.Records input lifetimeDelta entry next)
    (known : ∀ balanceAfter, origin entry.id (input.entry balanceAfter)) :
    EntriesAccounted origin next := by
  obtain ⟨-, ⟨wallet, -, -, -, rfl, rfl⟩, unreversed, -⟩ := records
  have notYet : ∀ id other original, store.entries.get? id = some other →
      other.enterpriseId = input.enterpriseId → input.reversesEntryId = some original →
      other.reversesEntryId ≠ some original := by
    intro id other original found sameEnterprise reverses again
    rw [WalletStore.alreadyReversed, reverses, Option.isSome_some, Bool.true_and,
      Option.isSome_eq_false_iff, Option.isNone_iff_eq_none, Table.find?_eq_none] at unreversed
    have differs := unreversed id other found
    simp [sameEnterprise, again] at differs
  constructor
  · intro id other found
    simp only [WalletStore.record, Table.get?_insert] at found
    split at found
    · next last =>
        obtain rfl := Option.some.inj found
        exact last ▸ known _
    · exact accounted.origin id other found
  · intro first second one other original firstFound secondFound sameEnterprise reverses again
    simp only [WalletStore.record, Table.get?_insert] at firstFound secondFound
    split at firstFound <;> split at secondFound
    · next firstLast secondLast => exact firstLast.trans secondLast.symm
    · obtain rfl := Option.some.inj firstFound
      exact absurd again (notYet second other original secondFound sameEnterprise.symm reverses)
    · obtain rfl := Option.some.inj secondFound
      exact absurd reverses (notYet first one original firstFound sameEnterprise again)
    · exact accounted.once first second one other original firstFound secondFound sameEnterprise
        reverses again

theorem ensure {input : CustomerWalletInput} {wallet : Stored RewardWalletRow}
    (accounted : EntriesAccounted origin store)
    (ensured : WalletStore.ensureCustomerWallet input store = .ok (wallet, next)) :
    EntriesAccounted origin next := by
  obtain ⟨-, ⟨-, rfl⟩ | ⟨-, -, -, -, rfl⟩⟩ := WalletStore.ensureCustomerWallet_cases ensured
  · exact accounted
  · exact ⟨accounted.origin, accounted.once⟩

theorem post {input : PostEntryInput} {isEarn : Bool} {entry : Stored LedgerEntryRow}
    (accounted : EntriesAccounted origin store)
    (posted : WalletStore.post input isEarn store = .ok (entry, next))
    (known : ∀ balanceAfter, origin entry.id (input.entry balanceAfter)) :
    EntriesAccounted origin next := by
  rcases WalletStore.post_cases posted with replay | records
  · rwa [replay.unchanged]
  · exact accounted.record records known

theorem debit {input : PostEntryInput} {entry : Stored LedgerEntryRow}
    (accounted : EntriesAccounted origin store)
    (debited : WalletStore.debitIfSufficient input store = .ok (some entry, next))
    (known : ∀ balanceAfter, origin entry.id (input.entry balanceAfter)) :
    EntriesAccounted origin next := by
  rcases WalletStore.debitIfSufficient_cases debited with
    ⟨refused, -, -⟩ | ⟨written, same, replay | ⟨records, -⟩⟩
  · contradiction
  · rwa [replay.unchanged]
  · obtain rfl := Option.some.inj same
    exact accounted.record records known

end EntriesAccounted

theorem EntryOrigin.insert {benefits : Table AwardBenefitRow} {id : Nat} {entry : LedgerEntryRow}
    (origin : EntryOrigin benefits id entry) (row : AwardBenefitRow) :
    EntryOrigin (benefits.insert row) id entry := by
  cases origin with
  | adjusted kind award key => exact .adjusted kind award key
  | leg rowId other found posted => exact .leg rowId other (Table.get?_insert_of_some row found) posted
  | reversal rowId other leg input balanceAfter found member reverses kind same =>
      exact .reversal rowId other leg input balanceAfter (Table.get?_insert_of_some row found) member
        reverses kind same

theorem EntryOrigin.sameBenefits {benefits later : Table AwardBenefitRow} {id : Nat}
    {entry : LedgerEntryRow} (origin : EntryOrigin benefits id entry)
    (same : SameBenefits benefits later) : EntryOrigin later id entry := by
  cases origin with
  | adjusted kind award key => exact .adjusted kind award key
  | leg rowId row found posted =>
      obtain ⟨other, otherFound, sameRow⟩ := same.1 rowId row found
      exact .leg rowId other otherFound (sameRow.compensation ▸ posted)
  | reversal rowId row leg input balanceAfter found member reverses kind sameEntry =>
      obtain ⟨other, otherFound, sameRow⟩ := same.1 rowId row found
      refine .reversal rowId other leg input balanceAfter otherFound
        (sameRow.compensation ▸ member) ⟨?_, reverses.wallet, reverses.amount, ?_, ?_,
          reverses.original⟩ kind sameEntry
      · rw [sameRow.enterpriseId, reverses.enterprise]
      · rw [sameRow.awardId, reverses.award]
      · rw [sameRow.awardId, sameRow.benefitIndex, reverses.key]

/-! ### Every step accounts for its entries -/

theorem applyBenefit_entries {intl : Intl} {benefit parsed : RewardBenefitConfig}
    {context : BenefitContext} {db next : RewardDb} {compensation : Compensation}
    {origin : Nat → LedgerEntryRow → Prop} (accounted : EntriesAccounted origin db.store)
    (accepted : benefit.parse intl = some parsed)
    (applied : applyBenefit parsed context db = .ok (compensation, next)) :
    EntriesAccounted (fun id entry => origin id entry ∨ EntryOfLeg compensation.legs id entry)
      next.store := by
  have start : ∀ {legs : List Leg}, EntriesAccounted
      (fun id entry => origin id entry ∨ EntryOfLeg legs id entry) db.store :=
    accounted.mono fun _ _ known => .inl known
  cases parsed with
  | grantPoints points =>
      obtain ⟨wallet, entry, middle, ensured, credited, rfl⟩ := applyGrantPoints_ok applied
      obtain ⟨opened, ensuredStore, rfl⟩ := onStore_ok ensured
      obtain ⟨after, posted, rfl⟩ := onStore_ok credited
      refine (start.ensure ensuredStore).post posted fun _ => .inr ?_
      exact ⟨_, List.mem_singleton_self _, rfl, rfl, nofun⟩
  | grantCurrency minorUnits currencyCode =>
      obtain ⟨wallet, entry, middle, ensured, credited, rfl⟩ := applyGrantCurrency_ok applied
      obtain ⟨opened, ensuredStore, rfl⟩ := onStore_ok ensured
      obtain ⟨after, posted, rfl⟩ := onStore_ok credited
      refine (start.ensure ensuredStore).post posted fun _ => .inr ?_
      exact ⟨_, List.mem_singleton_self _, rfl, rfl, nofun⟩
  | issueEntitlement itemRef validForDays =>
      obtain ⟨rfl, rfl⟩ := Prod.mk.inj (Except.ok.inj applied)
      exact start
  | convertValue burnPoints grantMinor currencyCode =>
      obtain ⟨pointsWallet, burned, currencyWallet, granted, first, second, third, times, once, -, -,
        ensured, debited, opened, credited, rfl⟩ := applyConvertValue_times applied
      obtain ⟨_, pointsOpened, rfl⟩ := onStore_ok ensured
      obtain ⟨_, burnPosted, rfl⟩ := onStore_ok debited
      obtain ⟨_, currencyOpened, rfl⟩ := onStore_ok opened
      obtain ⟨_, grantPosted, rfl⟩ := onStore_ok credited
      have positive : 0 < burnPoints := by
        cases benefit with
        | convertValue burn grant code =>
            simp only [RewardBenefitConfig.parse, Option.ite_none_right_eq_some,
              Option.map_eq_some_iff, isPositiveInt, Bool.and_eq_true, decide_eq_true_eq,
              RewardBenefitConfig.convertValue.injEq] at accepted
            obtain ⟨⟨⟨positive, -⟩, -⟩, _, -, rfl, -⟩ := accepted
            exact positive
        | grantPoints points => simp [RewardBenefitConfig.parse] at accepted
        | grantCurrency minorUnits code => simp [RewardBenefitConfig.parse] at accepted
        | issueEntitlement itemRef validForDays => simp [RewardBenefitConfig.parse] at accepted
      have burnt : 0 < times * burnPoints := Int.mul_pos (by omega) positive
      refine (((start.ensure pointsOpened).debit burnPosted fun _ => .inr ?_).ensure
        currencyOpened).post grantPosted fun _ => .inr ?_
      · exact ⟨_, List.mem_cons_self, rfl, rfl, fun _ => Int.neg_neg_of_pos burnt⟩
      · exact ⟨_, List.mem_cons_of_mem _ (List.mem_singleton_self _), rfl, rfl, nofun⟩

theorem dispatcher_apply_entries {intl : Intl} {benefit parsed : RewardBenefitConfig}
    {context : DispatchContext} {benefitIndex : Nat} {db next : RewardDb}
    (accounted : EntriesAccounted (EntryOrigin db.awardBenefits) db.store)
    (accepted : benefit.parse intl = some parsed)
    (applied : BenefitDispatcher.apply parsed context benefitIndex db = .ok ((), next)) :
    EntriesAccounted (EntryOrigin next.awardBenefits) next.store := by
  obtain ⟨compensation, middle, handled, recorded⟩ := BenefitDispatcher.apply_ok applied
  have entries := applyBenefit_entries accounted accepted handled
  have benefitsKept := applyBenefit_awardBenefits handled
  obtain ⟨rfl, -⟩ := recordBenefit_ok recorded
  rw [benefitsKept]
  refine entries.mono fun id entry known => ?_
  rcases known with old | new
  · exact old.insert _
  · exact .leg _ _ (Table.get?_insert_self _ _) new

theorem applyBenefits_entries {intl : Intl} {input : GrantInput} {basisPoints : Option Nat}
    {index : Nat} {benefits : List RewardBenefitInput} {db next : RewardDb}
    (accounted : EntriesAccounted (EntryOrigin db.awardBenefits) db.store)
    (applied : applyBenefits intl input basisPoints index benefits db = .ok ((), next)) :
    EntriesAccounted (EntryOrigin next.awardBenefits) next.store := by
  induction benefits generalizing index db with
  | nil =>
      obtain ⟨-, rfl⟩ := Prod.mk.inj (Except.ok.inj applied)
      exact accounted
  | cons stored rest ih =>
      simp only [applyBenefits] at applied
      split at applied
      · contradiction
      · next parsed accepted =>
          obtain ⟨⟨_, middle⟩, dispatched, remaining⟩ := bind_eq_ok.mp applied
          dsimp only at remaining
          exact ih (dispatcher_apply_entries accounted accepted dispatched) remaining

theorem reverseLegs_entries {context : BenefitContext} {ruleId : Option Nat} {reasonCode : String}
    {legs : List Leg} {rowId : Nat} {row : AwardBenefitRow} {store next : WalletStore}
    {benefits : Table AwardBenefitRow} (accounted : EntriesAccounted (EntryOrigin benefits) store)
    (found : benefits.get? rowId = some row) (ofRow : ∀ leg ∈ legs, leg ∈ row.compensation.legs)
    (reverses : ∀ leg, IsReversal row leg (context.legReversal leg ruleId reasonCode))
    (ran : reverseLegs context ruleId reasonCode legs store = .ok ((), next)) :
    EntriesAccounted (EntryOrigin benefits) next := by
  induction legs generalizing store with
  | nil =>
      obtain ⟨-, rfl⟩ := Prod.mk.inj (Except.ok.inj ran)
      exact accounted
  | cons leg rest ih =>
      obtain ⟨⟨entry, middle⟩, posted, remaining⟩ := bind_eq_ok.mp ran
      refine ih (accounted.post posted fun balanceAfter => ?_)
        (fun other isRest => ofRow other (List.mem_cons_of_mem leg isRest)) remaining
      exact .reversal rowId row leg _ balanceAfter found (ofRow leg List.mem_cons_self)
        (reverses leg) rfl rfl

theorem compensateRows_entries {context : DispatchContext} {rows : List (Stored AwardBenefitRow)}
    {db next : RewardDb} (accounted : EntriesAccounted (EntryOrigin db.awardBenefits) db.store)
    (listed : ∀ benefit ∈ rows, ∃ row, db.awardBenefits.get? benefit.id = some row ∧
      SameBenefit benefit.row row)
    (ofAward : ∀ benefit ∈ rows, benefit.row.enterpriseId = context.enterpriseId ∧
      benefit.row.awardId = context.awardId)
    (ran : BenefitDispatcher.compensateRows context rows db = .ok ((), next)) :
    EntriesAccounted (EntryOrigin next.awardBenefits) next.store := by
  induction rows generalizing db with
  | nil =>
      obtain ⟨-, rfl⟩ := Prod.mk.inj (Except.ok.inj ran)
      exact accounted
  | cons benefit rest ih =>
      obtain ⟨⟨_, middle⟩, undone, remaining⟩ := bind_eq_ok.mp ran
      dsimp only at remaining
      obtain ⟨legsUndone, benefitsKept⟩ := compensateBenefit_ok undone
      obtain ⟨row, found, same⟩ := listed benefit List.mem_cons_self
      obtain ⟨enterprise, award⟩ := ofAward benefit List.mem_cons_self
      rw [← same.compensation, ← same.benefitIndex] at legsUndone
      have entries := reverseLegs_entries accounted found
        (fun leg member => List.mem_reverse.mp member)
        (fun leg => legReversal_isReversal leg _ _ (same.enterpriseId.trans enterprise)
          (same.awardId.trans award)) legsUndone
      rw [← benefitsKept] at entries
      have marked := markBenefitCompensated_same middle context.enterpriseId benefit.id
      refine @ih (middle.markBenefitCompensated context.enterpriseId benefit.id)
        (entries.mono fun id entry known => known.sameBenefits marked) (fun other member => ?_)
        (fun other member => ofAward other (List.mem_cons_of_mem benefit member)) remaining
      obtain ⟨otherRow, otherFound, otherSame⟩ := listed other (List.mem_cons_of_mem benefit member)
      rw [← benefitsKept] at otherFound
      obtain ⟨later, laterFound, laterSame⟩ := marked.1 other.id otherRow otherFound
      exact ⟨later, laterFound, otherSame.trans laterSame⟩

theorem adjustBalance_entries {enterpriseId : Nat} {input : AdjustRewardBalanceInput}
    {db next : RewardDb} (accounted : EntriesAccounted (EntryOrigin db.awardBenefits) db.store)
    (adjusted : adjustBalance enterpriseId input db = .ok ((), next)) :
    EntriesAccounted (EntryOrigin next.awardBenefits) next.store := by
  obtain ⟨⟨wallet, middle⟩, ensured, rest⟩ := bind_eq_ok.mp adjusted
  obtain ⟨⟨entry, after⟩, posted, done⟩ := bind_eq_ok.mp rest
  obtain ⟨-, rfl⟩ := Prod.mk.inj (Except.ok.inj done)
  obtain ⟨opened, ensuredStore, rfl⟩ := onStore_ok ensured
  obtain ⟨store, ran, rfl⟩ := onStore_ok posted
  exact (accounted.ensure ensuredStore).post ran fun _ => .adjusted rfl rfl ⟨_, rfl⟩

theorem StepEffect.entries {intl : Intl} {choice : EngineChoice} {db next : RewardDb}
    {task : EngineTask} (accounted : EntriesAccounted (EntryOrigin db.awardBenefits) db.store)
    (effect : StepEffect intl choice db task next) :
    EntriesAccounted (EntryOrigin next.awardBenefits) next.store := by
  have kept : ∀ {other : RewardDb}, other.store = db.store →
      other.awardBenefits = db.awardBenefits →
      EntriesAccounted (EntryOrigin other.awardBenefits) other.store := by
    intro other store benefits
    rwa [store, benefits]
  cases effect with
  | unchanged => exact accounted
  | evaluated rule event _ effect =>
      cases effect with
      | unchanged => exact accounted
      | refused award => exact accounted
      | held award claimed isFor status unrecorded fresh taken =>
          obtain ⟨-, -, -, store, benefits, -⟩ := taken.frame
          exact kept store benefits
      | worthless award claimed isFor status recorded fresh taken =>
          obtain ⟨-, -, -, store, benefits, -⟩ := taken.frame
          obtain ⟨releasedStore, releasedBenefits⟩ := releaseFor_store claimed event.enterpriseId
            rule.id event.customerId db.awards.nextId (eventPeriod intl db rule.row event)
          exact kept (releasedStore.trans store) (releasedBenefits.trans benefits)
      | granted award claimed held after input basisPoints isFor status recorded fresh taken grants
          value applied =>
          have entries := applyBenefits_entries (kept value.1 value.2) applied
          exact entries
  | swept award _ effect =>
      cases effect with
      | unchanged => exact accounted
      | worthless row rule reasonCode =>
          obtain ⟨store, benefits⟩ := releaseFor_store db award.row.enterpriseId award.row.ruleId
            award.row.customerId award.id award.row.periodKey
          exact kept store benefits
      | granted row rule basisPoints after found sameEnterprise held applied =>
          have entries := applyBenefits_entries accounted applied
          exact entries
  | reversed award input _ effect =>
      cases effect with
      | unchanged => exact accounted
      | reversed after reversible compensated untouched =>
          by_cases granted : award.row.status = .granted
          · have entries := compensateRows_entries accounted
              (fun benefit member => ⟨benefit.row,
                (BenefitDispatcher.mem_listAppliedBenefits.mp (List.mem_reverse.mp member)).1,
                .refl _⟩)
              (fun benefit member =>
                (BenefitDispatcher.mem_listAppliedBenefits.mp (List.mem_reverse.mp member)).2)
              (compensated granted)
            exact entries
          · obtain rfl := untouched granted
            exact accounted
  | managed call _ effect =>
      rcases effect.store with same | ⟨enterpriseId, input, -, adjusted⟩
      · exact kept same effect.awardBenefits
      · exact adjustBalance_entries accounted adjusted

/-! ### What the report adds up -/

namespace RewardDb

def putsValue (entry : LedgerEntryRow) : Bool :=
  entry.entryKind == .earn || entry.entryKind == .convertIn

def reverses (db : RewardDb) (wanted : LedgerEntryRow → Bool) (entry : LedgerEntryRow) : Bool :=
  entry.entryKind == .reversal &&
    (entry.reversesEntryId.bind db.store.entries.get?).any wanted

def spendsPoints (entry : LedgerEntryRow) : Bool := entry.entryKind == .convertOut

def sumOf (db : RewardDb) (enterpriseId : Nat) (key : ProgramValueKey)
    (wanted : LedgerEntryRow → Bool) : Int :=
  db.store.entries.total fun entry =>
    if wanted entry = true ∧ db.valueKey enterpriseId entry = some key then entry.amount else 0

def valuePut (db : RewardDb) (enterpriseId : Nat) (key : ProgramValueKey) : Int :=
  db.sumOf enterpriseId key putsValue

def takenBack (db : RewardDb) (enterpriseId : Nat) (key : ProgramValueKey) : Int :=
  -db.sumOf enterpriseId key (db.reverses putsValue)

def returnedSpentPoints (db : RewardDb) (enterpriseId : Nat) (key : ProgramValueKey) : Bool :=
  db.store.entries.rows.any fun entry =>
    db.reverses spendsPoints entry && decide (db.valueKey enterpriseId entry = some key)

def FullyReversed (db : RewardDb) (enterpriseId programId : Nat) : Prop :=
  ∀ awardId award, db.awards.get? awardId = some award → award.enterpriseId = enterpriseId →
    award.programId = programId → AllReversed db.store db.awardBenefits awardId

theorem lookup_map_key {Key Value : Type} [BEq Key] [LawfulBEq Key] (keys : List Key)
    (value : Key → Value) (key : Key) :
    (keys.map fun key => (key, value key)).lookup key =
      if keys.contains key then some (value key) else none := by
  induction keys with
  | nil => rfl
  | cons first rest ih =>
      rw [List.map_cons, List.lookup_cons, ih, List.contains_cons]
      by_cases same : key = first
      · subst same
        simp
      · simp [beq_false_of_ne same]

theorem reportedNet_eq (db : RewardDb) (enterpriseId : Nat) (key : ProgramValueKey) :
    db.reportedNet enterpriseId key = db.sumOf enterpriseId key isReported := by
  rw [reportedNet, valueByProgram, lookup_map_key]
  split
  · rfl
  · next absent =>
      simp only [List.contains_iff_mem, List.mem_insertionSort, List.mem_dedup, List.mem_filterMap,
        List.mem_filter, not_exists, not_and, and_imp] at absent
      refine (List.sum_eq_zero fun amount member => ?_).symm
      obtain ⟨entry, isEntry, rfl⟩ := List.mem_map.mp member
      exact if_neg fun both => absent entry isEntry both.1 both.2

structure Reverses (entry original : LedgerEntryRow) : Prop where
  enterprise : original.enterpriseId = entry.enterpriseId
  wallet : original.walletId = entry.walletId
  award : original.awardId = entry.awardId
  amount : entry.amount = -original.amount
  kind : putsValue original = true ∨ (spendsPoints original = true ∧ original.amount < 0)

theorem Reverses.valueKey {db : RewardDb} {enterpriseId : Nat} {entry original : LedgerEntryRow}
    (reverses : Reverses entry original) :
    db.valueKey enterpriseId original = db.valueKey enterpriseId entry := by
  rw [RewardDb.valueKey, RewardDb.valueKey, reverses.enterprise, reverses.wallet, reverses.award]

theorem valueKey_enterprise {db : RewardDb} {enterpriseId : Nat} {entry : LedgerEntryRow}
    {key : ProgramValueKey} (grouped : db.valueKey enterpriseId entry = some key) :
    entry.enterpriseId = enterpriseId := by
  simp only [RewardDb.valueKey, Option.bind_eq_bind, Option.bind_eq_some_iff,
    Option.ite_none_right_eq_some] at grouped
  obtain ⟨-, -, -, -, same, -⟩ := grouped
  exact same

theorem valueKey_award {db : RewardDb} {enterpriseId : Nat} {entry : LedgerEntryRow}
    {key : ProgramValueKey} (grouped : db.valueKey enterpriseId entry = some key) :
    ∃ awardId award, entry.awardId = some awardId ∧ db.awards.get? awardId = some award ∧
      award.enterpriseId = enterpriseId ∧ award.programId = key.programId := by
  simp only [RewardDb.valueKey, Option.bind_eq_bind, Option.bind_eq_some_iff,
    Option.ite_none_right_eq_some, Option.filter_eq_some_iff, beq_iff_eq] at grouped
  obtain ⟨award, ⟨⟨awardId, named, found⟩, ofEnterprise⟩, wallet, -, same, done⟩ := grouped
  obtain rfl := Option.some.inj done
  exact ⟨awardId, award, named, found, ofEnterprise.trans same, rfl⟩

theorem posted_kind {store : WalletStore} {benefits : Table AwardBenefitRow} {rowId : Nat}
    {row : AwardBenefitRow} {leg : Leg} {original : LedgerEntryRow} (books : Books store benefits)
    (accounted : EntriesAccounted (EntryOrigin benefits) store)
    (found : benefits.get? rowId = some row) (member : leg ∈ row.compensation.legs)
    (present : store.entries.get? leg.entryId = some original) :
    putsValue original = true ∨ (spendsPoints original = true ∧ original.amount < 0) := by
  obtain ⟨entry, entryFound, postedAs⟩ := (books.posted rowId row found leg member).entry
  obtain rfl := Option.some.inj (present.symm.trans entryFound)
  cases accounted.origin _ _ present with
  | adjusted kind award key =>
      rw [postedAs.award] at award
      contradiction
  | reversal otherId other otherLeg input balanceAfter otherFound otherMember reverses kind same =>
      have none := postedAs.original
      rw [same] at none
      exact absurd (reverses.original.symm.trans none) nofun
  | leg otherId other otherFound posted =>
      obtain ⟨otherLeg, otherMember, sameEntry, kind, negative⟩ := posted
      obtain ⟨again, againFound, againPosted⟩ :=
        (books.posted otherId other otherFound otherLeg otherMember).entry
      rw [sameEntry] at againFound
      obtain rfl := Option.some.inj (present.symm.trans againFound)
      rw [againPosted.amount]
      rw [putsValue, spendsPoints, kind]
      cases role : otherLeg.role with
      | earn => exact .inl rfl
      | convertIn => exact .inl rfl
      | convertOut => exact .inr ⟨rfl, negative role⟩

theorem reversal_original {store : WalletStore} {benefits : Table AwardBenefitRow} {id : Nat}
    {entry : LedgerEntryRow} (books : Books store benefits)
    (accounted : EntriesAccounted (EntryOrigin benefits) store)
    (found : store.entries.get? id = some entry) (kind : entry.entryKind = .reversal) :
    ∃ originalId original, entry.reversesEntryId = some originalId ∧
      store.entries.get? originalId = some original ∧ Reverses entry original := by
  cases accounted.origin _ _ found with
  | adjusted adjusted award key =>
      rw [adjusted] at kind
      contradiction
  | leg rowId row rowFound posted =>
      obtain ⟨leg, member, sameEntry, ofRole, -⟩ := posted
      rw [ofRole] at kind
      cases role : leg.role <;> rw [role] at kind <;> contradiction
  | reversal rowId row leg input balanceAfter rowFound member reverses isReversal same =>
      obtain ⟨original, originalFound, postedAs⟩ := (books.posted rowId row rowFound leg member).entry
      refine ⟨leg.entryId, original, same ▸ reverses.original, originalFound, ?_⟩
      have ofKind := posted_kind books accounted rowFound member originalFound
      constructor
      · rw [postedAs.enterprise, same]
        exact reverses.enterprise.symm
      · rw [postedAs.wallet, same]
        exact reverses.wallet.symm
      · rw [postedAs.award, same]
        exact reverses.award.symm
      · rw [postedAs.amount, same]
        exact reverses.amount
      · exact ofKind

theorem leg_reversal {store : WalletStore} {benefits : Table AwardBenefitRow} {rowId : Nat}
    {row : AwardBenefitRow} {leg : Leg} (books : Books store benefits)
    (accounted : EntriesAccounted (EntryOrigin benefits) store)
    (found : benefits.get? rowId = some row) (member : leg ∈ row.compensation.legs)
    (reversed : LegReversed store row leg) :
    ∃ id entry, store.entries.get? id = some entry ∧ entry.entryKind = .reversal ∧
      entry.reversesEntryId = some leg.entryId := by
  obtain ⟨entry, isEntry, sameEnterprise, sameKey⟩ := reversed
  obtain ⟨id, entryFound⟩ := Table.mem_rows_iff.mp isEntry
  refine ⟨id, entry, entryFound, ?_⟩
  cases accounted.origin id entry entryFound with
  | adjusted kind award key =>
      obtain ⟨client, ofClient⟩ := key
      exact absurd (ofClient.symm.trans sameKey) (adjust_ne_benefitKey _ _ _ _)
  | leg otherId other otherFound posted =>
      obtain ⟨otherLeg, otherMember, sameEntry, -⟩ := posted
      obtain ⟨again, againFound, postedAs⟩ :=
        (books.posted otherId other otherFound otherLeg otherMember).entry
      rw [sameEntry] at againFound
      obtain rfl := Option.some.inj (entryFound.symm.trans againFound)
      exact absurd (benefitKey_append_inj otherLeg.role.suffix_stops
        leg.role.reversalSuffix_stops (postedAs.key.symm.trans sameKey)).2.2
        (LegRole.suffix_ne_reversal _ _)
  | reversal otherId other otherLeg input balanceAfter otherFound otherMember reverses kind same =>
      have keys : benefitKey other.awardId other.benefitIndex ++ otherLeg.role.reversalSuffix =
          benefitKey row.awardId row.benefitIndex ++ leg.role.reversalSuffix := by
        rw [← reverses.key, ← sameKey, same]
        rfl
      obtain ⟨sameAward, sameIndex, sameSuffix⟩ := benefitKey_append_inj
        otherLeg.role.reversalSuffix_stops leg.role.reversalSuffix_stops keys
      have ofEnterprise : other.enterpriseId = row.enterpriseId := by
        rw [← reverses.enterprise, ← sameEnterprise, same]
        rfl
      obtain rfl := books.unique _ _ _ _ otherFound found ofEnterprise sameAward sameIndex
      obtain rfl := Option.some.inj (otherFound.symm.trans found)
      obtain rfl := List.inj_on_of_nodup_map other.compensation.roles_nodup otherMember member
        (LegRole.reversalSuffix_inj sameSuffix)
      rw [same]
      exact ⟨kind, reverses.original⟩

theorem reported_iff {db : RewardDb} {id : Nat} {entry : LedgerEntryRow}
    (books : Books db.store db.awardBenefits)
    (accounted : EntriesAccounted (EntryOrigin db.awardBenefits) db.store)
    (found : db.store.entries.get? id = some entry) (amount : Int) :
    (if isReported entry = true then amount else 0) =
      (if putsValue entry = true then amount else 0) +
        (if db.reverses putsValue entry = true then amount else 0) +
        (if db.reverses spendsPoints entry = true then amount else 0) := by
  cases accounted.origin id entry found with
  | adjusted kind award key => simp [isReported, putsValue, RewardDb.reverses, kind]
  | leg rowId row rowFound posted =>
      obtain ⟨leg, member, sameEntry, kind, -⟩ := posted
      cases role : leg.role <;>
        simp [isReported, putsValue, RewardDb.reverses, kind, role, LegRole.entryKind]
  | reversal rowId row leg input balanceAfter rowFound member ofLeg kind same =>
      have isReversal : entry.entryKind = .reversal := by rw [same]; exact kind
      obtain ⟨originalId, original, named, originalFound, reverses⟩ :=
        reversal_original books accounted found isReversal
      have exclusive : putsValue original = !spendsPoints original := by
        rcases reverses.kind with puts | ⟨spends, -⟩
        · revert puts
          rw [putsValue, spendsPoints]
          cases original.entryKind <;> decide
        · rw [spends]
          revert spends
          rw [putsValue, spendsPoints]
          cases original.entryKind <;> decide
      simp only [isReported, putsValue, RewardDb.reverses, isReversal, named, Option.bind_some,
        originalFound, Option.any_some]
      rw [← putsValue, exclusive]
      cases spendsPoints original <;> simp

theorem sumOf_reported {db : RewardDb} (books : Books db.store db.awardBenefits)
    (accounted : EntriesAccounted (EntryOrigin db.awardBenefits) db.store) (enterpriseId : Nat)
    (key : ProgramValueKey) :
    db.sumOf enterpriseId key isReported =
      db.valuePut enterpriseId key - db.takenBack enterpriseId key +
        db.sumOf enterpriseId key (db.reverses spendsPoints) := by
  have split : db.sumOf enterpriseId key isReported = db.store.entries.total fun entry =>
      (if putsValue entry = true ∧ db.valueKey enterpriseId entry = some key then
          entry.amount else 0) +
        (if db.reverses putsValue entry = true ∧ db.valueKey enterpriseId entry = some key then
          entry.amount else 0) +
        (if db.reverses spendsPoints entry = true ∧ db.valueKey enterpriseId entry = some key then
          entry.amount else 0) := by
    refine Table.total_congr fun id entry found => ?_
    by_cases grouped : db.valueKey enterpriseId entry = some key
    · simpa only [grouped, and_true] using reported_iff books accounted found entry.amount
    · simp only [grouped, and_false, if_false, Int.add_zero]
  rw [split, Table.total, List.sum_map_add, List.sum_map_add, takenBack, valuePut, Int.sub_neg]
  rfl

theorem valuePut_eq_takenBack {db : RewardDb} {enterpriseId : Nat} {key : ProgramValueKey}
    (books : Books db.store db.awardBenefits)
    (accounted : EntriesAccounted (EntryOrigin db.awardBenefits) db.store)
    (reversed : db.FullyReversed enterpriseId key.programId) :
    db.valuePut enterpriseId key = db.takenBack enterpriseId key := by
  rw [takenBack, eq_neg_iff_add_eq_zero]
  have grouped : ∀ wanted : LedgerEntryRow → Bool, db.sumOf enterpriseId key wanted =
      db.store.entries.total fun entry =>
        if (wanted entry && decide (db.valueKey enterpriseId entry = some key)) = true then
          entry.amount else 0 := by
    intro wanted
    refine Table.total_congr fun id entry found => ?_
    simp only [Bool.and_eq_true, decide_eq_true_eq]
  rw [valuePut, grouped, grouped]
  refine @Table.total_offset LedgerEntryRow db.store.entries _ _ _ (·.reversesEntryId)
    (fun id entry found taken => ?_) (fun first second one other target firstFound secondFound
      firstTaken secondTaken naming namingToo => ?_) (fun target original found put => ?_)
  · simp only [Bool.and_eq_true, decide_eq_true_eq, RewardDb.reverses, beq_iff_eq] at taken
    obtain ⟨⟨kind, puts⟩, inGroup⟩ := taken
    obtain ⟨target, original, naming, targetFound, reverses⟩ :=
      reversal_original books accounted found kind
    rw [naming, Option.bind_some, targetFound, Option.any_some] at puts
    refine ⟨target, original, naming, targetFound, ?_, reverses.amount⟩
    rw [puts, reverses.valueKey, inGroup]
    exact decide_eq_true rfl
  · simp only [Bool.and_eq_true, decide_eq_true_eq] at firstTaken secondTaken
    have enterprise : ∀ {entry : LedgerEntryRow}, db.valueKey enterpriseId entry = some key →
        entry.enterpriseId = enterpriseId := valueKey_enterprise
    exact accounted.once first second one other target firstFound secondFound
      ((enterprise firstTaken.2).trans (enterprise secondTaken.2).symm) naming namingToo
  · simp only [Bool.and_eq_true, decide_eq_true_eq] at put
    obtain ⟨puts, inGroup⟩ := put
    obtain ⟨awardId, award, named, awardFound, ofEnterprise, ofProgram⟩ := valueKey_award inGroup
    cases accounted.origin target original found with
    | adjusted kind none =>
        rw [named] at none
        contradiction
    | reversal rowId row leg input balanceAfter rowFound member reverses kind same =>
        have isReversal : original.entryKind = .reversal := by rw [same]; exact kind
        rw [putsValue, isReversal] at puts
        contradiction
    | leg rowId row rowFound posted =>
        obtain ⟨leg, member, sameEntry, -⟩ := posted
        obtain ⟨again, againFound, postedAs⟩ := (books.posted rowId row rowFound leg member).entry
        rw [sameEntry] at againFound
        obtain rfl := Option.some.inj (found.symm.trans againFound)
        obtain rfl : row.awardId = awardId := Option.some.inj (postedAs.award.symm.trans named)
        obtain ⟨id, entry, entryFound, kind, naming⟩ := leg_reversal books accounted rowFound member
          (reversed row.awardId award awardFound ofEnterprise ofProgram rowId row rowFound rfl leg
            member)
        obtain ⟨back, backOriginal, namingBack, backFound, reverses⟩ :=
          reversal_original books accounted entryFound kind
        obtain rfl := Option.some.inj (naming.symm.trans namingBack)
        rw [sameEntry] at backFound naming
        obtain rfl := Option.some.inj (found.symm.trans backFound)
        refine ⟨id, entry, entryFound, ?_, naming⟩
        simp only [RewardDb.reverses, kind, naming, Option.bind_some, backFound, Option.any_some,
          puts, ← reverses.valueKey, inGroup, decide_true, beq_self_eq_true, Bool.and_self]

theorem returned_eq_zero_iff {db : RewardDb} {enterpriseId : Nat} {key : ProgramValueKey}
    (books : Books db.store db.awardBenefits)
    (accounted : EntriesAccounted (EntryOrigin db.awardBenefits) db.store) :
    db.sumOf enterpriseId key (db.reverses spendsPoints) = 0 ↔
      db.returnedSpentPoints enterpriseId key = false := by
  have positive : ∀ entry ∈ db.store.entries.rows, db.reverses spendsPoints entry = true →
      0 < entry.amount := by
    intro entry member returned
    obtain ⟨id, found⟩ := Table.mem_rows_iff.mp member
    simp only [RewardDb.reverses, Bool.and_eq_true, beq_iff_eq] at returned
    obtain ⟨target, original, naming, targetFound, reverses⟩ :=
      reversal_original books accounted found returned.1
    rw [naming, Option.bind_some, targetFound, Option.any_some] at returned
    rcases reverses.kind with puts | ⟨-, negative⟩
    · rw [putsValue, beq_iff_eq.mp returned.2] at puts
      contradiction
    · rw [reverses.amount]
      omega
  rw [returnedSpentPoints, List.any_eq_false]
  constructor
  · intro nothing entry member returned
    rw [Bool.and_eq_true, decide_eq_true_eq] at returned
    have amounts : ∀ amount ∈ db.store.entries.rows.map (fun entry =>
        if db.reverses spendsPoints entry = true ∧ db.valueKey enterpriseId entry = some key then
          entry.amount else 0), 0 ≤ amount := by
      intro amount isAmount
      obtain ⟨other, isOther, rfl⟩ := List.mem_map.mp isAmount
      split
      · next both => exact Int.le_of_lt (positive other isOther both.1)
      · exact le_refl 0
    have counted := List.single_le_sum amounts entry.amount
      (List.mem_map.mpr ⟨entry, member, if_pos returned⟩)
    have here := positive entry member returned.1
    rw [sumOf, Table.total] at nothing
    omega
  · intro none
    refine List.sum_eq_zero fun amount isAmount => ?_
    obtain ⟨entry, member, rfl⟩ := List.mem_map.mp isAmount
    refine if_neg fun both => none entry member ?_
    rw [Bool.and_eq_true, decide_eq_true_eq]
    exact both

/-- The report of a group is the value put less what was taken back, and nothing once the
program is fully reversed. -/
def ReportsNetValue (db : RewardDb) (enterpriseId : Nat) (key : ProgramValueKey) : Prop :=
  db.reportedNet enterpriseId key = db.valuePut enterpriseId key - db.takenBack enterpriseId key ∧
    (db.FullyReversed enterpriseId key.programId → db.reportedNet enterpriseId key = 0)

end RewardDb

/-- After any run of the engine the report is right about a group exactly where no
reversal returned points that a conversion of the group had spent. -/
theorem valueByProgram_reports_net_value (intl : Intl) (businesses : Nat → Business)
    (firstSeenAt : Nat → Nat → Option Int) (programs : Table RewardProgramRow)
    (rules : Table RewardRuleRow) (pool : Pool RewardDb EngineTask)
    (reached : (engine intl).PoolReaches (fun _ _ => True)
      (.launch businesses firstSeenAt programs rules) pool)
    (enterpriseId : Nat) (key : ProgramValueKey) :
    pool.shared.ReportsNetValue enterpriseId key ↔
      pool.shared.returnedSpentPoints enterpriseId key = false := by
  have invariant := (engine intl).pool_invariant
    (fun db => LedgerHolds db ∧ EntriesAccounted (EntryOrigin db.awardBenefits) db.store)
    LedgerReady ⟨.launch _ _ _ _, .launch⟩
    (fun db call _ _ => LedgerReady.opening intl db call)
    (fun db task choice holds ready _ => by
      have effect := engineStep_effect intl db task choice
      exact ⟨⟨holds.1.step ready effect, effect.entries holds.2⟩,
        fun _ member => .spawned (engineStep_spawned member), fun _ waiting => waiting.step effect⟩)
    reached
  obtain ⟨⟨⟨books, -⟩, accounted⟩, -⟩ := invariant
  rw [← RewardDb.returned_eq_zero_iff books accounted, RewardDb.ReportsNetValue,
    RewardDb.reportedNet_eq, RewardDb.sumOf_reported books accounted]
  constructor
  · rintro ⟨right, -⟩
    omega
  · intro nothing
    refine ⟨by omega, fun reversed => ?_⟩
    rw [RewardDb.valuePut_eq_takenBack books accounted reversed]
    omega

def pointsOfProgram : ProgramValueKey where
  programId := 0
  walletKind := .points
  currencyCode := none

/-- A comment granted and deleted: the report says nothing is left. -/
theorem valueByProgram_reports_net_value_comment_deleted :
    ∃ pool : Pool RewardDb EngineTask, pool.shared.valuePut 1 pointsOfProgram = 10 ∧
      pool.shared.ReportsNetValue 1 pointsOfProgram := by
  have runs : ((engine fixedIntl).playPool (fun _ _ => true) ⟨launchOnce 0, []⟩
      (grantComment ++ [.inl (.reverseForDeletedContent (commentDeleted 1)), .inr (1, later),
        .inr (1, later)])).any (fun pool =>
          pool.shared.valuePut 1 pointsOfProgram == 10 &&
            !pool.shared.returnedSpentPoints 1 pointsOfProgram) = true := by
    decide +kernel
  obtain ⟨pool, played, done⟩ := (Option.any_eq_true _ _).mp runs
  simp only [Bool.and_eq_true, beq_iff_eq, Bool.not_eq_true'] at done
  have reached := (engine fixedIntl).playPool_sound (fun _ _ _ => trivial) played
  exact ⟨pool, done.1,
    (valueByProgram_reports_net_value fixedIntl _ _ _ _ pool reached 1 pointsOfProgram).mpr done.2⟩

/-- A program that turns thirty points into five euros for a comment. -/
def launchConversion : RewardDb :=
  .launch (fun _ => openBusiness) (fun _ _ => none) ⟨[runningProgram]⟩
    ⟨[{ onceForAComment 0 with
      benefits :=
        [{ config := .convertValue 30 500 (some "EUR"), awardMode := .fixed, awardCap := none }] }]⟩

/-- Thirty points given by hand, converted for a comment, and the comment deleted. -/
def convertedThenDeleted : List (EngineCall ⊕ (Nat × EngineChoice)) :=
  [.inl (.manage (.adjustBalance 1
      { customerId := 7, walletKind := .points, currencyCode := none, amount := 30
        occurredAtUtc := 0, idempotencyKey := "welcome" })), .inr (0, later),
    .inl (.onTriggerEvent (commentEvent 1)), .inr (1, later), .inr (1, later),
    .inl (.reverseForDeletedContent (commentDeleted 1)), .inr (2, later), .inr (2, later)]

/-- The reversed conversion's program reports the thirty points it gave back. -/
theorem reversed_conversion_reports_points :
    ¬ ∀ (intl : Intl) (businesses : Nat → Business) (firstSeenAt : Nat → Nat → Option Int)
      (programs : Table RewardProgramRow) (rules : Table RewardRuleRow)
      (pool : Pool RewardDb EngineTask),
      (engine intl).PoolReaches (fun _ _ => True)
        (.launch businesses firstSeenAt programs rules) pool →
      ∀ enterpriseId key, pool.shared.ReportsNetValue enterpriseId key := by
  intro claimed
  have runs : ((engine fixedIntl).playPool (fun _ _ => true) ⟨launchConversion, []⟩
      convertedThenDeleted).any (fun pool =>
        pool.shared.reportedNet 1 pointsOfProgram == 30 &&
          pool.shared.valuePut 1 pointsOfProgram - pool.shared.takenBack 1 pointsOfProgram == 0) =
        true := by
    decide +kernel
  obtain ⟨pool, played, done⟩ := (Option.any_eq_true _ _).mp runs
  simp only [Bool.and_eq_true, beq_iff_eq] at done
  have reached := (engine fixedIntl).playPool_sound (fun _ _ _ => trivial) played
  have right := (claimed fixedIntl _ _ _ _ pool reached 1 pointsOfProgram).1
  exact absurd (done.1.symm.trans (right.trans done.2)) (by decide)

end UnifiedService.Rewards
