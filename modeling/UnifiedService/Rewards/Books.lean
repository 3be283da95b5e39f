import UnifiedService.Library.Digits
import UnifiedService.Rewards.BenefitProperties

/-! The books: how the ledger and the applied benefits account for each other.
Every movement a benefit made is a leg; a leg is reversed once its reversal key
is in the ledger. -/

set_option autoImplicit false

namespace UnifiedService.Rewards

open UnifiedService.Library

/-! ### Legs -/

inductive LegRole where
  | earn | convertOut | convertIn
  deriving DecidableEq, Repr

def LegRole.suffix : LegRole → String
  | .earn => ""
  | .convertOut => ":out"
  | .convertIn => ":in"

def LegRole.reversalSuffix : LegRole → String
  | .earn => ":reversal"
  | .convertOut => ":out:reversal"
  | .convertIn => ":in:reversal"

structure Leg where
  role : LegRole
  entryId : Nat
  walletId : Nat
  amount : Int
  deriving DecidableEq, Repr

def Compensation.legs : Compensation → List Leg
  | .points entryId walletId amount | .minorUnits entryId walletId amount =>
      [⟨.earn, entryId, walletId, amount⟩]
  | .entitlement _ => []
  | .conversion pointsWalletId currencyWalletId burnedPoints grantedMinor outEntryId inEntryId =>
      [⟨.convertOut, outEntryId, pointsWalletId, -burnedPoints⟩,
        ⟨.convertIn, inEntryId, currencyWalletId, grantedMinor⟩]

theorem Compensation.roles_nodup (compensation : Compensation) :
    (compensation.legs.map (·.role)).Nodup := by
  cases compensation <;> simp [Compensation.legs]

/-! ### Keys -/

theorem benefitKey_eq (awardId benefitIndex : Nat) :
    benefitKey awardId benefitIndex =
      "award:" ++ awardId.repr ++ ":benefit:" ++ benefitIndex.repr := rfl

theorem benefitKey_toList (awardId benefitIndex : Nat) (suffix : String) :
    (benefitKey awardId benefitIndex ++ suffix).toList =
      "award:".toList ++ (Nat.toDigits 10 awardId ++ (":benefit:".toList ++
        (Nat.toDigits 10 benefitIndex ++ suffix.toList))) := by
  simp only [benefitKey_eq, String.toList_append, Nat.toList_repr, List.append_assoc]

def Stops (suffix : String) : Prop :=
  ∀ character ∈ suffix.toList.head?, character.isDigit = false

theorem LegRole.suffix_stops (role : LegRole) : Stops role.suffix := by
  cases role <;> simp [Stops, LegRole.suffix]

theorem LegRole.reversalSuffix_stops (role : LegRole) : Stops role.reversalSuffix := by
  cases role <;> simp [Stops, LegRole.reversalSuffix]

theorem benefitKey_append_inj {awardId benefitIndex otherAwardId otherIndex : Nat}
    {suffix other : String} (stops : Stops suffix) (otherStops : Stops other)
    (same : benefitKey awardId benefitIndex ++ suffix = benefitKey otherAwardId otherIndex ++ other) :
    awardId = otherAwardId ∧ benefitIndex = otherIndex ∧ suffix = other := by
  have letters := congrArg String.toList same
  rw [benefitKey_toList, benefitKey_toList] at letters
  have colon : ∀ rest : List Char,
      ∀ character ∈ (":benefit:".toList ++ rest).head?, character.isDigit = false := by
    intro rest character first
    obtain rfl : ':' = character := by simpa using first
    decide
  obtain ⟨sameAward, rest⟩ :=
    digits_append_inj (colon _) (colon _) (List.append_cancel_left letters)
  obtain ⟨sameIndex, sameSuffix⟩ :=
    digits_append_inj stops otherStops (List.append_cancel_left rest)
  exact ⟨sameAward, sameIndex, String.toList_inj.mp sameSuffix⟩

theorem LegRole.suffix_inj {role other : LegRole} (same : role.suffix = other.suffix) :
    role = other := by
  revert same
  cases role <;> cases other <;> decide

theorem LegRole.reversalSuffix_inj {role other : LegRole}
    (same : role.reversalSuffix = other.reversalSuffix) : role = other := by
  revert same
  cases role <;> cases other <;> decide

theorem LegRole.suffix_ne_reversal (role other : LegRole) :
    role.suffix ≠ other.reversalSuffix := by
  cases role <;> cases other <;> decide

theorem adjust_ne_benefitKey (key : String) (awardId benefitIndex : Nat) (suffix : String) :
    "adjust:" ++ key ≠ benefitKey awardId benefitIndex ++ suffix := by
  intro same
  have letters := congrArg (fun text => text.toList.take 2) same
  rw [benefitKey_toList, String.toList_append] at letters
  simp at letters

/-! ### Movements -/

namespace WalletStore

def balanceOf (store : WalletStore) (walletId : Nat) : Int :=
  ((store.wallets.get? walletId).map (·.balance)).getD 0

/-- No wallet is deleted, and every lifetime total is one the column holds. -/
def WalletsSound (store : WalletStore) : Prop :=
  ∀ id wallet, store.wallets.get? id = some wallet →
    wallet.isDeleted = false ∧ fitsBigint wallet.lifetimeEarned = true

def HasKey (store : WalletStore) (enterpriseId : Nat) (key : String) : Prop :=
  ∃ entry ∈ store.entries.rows, entry.enterpriseId = enterpriseId ∧ entry.idempotencyKey = key

theorem hasKey_iff {store : WalletStore} {enterpriseId : Nat} {key : String} :
    store.HasKey enterpriseId key ↔ (enterpriseId, key) ∈ store.journal.keys := by
  simp [HasKey, journal, Journal.keys]

instance (store : WalletStore) (enterpriseId : Nat) (key : String) :
    Decidable (store.HasKey enterpriseId key) :=
  decidable_of_iff _ hasKey_iff.symm

end WalletStore

def movedOn (walletId : Nat) (entries : List LedgerEntryRow) : Int :=
  (entries.map fun entry => if entry.walletId = walletId then entry.amount else 0).sum

@[simp] theorem movedOn_nil (walletId : Nat) : movedOn walletId [] = 0 := rfl

@[simp] theorem movedOn_cons (walletId : Nat) (entry : LedgerEntryRow)
    (entries : List LedgerEntryRow) :
    movedOn walletId (entry :: entries) =
      (if entry.walletId = walletId then entry.amount else 0) + movedOn walletId entries := by
  simp [movedOn]

@[simp] theorem movedOn_append (walletId : Nat) (entries more : List LedgerEntryRow) :
    movedOn walletId (entries ++ more) = movedOn walletId entries + movedOn walletId more := by
  simp [movedOn]

def ofAward (awardId : Nat) (entries : List LedgerEntryRow) : List LedgerEntryRow :=
  entries.filter fun entry => entry.awardId == some awardId

@[simp] theorem ofAward_append (awardId : Nat) (entries more : List LedgerEntryRow) :
    ofAward awardId (entries ++ more) = ofAward awardId entries ++ ofAward awardId more := by
  simp [ofAward]

theorem ofAward_eq_self {awardId : Nat} {entries : List LedgerEntryRow}
    (all : ∀ entry ∈ entries, entry.awardId = some awardId) : ofAward awardId entries = entries := by
  refine List.filter_eq_self.mpr fun entry member => ?_
  rw [all entry member, beq_self_eq_true]

theorem ofAward_eq_nil {awardId : Nat} {entries : List LedgerEntryRow}
    (none : ∀ entry ∈ entries, entry.awardId ≠ some awardId) : ofAward awardId entries = [] := by
  refine List.filter_eq_nil_iff.mpr fun entry member => ?_
  simpa using none entry member

def awardNet (store : WalletStore) (awardId walletId : Nat) : Int :=
  movedOn walletId (ofAward awardId store.entries.rows)

def Readable (entry : LedgerEntryRow) : Prop :=
  isSafeInteger entry.amount = true ∧ isSafeInteger entry.balanceAfter = true

structure SameWallet (wallet later : RewardWalletRow) : Prop where
  enterpriseId : later.enterpriseId = wallet.enterpriseId
  customerId : later.customerId = wallet.customerId
  walletKind : later.walletKind = wallet.walletKind

structure Movement (store : WalletStore) (added : List LedgerEntryRow) (next : WalletStore) :
    Prop where
  entries : next.entries.rows = store.entries.rows ++ added
  balances : ∀ walletId, next.balanceOf walletId = store.balanceOf walletId + movedOn walletId added
  readable : ∀ entry ∈ added, Readable entry
  wallets : ∀ id wallet, store.wallets.get? id = some wallet →
    ∃ later, next.wallets.get? id = some later ∧ SameWallet wallet later
  sound : store.WalletsSound → next.WalletsSound

namespace Movement

theorem refl (store : WalletStore) : Movement store [] store :=
  ⟨by simp, by simp, by simp, fun _ wallet found => ⟨wallet, found, rfl, rfl, rfl⟩,
    fun sound => sound⟩

theorem trans {first second third : WalletStore} {added more : List LedgerEntryRow}
    (earlier : Movement first added second) (later : Movement second more third) :
    Movement first (added ++ more) third where
  entries := by rw [later.entries, earlier.entries, List.append_assoc]
  balances walletId := by
    rw [later.balances, earlier.balances, movedOn_append, Int.add_assoc]
  readable entry member := by
    rcases List.mem_append.mp member with old | new
    · exact earlier.readable entry old
    · exact later.readable entry new
  wallets id wallet found := by
    obtain ⟨middle, present, same⟩ := earlier.wallets id wallet found
    obtain ⟨last, lastPresent, lastSame⟩ := later.wallets id middle present
    exact ⟨last, lastPresent, lastSame.enterpriseId.trans same.enterpriseId,
      lastSame.customerId.trans same.customerId, lastSame.walletKind.trans same.walletKind⟩
  sound sound := later.sound (earlier.sound sound)

theorem of_records {store next : WalletStore} {input : PostEntryInput} {lifetimeDelta : Int}
    {entry : Stored LedgerEntryRow} (records : store.Records input lifetimeDelta entry next) :
    Movement store [entry.row] next := by
  obtain ⟨-, ⟨wallet, present, -, lifetimeFits, rfl, rfl⟩, -, safe⟩ := records
  refine ⟨rfl, fun walletId => ?_, fun other member => ?_, fun id row found => ?_,
    fun sound id row found => ?_⟩
  · by_cases same : input.walletId = walletId
    · subst same
      simp [WalletStore.balanceOf, WalletStore.record, present, PostEntryInput.entry]
    · simp [WalletStore.balanceOf, WalletStore.record, PostEntryInput.entry, Table.get?_update, same]
  · rw [List.mem_singleton.mp member]
    exact safe
  · simp only [WalletStore.record, Table.get?_update, found, Option.map_some]
    split
    · exact ⟨_, rfl, rfl, rfl, rfl⟩
    · exact ⟨_, rfl, rfl, rfl, rfl⟩
  · simp only [WalletStore.record, Table.get?_update] at found
    split at found
    · next same =>
        subst same
        rw [present] at found
        obtain rfl := Option.some.inj found
        exact ⟨(sound _ wallet present).1, lifetimeFits⟩
    · exact sound id row found

theorem of_ensure {store next : WalletStore} {input : CustomerWalletInput}
    {wallet : Stored RewardWalletRow}
    (ensured : WalletStore.ensureCustomerWallet input store = .ok (wallet, next)) :
    Movement store [] next ∧ next.wallets.get? wallet.id = some wallet.row ∧
      wallet.row.enterpriseId = input.enterpriseId := by
  obtain ⟨sameEnterprise, ⟨found, rfl⟩ | ⟨last, empty, noLifetime, live, rfl⟩⟩ :=
    WalletStore.ensureCustomerWallet_cases ensured
  · exact ⟨.refl _, found, sameEnterprise⟩
  · refine ⟨⟨by simp, fun walletId => ?_, by simp, fun id row found => ?_, fun sound id row found => ?_⟩,
      by rw [last, Table.get?_insert_self], sameEnterprise⟩
    · rw [movedOn_nil, Int.add_zero, WalletStore.balanceOf, WalletStore.balanceOf,
        Table.get?_insert]
      split
      · next same => rw [same, Table.get?_nextId, Option.map_some, empty]; rfl
      · rfl
    · exact ⟨row, Table.get?_insert_of_some _ found, rfl, rfl, rfl⟩
    · simp only [Table.get?_insert] at found
      split at found
      · obtain rfl := Option.some.inj found
        exact ⟨live, by rw [noLifetime]; decide⟩
      · exact sound id row found

theorem hasKey {store next : WalletStore} {added : List LedgerEntryRow}
    (movement : Movement store added next) {enterpriseId : Nat} {key : String} :
    next.HasKey enterpriseId key ↔ store.HasKey enterpriseId key ∨
      ∃ entry ∈ added, entry.enterpriseId = enterpriseId ∧ entry.idempotencyKey = key := by
  simp only [WalletStore.HasKey, movement.entries, List.mem_append, or_and_right, exists_or]

theorem entry_kept {store next : WalletStore} {added : List LedgerEntryRow}
    (movement : Movement store added next) {id : Nat} {entry : LedgerEntryRow}
    (found : store.entries.get? id = some entry) : next.entries.get? id = some entry := by
  have bound := Table.get?_lt found
  rw [Table.get?] at found ⊢
  rw [movement.entries, List.getElem?_append_left bound, found]

theorem awardNet {store next : WalletStore} {added : List LedgerEntryRow}
    (movement : Movement store added next) (awardId walletId : Nat) :
    awardNet next awardId walletId =
      Rewards.awardNet store awardId walletId + movedOn walletId (ofAward awardId added) := by
  rw [Rewards.awardNet, movement.entries, ofAward_append, movedOn_append]
  rfl

end Movement

/-! ### Applying a benefit posts its legs -/

structure PostedAs (enterpriseId awardId benefitIndex : Nat) (leg : Leg)
    (entry : LedgerEntryRow) : Prop where
  enterprise : entry.enterpriseId = enterpriseId
  wallet : entry.walletId = leg.walletId
  amount : entry.amount = leg.amount
  award : entry.awardId = some awardId
  key : entry.idempotencyKey = benefitKey awardId benefitIndex ++ leg.role.suffix
  original : entry.reversesEntryId = none

structure LegPosted (store : WalletStore) (enterpriseId awardId benefitIndex : Nat) (leg : Leg) :
    Prop where
  entry : ∃ entry, store.entries.get? leg.entryId = some entry ∧
    PostedAs enterpriseId awardId benefitIndex leg entry
  wallet : ∃ wallet, store.wallets.get? leg.walletId = some wallet ∧
    wallet.enterpriseId = enterpriseId

theorem LegPosted.move {store next : WalletStore} {added : List LedgerEntryRow}
    {enterpriseId awardId benefitIndex : Nat} {leg : Leg}
    (posted : LegPosted store enterpriseId awardId benefitIndex leg)
    (movement : Movement store added next) :
    LegPosted next enterpriseId awardId benefitIndex leg := by
  obtain ⟨⟨entry, found, postedAs⟩, wallet, walletFound, sameEnterprise⟩ := posted
  obtain ⟨later, laterFound, same⟩ := movement.wallets _ _ walletFound
  exact ⟨⟨entry, movement.entry_kept found, postedAs⟩, later, laterFound,
    same.enterpriseId.trans sameEnterprise⟩

def legsOn (walletId : Nat) (legs : List Leg) : Int :=
  (legs.map fun leg => if leg.walletId = walletId then leg.amount else 0).sum

structure Applies (enterpriseId awardId benefitIndex : Nat) (store : WalletStore)
    (legs : List Leg) (next : WalletStore) : Prop where
  movement : ∃ added, Movement store added next ∧
    (∀ entry ∈ added, ∃ leg ∈ legs, PostedAs enterpriseId awardId benefitIndex leg entry) ∧
    ∀ walletId, movedOn walletId added = legsOn walletId legs
  posted : ∀ leg ∈ legs, LegPosted next enterpriseId awardId benefitIndex leg

namespace Applies

variable {enterpriseId awardId benefitIndex : Nat} {store middle next : WalletStore}
  {legs : List Leg}

theorem nil (store : WalletStore) : Applies enterpriseId awardId benefitIndex store [] store :=
  ⟨⟨[], .refl store, by simp, fun _ => rfl⟩, by simp⟩

theorem ensure {input : CustomerWalletInput} {wallet : Stored RewardWalletRow}
    (applies : Applies enterpriseId awardId benefitIndex store legs middle)
    (ensured : WalletStore.ensureCustomerWallet input middle = .ok (wallet, next)) :
    Applies enterpriseId awardId benefitIndex store legs next := by
  obtain ⟨⟨added, movement, ofLegs, sums⟩, posted⟩ := applies
  have opened := (Movement.of_ensure ensured).1
  refine ⟨⟨added, ?_, ofLegs, sums⟩, fun leg member => (posted leg member).move opened⟩
  simpa using movement.trans opened

theorem unused {role : LegRole} (applies : Applies enterpriseId awardId benefitIndex store legs next)
    (absent : ∀ leg ∈ legs, leg.role ≠ role)
    (free : ¬ store.HasKey enterpriseId (benefitKey awardId benefitIndex ++ role.suffix)) :
    ¬ next.HasKey enterpriseId (benefitKey awardId benefitIndex ++ role.suffix) := by
  obtain ⟨⟨added, movement, ofLegs, -⟩, -⟩ := applies
  rw [movement.hasKey]
  rintro (old | ⟨entry, member, -, sameKey⟩)
  · exact free old
  · obtain ⟨leg, isLeg, postedAs⟩ := ofLegs entry member
    have sameSuffix := (benefitKey_append_inj leg.role.suffix_stops role.suffix_stops
      (postedAs.key.symm.trans sameKey)).2.2
    exact absent leg isLeg (LegRole.suffix_inj sameSuffix)

theorem snoc {input : PostEntryInput} {lifetimeDelta : Int} {entry : Stored LedgerEntryRow}
    {leg : Leg} (applies : Applies enterpriseId awardId benefitIndex store legs middle)
    (records : middle.Records input lifetimeDelta entry next)
    (asLeg : ∀ balance, PostedAs enterpriseId awardId benefitIndex leg (input.entry balance))
    (named : leg.entryId = entry.id) :
    Applies enterpriseId awardId benefitIndex store (legs ++ [leg]) next := by
  obtain ⟨⟨added, movement, ofLegs, sums⟩, posted⟩ := applies
  have recorded := Movement.of_records records
  obtain ⟨-, ⟨wallet, present, sameEnterprise, -, rfl, rfl⟩, -, -⟩ := records
  have here := asLeg (wallet.balance + input.amount)
  refine ⟨⟨_, movement.trans recorded, fun other member => ?_, fun walletId => ?_⟩,
    fun other member => ?_⟩
  · rcases List.mem_append.mp member with old | new
    · obtain ⟨before, isLeg, postedAs⟩ := ofLegs other old
      exact ⟨before, List.mem_append_left _ isLeg, postedAs⟩
    · rw [List.mem_singleton.mp new]
      exact ⟨leg, List.mem_append_right _ (List.mem_singleton_self leg), here⟩
  · rw [movedOn_append, sums, legsOn, legsOn, List.map_append, List.sum_append, movedOn_cons,
      here.wallet, here.amount]
    simp
  · rcases List.mem_append.mp member with old | new
    · exact (posted other old).move recorded
    · rw [List.mem_singleton.mp new]
      refine ⟨⟨_, ?_, here⟩, ?_⟩
      · rw [named]
        exact Table.get?_insert_self _ _
      · obtain ⟨later, found, same⟩ := recorded.wallets _ _ present
        have sameWallet : leg.walletId = input.walletId := here.wallet.symm
        have ofEnterprise : input.enterpriseId = enterpriseId := here.enterprise
        exact ⟨later, sameWallet ▸ found, (same.enterpriseId.trans sameEnterprise).trans ofEnterprise⟩

end Applies

theorem post_records {store next : WalletStore} {input : PostEntryInput} {isEarn : Bool}
    {entry : Stored LedgerEntryRow}
    (posted : WalletStore.post input isEarn store = .ok (entry, next))
    (unused : ¬ store.HasKey input.enterpriseId input.idempotencyKey) :
    ∃ lifetimeDelta, store.Records input lifetimeDelta entry next := by
  rcases WalletStore.post_cases posted with replay | records
  · exact absurd (WalletStore.hasKey_iff.mpr replay.key_mem) unused
  · exact ⟨_, records⟩

namespace Applies

variable {context : DispatchContext} {benefitIndex walletId : Nat} {entryKind : RewardEntryKind}
  {amount : Int} {role : LegRole} {store middle next : WalletStore} {legs : List Leg}

theorem post {isEarn : Bool} {entry : Stored LedgerEntryRow}
    (applies : Applies context.enterpriseId context.awardId benefitIndex store legs middle)
    (absent : ∀ leg ∈ legs, leg.role ≠ role)
    (free : ¬ store.HasKey context.enterpriseId
      (benefitKey context.awardId benefitIndex ++ role.suffix))
    (posted : WalletStore.post ((context.benefit benefitIndex).entryInput walletId entryKind amount
      role.suffix) isEarn middle = .ok (entry, next)) :
    Applies context.enterpriseId context.awardId benefitIndex store
      (legs ++ [⟨role, entry.id, walletId, amount⟩]) next := by
  obtain ⟨_, records⟩ := post_records posted (applies.unused absent free)
  exact applies.snoc records (fun _ => ⟨rfl, rfl, rfl, rfl, rfl, rfl⟩) rfl

theorem debit {entry : Stored LedgerEntryRow}
    (applies : Applies context.enterpriseId context.awardId benefitIndex store legs middle)
    (absent : ∀ leg ∈ legs, leg.role ≠ role)
    (free : ¬ store.HasKey context.enterpriseId
      (benefitKey context.awardId benefitIndex ++ role.suffix))
    (debited : WalletStore.debitIfSufficient ((context.benefit benefitIndex).entryInput walletId
      entryKind amount role.suffix) middle = .ok (some entry, next)) :
    Applies context.enterpriseId context.awardId benefitIndex store
      (legs ++ [⟨role, entry.id, walletId, amount⟩]) next := by
  rcases WalletStore.debitIfSufficient_cases debited with
    ⟨refused, -, -⟩ | ⟨written, same, replay | ⟨records, -⟩⟩
  · contradiction
  · exact absurd (WalletStore.hasKey_iff.mpr replay.key_mem) (applies.unused absent free)
  · obtain rfl := Option.some.inj same
    exact applies.snoc records (fun _ => ⟨rfl, rfl, rfl, rfl, rfl, rfl⟩) rfl

end Applies

theorem applyBenefit_applies {benefit : RewardBenefitConfig} {context : DispatchContext}
    {benefitIndex : Nat} {db next : RewardDb} {compensation : Compensation}
    (unused : ∀ role : LegRole, ¬ db.store.HasKey context.enterpriseId
      (benefitKey context.awardId benefitIndex ++ role.suffix))
    (applied : applyBenefit benefit (context.benefit benefitIndex) db = .ok (compensation, next)) :
    Applies context.enterpriseId context.awardId benefitIndex db.store compensation.legs
        next.store ∧
      next.awardBenefits = db.awardBenefits := by
  have start : Applies context.enterpriseId context.awardId benefitIndex db.store [] db.store :=
    .nil db.store
  cases benefit with
  | grantPoints points =>
      obtain ⟨wallet, entry, middle, ensured, credited, rfl⟩ := applyGrantPoints_ok applied
      obtain ⟨opened, ensuredStore, rfl⟩ := onStore_ok ensured
      obtain ⟨after, posted, rfl⟩ := onStore_ok credited
      have earned : LegRole.earn.suffix = "" := rfl
      rw [← earned] at posted
      exact ⟨(start.ensure ensuredStore).post (by simp) (unused .earn) posted, rfl⟩
  | grantCurrency minorUnits currencyCode =>
      obtain ⟨wallet, entry, middle, ensured, credited, rfl⟩ := applyGrantCurrency_ok applied
      obtain ⟨opened, ensuredStore, rfl⟩ := onStore_ok ensured
      obtain ⟨after, posted, rfl⟩ := onStore_ok credited
      have earned : LegRole.earn.suffix = "" := rfl
      rw [← earned] at posted
      exact ⟨(start.ensure ensuredStore).post (by simp) (unused .earn) posted, rfl⟩
  | issueEntitlement itemRef validForDays =>
      obtain ⟨rfl, rfl⟩ := Prod.mk.inj (Except.ok.inj applied)
      exact ⟨start, rfl⟩
  | convertValue burnPoints grantMinor currencyCode =>
      obtain ⟨pointsWallet, burned, currencyWallet, granted, first, second, third, totalBurn,
        totalGrant, ensured, debited, opened, credited, rfl⟩ := applyConvertValue_ok applied
      obtain ⟨_, pointsOpened, rfl⟩ := onStore_ok ensured
      obtain ⟨_, burnPosted, rfl⟩ := onStore_ok debited
      obtain ⟨_, currencyOpened, rfl⟩ := onStore_ok opened
      obtain ⟨_, grantPosted, rfl⟩ := onStore_ok credited
      have out : LegRole.convertOut.suffix = ":out" := rfl
      have into : LegRole.convertIn.suffix = ":in" := rfl
      rw [← out] at burnPosted
      rw [← into] at grantPosted
      have burns := (start.ensure pointsOpened).debit (by simp) (unused .convertOut) burnPosted
      exact ⟨(burns.ensure currencyOpened).post (by simp) (unused .convertIn) grantPosted, rfl⟩

/-! ### The books -/

def LegReversed (store : WalletStore) (row : AwardBenefitRow) (leg : Leg) : Prop :=
  store.HasKey row.enterpriseId
    (benefitKey row.awardId row.benefitIndex ++ leg.role.reversalSuffix)

instance (store : WalletStore) (row : AwardBenefitRow) (leg : Leg) :
    Decidable (LegReversed store row leg) :=
  inferInstanceAs (Decidable (store.HasKey _ _))

def AwardBenefitRow.outstanding (row : AwardBenefitRow) (store : WalletStore) (walletId : Nat) :
    Int :=
  legsOn walletId (row.compensation.legs.filter fun leg => decide (¬ LegReversed store row leg))

def Owned (benefits : Table AwardBenefitRow) (entry : LedgerEntryRow) : Prop :=
  ∀ awardId benefitIndex (role : LegRole),
    (entry.idempotencyKey = benefitKey awardId benefitIndex ++ role.suffix ∨
      entry.idempotencyKey = benefitKey awardId benefitIndex ++ role.reversalSuffix) →
    ∃ id row, benefits.get? id = some row ∧ row.enterpriseId = entry.enterpriseId ∧
      row.awardId = awardId ∧ row.benefitIndex = benefitIndex

def ReversesALeg (benefits : Table AwardBenefitRow) (entry : LedgerEntryRow) : Prop :=
  ∀ original, entry.reversesEntryId = some original →
    ∃ id row leg, benefits.get? id = some row ∧ leg ∈ row.compensation.legs ∧
      leg.entryId = original ∧ row.enterpriseId = entry.enterpriseId ∧
      entry.idempotencyKey =
        benefitKey row.awardId row.benefitIndex ++ leg.role.reversalSuffix

structure Books (store : WalletStore) (benefits : Table AwardBenefitRow) : Prop where
  unique : ∀ first second one other, benefits.get? first = some one →
    benefits.get? second = some other → one.enterpriseId = other.enterpriseId →
    one.awardId = other.awardId → one.benefitIndex = other.benefitIndex → first = second
  posted : ∀ id row, benefits.get? id = some row → ∀ leg ∈ row.compensation.legs,
    LegPosted store row.enterpriseId row.awardId row.benefitIndex leg
  owned : ∀ entry ∈ store.entries.rows, Owned benefits entry
  reversals : ∀ entry ∈ store.entries.rows, ReversesALeg benefits entry
  net : ∀ awardId walletId, awardNet store awardId walletId =
    benefits.total fun row => if row.awardId = awardId then row.outstanding store walletId else 0
  readable : ∀ entry ∈ store.entries.rows, Readable entry
  wallets : store.WalletsSound

namespace Books

variable {store next : WalletStore} {benefits : Table AwardBenefitRow}

theorem launch : Books { wallets := .empty, entries := .empty } .empty where
  unique := by simp
  posted := by simp
  owned := by simp [Table.empty]
  reversals := by simp [Table.empty]
  net := fun _ _ => rfl
  readable := by simp [Table.empty]
  wallets := by simp [WalletStore.WalletsSound]

theorem move {added : List LedgerEntryRow} (books : Books store benefits)
    (movement : Movement store added next) (owned : ∀ entry ∈ added, Owned benefits entry)
    (reversals : ∀ entry ∈ added, ReversesALeg benefits entry)
    (net : ∀ awardId walletId,
      (benefits.total fun row => if row.awardId = awardId then row.outstanding next walletId else 0) =
        (benefits.total fun row =>
          if row.awardId = awardId then row.outstanding store walletId else 0) +
          movedOn walletId (ofAward awardId added)) : Books next benefits where
  unique := books.unique
  posted id row found leg member := (books.posted id row found leg member).move movement
  owned entry member := by
    rw [movement.entries] at member
    exact (List.mem_append.mp member).elim (books.owned entry) (owned entry)
  reversals entry member := by
    rw [movement.entries] at member
    exact (List.mem_append.mp member).elim (books.reversals entry) (reversals entry)
  net awardId walletId := by rw [movement.awardNet, books.net, net]
  readable entry member := by
    rw [movement.entries] at member
    exact (List.mem_append.mp member).elim (books.readable entry) (movement.readable entry)
  wallets := movement.sound books.wallets

theorem outstanding_eq {added : List LedgerEntryRow} {row : AwardBenefitRow}
    (movement : Movement store added next)
    (other : ∀ entry ∈ added, ∀ role : LegRole, entry.enterpriseId = row.enterpriseId →
      entry.idempotencyKey ≠ benefitKey row.awardId row.benefitIndex ++ role.reversalSuffix)
    (walletId : Nat) : row.outstanding next walletId = row.outstanding store walletId := by
  have same : ∀ leg, LegReversed next row leg ↔ LegReversed store row leg := by
    intro leg
    rw [LegReversed, LegReversed, movement.hasKey]
    refine ⟨fun reversed => reversed.elim id ?_, .inl⟩
    rintro ⟨entry, member, sameEnterprise, sameKey⟩
    exact absurd sameKey (other entry member leg.role sameEnterprise)
  simp only [AwardBenefitRow.outstanding, same]

theorem unrelated {added : List LedgerEntryRow} (books : Books store benefits)
    (movement : Movement store added next)
    (foreign : ∀ entry ∈ added, entry.awardId = none ∧ entry.reversesEntryId = none ∧
      ∀ awardId benefitIndex suffix,
        entry.idempotencyKey ≠ benefitKey awardId benefitIndex ++ suffix) :
    Books next benefits := by
  refine books.move movement (fun entry member awardId benefitIndex role named => ?_)
    (fun entry member original reverses => ?_) (fun awardId walletId => ?_)
  · rcases named with named | named <;>
      exact absurd named ((foreign entry member).2.2 awardId benefitIndex _)
  · rw [(foreign entry member).2.1] at reverses
    contradiction
  · rw [ofAward_eq_nil fun entry member => by rw [(foreign entry member).1]; simp, movedOn_nil,
      Int.add_zero]
    refine Table.total_congr fun id row found => ?_
    rw [outstanding_eq movement fun entry member role _ => (foreign entry member).2.2 _ _ _]

theorem ensure {input : CustomerWalletInput} {wallet : Stored RewardWalletRow}
    (books : Books store benefits)
    (ensured : WalletStore.ensureCustomerWallet input store = .ok (wallet, next)) :
    Books next benefits :=
  books.unrelated (Movement.of_ensure ensured).1 (by simp)

theorem keys_unused {enterpriseId awardId benefitIndex : Nat} (books : Books store benefits)
    (unused : ∀ id other, benefits.get? id = some other → ¬ (other.enterpriseId = enterpriseId ∧
      other.awardId = awardId ∧ other.benefitIndex = benefitIndex)) (role : LegRole) :
    ¬ store.HasKey enterpriseId (benefitKey awardId benefitIndex ++ role.suffix) := by
  rintro ⟨entry, member, sameEnterprise, sameKey⟩
  obtain ⟨id, other, found, ofEnterprise, ofAward, atIndex⟩ :=
    books.owned entry member awardId benefitIndex role (.inl sameKey)
  exact unused id other found ⟨ofEnterprise.trans sameEnterprise, ofAward, atIndex⟩

theorem record {row : AwardBenefitRow} (books : Books store benefits)
    (applies : Applies row.enterpriseId row.awardId row.benefitIndex store row.compensation.legs
      next)
    (unused : ∀ id other, benefits.get? id = some other → ¬ (other.enterpriseId = row.enterpriseId ∧
      other.awardId = row.awardId ∧ other.benefitIndex = row.benefitIndex)) :
    Books next (benefits.insert row) := by
  obtain ⟨⟨added, movement, ofLegs, sums⟩, posted⟩ := applies
  have newRow : (benefits.insert row).get? benefits.nextId = some row := Table.get?_insert_self _ _
  have grows : ∀ {id other}, benefits.get? id = some other →
      (benefits.insert row).get? id = some other := Table.get?_insert_of_some row
  have noReversal : ∀ entry ∈ added, ∀ (role : LegRole) awardId benefitIndex,
      entry.idempotencyKey ≠ benefitKey awardId benefitIndex ++ role.reversalSuffix := by
    intro entry member role awardId benefitIndex sameKey
    obtain ⟨leg, -, postedAs⟩ := ofLegs entry member
    exact LegRole.suffix_ne_reversal _ _ (benefitKey_append_inj leg.role.suffix_stops
      role.reversalSuffix_stops (postedAs.key.symm.trans sameKey)).2.2
  refine ⟨?_, ?_, ?_, ?_, ?_, ?_, movement.sound books.wallets⟩
  · intro first second one other firstFound secondFound sameEnterprise sameAward sameIndex
    rw [Table.get?_insert] at firstFound secondFound
    split at firstFound <;> split at secondFound
    · next firstLast secondLast => exact firstLast.trans secondLast.symm
    · obtain rfl := Option.some.inj firstFound
      exact absurd ⟨sameEnterprise.symm, sameAward.symm, sameIndex.symm⟩
        (unused _ _ secondFound)
    · obtain rfl := Option.some.inj secondFound
      exact absurd ⟨sameEnterprise, sameAward, sameIndex⟩ (unused _ _ firstFound)
    · exact books.unique _ _ _ _ firstFound secondFound sameEnterprise sameAward sameIndex
  · intro id other found leg member
    rw [Table.get?_insert] at found
    split at found
    · obtain rfl := Option.some.inj found
      exact posted leg member
    · exact (books.posted id other found leg member).move movement
  · intro entry member awardId benefitIndex role named
    rw [movement.entries] at member
    rcases List.mem_append.mp member with old | new
    · obtain ⟨id, other, found, same⟩ := books.owned entry old awardId benefitIndex role named
      exact ⟨id, other, grows found, same⟩
    · obtain ⟨leg, -, postedAs⟩ := ofLegs entry new
      rcases named with named | named
      · obtain ⟨sameAward, sameIndex, -⟩ := benefitKey_append_inj leg.role.suffix_stops
          role.suffix_stops (postedAs.key.symm.trans named)
        exact ⟨_, row, newRow, postedAs.enterprise.symm, sameAward, sameIndex⟩
      · exact absurd named (noReversal entry new role awardId benefitIndex)
  · intro entry member original reverses
    rw [movement.entries] at member
    rcases List.mem_append.mp member with old | new
    · obtain ⟨id, other, leg, found, same⟩ := books.reversals entry old original reverses
      exact ⟨id, other, leg, grows found, same⟩
    · obtain ⟨leg, -, postedAs⟩ := ofLegs entry new
      rw [postedAs.original] at reverses
      contradiction
  · intro awardId walletId
    have before : ∀ id other, benefits.get? id = some other →
        other.outstanding next walletId = other.outstanding store walletId := fun id other _ =>
      outstanding_eq movement (fun entry member role _ => noReversal entry member role _ _) walletId
    have unreversed : ∀ leg ∈ row.compensation.legs,
        decide (¬ LegReversed next row leg) = true := by
      intro leg _
      rw [decide_eq_true_eq, LegReversed, movement.hasKey]
      rintro (⟨entry, member, sameEnterprise, sameKey⟩ | ⟨entry, member, -, sameKey⟩)
      · obtain ⟨id, other, found, otherEnterprise, otherAward, otherIndex⟩ :=
          books.owned entry member row.awardId row.benefitIndex leg.role (.inr sameKey)
        exact unused id other found
          ⟨otherEnterprise.trans sameEnterprise, otherAward, otherIndex⟩
      · exact noReversal entry member leg.role _ _ sameKey
    have whole : row.outstanding next walletId = legsOn walletId row.compensation.legs := by
      rw [AwardBenefitRow.outstanding, List.filter_eq_self.mpr unreversed]
    rw [movement.awardNet, books.net, Table.total_insert, whole]
    congr 1
    · refine (Table.total_congr fun id other found => ?_).symm
      rw [before id other found]
    · by_cases same : row.awardId = awardId
      · rw [if_pos same, ← sums, ofAward_eq_self]
        intro entry member
        obtain ⟨leg, -, postedAs⟩ := ofLegs entry member
        rw [postedAs.award, same]
      · rw [if_neg same, ofAward_eq_nil, movedOn_nil]
        intro entry member
        obtain ⟨leg, -, postedAs⟩ := ofLegs entry member
        rw [postedAs.award]
        exact fun equal => same (Option.some.inj equal)
  · intro entry member
    rw [movement.entries] at member
    exact (List.mem_append.mp member).elim (books.readable entry) (movement.readable entry)

end Books

end UnifiedService.Rewards
