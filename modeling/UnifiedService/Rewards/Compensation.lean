import Mathlib.Algebra.Order.BigOperators.Group.List
import Mathlib.Algebra.Order.Group.Abs
import Mathlib.Algebra.Order.Group.Int
import UnifiedService.Rewards.Books

/-! Undoing an award: each leg is reversed under a key of its own, so a first
compensation takes back exactly what was put there and a second one nothing. -/

set_option autoImplicit false

namespace UnifiedService.Rewards

open UnifiedService.Library

/-! ### A compensation reverses legs -/

def BenefitContext.legReversal (context : BenefitContext) (leg : Leg) (ruleId : Option Nat)
    (reasonCode : String) : PostEntryInput :=
  context.reversalInput leg.walletId (-leg.amount) leg.role.reversalSuffix ruleId leg.entryId
    reasonCode

def reverseLegs (context : BenefitContext) (ruleId : Option Nat) (reasonCode : String) :
    List Leg → Statement WalletStore RewardError Unit
  | [], store => .ok ((), store)
  | leg :: rest, store => do
      let (_, store) ← WalletStore.postUnchecked (context.legReversal leg ruleId reasonCode) store
      reverseLegs context ruleId reasonCode rest store

def Compensation.reversalRule (context : BenefitContext) : Compensation → Option Nat
  | .conversion .. => none
  | .points .. | .minorUnits .. | .entitlement _ => some context.ruleId

def Compensation.reversalReason : Compensation → String
  | .conversion .. => "conversion_reversed"
  | .points .. | .minorUnits .. | .entitlement _ => "benefit_compensated"

def Compensation.withdraw (context : BenefitContext) (db : RewardDb) : Compensation → RewardDb
  | .entitlement entitlementId => db.revokeIfUnredeemed context.enterpriseId entitlementId
  | .points .. | .minorUnits .. | .conversion .. => db

theorem compensateBenefit_eq (compensation : Compensation) (context : BenefitContext)
    (db : RewardDb) :
    compensateBenefit compensation context db =
      (reverseLegs context (compensation.reversalRule context) compensation.reversalReason
        compensation.legs.reverse db.store).map fun outcome =>
          ((), compensation.withdraw context { db with store := outcome.2 }) := by
  cases compensation with
  | points entryId walletId amount | minorUnits entryId walletId amount =>
      simp only [compensateBenefit, RewardDb.onStore, Compensation.legs, List.reverse_singleton,
        reverseLegs, BenefitContext.legReversal, LegRole.reversalSuffix, Compensation.reversalRule,
        Compensation.reversalReason]
      cases WalletStore.postUnchecked (context.reversalInput walletId (-amount) ":reversal"
        (some context.ruleId) entryId "benefit_compensated") db.store <;> rfl
  | entitlement entitlementId => rfl
  | conversion pointsWalletId currencyWalletId burnedPoints grantedMinor outEntryId inEntryId =>
      simp only [compensateBenefit, RewardDb.onStore, Compensation.legs, List.reverse_cons,
        List.reverse_nil, List.nil_append, List.cons_append, reverseLegs,
        BenefitContext.legReversal, LegRole.reversalSuffix, Compensation.reversalRule,
        Compensation.reversalReason, Int.neg_neg]
      cases WalletStore.postUnchecked (context.reversalInput currencyWalletId (-grantedMinor)
        ":in:reversal" none inEntryId "conversion_reversed") db.store with
      | error error => rfl
      | ok outcome =>
          obtain ⟨entry, store⟩ := outcome
          simp only [bind, Except.bind, pure, Except.pure]
          cases WalletStore.postUnchecked (context.reversalInput pointsWalletId burnedPoints
            ":out:reversal" none outEntryId "conversion_reversed") store <;> rfl

/-! ### One reversal -/

structure IsReversal (row : AwardBenefitRow) (leg : Leg) (input : PostEntryInput) : Prop where
  enterprise : input.enterpriseId = row.enterpriseId
  wallet : input.walletId = leg.walletId
  amount : input.amount = -leg.amount
  award : input.awardId = some row.awardId
  key : input.idempotencyKey =
    benefitKey row.awardId row.benefitIndex ++ leg.role.reversalSuffix
  original : input.reversesEntryId = some leg.entryId

theorem legsOn_filter_drop {legs : List Leg} {leg : Leg} {before after : Leg → Bool}
    (roles : (legs.map (·.role)).Nodup) (member : leg ∈ legs) (counted : before leg = true)
    (dropped : after leg = false)
    (others : ∀ other ∈ legs, other.role ≠ leg.role → after other = before other)
    (walletId : Nat) :
    legsOn walletId (legs.filter after) = legsOn walletId (legs.filter before) -
      if leg.walletId = walletId then leg.amount else 0 := by
  induction legs with
  | nil => contradiction
  | cons first rest ih =>
      rw [List.map_cons, List.nodup_cons] at roles
      rcases List.mem_cons.mp member with rfl | later
      · have same : rest.filter after = rest.filter before := by
          refine List.filter_congr fun other isRest => ?_
          refine others other (List.mem_cons_of_mem _ isRest) fun sameRole => roles.1 ?_
          exact List.mem_map.mpr ⟨other, isRest, sameRole⟩
        rw [List.filter_cons_of_neg (by simp [dropped]), List.filter_cons_of_pos counted, same]
        simp only [legsOn, List.map_cons, List.sum_cons]
        ring
      · have different : first.role ≠ leg.role := fun sameRole =>
          roles.1 (List.mem_map.mpr ⟨leg, later, sameRole.symm⟩)
        have kept := others first List.mem_cons_self different
        have tail := ih roles.2 later fun other isRest =>
          others other (List.mem_cons_of_mem first isRest)
        rw [List.filter_cons, List.filter_cons, kept]
        split
        · simp only [legsOn, List.map_cons, List.sum_cons] at tail ⊢
          rw [tail]
          ring
        · exact tail

namespace Books

variable {store next : WalletStore} {benefits : Table AwardBenefitRow}

/-- Reversing one leg of an applied benefit, for the first time, keeps the books. -/
theorem reverse {id : Nat} {row : AwardBenefitRow} {leg : Leg} {input : PostEntryInput}
    {lifetimeDelta : Int} {entry : Stored LedgerEntryRow} (books : Books store benefits)
    (found : benefits.get? id = some row) (member : leg ∈ row.compensation.legs)
    (reversal : IsReversal row leg input)
    (records : store.Records input lifetimeDelta entry next) : Books next benefits := by
  have movement := Movement.of_records records
  have unused := records.unused
  rw [← WalletStore.hasKey_iff, reversal.enterprise, reversal.key] at unused
  obtain ⟨-, ⟨wallet, -, -, -, rfl, rfl⟩, -, -⟩ := records
  refine books.move movement ?_ ?_ ?_
  · intro other isNew awardId benefitIndex role named
    rw [List.mem_singleton.mp isNew] at named ⊢
    have key : (input.entry (wallet.balance + input.amount)).idempotencyKey = _ := reversal.key
    rw [key] at named
    rcases named with named | named
    · exact absurd (benefitKey_append_inj leg.role.reversalSuffix_stops role.suffix_stops
        named).2.2.symm (LegRole.suffix_ne_reversal _ _)
    · obtain ⟨sameAward, sameIndex, -⟩ := benefitKey_append_inj leg.role.reversalSuffix_stops
        role.reversalSuffix_stops named
      exact ⟨id, row, found, reversal.enterprise.symm, sameAward, sameIndex⟩
  · intro other isNew original reverses
    rw [List.mem_singleton.mp isNew] at reverses ⊢
    have same : some leg.entryId = some original := reversal.original.symm.trans reverses
    exact ⟨id, row, leg, found, member, Option.some.inj same, reversal.enterprise.symm,
      reversal.key⟩
  · intro awardId walletId
    -- Only this leg of this row changes: any other has another reversal key.
    have here : row.outstanding (store.record input wallet lifetimeDelta) walletId =
        row.outstanding store walletId - if leg.walletId = walletId then leg.amount else 0 := by
      refine legsOn_filter_drop row.compensation.roles_nodup member ?_ ?_ ?_ walletId
      · exact decide_eq_true unused
      · rw [decide_eq_false_iff_not, not_not, LegReversed, movement.hasKey]
        exact .inr ⟨_, List.mem_singleton_self _, reversal.enterprise, reversal.key⟩
      · intro other _ different
        rw [decide_eq_decide, LegReversed, LegReversed, movement.hasKey, not_iff_not]
        refine ⟨fun reversed => reversed.elim (fun old => old) ?_, .inl⟩
        rintro ⟨entry, isNew, -, sameKey⟩
        rw [List.mem_singleton.mp isNew] at sameKey
        have equal := reversal.key.symm.trans sameKey
        exact absurd (LegRole.reversalSuffix_inj (benefitKey_append_inj
          leg.role.reversalSuffix_stops other.role.reversalSuffix_stops equal).2.2).symm different
    have elsewhere : ∀ other unchanged, benefits.get? other = some unchanged → other ≠ id →
        unchanged.outstanding (store.record input wallet lifetimeDelta) walletId =
          unchanged.outstanding store walletId := by
      intro other unchanged otherFound different
      refine outstanding_eq movement (fun entry isNew role sameEnterprise sameKey => ?_) walletId
      rw [List.mem_singleton.mp isNew] at sameEnterprise sameKey
      obtain ⟨sameAward, sameIndex, -⟩ := benefitKey_append_inj leg.role.reversalSuffix_stops
        role.reversalSuffix_stops (reversal.key.symm.trans sameKey)
      exact different (books.unique _ _ _ _ otherFound found
        (sameEnterprise.symm.trans reversal.enterprise) sameAward.symm sameIndex.symm)
    let before (row : AwardBenefitRow) : Int :=
      if row.awardId = awardId then row.outstanding store walletId else 0
    let after (row : AwardBenefitRow) : Int :=
      if row.awardId = awardId then
        row.outstanding (store.record input wallet lifetimeDelta) walletId else 0
    have changed : benefits.total after = benefits.total before + (after row - before row) := by
      refine Table.total_change found fun other unchanged otherFound different => ?_
      simp only [after, before, elsewhere other unchanged otherFound different]
    refine changed.trans (congrArg (benefits.total before + ·) ?_)
    have onWallet : (input.entry (wallet.balance + input.amount)).walletId = leg.walletId :=
      reversal.wallet
    have byAmount : (input.entry (wallet.balance + input.amount)).amount = -leg.amount :=
      reversal.amount
    by_cases same : row.awardId = awardId
    · simp only [after, before, if_pos same, here]
      rw [ofAward_eq_self, movedOn_cons, movedOn_nil, onWallet, byAmount]
      · split <;> ring
      · intro other isNew
        rw [List.mem_singleton.mp isNew, ← same]
        exact reversal.award
    · simp only [after, before, if_neg same]
      rw [ofAward_eq_nil]
      · rfl
      · intro other isNew equal
        rw [List.mem_singleton.mp isNew] at equal
        exact same (Option.some.inj (reversal.award.symm.trans equal))

end Books

/-! ### All reversals of an award -/

def OnlyOfAward (awardId : Nat) (store next : WalletStore) : Prop :=
  ∃ added, Movement store added next ∧ ∀ entry ∈ added, entry.awardId = some awardId

namespace OnlyOfAward

variable {awardId : Nat} {first second third : WalletStore}

theorem refl (store : WalletStore) : OnlyOfAward awardId store store := ⟨[], .refl store, by simp⟩

theorem trans (earlier : OnlyOfAward awardId first second)
    (later : OnlyOfAward awardId second third) : OnlyOfAward awardId first third := by
  obtain ⟨added, movement, ofAward⟩ := earlier
  obtain ⟨more, further, ofAwardToo⟩ := later
  refine ⟨added ++ more, movement.trans further, fun entry member => ?_⟩
  exact (List.mem_append.mp member).elim (ofAward entry) (ofAwardToo entry)

theorem legReversed (grown : OnlyOfAward awardId first second) {row : AwardBenefitRow} {leg : Leg}
    (reversed : LegReversed first row leg) : LegReversed second row leg := by
  obtain ⟨added, movement, -⟩ := grown
  exact movement.hasKey.mpr (.inl reversed)

theorem balanceOf (grown : OnlyOfAward awardId first second) (walletId : Nat) :
    second.balanceOf walletId =
      first.balanceOf walletId + (awardNet second awardId walletId - awardNet first awardId walletId) := by
  obtain ⟨added, movement, ofAward⟩ := grown
  rw [movement.balances, movement.awardNet, ofAward_eq_self ofAward]
  ring

end OnlyOfAward

theorem legReversal_isReversal {context : DispatchContext} {row : AwardBenefitRow} (leg : Leg)
    (ruleId : Option Nat) (reasonCode : String) (enterprise : row.enterpriseId = context.enterpriseId)
    (award : row.awardId = context.awardId) :
    IsReversal row leg ((context.benefit row.benefitIndex).legReversal leg ruleId reasonCode) :=
  ⟨enterprise.symm, rfl, rfl, congrArg some award.symm, by rw [award]; rfl, rfl⟩

theorem reverseLegs_ok {context : BenefitContext} {ruleId : Option Nat} {reasonCode : String}
    {legs : List Leg} {id : Nat} {row : AwardBenefitRow} {store next : WalletStore}
    {benefits : Table AwardBenefitRow} (books : Books store benefits)
    (found : benefits.get? id = some row) (ofRow : ∀ leg ∈ legs, leg ∈ row.compensation.legs)
    (reverses : ∀ leg, IsReversal row leg (context.legReversal leg ruleId reasonCode))
    (ran : reverseLegs context ruleId reasonCode legs store = .ok ((), next)) :
    Books next benefits ∧ OnlyOfAward row.awardId store next ∧
      ∀ leg ∈ legs, LegReversed next row leg := by
  induction legs generalizing store with
  | nil =>
      obtain ⟨-, rfl⟩ := Prod.mk.inj (Except.ok.inj ran)
      exact ⟨books, .refl _, by simp⟩
  | cons leg rest ih =>
      obtain ⟨⟨entry, middle⟩, posted, remaining⟩ := bind_eq_ok.mp ran
      have reversal := reverses leg
      have step : Books middle benefits ∧ OnlyOfAward row.awardId store middle ∧
          LegReversed middle row leg := by
        rcases WalletStore.post_cases posted with replay | records
        · have used := WalletStore.hasKey_iff.mpr replay.key_mem
          rw [reversal.enterprise, reversal.key] at used
          rw [replay.unchanged]
          exact ⟨books, .refl store, used⟩
        · have movement := Movement.of_records records
          refine ⟨books.reverse found (ofRow leg List.mem_cons_self) reversal records, ?_, ?_⟩
          · refine ⟨_, movement, fun other isNew => ?_⟩
            obtain ⟨-, ⟨wallet, -, -, -, rfl, rfl⟩, -, -⟩ := records
            rw [List.mem_singleton.mp isNew]
            exact reversal.award
          · obtain ⟨-, ⟨wallet, -, -, -, rfl, rfl⟩, -, -⟩ := records
            exact movement.hasKey.mpr (.inr ⟨_, List.mem_singleton_self _, reversal.enterprise,
              reversal.key⟩)
      obtain ⟨booksHere, grownHere, reversedHere⟩ := step
      obtain ⟨booksLast, grown, reversed⟩ := ih booksHere
        (fun other isRest => ofRow other (List.mem_cons_of_mem leg isRest)) remaining
      refine ⟨booksLast, grownHere.trans grown, fun other member => ?_⟩
      rcases List.mem_cons.mp member with rfl | isRest
      · exact grown.legReversed reversedHere
      · exact reversed other isRest

structure SameBenefit (row other : AwardBenefitRow) : Prop where
  enterpriseId : other.enterpriseId = row.enterpriseId
  awardId : other.awardId = row.awardId
  benefitIndex : other.benefitIndex = row.benefitIndex
  compensation : other.compensation = row.compensation

theorem SameBenefit.refl (row : AwardBenefitRow) : SameBenefit row row := ⟨rfl, rfl, rfl, rfl⟩

theorem SameBenefit.trans {first second third : AwardBenefitRow}
    (earlier : SameBenefit first second) (later : SameBenefit second third) :
    SameBenefit first third :=
  ⟨later.enterpriseId.trans earlier.enterpriseId, later.awardId.trans earlier.awardId,
    later.benefitIndex.trans earlier.benefitIndex,
    later.compensation.trans earlier.compensation⟩

theorem SameBenefit.legReversed {row other : AwardBenefitRow} (same : SameBenefit row other)
    {store : WalletStore} {leg : Leg} : LegReversed store other leg ↔ LegReversed store row leg := by
  rw [LegReversed, LegReversed, same.enterpriseId, same.awardId, same.benefitIndex]

theorem SameBenefit.outstanding {row other : AwardBenefitRow} (same : SameBenefit row other)
    (store : WalletStore) (walletId : Nat) :
    other.outstanding store walletId = row.outstanding store walletId := by
  simp only [AwardBenefitRow.outstanding, same.legReversed, same.compensation]

def SameBenefits (benefits later : Table AwardBenefitRow) : Prop :=
  (∀ id row, benefits.get? id = some row →
    ∃ other, later.get? id = some other ∧ SameBenefit row other) ∧
  ∀ id other, later.get? id = some other →
    ∃ row, benefits.get? id = some row ∧ SameBenefit row other

theorem SameBenefits.refl (benefits : Table AwardBenefitRow) : SameBenefits benefits benefits :=
  ⟨fun _ row found => ⟨row, found, .refl row⟩, fun _ row found => ⟨row, found, .refl row⟩⟩

theorem SameBenefits.trans {first second third : Table AwardBenefitRow}
    (earlier : SameBenefits first second) (later : SameBenefits second third) :
    SameBenefits first third := by
  refine ⟨fun id row found => ?_, fun id row found => ?_⟩
  · obtain ⟨middle, middleFound, same⟩ := earlier.1 id row found
    obtain ⟨last, lastFound, sameToo⟩ := later.1 id middle middleFound
    exact ⟨last, lastFound, same.trans sameToo⟩
  · obtain ⟨middle, middleFound, same⟩ := later.2 id row found
    obtain ⟨first, firstFound, sameToo⟩ := earlier.2 id middle middleFound
    exact ⟨first, firstFound, sameToo.trans same⟩

theorem markBenefitCompensated_same (db : RewardDb) (enterpriseId benefitId : Nat) :
    SameBenefits db.awardBenefits
      (db.markBenefitCompensated enterpriseId benefitId).awardBenefits := by
  have marks : ∀ row : AwardBenefitRow, SameBenefit row
      (if row.enterpriseId = enterpriseId then { row with status := .compensated } else row) := by
    intro row
    split
    · exact ⟨rfl, rfl, rfl, rfl⟩
    · exact .refl row
  refine ⟨fun id row found => ?_, fun id other found => ?_⟩
  · simp only [RewardDb.markBenefitCompensated, Table.get?_update, found, Option.map_some]
    split
    · exact ⟨_, rfl, marks row⟩
    · exact ⟨row, rfl, .refl row⟩
  · simp only [RewardDb.markBenefitCompensated, Table.get?_update] at found
    split at found
    · obtain ⟨row, present, rfl⟩ := Option.map_eq_some_iff.mp found
      exact ⟨row, present, marks row⟩
    · exact ⟨other, found, .refl other⟩

theorem Books.mark {store : WalletStore} {db : RewardDb} (books : Books store db.awardBenefits)
    (enterpriseId benefitId : Nat) :
    Books store (db.markBenefitCompensated enterpriseId benefitId).awardBenefits := by
  obtain ⟨forth, back⟩ := markBenefitCompensated_same db enterpriseId benefitId
  refine ⟨?_, ?_, ?_, ?_, ?_, books.readable, books.wallets⟩
  · intro first second one other firstFound secondFound sameEnterprise sameAward sameIndex
    obtain ⟨row, found, same⟩ := back first one firstFound
    obtain ⟨otherRow, otherFound, sameToo⟩ := back second other secondFound
    rw [same.enterpriseId, sameToo.enterpriseId] at sameEnterprise
    rw [same.awardId, sameToo.awardId] at sameAward
    rw [same.benefitIndex, sameToo.benefitIndex] at sameIndex
    exact books.unique _ _ _ _ found otherFound sameEnterprise sameAward sameIndex
  · intro id other found leg member
    obtain ⟨row, rowFound, same⟩ := back id other found
    rw [same.compensation] at member
    rw [same.enterpriseId, same.awardId, same.benefitIndex]
    exact books.posted id row rowFound leg member
  · intro entry member awardId benefitIndex role named
    obtain ⟨id, row, found, sameEnterprise, sameAward, sameIndex⟩ :=
      books.owned entry member awardId benefitIndex role named
    obtain ⟨other, otherFound, same⟩ := forth id row found
    exact ⟨id, other, otherFound, same.enterpriseId.trans sameEnterprise,
      same.awardId.trans sameAward, same.benefitIndex.trans sameIndex⟩
  · intro entry member original reverses
    obtain ⟨id, row, leg, found, isLeg, sameEntry, sameEnterprise, key⟩ :=
      books.reversals entry member original reverses
    obtain ⟨other, otherFound, same⟩ := forth id row found
    refine ⟨id, other, leg, otherFound, ?_, sameEntry, ?_, ?_⟩
    · rwa [same.compensation]
    · rw [same.enterpriseId, sameEnterprise]
    · rw [same.awardId, same.benefitIndex, key]
  · intro awardId walletId
    rw [books.net]
    cases found : db.awardBenefits.get? benefitId with
    | none => rw [RewardDb.markBenefitCompensated, Table.update_of_none _ found]
    | some row =>
        rw [RewardDb.markBenefitCompensated, Table.total_update _ _ found]
        have same : ∀ marked, SameBenefit row marked →
            (if marked.awardId = awardId then marked.outstanding store walletId else 0) =
              if row.awardId = awardId then row.outstanding store walletId else 0 := by
          intro marked same
          rw [same.awardId, same.outstanding]
        rw [same _ (by split; exacts [⟨rfl, rfl, rfl, rfl⟩, .refl row])]
        ring

theorem compensateBenefit_ok {compensation : Compensation} {context : BenefitContext}
    {db next : RewardDb} (ran : compensateBenefit compensation context db = .ok ((), next)) :
    reverseLegs context (compensation.reversalRule context) compensation.reversalReason
        compensation.legs.reverse db.store = .ok ((), next.store) ∧
      next.awardBenefits = db.awardBenefits := by
  rw [compensateBenefit_eq] at ran
  cases result : reverseLegs context (compensation.reversalRule context)
      compensation.reversalReason compensation.legs.reverse db.store with
  | error error =>
      rw [result] at ran
      contradiction
  | ok outcome =>
      rw [result] at ran
      obtain ⟨-, rfl⟩ := Prod.mk.inj (Except.ok.inj ran)
      cases compensation <;> exact ⟨rfl, rfl⟩

def AllReversed (store : WalletStore) (benefits : Table AwardBenefitRow) (awardId : Nat) : Prop :=
  ∀ id row, benefits.get? id = some row → row.awardId = awardId →
    ∀ leg ∈ row.compensation.legs, LegReversed store row leg

/-- An award whose legs are all reversed leaves nothing on any wallet. -/
theorem Books.awardNet_eq_zero {store : WalletStore} {benefits : Table AwardBenefitRow}
    {awardId : Nat} (books : Books store benefits) (reversed : AllReversed store benefits awardId)
    (walletId : Nat) : awardNet store awardId walletId = 0 := by
  have nothing : ∀ id row, benefits.get? id = some row →
      (if row.awardId = awardId then row.outstanding store walletId else 0) = 0 := by
    intro id row found
    by_cases same : row.awardId = awardId
    · have none : row.compensation.legs.filter (fun leg => decide (¬ LegReversed store row leg)) =
          [] := by
        refine List.filter_eq_nil_iff.mpr fun leg member => ?_
        simpa using reversed id row found same leg member
      rw [if_pos same, AwardBenefitRow.outstanding, none]
      rfl
    · rw [if_neg same]
  rw [books.net, Table.total_congr nothing, Table.total]
  simp

namespace BenefitDispatcher

theorem compensateRows_ok {context : DispatchContext} {rows : List (Stored AwardBenefitRow)}
    {db next : RewardDb} (books : Books db.store db.awardBenefits)
    (listed : ∀ benefit ∈ rows, ∃ row, db.awardBenefits.get? benefit.id = some row ∧
      SameBenefit benefit.row row)
    (ofAward : ∀ benefit ∈ rows, benefit.row.enterpriseId = context.enterpriseId ∧
      benefit.row.awardId = context.awardId)
    (ran : compensateRows context rows db = .ok ((), next)) :
    Books next.store next.awardBenefits ∧ OnlyOfAward context.awardId db.store next.store ∧
      SameBenefits db.awardBenefits next.awardBenefits ∧
      ∀ benefit ∈ rows, ∀ leg ∈ benefit.row.compensation.legs,
        LegReversed next.store benefit.row leg := by
  induction rows generalizing db with
  | nil =>
      obtain ⟨-, rfl⟩ := Prod.mk.inj (Except.ok.inj ran)
      exact ⟨books, .refl _, .refl _, by simp⟩
  | cons benefit rest ih =>
      obtain ⟨⟨_, middle⟩, undone, remaining⟩ := bind_eq_ok.mp ran
      dsimp only at remaining
      obtain ⟨legsUndone, benefitsKept⟩ := compensateBenefit_ok undone
      obtain ⟨row, found, same⟩ := listed benefit List.mem_cons_self
      obtain ⟨enterprise, award⟩ := ofAward benefit List.mem_cons_self
      have rowEnterprise : row.enterpriseId = context.enterpriseId :=
        same.enterpriseId.trans enterprise
      have rowAward : row.awardId = context.awardId := same.awardId.trans award
      rw [← same.compensation, ← same.benefitIndex] at legsUndone
      obtain ⟨booksHere, grownHere, reversedHere⟩ := reverseLegs_ok books found
        (fun leg member => List.mem_reverse.mp member)
        (fun leg => legReversal_isReversal leg _ _ rowEnterprise rowAward) legsUndone
      rw [← benefitsKept] at booksHere
      have marked := markBenefitCompensated_same middle context.enterpriseId benefit.id
      obtain ⟨booksLast, grown, sameLater, reversed⟩ := ih
        (booksHere.mark context.enterpriseId benefit.id)
        (fun other member => by
          obtain ⟨otherRow, otherFound, otherSame⟩ :=
            listed other (List.mem_cons_of_mem benefit member)
          rw [← benefitsKept] at otherFound
          obtain ⟨later, laterFound, laterSame⟩ := marked.1 other.id otherRow otherFound
          exact ⟨later, laterFound, otherSame.trans laterSame⟩)
        (fun other member => ofAward other (List.mem_cons_of_mem benefit member)) remaining
      rw [rowAward] at grownHere
      refine ⟨booksLast, grownHere.trans grown, ?_, fun other member leg isLeg => ?_⟩
      · exact (benefitsKept ▸ marked).trans sameLater
      · rcases List.mem_cons.mp member with rfl | isRest
        · rw [← same.compensation] at isLeg
          exact grown.legReversed
            (same.legReversed.mp (reversedHere leg (List.mem_reverse.mpr isLeg)))
        · exact reversed other isRest leg isLeg

theorem mem_listAppliedBenefits {db : RewardDb} {enterpriseId awardId : Nat}
    {benefit : Stored AwardBenefitRow} :
    benefit ∈ db.listAppliedBenefits enterpriseId awardId ↔
      db.awardBenefits.get? benefit.id = some benefit.row ∧
        benefit.row.enterpriseId = enterpriseId ∧ benefit.row.awardId = awardId := by
  rw [RewardDb.listAppliedBenefits, RewardDb.orderBy, (List.perm_insertionSort _ _).mem_iff,
    Table.mem_select]
  simp

/-- A compensation that goes through reverses every leg of the award, and does nothing else. -/
theorem compensateAward_ok {context : DispatchContext} {db next : RewardDb}
    (books : Books db.store db.awardBenefits)
    (ofEnterprise : ∀ id row, db.awardBenefits.get? id = some row →
      row.awardId = context.awardId → row.enterpriseId = context.enterpriseId)
    (ran : compensateAward context db = .ok ((), next)) :
    Books next.store next.awardBenefits ∧ OnlyOfAward context.awardId db.store next.store ∧
      SameBenefits db.awardBenefits next.awardBenefits ∧
      AllReversed next.store next.awardBenefits context.awardId := by
  obtain ⟨booksLast, grown, same, reversed⟩ := compensateRows_ok books
    (fun benefit member => ⟨benefit.row,
      (mem_listAppliedBenefits.mp (List.mem_reverse.mp member)).1, .refl _⟩)
    (fun benefit member => (mem_listAppliedBenefits.mp (List.mem_reverse.mp member)).2) ran
  refine ⟨booksLast, grown, same, fun id other found ofAward leg isLeg => ?_⟩
  obtain ⟨row, rowFound, sameRow⟩ := same.2 id other found
  rw [sameRow.awardId] at ofAward
  rw [sameRow.compensation] at isLeg
  refine sameRow.legReversed.mpr (reversed ⟨id, row⟩ ?_ leg isLeg)
  exact List.mem_reverse.mpr (mem_listAppliedBenefits.mpr
    ⟨rowFound, ofEnterprise id row rowFound ofAward, ofAward⟩)

end BenefitDispatcher

/-! ### A second compensation, and when the first goes through -/

theorem reverseLegs_again {context : BenefitContext} {ruleId : Option Nat} {reasonCode : String}
    {legs : List Leg} {row : AwardBenefitRow} {store : WalletStore}
    {benefits : Table AwardBenefitRow} (books : Books store benefits)
    (reverses : ∀ leg, IsReversal row leg (context.legReversal leg ruleId reasonCode))
    (reversed : ∀ leg ∈ legs, LegReversed store row leg) :
    reverseLegs context ruleId reasonCode legs store = .ok ((), store) := by
  induction legs with
  | nil => rfl
  | cons leg rest ih =>
      have used := reversed leg List.mem_cons_self
      rw [LegReversed, ← (reverses leg).enterprise, ← (reverses leg).key,
        WalletStore.hasKey_iff] at used
      have found : ∃ existing, store.entryFor (context.legReversal leg ruleId reasonCode).enterpriseId
          (context.legReversal leg ruleId reasonCode).idempotencyKey = some existing := by
        rw [← Option.isSome_iff_exists, ← Option.ne_none_iff_isSome]
        exact fun none => WalletStore.entryFor_eq_none.mp none used
      obtain ⟨existing, existingFound⟩ := found
      have readable := books.readable existing.row (Table.mem_rows_iff.mpr
        ⟨existing.id, (WalletStore.entryFor_some existingFound).1⟩)
      have read : WalletStore.readEntry existing = .ok existing := by
        simp only [WalletStore.readEntry, readBigint_of_safe readable.1,
          readBigint_of_safe readable.2]
        rfl
      have replayed : WalletStore.postUnchecked (context.legReversal leg ruleId reasonCode) store =
          .ok (existing, store) := by
        simp only [WalletStore.postUnchecked, WalletStore.post, existingFound, read]
        rfl
      rw [reverseLegs, replayed]
      exact ih fun other member => reversed other (List.mem_cons_of_mem leg member)

theorem compensateBenefit_of_ok (compensation : Compensation) {context : BenefitContext}
    {db : RewardDb} {store : WalletStore}
    (ran : reverseLegs context (compensation.reversalRule context) compensation.reversalReason
      compensation.legs.reverse db.store = .ok ((), store)) :
    ∃ next, compensateBenefit compensation context db = .ok ((), next) ∧ next.store = store ∧
      next.awardBenefits = db.awardBenefits := by
  rw [compensateBenefit_eq, ran]
  exact ⟨_, rfl, by cases compensation <;> rfl, by cases compensation <;> rfl⟩

theorem Books.not_alreadyReversed {store : WalletStore} {benefits : Table AwardBenefitRow}
    {id : Nat} {row : AwardBenefitRow} {leg : Leg} (books : Books store benefits)
    (found : benefits.get? id = some row) (member : leg ∈ row.compensation.legs)
    (unused : ¬ LegReversed store row leg) :
    store.alreadyReversed row.enterpriseId (some leg.entryId) = false := by
  by_contra reversed
  rw [Bool.not_eq_false, WalletStore.alreadyReversed, Option.isSome_some, Bool.true_and] at reversed
  obtain ⟨existing, existingFound⟩ := Option.isSome_iff_exists.mp reversed
  obtain ⟨present, named⟩ := Table.find?_some existingFound
  simp only [Bool.and_eq_true, beq_iff_eq] at named
  have inLedger := Table.mem_rows_iff.mpr ⟨existing.id, present⟩
  obtain ⟨otherId, other, otherLeg, otherFound, otherMember, sameEntry, sameEnterprise, key⟩ :=
    books.reversals existing.row inLedger leg.entryId named.2
  obtain ⟨entry, entryFound, postedAs⟩ := (books.posted id row found leg member).entry
  obtain ⟨otherEntry, otherEntryFound, otherPosted⟩ :=
    (books.posted otherId other otherFound otherLeg otherMember).entry
  rw [sameEntry, entryFound] at otherEntryFound
  obtain rfl := Option.some.inj otherEntryFound
  obtain ⟨sameAward, sameIndex, sameSuffix⟩ := benefitKey_append_inj leg.role.suffix_stops
    otherLeg.role.suffix_stops (postedAs.key.symm.trans otherPosted.key)
  refine unused ⟨existing.row, inLedger, named.1, ?_⟩
  rw [key, sameAward, sameIndex, LegRole.suffix_inj sameSuffix]

def grossOn (walletId : Nat) (legs : List Leg) : Int :=
  (legs.map fun leg => if leg.walletId = walletId then |leg.amount| else 0).sum

theorem grossOn_nonneg (walletId : Nat) (legs : List Leg) : 0 ≤ grossOn walletId legs := by
  refine List.sum_nonneg fun amount member => ?_
  obtain ⟨leg, -, rfl⟩ := List.mem_map.mp member
  split
  · exact abs_nonneg _
  · exact Int.le_refl 0

theorem grossOn_cons (walletId : Nat) (leg : Leg) (legs : List Leg) :
    grossOn walletId (leg :: legs) =
      (if leg.walletId = walletId then |leg.amount| else 0) + grossOn walletId legs := by
  simp [grossOn]

theorem abs_sub_le_add (first second : Int) : |first - second| ≤ |first| + |second| := by
  have firstUp := le_abs_self first
  have firstDown := neg_abs_le first
  have secondUp := le_abs_self second
  have secondDown := neg_abs_le second
  exact abs_le.mpr ⟨by omega, by omega⟩

theorem isSafeInteger_of_abs_le {value : Int} (bound : |value| ≤ maxSafeInteger) :
    isSafeInteger value = true :=
  decide_eq_true (abs_le.mp bound)

theorem abs_le_of_isSafeInteger {value : Int} (safe : isSafeInteger value = true) :
    |value| ≤ maxSafeInteger :=
  abs_le.mpr (of_decide_eq_true safe)

/-- The first reversal of a leg goes through where the balance it leaves can be read. -/
theorem postReversal_succeeds {store : WalletStore} {benefits : Table AwardBenefitRow} {id : Nat}
    {row : AwardBenefitRow} {leg : Leg} {input : PostEntryInput} (books : Books store benefits)
    (found : benefits.get? id = some row) (member : leg ∈ row.compensation.legs)
    (reversal : IsReversal row leg input) (unused : ¬ LegReversed store row leg)
    (bound : |store.balanceOf leg.walletId| + |leg.amount| ≤ maxSafeInteger) :
    ∃ entry next, WalletStore.postUnchecked input store = .ok (entry, next) := by
  obtain ⟨entry, entryFound, postedAs⟩ := (books.posted id row found leg member).entry
  obtain ⟨wallet, walletFound, sameEnterprise⟩ := (books.posted id row found leg member).wallet
  obtain ⟨live, lifetimeFits⟩ := books.wallets leg.walletId wallet walletFound
  have absent : store.entryFor input.enterpriseId input.idempotencyKey = none := by
    rw [reversal.enterprise, reversal.key, WalletStore.entryFor_eq_none, ← WalletStore.hasKey_iff]
    exact unused
  have owned : store.ownedWallet input.enterpriseId input.walletId = some wallet := by
    rw [reversal.enterprise, reversal.wallet, WalletStore.ownedWallet, walletFound]
    simp [sameEnterprise, live]
  have safeBalance : isSafeInteger (wallet.balance + input.amount) = true := by
    refine isSafeInteger_of_abs_le ?_
    rw [WalletStore.balanceOf, walletFound, Option.map_some, Option.getD_some] at bound
    rw [reversal.amount, ← Int.sub_eq_add_neg]
    exact Int.le_trans (abs_sub_le_add _ _) bound
  have safeAmount : isSafeInteger input.amount = true := by
    have readable := books.readable entry (Table.mem_rows_iff.mpr ⟨_, entryFound⟩)
    rw [reversal.amount, ← postedAs.amount]
    exact isSafeInteger_of_abs_le (by rw [abs_neg]; exact abs_le_of_isSafeInteger readable.1)
  have unreversed : store.alreadyReversed input.enterpriseId input.reversesEntryId = false := by
    rw [reversal.enterprise, reversal.original]
    exact books.not_alreadyReversed found member unused
  refine ⟨⟨store.entries.nextId, input.entry (wallet.balance + input.amount)⟩,
    store.record input wallet 0, ?_⟩
  have read : WalletStore.readEntry
      ⟨store.entries.nextId, input.entry (wallet.balance + input.amount)⟩ =
        .ok ⟨store.entries.nextId, input.entry (wallet.balance + input.amount)⟩ := by
    simp only [WalletStore.readEntry, PostEntryInput.entry, readBigint_of_safe safeAmount,
      readBigint_of_safe safeBalance]
    rfl
  simp only [WalletStore.postUnchecked, WalletStore.post, absent, owned, WalletStore.move,
    Bool.false_and, Bool.false_eq_true, if_false, Int.add_zero,
    writeBigint_of_fits (fitsBigint_of_safe safeBalance), writeBigint_of_fits lifetimeFits,
    unreversed]
  show (do
    let entry ← WalletStore.readEntry
      ⟨store.entries.nextId, input.entry (wallet.balance + input.amount)⟩
    pure (entry, store.record input wallet 0)) = _
  rw [read]
  rfl

theorem reverseLegs_succeeds {context : BenefitContext} {ruleId : Option Nat} {reasonCode : String}
    {legs : List Leg} {id : Nat} {row : AwardBenefitRow} {store : WalletStore}
    {benefits : Table AwardBenefitRow} (books : Books store benefits)
    (found : benefits.get? id = some row) (ofRow : ∀ leg ∈ legs, leg ∈ row.compensation.legs)
    (reverses : ∀ leg, IsReversal row leg (context.legReversal leg ruleId reasonCode))
    (bound : ∀ walletId, |store.balanceOf walletId| + grossOn walletId legs ≤ maxSafeInteger) :
    ∃ next, reverseLegs context ruleId reasonCode legs store = .ok ((), next) ∧
      ∀ walletId, |next.balanceOf walletId| ≤ |store.balanceOf walletId| + grossOn walletId legs := by
  induction legs generalizing store with
  | nil => exact ⟨store, rfl, fun walletId => by simp [grossOn]⟩
  | cons leg rest ih =>
      have head : ∃ entry middle, WalletStore.postUnchecked
          (context.legReversal leg ruleId reasonCode) store = .ok (entry, middle) := by
        by_cases reversed : LegReversed store row leg
        · have again := reverseLegs_again books reverses
            (fun other member => List.mem_singleton.mp member ▸ reversed)
          obtain ⟨⟨entry, middle⟩, posted, -⟩ := bind_eq_ok.mp again
          exact ⟨entry, middle, posted⟩
        · have here := bound leg.walletId
          rw [grossOn_cons, if_pos rfl] at here
          have restUp := grossOn_nonneg leg.walletId rest
          exact postReversal_succeeds books found (ofRow leg List.mem_cons_self) (reverses leg)
            reversed (by omega)
      obtain ⟨entry, middle, posted⟩ := head
      have one : reverseLegs context ruleId reasonCode [leg] store = .ok ((), middle) := by
        rw [reverseLegs, posted]
        rfl
      obtain ⟨booksHere, -, -⟩ := reverseLegs_ok books found
        (fun other member => ofRow other (List.mem_singleton.mp member ▸ List.mem_cons_self))
        reverses one
      have moved : ∀ walletId, |middle.balanceOf walletId| ≤
          |store.balanceOf walletId| + if leg.walletId = walletId then |leg.amount| else 0 := by
        intro walletId
        rcases WalletStore.post_cases posted with replay | records
        · rw [replay.unchanged]
          split
          · have up := abs_nonneg leg.amount
            omega
          · omega
        · rw [(Movement.of_records records).balances walletId]
          obtain ⟨-, ⟨wallet, -, -, -, rfl, rfl⟩, -, -⟩ := records
          have onWallet : ∀ balance, ((context.legReversal leg ruleId reasonCode).entry
              balance).walletId = leg.walletId := fun _ => (reverses leg).wallet
          have byAmount : ∀ balance, ((context.legReversal leg ruleId reasonCode).entry
              balance).amount = -leg.amount := fun _ => (reverses leg).amount
          rw [movedOn_cons, movedOn_nil, onWallet, byAmount, Int.add_zero]
          split
          · rw [← Int.sub_eq_add_neg]
            exact abs_sub_le_add _ _
          · rw [Int.add_zero, Int.add_zero]
      obtain ⟨next, ran, within⟩ := ih booksHere
        (fun other member => ofRow other (List.mem_cons_of_mem leg member)) (fun walletId => by
          have here := bound walletId
          rw [grossOn_cons] at here
          have step := moved walletId
          omega)
      refine ⟨next, ?_, fun walletId => ?_⟩
      · rw [reverseLegs, posted]
        exact ran
      · rw [grossOn_cons]
        have step := moved walletId
        have last := within walletId
        omega

def grossOfRows (walletId : Nat) (rows : List (Stored AwardBenefitRow)) : Int :=
  (rows.map fun benefit => grossOn walletId benefit.row.compensation.legs).sum

def awardGross (benefits : Table AwardBenefitRow) (awardId walletId : Nat) : Int :=
  benefits.total fun row =>
    if row.awardId = awardId then grossOn walletId row.compensation.legs else 0

theorem grossOn_reverse (walletId : Nat) (legs : List Leg) :
    grossOn walletId legs.reverse = grossOn walletId legs := by
  rw [grossOn, grossOn, List.map_reverse, List.sum_reverse]

theorem grossOfRows_nonneg (walletId : Nat) (rows : List (Stored AwardBenefitRow)) :
    0 ≤ grossOfRows walletId rows := by
  refine List.sum_nonneg fun amount member => ?_
  obtain ⟨benefit, -, rfl⟩ := List.mem_map.mp member
  exact grossOn_nonneg _ _

namespace BenefitDispatcher

theorem compensateRows_again {context : DispatchContext} {rows : List (Stored AwardBenefitRow)}
    {db : RewardDb} (books : Books db.store db.awardBenefits)
    (ofAward : ∀ benefit ∈ rows, benefit.row.enterpriseId = context.enterpriseId ∧
      benefit.row.awardId = context.awardId)
    (reversed : ∀ benefit ∈ rows, ∀ leg ∈ benefit.row.compensation.legs,
      LegReversed db.store benefit.row leg) :
    ∃ next, compensateRows context rows db = .ok ((), next) ∧ next.store = db.store := by
  induction rows generalizing db with
  | nil => exact ⟨db, rfl, rfl⟩
  | cons benefit rest ih =>
      obtain ⟨enterprise, award⟩ := ofAward benefit List.mem_cons_self
      obtain ⟨middle, undone, sameStore, sameBenefits⟩ := compensateBenefit_of_ok _
        (reverseLegs_again books (fun leg => legReversal_isReversal leg _ _ enterprise award)
          fun leg member => reversed benefit List.mem_cons_self leg (List.mem_reverse.mp member))
      have booksHere : Books middle.store middle.awardBenefits := by
        rwa [sameStore, sameBenefits]
      have booksMarked : Books (middle.markBenefitCompensated context.enterpriseId benefit.id).store
          (middle.markBenefitCompensated context.enterpriseId benefit.id).awardBenefits :=
        booksHere.mark context.enterpriseId benefit.id
      obtain ⟨next, ran, sameLast⟩ := ih booksMarked
        (fun other member => ofAward other (List.mem_cons_of_mem benefit member))
        (fun other member leg isLeg => by
          have before := reversed other (List.mem_cons_of_mem benefit member) leg isLeg
          rwa [← sameStore] at before)
      refine ⟨next, ?_, sameLast.trans sameStore⟩
      rw [compensateRows, undone]
      exact ran

theorem compensateRows_succeeds {context : DispatchContext}
    {rows : List (Stored AwardBenefitRow)} {db : RewardDb}
    (books : Books db.store db.awardBenefits)
    (listed : ∀ benefit ∈ rows, ∃ row, db.awardBenefits.get? benefit.id = some row ∧
      SameBenefit benefit.row row)
    (ofAward : ∀ benefit ∈ rows, benefit.row.enterpriseId = context.enterpriseId ∧
      benefit.row.awardId = context.awardId)
    (bound : ∀ walletId, |db.store.balanceOf walletId| + grossOfRows walletId rows ≤
      maxSafeInteger) :
    ∃ next, compensateRows context rows db = .ok ((), next) := by
  induction rows generalizing db with
  | nil => exact ⟨db, rfl⟩
  | cons benefit rest ih =>
      obtain ⟨row, found, same⟩ := listed benefit List.mem_cons_self
      obtain ⟨enterprise, award⟩ := ofAward benefit List.mem_cons_self
      have rowEnterprise := same.enterpriseId.trans enterprise
      have rowAward := same.awardId.trans award
      have split : ∀ walletId, grossOfRows walletId (benefit :: rest) =
          grossOn walletId row.compensation.legs + grossOfRows walletId rest := by
        intro walletId
        rw [same.compensation]
        simp [grossOfRows]
      obtain ⟨store, legsUndone, within⟩ : ∃ store,
          reverseLegs (context.benefit row.benefitIndex)
            (row.compensation.reversalRule (context.benefit row.benefitIndex))
            row.compensation.reversalReason row.compensation.legs.reverse db.store =
              .ok ((), store) ∧
          ∀ walletId, |store.balanceOf walletId| ≤
            |db.store.balanceOf walletId| + grossOn walletId row.compensation.legs.reverse := by
        refine reverseLegs_succeeds books found (fun leg member => List.mem_reverse.mp member)
          (fun leg => legReversal_isReversal leg _ _ rowEnterprise rowAward) fun walletId => ?_
        have here := bound walletId
        have restUp := grossOfRows_nonneg walletId rest
        rw [split] at here
        rw [grossOn_reverse]
        omega
      rw [same.benefitIndex, same.compensation] at legsUndone
      obtain ⟨middle, undone, storeHere, benefitsKept⟩ :=
        compensateBenefit_of_ok benefit.row.compensation legsUndone
      have marked := markBenefitCompensated_same middle context.enterpriseId benefit.id
      rw [benefitsKept] at marked
      have one : compensateRows context [benefit] db =
          .ok ((), middle.markBenefitCompensated context.enterpriseId benefit.id) := by
        rw [compensateRows, undone]
        rfl
      obtain ⟨booksMarked, -, -, -⟩ := compensateRows_ok books
        (fun other member => List.mem_singleton.mp member ▸ listed benefit List.mem_cons_self)
        (fun other member => List.mem_singleton.mp member ▸ ofAward benefit List.mem_cons_self) one
      obtain ⟨next, ran⟩ := ih booksMarked
        (fun other member => by
          obtain ⟨otherRow, otherFound, otherSame⟩ :=
            listed other (List.mem_cons_of_mem benefit member)
          obtain ⟨later, laterFound, laterSame⟩ := marked.1 other.id otherRow otherFound
          exact ⟨later, laterFound, otherSame.trans laterSame⟩)
        (fun other member => ofAward other (List.mem_cons_of_mem benefit member))
        (fun walletId => by
          have here := bound walletId
          have step := within walletId
          rw [split] at here
          rw [grossOn_reverse] at step
          rw [← storeHere] at step
          exact Int.le_trans (Int.add_le_add_right step _) (by omega))
      refine ⟨next, ?_⟩
      rw [compensateRows, undone]
      exact ran

theorem grossOfRows_listed {context : DispatchContext} {db : RewardDb}
    (ofEnterprise : ∀ id row, db.awardBenefits.get? id = some row →
      row.awardId = context.awardId → row.enterpriseId = context.enterpriseId) (walletId : Nat) :
    grossOfRows walletId (db.listAppliedBenefits context.enterpriseId context.awardId).reverse =
      awardGross db.awardBenefits context.awardId walletId := by
  have listed := Table.sum_select db.awardBenefits
    (fun benefit => benefit.enterpriseId == context.enterpriseId &&
      benefit.awardId == context.awardId)
    (fun row => grossOn walletId row.compensation.legs)
  rw [grossOfRows, List.map_reverse, List.sum_reverse, RewardDb.listAppliedBenefits,
    RewardDb.orderBy, ((List.perm_insertionSort _ _).map _).sum_eq, listed, awardGross]
  refine Table.total_congr fun id row found => ?_
  by_cases same : row.awardId = context.awardId
  · simp [same, ofEnterprise id row found same]
  · simp [same]

/-- A compensation goes through where no balance on its way passes the safe range. -/
theorem compensateAward_succeeds {context : DispatchContext} {db : RewardDb}
    (books : Books db.store db.awardBenefits)
    (ofEnterprise : ∀ id row, db.awardBenefits.get? id = some row →
      row.awardId = context.awardId → row.enterpriseId = context.enterpriseId)
    (bound : ∀ walletId, |db.store.balanceOf walletId| +
      awardGross db.awardBenefits context.awardId walletId ≤ maxSafeInteger) :
    ∃ next, compensateAward context db = .ok ((), next) := by
  refine compensateRows_succeeds books
    (fun benefit member => ⟨benefit.row,
      (mem_listAppliedBenefits.mp (List.mem_reverse.mp member)).1, .refl _⟩)
    (fun benefit member => (mem_listAppliedBenefits.mp (List.mem_reverse.mp member)).2)
    fun walletId => ?_
  rw [grossOfRows_listed ofEnterprise]
  exact bound walletId

/-- Once all legs of an award are reversed, compensating it changes no wallet and
adds no entry. -/
theorem compensateAward_again {context : DispatchContext} {db : RewardDb}
    (books : Books db.store db.awardBenefits)
    (reversed : AllReversed db.store db.awardBenefits context.awardId) :
    ∃ next, compensateAward context db = .ok ((), next) ∧ next.store = db.store := by
  refine compensateRows_again books
    (fun benefit member => (mem_listAppliedBenefits.mp (List.mem_reverse.mp member)).2)
    fun benefit member leg isLeg => ?_
  obtain ⟨found, -, award⟩ := mem_listAppliedBenefits.mp (List.mem_reverse.mp member)
  exact reversed benefit.id benefit.row found award leg isLeg

end BenefitDispatcher

end UnifiedService.Rewards
