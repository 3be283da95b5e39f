import UnifiedService.Rewards.Benefits
import UnifiedService.Rewards.WalletProperties

/-! Applying and compensating benefits moves value and nothing else. -/

set_option autoImplicit false

namespace UnifiedService.Rewards

open UnifiedService.Library

/-- Everything but wallets, ledger, applied benefits and entitlements is as it was. -/
structure ValueOnly (db next : RewardDb) : Prop where
  businesses : next.businesses = db.businesses
  firstSeenAt : next.firstSeenAt = db.firstSeenAt
  programs : next.programs = db.programs
  rules : next.rules = db.rules
  awards : next.awards = db.awards
  counters : next.counters = db.counters
  slotMoves : next.slotMoves = db.slotMoves

namespace ValueOnly

theorem refl (db : RewardDb) : ValueOnly db db := ⟨rfl, rfl, rfl, rfl, rfl, rfl, rfl⟩

theorem trans {first second third : RewardDb} (earlier : ValueOnly first second)
    (later : ValueOnly second third) : ValueOnly first third where
  businesses := later.businesses.trans earlier.businesses
  firstSeenAt := later.firstSeenAt.trans earlier.firstSeenAt
  programs := later.programs.trans earlier.programs
  rules := later.rules.trans earlier.rules
  awards := later.awards.trans earlier.awards
  counters := later.counters.trans earlier.counters
  slotMoves := later.slotMoves.trans earlier.slotMoves

end ValueOnly

theorem onStore_ok {Value : Type} {statement : Statement WalletStore RewardError Value}
    {db next : RewardDb} {value : Value}
    (success : RewardDb.onStore statement db = .ok (value, next)) :
    ∃ store, statement db.store = .ok (value, store) ∧ next = { db with store } := by
  obtain ⟨⟨result, store⟩, ran, done⟩ := bind_eq_ok.mp success
  obtain ⟨rfl, rfl⟩ := Prod.mk.inj (Except.ok.inj done)
  exact ⟨store, ran, rfl⟩

theorem onStore_valueOnly {Value : Type} {statement : Statement WalletStore RewardError Value}
    {db next : RewardDb} {value : Value}
    (success : RewardDb.onStore statement db = .ok (value, next)) : ValueOnly db next := by
  obtain ⟨store, -, rfl⟩ := onStore_ok success
  exact ⟨rfl, rfl, rfl, rfl, rfl, rfl, rfl⟩

theorem applyGrantPoints_ok {points : Int} {context : BenefitContext} {db next : RewardDb}
    {compensation : Compensation}
    (applied : applyGrantPoints points context db = .ok (compensation, next)) :
    ∃ wallet entry middle, ensureWallet context .points none db = .ok (wallet, middle) ∧
      RewardDb.onStore (WalletStore.credit (context.entryInput wallet.id .earn points ""))
        middle = .ok (entry, next) ∧
      compensation = .points entry.id wallet.id points := by
  obtain ⟨⟨wallet, middle⟩, ensured, rest⟩ := bind_eq_ok.mp applied
  obtain ⟨⟨entry, after⟩, credited, done⟩ := bind_eq_ok.mp rest
  obtain ⟨rfl, rfl⟩ := Prod.mk.inj (Except.ok.inj done)
  exact ⟨wallet, entry, middle, ensured, credited, rfl⟩

theorem applyGrantCurrency_ok {minorUnits : Int} {currencyCode : Option String}
    {context : BenefitContext} {db next : RewardDb} {compensation : Compensation}
    (applied : applyGrantCurrency minorUnits currencyCode context db = .ok (compensation, next)) :
    ∃ wallet entry middle, ensureWallet context .currency currencyCode db = .ok (wallet, middle) ∧
      RewardDb.onStore (WalletStore.credit (context.entryInput wallet.id .earn minorUnits ""))
        middle = .ok (entry, next) ∧
      compensation = .minorUnits entry.id wallet.id minorUnits := by
  cases currencyCode with
  | none => contradiction
  | some currencyCode =>
      obtain ⟨⟨wallet, middle⟩, ensured, rest⟩ := bind_eq_ok.mp applied
      obtain ⟨⟨entry, after⟩, credited, done⟩ := bind_eq_ok.mp rest
      obtain ⟨rfl, rfl⟩ := Prod.mk.inj (Except.ok.inj done)
      exact ⟨wallet, entry, middle, ensured, credited, rfl⟩

theorem applyConvertValue_times {burnPoints grantMinor : Int} {currencyCode : Option String}
    {context : BenefitContext} {db next : RewardDb} {compensation : Compensation}
    (applied : applyConvertValue burnPoints grantMinor currencyCode context db =
      .ok (compensation, next)) :
    ∃ pointsWallet burned currencyWallet granted first second third times,
      1 ≤ times ∧ times ≤ pointsWallet.row.balance / burnPoints ∧
      times ≤ maxConversionsPerApply ∧
      ensureWallet context .points none db = .ok (pointsWallet, first) ∧
      RewardDb.onStore (WalletStore.debitIfSufficient
        (context.entryInput pointsWallet.id .convertOut (-(times * burnPoints)) ":out")) first =
          .ok (some burned, second) ∧
      ensureWallet context .currency currencyCode second = .ok (currencyWallet, third) ∧
      RewardDb.onStore (WalletStore.credit
        (context.entryInput currencyWallet.id .convertIn (times * grantMinor) ":in")) third =
          .ok (granted, next) ∧
      compensation = .conversion pointsWallet.id currencyWallet.id (times * burnPoints)
        (times * grantMinor) burned.id granted.id := by
  cases currencyCode with
  | none => contradiction
  | some currencyCode =>
      obtain ⟨⟨pointsWallet, first⟩, ensured, rest⟩ := bind_eq_ok.mp applied
      dsimp only at rest
      split at rest
      · contradiction
      · next enough =>
          obtain ⟨⟨burned, second⟩, debited, rest⟩ := bind_eq_ok.mp rest
          cases burned with
          | none => contradiction
          | some burned =>
              obtain ⟨⟨currencyWallet, third⟩, opened, rest⟩ := bind_eq_ok.mp rest
              obtain ⟨⟨granted, after⟩, credited, done⟩ := bind_eq_ok.mp rest
              obtain ⟨rfl, rfl⟩ := Prod.mk.inj (Except.ok.inj done)
              exact ⟨pointsWallet, burned, currencyWallet, granted, first, second, third, _,
                Int.not_lt.mp enough, Int.min_le_left _ _, Int.min_le_right _ _, ensured,
                debited, opened, credited, rfl⟩

theorem applyConvertValue_ok {burnPoints grantMinor : Int} {currencyCode : Option String}
    {context : BenefitContext} {db next : RewardDb} {compensation : Compensation}
    (applied : applyConvertValue burnPoints grantMinor currencyCode context db =
      .ok (compensation, next)) :
    ∃ pointsWallet burned currencyWallet granted first second third totalBurn totalGrant,
      ensureWallet context .points none db = .ok (pointsWallet, first) ∧
      RewardDb.onStore (WalletStore.debitIfSufficient
        (context.entryInput pointsWallet.id .convertOut (-totalBurn) ":out")) first =
          .ok (some burned, second) ∧
      ensureWallet context .currency currencyCode second = .ok (currencyWallet, third) ∧
      RewardDb.onStore (WalletStore.credit
        (context.entryInput currencyWallet.id .convertIn totalGrant ":in")) third =
          .ok (granted, next) ∧
      compensation = .conversion pointsWallet.id currencyWallet.id totalBurn totalGrant
        burned.id granted.id := by
  obtain ⟨pointsWallet, burned, currencyWallet, granted, first, second, third, times, -, -, -,
    posted⟩ := applyConvertValue_times applied
  exact ⟨pointsWallet, burned, currencyWallet, granted, first, second, third, _, _, posted⟩

theorem applyBenefit_valueOnly {benefit : RewardBenefitConfig} {context : BenefitContext}
    {db next : RewardDb} {compensation : Compensation}
    (applied : applyBenefit benefit context db = .ok (compensation, next)) :
    ValueOnly db next := by
  cases benefit with
  | grantPoints points =>
      obtain ⟨_, _, _, ensured, credited, -⟩ := applyGrantPoints_ok applied
      exact (onStore_valueOnly ensured).trans (onStore_valueOnly credited)
  | grantCurrency minorUnits currencyCode =>
      obtain ⟨_, _, _, ensured, credited, -⟩ := applyGrantCurrency_ok applied
      exact (onStore_valueOnly ensured).trans (onStore_valueOnly credited)
  | issueEntitlement itemRef validForDays =>
      obtain ⟨-, rfl⟩ := Prod.mk.inj (Except.ok.inj applied)
      exact ⟨rfl, rfl, rfl, rfl, rfl, rfl, rfl⟩
  | convertValue burnPoints grantMinor currencyCode =>
      obtain ⟨_, _, _, _, _, _, _, _, _, ensured, debited, opened, credited, -⟩ :=
        applyConvertValue_ok applied
      exact (((onStore_valueOnly ensured).trans (onStore_valueOnly debited)).trans
        (onStore_valueOnly opened)).trans (onStore_valueOnly credited)

/-- A handler moves value; recording what it did is the dispatcher's. -/
theorem applyBenefit_awardBenefits {benefit : RewardBenefitConfig} {context : BenefitContext}
    {db next : RewardDb} {compensation : Compensation}
    (applied : applyBenefit benefit context db = .ok (compensation, next)) :
    next.awardBenefits = db.awardBenefits := by
  have lifted : ∀ {Value : Type} {statement : Statement WalletStore RewardError Value}
      {db next : RewardDb} {value : Value}, RewardDb.onStore statement db = .ok (value, next) →
      next.awardBenefits = db.awardBenefits := by
    intro Value statement db next value success
    obtain ⟨store, -, rfl⟩ := onStore_ok success
    rfl
  cases benefit with
  | grantPoints points =>
      obtain ⟨_, _, _, ensured, credited, -⟩ := applyGrantPoints_ok applied
      exact (lifted credited).trans (lifted ensured)
  | grantCurrency minorUnits currencyCode =>
      obtain ⟨_, _, _, ensured, credited, -⟩ := applyGrantCurrency_ok applied
      exact (lifted credited).trans (lifted ensured)
  | issueEntitlement itemRef validForDays =>
      obtain ⟨-, rfl⟩ := Prod.mk.inj (Except.ok.inj applied)
      rfl
  | convertValue burnPoints grantMinor currencyCode =>
      obtain ⟨_, _, _, _, _, _, _, _, _, ensured, debited, opened, credited, -⟩ :=
        applyConvertValue_ok applied
      exact (lifted credited).trans ((lifted opened).trans ((lifted debited).trans (lifted ensured)))

theorem recordBenefit_ok {row : AwardBenefitRow} {db next : RewardDb}
    (recorded : RewardDb.recordBenefit row db = .ok ((), next)) :
    next = { db with awardBenefits := db.awardBenefits.insert row } ∧
      ∀ id other, db.awardBenefits.get? id = some other →
        ¬ (other.enterpriseId = row.enterpriseId ∧ other.awardId = row.awardId ∧
          other.benefitIndex = row.benefitIndex) := by
  unfold RewardDb.recordBenefit at recorded
  split at recorded
  · contradiction
  · split at recorded
    · contradiction
    · next _ unused =>
        obtain ⟨-, rfl⟩ := Prod.mk.inj (Except.ok.inj recorded)
        refine ⟨rfl, fun id other found => ?_⟩
        rw [Bool.not_eq_true, Option.isSome_eq_false_iff, Option.isNone_iff_eq_none,
          Table.find?_eq_none] at unused
        have different := unused id other found
        simp only [Bool.and_eq_false_iff, beq_eq_false_iff_ne] at different
        tauto

namespace BenefitDispatcher

/-- What a successful dispatch did: the handler's movements, then the record. -/
theorem apply_ok {benefit : RewardBenefitConfig} {context : DispatchContext} {index : Nat}
    {db next : RewardDb} (applied : apply benefit context index db = .ok ((), next)) :
    ∃ compensation middle,
      applyBenefit benefit (context.benefit index) db = .ok (compensation, middle) ∧
      RewardDb.recordBenefit
        { enterpriseId := context.enterpriseId
          awardId := context.awardId
          benefitIndex := index
          status := .applied
          compensation
          idempotencyKey := benefitKey context.awardId index } middle = .ok ((), next) := by
  obtain ⟨⟨compensation, middle⟩, handled, recorded⟩ := bind_eq_ok.mp applied
  exact ⟨compensation, middle, handled, recorded⟩

theorem apply_valueOnly {benefit : RewardBenefitConfig} {context : DispatchContext} {index : Nat}
    {db next : RewardDb} (applied : apply benefit context index db = .ok ((), next)) :
    ValueOnly db next := by
  obtain ⟨_, _, handled, recorded⟩ := apply_ok applied
  obtain ⟨rfl, -⟩ := recordBenefit_ok recorded
  exact (applyBenefit_valueOnly handled).trans ⟨rfl, rfl, rfl, rfl, rfl, rfl, rfl⟩

end BenefitDispatcher

theorem compensateBenefit_valueOnly {compensation : Compensation} {context : BenefitContext}
    {db next : RewardDb}
    (compensated : compensateBenefit compensation context db = .ok ((), next)) :
    ValueOnly db next := by
  cases compensation with
  | points entryId walletId points | minorUnits entryId walletId minorUnits =>
      obtain ⟨⟨_, after⟩, posted, done⟩ := bind_eq_ok.mp compensated
      obtain ⟨-, rfl⟩ := Prod.mk.inj (Except.ok.inj done)
      exact onStore_valueOnly posted
  | entitlement entitlementId =>
      obtain ⟨-, rfl⟩ := Prod.mk.inj (Except.ok.inj compensated)
      exact ⟨rfl, rfl, rfl, rfl, rfl, rfl, rfl⟩
  | conversion pointsWalletId currencyWalletId burnedPoints grantedMinor outEntryId inEntryId =>
      obtain ⟨⟨_, middle⟩, taken, rest⟩ := bind_eq_ok.mp compensated
      obtain ⟨⟨_, after⟩, returned, done⟩ := bind_eq_ok.mp rest
      obtain ⟨-, rfl⟩ := Prod.mk.inj (Except.ok.inj done)
      exact (onStore_valueOnly taken).trans (onStore_valueOnly returned)

namespace BenefitDispatcher

theorem compensateRows_valueOnly {context : DispatchContext}
    {benefits : List (Stored AwardBenefitRow)} {db next : RewardDb}
    (compensated : compensateRows context benefits db = .ok ((), next)) : ValueOnly db next := by
  induction benefits generalizing db with
  | nil =>
      obtain ⟨-, rfl⟩ := Prod.mk.inj (Except.ok.inj compensated)
      exact .refl db
  | cons benefit rest ih =>
      obtain ⟨⟨_, middle⟩, undone, remaining⟩ := bind_eq_ok.mp compensated
      dsimp only at remaining
      have marked : ValueOnly middle
          (middle.markBenefitCompensated context.enterpriseId benefit.id) :=
        ⟨rfl, rfl, rfl, rfl, rfl, rfl, rfl⟩
      exact (compensateBenefit_valueOnly undone).trans (marked.trans (ih remaining))

end BenefitDispatcher

end UnifiedService.Rewards
