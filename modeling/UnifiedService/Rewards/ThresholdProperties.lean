import UnifiedService.Rewards.SupersessionProperties
import UnifiedService.Rewards.LedgerProperties

/-! Threshold rules: the balance their awards fire on, what a conversion takes and gives,
and how many awards one crediting award leads to. -/

set_option autoImplicit false

namespace UnifiedService.Rewards

open UnifiedService.Library

/-! ### Conversions -/

/-- A conversion as it stands in the books: its benefit's rate so many times, a hundred at
most, and a burn that left the customer's points wallet at nothing or more. -/
structure Converted (store : WalletStore) (customerId : Nat) (stored : RewardBenefitInput)
    (pointsWalletId currencyWalletId : Nat) (burned granted : Int) (outEntryId inEntryId : Nat) :
    Prop where
  rate : ∃ burnPoints grantMinor currencyCode times,
    stored.config = .convertValue burnPoints grantMinor currencyCode ∧ 1 ≤ times ∧ times ≤ 100 ∧
      burned = times * burnPoints ∧ granted = times * grantMinor
  wallet : ∃ wallet, store.wallets.get? pointsWalletId = some wallet ∧
    wallet.customerId = some customerId ∧ wallet.walletKind = .points
  burn : ∃ entry, store.entries.get? outEntryId = some entry ∧ entry.walletId = pointsWalletId ∧
    entry.amount = -burned ∧ 0 ≤ entry.balanceAfter
  grant : ∃ entry, store.entries.get? inEntryId = some entry ∧ entry.walletId = currencyWalletId ∧
    entry.amount = granted

def Compensation.Converts (store : WalletStore) (customerId : Nat) (stored : RewardBenefitInput) :
    Compensation → Prop
  | .conversion pointsWalletId currencyWalletId burned granted outEntryId inEntryId =>
      Converted store customerId stored pointsWalletId currencyWalletId burned granted outEntryId
        inEntryId
  | .points _ _ _ | .minorUnits _ _ _ | .entitlement _ => True

theorem Compensation.Converts.move {store next : WalletStore} {added : List LedgerEntryRow}
    {customerId : Nat} {stored : RewardBenefitInput} {compensation : Compensation}
    (converts : compensation.Converts store customerId stored)
    (movement : Movement store added next) : compensation.Converts next customerId stored := by
  cases compensation with
  | points entryId walletId amount => trivial
  | minorUnits entryId walletId amount => trivial
  | entitlement entitlementId => trivial
  | conversion pointsWalletId currencyWalletId burned granted outEntryId inEntryId =>
      obtain ⟨rate, ⟨wallet, present, owner, kind⟩, ⟨out, outFound, taken⟩, into, intoFound,
        given⟩ := converts
      obtain ⟨later, there, same⟩ := movement.wallets _ _ present
      exact ⟨rate, ⟨later, there, same.customerId.trans owner, same.walletKind.trans kind⟩,
        ⟨out, movement.entry_kept outFound, taken⟩, into, movement.entry_kept intoFound, given⟩

theorem convertValue_of_resolved {intl : Intl} {stored : RewardBenefitInput}
    {basisPoints : Option Nat} {currency code : Option String} {burnPoints grantMinor : Int}
    (accepted : (resolveConfig stored basisPoints currency).parse intl =
      some (.convertValue burnPoints grantMinor code)) :
    ∃ currencyCode, stored.config = .convertValue burnPoints grantMinor currencyCode := by
  have parsed : ∀ {config : RewardBenefitConfig},
      config.parse intl = some (.convertValue burnPoints grantMinor code) →
      ∃ currencyCode, config = .convertValue burnPoints grantMinor currencyCode := by
    intro config accepted
    cases config with
    | grantPoints points => simp [RewardBenefitConfig.parse] at accepted
    | grantCurrency minorUnits currencyCode => simp [RewardBenefitConfig.parse] at accepted
    | issueEntitlement itemRef validForDays => simp [RewardBenefitConfig.parse] at accepted
    | convertValue burn grant currencyCode =>
        simp only [RewardBenefitConfig.parse, Option.ite_none_right_eq_some,
          Option.map_eq_some_iff, RewardBenefitConfig.convertValue.injEq] at accepted
        obtain ⟨-, _, -, rfl, rfl, -⟩ := accepted
        exact ⟨currencyCode, rfl⟩
  obtain ⟨currencyCode, resolved⟩ := parsed accepted
  have unscaled : ∀ {config : RewardBenefitConfig} {amount : Int},
      withAmount config amount = .convertValue burnPoints grantMinor currencyCode →
      config = .convertValue burnPoints grantMinor currencyCode := by
    intro config amount same
    cases config <;> first | exact same | cases same
  have defaulted : withDefaultCurrency stored.config currency =
      .convertValue burnPoints grantMinor currencyCode := by
    unfold resolveConfig at resolved
    dsimp only at resolved
    split at resolved
    · exact unscaled resolved
    · exact resolved
  cases config : stored.config with
  | grantPoints points => simp [config, withDefaultCurrency] at defaulted
  | grantCurrency minorUnits code => cases code <;> simp [config, withDefaultCurrency] at defaulted
  | issueEntitlement itemRef validForDays => simp [config, withDefaultCurrency] at defaulted
  | convertValue burn grant code =>
      cases code <;>
        · simp only [config, withDefaultCurrency, RewardBenefitConfig.convertValue.injEq] at defaulted
          obtain ⟨rfl, rfl, -⟩ := defaulted
          exact ⟨_, rfl⟩

theorem ensured_owner {store next : WalletStore} {input : CustomerWalletInput}
    {wallet : Stored RewardWalletRow}
    (ensured : WalletStore.ensureCustomerWallet input store = .ok (wallet, next)) :
    wallet.row.customerId = some input.customerId ∧ wallet.row.walletKind = input.walletKind := by
  unfold WalletStore.ensureCustomerWallet at ensured
  split at ensured
  · split at ensured
    · next existing found =>
        obtain ⟨read, same, done⟩ := bind_eq_ok.mp ensured
        obtain rfl := WalletStore.readWallet_ok same
        obtain ⟨rfl, rfl⟩ := Prod.mk.inj (Except.ok.inj done)
        have asked := (Table.find?_some found).2
        simp only [WalletStore.customerKey, Bool.and_eq_true, beq_iff_eq] at asked
        exact ⟨asked.1.1.1.1.2, asked.1.1.1.2⟩
    · obtain ⟨rfl, rfl⟩ := Prod.mk.inj (Except.ok.inj ensured)
      exact ⟨rfl, rfl⟩
  · contradiction

theorem Movement.of_post {store next : WalletStore} {input : PostEntryInput} {isEarn : Bool}
    {entry : Stored LedgerEntryRow}
    (posted : WalletStore.post input isEarn store = .ok (entry, next)) :
    ∃ added, Movement store added next := by
  rcases WalletStore.post_cases posted with replay | records
  · rw [replay.unchanged]
    exact ⟨[], .refl store⟩
  · exact ⟨_, .of_records records⟩

theorem applyBenefit_converts {intl : Intl} {stored : RewardBenefitInput}
    {basisPoints : Option Nat} {currency : Option String} {benefit : RewardBenefitConfig}
    {context : DispatchContext} {benefitIndex : Nat} {db next : RewardDb}
    {compensation : Compensation}
    (unused : ∀ role : LegRole, ¬ db.store.HasKey context.enterpriseId
      (benefitKey context.awardId benefitIndex ++ role.suffix))
    (accepted : (resolveConfig stored basisPoints currency).parse intl = some benefit)
    (applied : applyBenefit benefit (context.benefit benefitIndex) db = .ok (compensation, next)) :
    compensation.Converts next.store context.customerId stored := by
  have posted := (applyBenefit_applies unused applied).1.posted
  cases benefit with
  | grantPoints points =>
      obtain ⟨wallet, entry, middle, -, -, rfl⟩ := applyGrantPoints_ok applied
      trivial
  | grantCurrency minorUnits currencyCode =>
      obtain ⟨wallet, entry, middle, -, -, rfl⟩ := applyGrantCurrency_ok applied
      trivial
  | issueEntitlement itemRef validForDays =>
      obtain ⟨rfl, -⟩ := Prod.mk.inj (Except.ok.inj applied)
      trivial
  | convertValue burnPoints grantMinor currencyCode =>
      obtain ⟨written, config⟩ := convertValue_of_resolved accepted
      obtain ⟨pointsWallet, burned, currencyWallet, granted, first, second, third, times, once, -,
        most, ensured, debited, opened, credited, rfl⟩ := applyConvertValue_times applied
      obtain ⟨_, pointsOpened, rfl⟩ := onStore_ok ensured
      obtain ⟨_, burnPosted, rfl⟩ := onStore_ok debited
      obtain ⟨_, currencyOpened, rfl⟩ := onStore_ok opened
      obtain ⟨_, grantPosted, rfl⟩ := onStore_ok credited
      obtain ⟨opening, pointsFound, -⟩ := Movement.of_ensure pointsOpened
      obtain ⟨owner, kind⟩ := ensured_owner pointsOpened
      obtain ⟨more, crediting⟩ := Movement.of_post grantPosted
      have after := (Movement.of_ensure currencyOpened).1.trans crediting
      -- The key of the burn was unused before the wallet was opened, and still is.
      have ensuring : Applies context.enterpriseId context.awardId benefitIndex db.store [] _ :=
        (Applies.nil db.store).ensure pointsOpened
      have fresh := ensuring.unused (by simp) (unused .convertOut)
      rcases WalletStore.debitIfSufficient_cases burnPosted with
        ⟨refused, -, -⟩ | ⟨entry, same, replay | ⟨records, covered⟩⟩
      · contradiction
      · exact absurd (WalletStore.hasKey_iff.mpr replay.key_mem) fresh
      · obtain rfl := Option.some.inj same
        have burning := Movement.of_records records
        obtain ⟨opened, openedThere, sameOpened⟩ := burning.wallets _ _ pointsFound
        obtain ⟨last, lastThere, sameLast⟩ := after.wallets _ _ openedThere
        obtain ⟨out, outFound, asOut⟩ := (posted _ List.mem_cons_self).entry
        obtain ⟨into, intoFound, asInto⟩ :=
          (posted _ (List.mem_cons_of_mem _ List.mem_cons_self)).entry
        have written : burned.row = out := by
          obtain ⟨-, ⟨_, -, -, -, rfl, rfl⟩, -, -⟩ := records
          exact Option.some.inj
            ((after.entry_kept (Table.get?_insert_self _ _)).symm.trans outFound)
        refine ⟨⟨burnPoints, grantMinor, _, times, config, once, most, rfl, rfl⟩,
          ⟨last, lastThere, ?_, ?_⟩, ⟨out, outFound, asOut.wallet, asOut.amount, written ▸ covered⟩,
          into, intoFound, asInto.wallet, asInto.amount⟩
        · rw [sameLast.customerId, sameOpened.customerId, owner]
          rfl
        · rw [sameLast.walletKind, sameOpened.walletKind, kind]
          rfl

theorem applyBenefits_converts {intl : Intl} {input : GrantInput} {basisPoints : Option Nat}
    {index : Nat} {benefits : List RewardBenefitInput} {db next : RewardDb}
    (books : Books db.store db.awardBenefits)
    (applied : applyBenefits intl input basisPoints index benefits db = .ok ((), next)) {id : Nat}
    {row : AwardBenefitRow} (found : next.awardBenefits.get? id = some row) :
    db.awardBenefits.get? id = some row ∨ (row.awardId = input.awardId ∧ ∃ offset stored,
      benefits[offset]? = some stored ∧ row.benefitIndex = index + offset ∧
      row.compensation.Converts next.store input.customerId stored) := by
  induction benefits generalizing index db with
  | nil =>
      obtain ⟨-, rfl⟩ := Prod.mk.inj (Except.ok.inj applied)
      exact .inl found
  | cons stored rest ih =>
      simp only [applyBenefits] at applied
      split at applied
      · contradiction
      · next parsed accepted =>
          obtain ⟨⟨_, middle⟩, dispatched, remaining⟩ := bind_eq_ok.mp applied
          dsimp only at remaining
          have booksHere := (dispatcher_apply_books books dispatched).1
          rcases ih booksHere remaining with here | ⟨ofAward, offset, other, listed, at_, converts⟩
          · obtain ⟨added, movement⟩ := (applyBenefits_books booksHere remaining).2.1
            obtain ⟨compensation, handled, applying, recorded⟩ :=
              BenefitDispatcher.apply_ok dispatched
            obtain ⟨rfl, unused⟩ := recordBenefit_ok recorded
            rw [applyBenefit_awardBenefits applying] at unused
            have converts : compensation.Converts _ input.dispatch.customerId stored :=
              applyBenefit_converts (books.keys_unused unused) accepted applying
            rw [Table.get?_insert, applyBenefit_awardBenefits applying] at here
            split at here
            · obtain rfl := Option.some.inj here
              exact .inr ⟨rfl, 0, stored, rfl, rfl, converts.move movement⟩
            · exact .inl here
          · refine .inr ⟨ofAward, offset + 1, other, listed, ?_, converts⟩
            rw [at_, Nat.add_assoc, Nat.add_comm 1]

def AwardBenefitRow.Listed (db : RewardDb) (row : AwardBenefitRow) : Prop :=
  ∃ award rule stored, db.awards.get? row.awardId = some award ∧
    db.rules.get? award.ruleId = some rule ∧ rule.benefits[row.benefitIndex]? = some stored ∧
    row.compensation.Converts db.store award.customerId stored

def AllListed (db : RewardDb) : Prop :=
  ∀ id row, db.awardBenefits.get? id = some row → row.Listed db

theorem loaded_listed {db : RewardDb} {enterpriseId ruleId ruleVersion offset : Nat}
    {stored : RewardBenefitInput}
    (loaded : (db.loadBenefits enterpriseId ruleId ruleVersion)[offset]? = some stored) :
    ∃ rule, db.rules.get? ruleId = some rule ∧ rule.benefits[offset]? = some stored := by
  unfold RewardDb.loadBenefits at loaded
  split at loaded
  · next rule found =>
      split at loaded
      · exact ⟨rule, found, loaded⟩
      · simp at loaded
  · simp at loaded

/-! ### What a pending task knows -/

def RewardDb.Credited (db : RewardDb) (enterpriseId customerId awardId : Nat) : Prop :=
  ∃ award, db.awards.get? awardId = some award ∧ award.enterpriseId = enterpriseId ∧
    award.customerId = customerId ∧ (award.status = .granted ∨ award.status = .reversed)

/-- An event that carries a balance is about an award that credited it. -/
def RewardTriggerEvent.Sourced (db : RewardDb) (event : RewardTriggerEvent) : Prop :=
  event.pointsBalance ≠ none → event.sourceRefKind = "award" ∧
    db.Credited event.enterpriseId event.customerId event.sourceRefId

def ThresholdReady (db : RewardDb) : EngineTask → Prop
  | .findRules event => event.Sourced db
  | .evaluate rule event =>
      RuleRead db rule ∧ rule.row.enterpriseId = event.enterpriseId ∧
        ruleMatchesEvent rule event = true ∧ event.Sourced db
  | .offerBalanceThresholds offer => db.Credited offer.enterpriseId offer.customerId offer.awardId
  | .grantHeld award => ∃ row, db.awards.get? award.id = some row ∧ Later award.row row
  | .reverse award input =>
      ∃ row, db.awards.get? award.id = some row ∧ row.enterpriseId = input.enterpriseId
  | .claimDueHeldAwards | .findBySource _ | .manage _ => True

section Steps

variable {intl : Intl} {choice : EngineChoice} {db next : RewardDb} {task other : EngineTask}

theorem RewardDb.Credited.step {enterpriseId customerId awardId : Nat}
    (credited : db.Credited enterpriseId customerId awardId)
    (effect : StepEffect intl choice db task next) :
    next.Credited enterpriseId customerId awardId := by
  obtain ⟨award, found, sameEnterprise, sameCustomer, status⟩ := credited
  obtain ⟨later, there, -, settled⟩ := effect.settled found status
  obtain ⟨again, thereToo, same⟩ := effect.awards_later found
  obtain rfl := Option.some.inj (there.symm.trans thereToo)
  exact ⟨later, there, same.enterpriseId.trans sameEnterprise,
    same.customerId.trans sameCustomer, settled⟩

theorem ThresholdReady.ledger (ready : ThresholdReady db task) : LedgerReady db task := by
  cases task with
  | reverse award input => exact ready
  | findRules event | evaluate rule event | offerBalanceThresholds offer | claimDueHeldAwards
  | grantHeld award | findBySource input | manage call => trivial

theorem ThresholdReady.step (ready : ThresholdReady db other)
    (effect : StepEffect intl choice db task next) : ThresholdReady next other := by
  cases other with
  | findRules event =>
      exact fun carries => (ready carries).imp_right fun credited => credited.step effect
  | evaluate rule event =>
      obtain ⟨read, sameEnterprise, applies, sourced⟩ := ready
      exact ⟨read.grow effect.rules.2, sameEnterprise, applies,
        fun carries => (sourced carries).imp_right fun credited => credited.step effect⟩
  | offerBalanceThresholds offer =>
      have credited : db.Credited _ _ _ := ready
      exact credited.step effect
  | grantHeld award =>
      obtain ⟨row, found, same⟩ := ready
      obtain ⟨later, there, since⟩ := effect.awards_later found
      exact ⟨later, there, same.trans since⟩
  | reverse award input =>
      have waits : LedgerReady db (.reverse award input) := ready
      exact waits.step effect
  | claimDueHeldAwards => trivial
  | findBySource input => trivial
  | manage call => trivial

theorem offer_spawned {offer : ThresholdOffer} (ready : ThresholdReady db task)
    (spawned : .offerBalanceThresholds offer ∈ (engineStep intl db task choice).2) :
    (engineStep intl db task choice).1.Credited offer.enterpriseId offer.customerId
      offer.awardId := by
  have effect := engineStep_effect intl db task choice
  cases task with
  | evaluate rule event =>
      simp only [engineStep] at spawned effect ⊢
      split at spawned
      · next awardId after ran =>
          simp only [ran] at effect ⊢
          obtain rfl := EngineTask.offerBalanceThresholds.inj (List.mem_singleton.mp spawned)
          obtain ⟨rfl, award, found, granted⟩ :=
            (evaluateRule_effect (transact_eq_ok ran)).2 awardId rfl
          rcases effect.awards_origin found with
            ⟨before, present, -⟩ | ⟨-, _, _, same, isFor, -⟩
          · rw [Table.get?_nextId] at present
            contradiction
          · obtain ⟨rfl, rfl⟩ := EngineTask.evaluate.inj same
            exact ⟨award, found, isFor.enterpriseId, isFor.customerId, .inl granted⟩
      · contradiction
  | grantHeld listed =>
      simp only [engineStep] at spawned effect ⊢
      split at spawned
      · next triggerKind after ran =>
          simp only [ran] at effect ⊢
          obtain rfl := EngineTask.offerBalanceThresholds.inj (List.mem_singleton.mp spawned)
          obtain ⟨award, found, granted⟩ :=
            (grantHeldAward_effect (transact_eq_ok ran)).2 triggerKind rfl
          obtain ⟨row, present, same⟩ := ready
          obtain ⟨later, there, since⟩ := effect.awards_later present
          obtain rfl := Option.some.inj (found.symm.trans there)
          exact ⟨award, found, since.enterpriseId.trans same.enterpriseId,
            since.customerId.trans same.customerId, .inl granted⟩
      · contradiction
  | findRules event => simp [engineStep] at spawned
  | offerBalanceThresholds other =>
      simp only [engineStep] at spawned
      split at spawned
      · simp at spawned
      · contradiction
  | claimDueHeldAwards => simp [engineStep] at spawned
  | findBySource input => simp [engineStep] at spawned
  | reverse award input =>
      simp only [engineStep] at spawned
      split at spawned <;> contradiction
  | manage call => simp [engineStep] at spawned

theorem thresholdEvent_some {offer : ThresholdOffer} {event : RewardTriggerEvent}
    (raised : thresholdEvent db offer = some event) :
    event.enterpriseId = offer.enterpriseId ∧ event.customerId = offer.customerId ∧
      event.sourceRefKind = "award" ∧ event.sourceRefId = offer.awardId ∧
      ∃ wallet, db.store.findCustomerWallet
        { enterpriseId := offer.enterpriseId, customerId := offer.customerId
          walletKind := .points, currencyCode := none } = .ok (some wallet) ∧
        event.pointsBalance = some wallet.row.balance := by
  unfold thresholdEvent at raised
  split at raised
  · contradiction
  · split at raised
    · contradiction
    · split at raised
      · next wallet found =>
          split at raised
          · contradiction
          · obtain rfl := Option.some.inj raised
            exact ⟨rfl, rfl, rfl, rfl, wallet, found, rfl⟩
      · contradiction
      · contradiction

theorem ThresholdReady.spawned (ready : ThresholdReady db task)
    (added : other ∈ (engineStep intl db task choice).2) :
    ThresholdReady (engineStep intl db task choice).1 other := by
  have effect := engineStep_effect intl db task choice
  cases engineStep_spawned added with
  | evaluate event rule found sameEnterprise sameTrigger applies =>
      exact ⟨⟨rule.row.isActive, found⟩, sameEnterprise, applies, ready⟩
  | offerBalanceThresholds task offer sweeps seeks => exact offer_spawned ready added
  | findRules offer event raised =>
      obtain ⟨ofEnterprise, ofCustomer, kind, source, -⟩ := thresholdEvent_some raised
      have credited : db.Credited offer.enterpriseId offer.customerId offer.awardId := ready
      refine fun _ => ⟨kind, ?_⟩
      rw [ofEnterprise, ofCustomer, source]
      exact credited.step effect
  | grantHeld award found held => exact ⟨award.row, found, .refl award.row⟩
  | reverse input award found sameEnterprise => exact ⟨award.row, found, sameEnterprise⟩

/-! ### What every step keeps -/

/-- An award of a threshold rule names the award that credited its customer's points. -/
def ThresholdsSourced (db : RewardDb) : Prop :=
  ∀ id award rule minimum, db.awards.get? id = some award →
    db.rules.get? award.ruleId = some rule → rule.triggerConfig.minPointsBalance = some minimum →
    award.sourceRefKind = "award" ∧
      db.Credited award.enterpriseId award.customerId award.sourceRefId

theorem balance_of_matches {rule : Stored RewardRuleRow} {event : RewardTriggerEvent}
    {minimum : Nat} (applies : ruleMatchesEvent rule event = true)
    (threshold : rule.row.triggerConfig.minPointsBalance = some minimum) :
    ∃ balance, event.pointsBalance = some balance ∧ (minimum : Int) ≤ balance := by
  simp only [ruleMatchesEvent, matchesTriggerConfig, threshold, Bool.and_eq_true] at applies
  cases carried : event.pointsBalance with
  | none =>
      rw [carried] at applies
      exact absurd applies.2.2 Bool.false_ne_true
  | some balance =>
      rw [carried] at applies
      exact ⟨balance, rfl, of_decide_eq_true applies.2.2⟩

theorem RulesGrow.same {ruleId : Nat} {rule later : RewardRuleRow} (grow : RulesGrow db next)
    (found : db.rules.get? ruleId = some rule) (there : next.rules.get? ruleId = some later) :
    later.triggerConfig = rule.triggerConfig ∧ later.benefits = rule.benefits := by
  obtain ⟨isActive, switched⟩ := grow _ _ found
  obtain rfl := Option.some.inj (there.symm.trans switched)
  exact ⟨rfl, rfl⟩

theorem ThresholdsSourced.step (sourced : ThresholdsSourced db) (known : RulesKnown db)
    (ready : ThresholdReady db task) (effect : StepEffect intl choice db task next) :
    ThresholdsSourced next := by
  have grow := effect.rules.2
  intro id later rule minimum found ruleFound threshold
  rcases effect.awards_origin found with
    ⟨award, present, same⟩ | ⟨-, asked, event, rfl, isFor, -⟩
  · obtain ⟨before, beforeFound, -⟩ := known id award present
    have unchanged := (grow.same beforeFound (same.ruleId ▸ ruleFound)).1
    obtain ⟨kind, credited⟩ := sourced id award before minimum present beforeFound
      (unchanged ▸ threshold)
    rw [same.sourceRefKind, same.enterpriseId, same.customerId, same.sourceRefId]
    exact ⟨kind, credited.step effect⟩
  · obtain ⟨⟨isActive, read⟩, -, applies, carries⟩ := ready
    have unchanged := (grow.same read (isFor.ruleId ▸ ruleFound)).1
    obtain ⟨balance, carried, -⟩ := balance_of_matches applies (unchanged ▸ threshold)
    obtain ⟨kind, credited⟩ := carries (by simp [carried])
    rw [isFor.sourceRefKind, isFor.enterpriseId, isFor.customerId, isFor.sourceRefId]
    exact ⟨kind, credited.step effect⟩

theorem AwardBenefitRow.Listed.later {row other : AwardBenefitRow} (listed : row.Listed db)
    (same : SameBenefit row other) (effect : StepEffect intl choice db task next)
    (value : ValueStep db next) : other.Listed next := by
  obtain ⟨award, rule, stored, found, ruleFound, at_, converts⟩ := listed
  obtain ⟨later, there, since⟩ := effect.awards_later found
  obtain ⟨isActive, ruleLater⟩ := effect.rules.2 _ _ ruleFound
  obtain ⟨added, movement⟩ := value.movement
  refine ⟨later, _, stored, same.awardId ▸ there, since.ruleId ▸ ruleLater, ?_, ?_⟩
  · rw [same.benefitIndex]
    exact at_
  · rw [same.compensation, since.customerId]
    exact converts.move movement

theorem EvaluateEffect.listed {rule : Stored RewardRuleRow} {event : RewardTriggerEvent}
    (effect : EvaluateEffect intl rule event choice.factor db next)
    (books : Books db.store db.awardBenefits) {id : Nat} {row : AwardBenefitRow}
    (found : next.awardBenefits.get? id = some row) :
    db.awardBenefits.get? id = some row ∨ row.Listed next := by
  cases effect with
  | unchanged => exact .inl found
  | refused award isFor status fresh => exact .inl found
  | held award claimed isFor status unrecorded fresh taken =>
      obtain ⟨-, -, -, -, benefits, -⟩ := taken.frame
      exact .inl (benefits ▸ found)
  | worthless award claimed isFor status recorded fresh taken =>
      obtain ⟨-, -, -, -, benefits, -⟩ := taken.frame
      have released := (releaseFor_store claimed event.enterpriseId rule.id event.customerId
        db.awards.nextId (eventPeriod intl db rule.row event)).2
      exact .inl ((released.trans benefits) ▸ found)
  | granted award claimed held after input basisPoints isFor status recorded fresh taken grants
      value applied =>
      obtain ⟨awards, rules, -⟩ := taken.frame
      rw [← value.1, ← value.2] at books
      rcases applyBenefits_converts books applied found with
        old | ⟨ofAward, offset, stored, loaded, at_, converts⟩
      · exact .inl (value.2 ▸ old)
      · rw [grants.benefits] at loaded
        obtain ⟨written, ruleFound, listed⟩ := loaded_listed loaded
        refine .inr ⟨award, written, stored, ?_, ?_, ?_, ?_⟩
        · rw [ofAward, grants.awardId, ← awards]
          exact Table.get?_insert_self _ _
        · rw [isFor.ruleId]
          exact rules ▸ ruleFound
        · rw [at_, Nat.zero_add]
          exact listed
        · rw [isFor.customerId, ← grants.customerId]
          exact converts

theorem HeldEffect.listed {award : Stored RewardAwardRow}
    (effect : HeldEffect intl award choice.factor db next)
    (books : Books db.store db.awardBenefits) (ready : ThresholdReady db (.grantHeld award))
    {id : Nat} {row : AwardBenefitRow} (found : next.awardBenefits.get? id = some row) :
    db.awardBenefits.get? id = some row ∨ row.Listed next := by
  obtain ⟨-, -, change, updated, changed⟩ := effect.frame
  cases effect with
  | unchanged => exact .inl found
  | worthless held rule reasonCode =>
      have released := (releaseFor_store db award.row.enterpriseId award.row.ruleId
        award.row.customerId award.id award.row.periodKey).2
      exact .inl (released ▸ found)
  | granted held rule basisPoints after present sameEnterprise status applied =>
      obtain ⟨listedAs, there, same⟩ := ready
      obtain rfl := Option.some.inj (there.symm.trans present)
      rcases applyBenefits_converts books applied found with
        old | ⟨ofAward, offset, stored, loaded, at_, converts⟩
      · exact .inl old
      · obtain ⟨written, ruleFound, listed⟩ := loaded_listed loaded
        have since := changed listedAs present
        refine .inr ⟨change listedAs, written, stored, ?_, ?_, ?_, ?_⟩
        · rw [updated, ofAward, heldGrantInput_awardId, Table.get?_update_self, present,
            Option.map_some]
        · rw [since.ruleId, same.ruleId]
          exact ruleFound
        · rw [at_, Nat.zero_add]
          exact listed
        · rw [since.customerId, same.customerId]
          exact converts

theorem AllListed.step (listed : AllListed db) (ledger : LedgerHolds db)
    (ready : ThresholdReady db task) (effect : StepEffect intl choice db task next) :
    AllListed next := by
  have value := effect.value ledger.books ledger.paid ready.ledger
  have kept : ∀ {id old row}, db.awardBenefits.get? id = some old → SameBenefit old row →
      row.Listed next := fun found same => (listed _ _ found).later same effect value
  intro id row found
  cases effect with
  | unchanged => exact listed id row found
  | evaluated rule event _ evaluates =>
      exact (evaluates.listed ledger.books found).elim (fun old => kept old (.refl row))
        fun new => new
  | swept award _ sweeps =>
      exact (sweeps.listed ledger.books ready found).elim (fun old => kept old (.refl row))
        fun new => new
  | reversed award input _ reverses =>
      cases reverses with
      | unchanged => exact listed id row found
      | reversed after reversible compensated untouched =>
          by_cases granted : award.row.status = .granted
          · obtain ⟨-, -, same, -⟩ := BenefitDispatcher.compensateAward_ok ledger.books
              (fun id row found ofAward =>
                reversal_ofEnterprise ledger.paid ready id row found ofAward)
              (compensated granted)
            obtain ⟨old, oldFound, sameRow⟩ := same.2 id row found
            exact kept oldFound sameRow
          · obtain rfl := untouched granted
            exact kept found (.refl row)
  | managed call _ manages => exact kept (manages.awardBenefits ▸ found) (.refl row)

structure ThresholdHolds (db : RewardDb) : Prop where
  ledger : LedgerHolds db
  known : RulesKnown db
  unique : SourcesUnique db
  sourced : ThresholdsSourced db
  listed : AllListed db

theorem ThresholdHolds.step (holds : ThresholdHolds db) (ready : ThresholdReady db task)
    (effect : StepEffect intl choice db task next) : ThresholdHolds next where
  ledger := holds.ledger.step ready.ledger effect
  known := holds.known.step effect fun rule event same => by
    obtain rfl := same
    exact ⟨ready.1, ready.2.1⟩
  unique := holds.unique.step effect
  sourced := holds.sourced.step holds.known ready effect
  listed := holds.listed.step holds.ledger ready effect

end Steps

/-! ### Runs -/

def carriesNoBalance : Event EngineTask EngineCall EngineChoice → Bool
  | .opened (.onTriggerEvent event) => event.pointsBalance.isNone
  | .opened _ | .ran _ _ => true

def RewardDb.PointsReach (db : RewardDb) (enterpriseId customerId minimum : Nat) : Prop :=
  ∃ wallet, db.store.findCustomerWallet
    { enterpriseId, customerId, walletKind := .points, currencyCode := none } =
      .ok (some wallet) ∧ (minimum : Int) ≤ wallet.row.balance

section Runs

variable {intl : Intl} {businesses : Nat → Business} {firstSeenAt : Nat → Nat → Option Int}
  {programs : Table RewardProgramRow} {rules : Table RewardRuleRow}
  {start pool : Pool RewardDb EngineTask}

theorem threshold_holds
    (reached : (engine intl).PoolReaches (fun _ event => carriesNoBalance event = true)
      (.launch businesses firstSeenAt programs rules) pool) :
    ThresholdHolds pool.shared ∧
      ∀ process ∈ pool.processes, ∀ task ∈ process, ThresholdReady pool.shared task := by
  refine (engine intl).pool_invariant ThresholdHolds ThresholdReady ?_ ?_ ?_ reached
  · refine ⟨.launch .., fun id award found => ?_, fun first second one other found => ?_,
      fun id award rule minimum found => ?_, fun id row found => ?_⟩ <;>
      simp [RewardDb.launch] at found
  · intro db call _ permitted task member
    cases call with
    | onTriggerEvent event =>
        rw [List.mem_singleton.mp member]
        exact fun carries => absurd (Option.isNone_iff_eq_none.mp permitted) carries
    | grantDueAwards | reverseForDeletedContent input | manage call =>
        rw [List.mem_singleton.mp member]
        trivial
  · intro db task choice holds ready _
    have effect := engineStep_effect intl db task choice
    exact ⟨holds.step ready effect, fun _ added => ready.spawned added,
      fun _ waiting => waiting.step effect⟩

theorem awards_stay {allowed : RewardDb → Event EngineTask EngineCall EngineChoice → Prop}
    (reached : Relation.ReflTransGen ((engine intl).PoolStep allowed) start pool) {id : Nat}
    (absent : pool.shared.awards.get? id = none) : start.shared.awards.get? id = none := by
  induction reached with
  | refl => exact absent
  | tail before step ih =>
      refine ih ?_
      cases step with
      | opened call permitted => exact absent
      | @ran shared processes index task rest choice next permitted =>
          by_contra present
          obtain ⟨award, found⟩ := Option.ne_none_iff_exists'.mp present
          obtain ⟨later, there, -⟩ := (engineStep_effect intl shared task choice).awards_later found
          exact absurd (absent.symm.trans there) (by simp)

theorem balance_offered
    (reached : (engine intl).PoolReaches (fun _ event => carriesNoBalance event = true)
      (.launch businesses firstSeenAt programs rules) pool) {index : Nat} {rest : List EngineTask}
    {rule : Stored RewardRuleRow} {event : RewardTriggerEvent} (carries : event.pointsBalance ≠ none)
    (evaluating : pool.processes[index]? = some (.evaluate rule event :: rest)) :
    (engine intl).Found (fun _ event => carriesNoBalance event = true)
      (fun task db => ∃ offer, task = .offerBalanceThresholds offer ∧
        thresholdEvent db offer = some event) index
      ⟨.launch businesses firstSeenAt programs rules, []⟩ pool := by
  refine (engine intl).pool_carried
    (fun task => task = .findRules event ∨ ∃ rule, task = .evaluate rule event) _ ?_ ?_ ?_ reached
    evaluating List.mem_cons_self (.inr ⟨rule, rfl⟩)
  · intro db call permitted task member carried
    cases call with
    | onTriggerEvent opened =>
        rw [List.mem_singleton.mp member] at carried
        rcases carried with same | ⟨_, same⟩
        · obtain rfl := EngineTask.findRules.inj same
          exact carries (Option.isNone_iff_eq_none.mp permitted)
        · cases same
    | grantDueAwards | reverseForDeletedContent input | manage call =>
        rw [List.mem_singleton.mp member] at carried
        rcases carried with same | ⟨_, same⟩ <;> cases same
  · intro db task choice _ next added carried
    cases engineStep_spawned added with
    | evaluate asked candidate found sameEnterprise sameTrigger applies =>
        rcases carried with same | ⟨_, same⟩
        · cases same
        · obtain ⟨-, rfl⟩ := EngineTask.evaluate.inj same
          exact .inl (.inl rfl)
    | findRules offer raisedEvent raised =>
        rcases carried with same | ⟨_, same⟩
        · obtain rfl := EngineTask.findRules.inj same
          exact .inr ⟨offer, rfl, raised⟩
        · cases same
    | offerBalanceThresholds _ offer sweeps seeks =>
        rcases carried with same | ⟨_, same⟩ <;> cases same
    | grantHeld award found held => rcases carried with same | ⟨_, same⟩ <;> cases same
    | reverse input award found sameEnterprise =>
        rcases carried with same | ⟨_, same⟩ <;> cases same
  · intro process found
    simp at found

/-- The award of a threshold rule fired on a balance that was there: after its crediting
award was granted, and before it was written. -/
theorem threshold_offered
    (reached : (engine intl).PoolReaches (fun _ event => carriesNoBalance event = true)
      (.launch businesses firstSeenAt programs rules) pool) {id : Nat} {award : RewardAwardRow}
    {rule : RewardRuleRow} {minimum : Nat} (found : pool.shared.awards.get? id = some award)
    (ruleFound : pool.shared.rules.get? award.ruleId = some rule)
    (threshold : rule.triggerConfig.minPointsBalance = some minimum) :
    ∃ moment, (engine intl).PoolReaches (fun _ event => carriesNoBalance event = true)
        (.launch businesses firstSeenAt programs rules) moment ∧
      Relation.ReflTransGen ((engine intl).PoolStep fun _ event => carriesNoBalance event = true)
        moment pool ∧
      moment.shared.awards.get? id = none ∧
      moment.shared.Credited award.enterpriseId award.customerId award.sourceRefId ∧
      moment.shared.PointsReach award.enterpriseId award.customerId minimum := by
  induction reached generalizing award rule with
  | refl => simp [RewardDb.launch] at found
  | tail before step ih =>
      have took := step
      cases step with
      | opened call permitted =>
          obtain ⟨moment, first, last, fired⟩ := ih found ruleFound threshold
          exact ⟨moment, first, last.tail took, fired⟩
      | @ran shared processes index task rest choice next permitted =>
          obtain ⟨holds, ready⟩ := threshold_holds before
          have effect := engineStep_effect intl shared task choice
          have grow := effect.rules.2
          rcases effect.awards_origin found with
            ⟨old, present, same⟩ | ⟨rfl, asked, event, rfl, isFor, -⟩
          · obtain ⟨written, writtenFound, -⟩ := holds.known id old present
            have unchanged := (grow.same writtenFound (same.ruleId ▸ ruleFound)).1
            obtain ⟨moment, first, last, fired⟩ := ih present writtenFound (unchanged ▸ threshold)
            rw [same.enterpriseId, same.customerId, same.sourceRefId]
            exact ⟨moment, first, last.tail took, fired⟩
          · obtain ⟨⟨isActive, read⟩, -, applies, -⟩ :=
              ready _ (List.mem_of_getElem? next) _ List.mem_cons_self
            have unchanged := (grow.same read (isFor.ruleId ▸ ruleFound)).1
            obtain ⟨balance, carried, enough⟩ := balance_of_matches applies (unchanged ▸ threshold)
            obtain ⟨moment, _, behind, first, at_, ⟨offer, rfl, raised⟩, last⟩ :=
              balance_offered before (by simp [carried]) next
            obtain ⟨ofEnterprise, ofCustomer, -, source, wallet, walletFound, balanceRead⟩ :=
              thresholdEvent_some raised
            have offering : moment.shared.Credited offer.enterpriseId offer.customerId
                offer.awardId := (threshold_holds first).2 _ (List.mem_of_getElem? at_) _
              List.mem_cons_self
            obtain rfl := Option.some.inj (carried.symm.trans balanceRead)
            refine ⟨moment, first, last.tail took, awards_stay last (Table.get?_nextId _), ?_, ?_⟩
            · rw [isFor.enterpriseId, isFor.customerId, isFor.sourceRefId, ofEnterprise,
                ofCustomer, source]
              exact offering
            · rw [isFor.enterpriseId, isFor.customerId, ofEnterprise, ofCustomer]
              exact ⟨wallet, walletFound, enough⟩

/-- Whatever earns, offers and conversions interleave: every award of a threshold rule fired
on an offer of its crediting award, made when the customer's points were at least what the
rule asks for; every conversion burned and granted its rate, once to a hundred times, and left
the points at nothing or more; and a crediting award leads to one award of a threshold rule. -/
theorem threshold_rules_hold (intl : Intl) (businesses : Nat → Business)
    (firstSeenAt : Nat → Nat → Option Int) (programs : Table RewardProgramRow)
    (rules : Table RewardRuleRow) (pool : Pool RewardDb EngineTask)
    (reached : (engine intl).PoolReaches (fun _ event => carriesNoBalance event = true)
      (.launch businesses firstSeenAt programs rules) pool) :
    (∀ id award rule minimum, pool.shared.awards.get? id = some award →
      pool.shared.rules.get? award.ruleId = some rule →
      rule.triggerConfig.minPointsBalance = some minimum →
      ∃ moment, (engine intl).PoolReaches (fun _ event => carriesNoBalance event = true)
          (.launch businesses firstSeenAt programs rules) moment ∧
        Relation.ReflTransGen
          ((engine intl).PoolStep fun _ event => carriesNoBalance event = true) moment pool ∧
        moment.shared.awards.get? id = none ∧
        moment.shared.Credited award.enterpriseId award.customerId award.sourceRefId ∧
        moment.shared.PointsReach award.enterpriseId award.customerId minimum) ∧
    (∀ id row, pool.shared.awardBenefits.get? id = some row → row.Listed pool.shared) ∧
    ∀ first second one other rule minimum, pool.shared.awards.get? first = some one →
      pool.shared.awards.get? second = some other →
      pool.shared.rules.get? one.ruleId = some rule →
      rule.triggerConfig.minPointsBalance = some minimum → one.ruleId = other.ruleId →
      one.sourceRefId = other.sourceRefId → first = second := by
  have holds := (threshold_holds reached).1
  refine ⟨fun id award rule minimum found ruleFound threshold =>
    threshold_offered reached found ruleFound threshold, holds.listed, ?_⟩
  intro first second one other rule minimum oneFound otherFound ruleFound threshold sameRule
    sameSource
  obtain ⟨oneKind, crediting, found, ofEnterprise, ofCustomer, -⟩ :=
    holds.sourced first one rule minimum oneFound ruleFound threshold
  obtain ⟨otherKind, again, foundToo, ofEnterpriseToo, ofCustomerToo, -⟩ :=
    holds.sourced second other rule minimum otherFound (sameRule ▸ ruleFound) threshold
  obtain rfl := Option.some.inj (found.symm.trans (sameSource ▸ foundToo))
  exact holds.unique first second one other oneFound otherFound
    (ofEnterprise.symm.trans ofEnterpriseToo) sameRule (ofCustomer.symm.trans ofCustomerToo)
    (oneKind.trans otherKind.symm) sameSource

end Runs

/-! ### Two rules and one balance -/

def atAHundredPoints (priority : Nat) (burnPoints grantMinor : Int) : RewardRuleRow :=
  { onceForAComment 0 with
    triggerKind := .pointsBalanceReached
    triggerConfig := { minPointsBalance := some 100 }
    priority
    benefits := [{ config := .convertValue burnPoints grantMinor (some "EUR") }] }

/-- A hundred and fifty points for a comment, and two rules to convert them. -/
def launchThresholds : RewardDb :=
  .launch (fun _ => openBusiness) (fun _ _ => none) ⟨[runningProgram]⟩
    ⟨[{ onceForAComment 0 with benefits := [{ config := .grantPoints 150 }] },
      atAHundredPoints 0 100 500, atAHundredPoints 1 10 20]⟩

def commentOffered (steps : Nat) : List (EngineCall ⊕ (Nat × EngineChoice)) :=
  .inl (.onTriggerEvent (commentEvent 1)) :: List.replicate steps (.inr (0, later))

/-- The first rule's conversion: a hundred points for five euros, and fifty are left. -/
theorem threshold_rules_hold_first_conversion :
    ∃ pool : Pool RewardDb EngineTask,
      (∃ row rule, pool.shared.awards.get? 1 = some row ∧ row.status = .granted ∧
        pool.shared.rules.get? row.ruleId = some rule ∧
        rule.triggerConfig.minPointsBalance = some 100) ∧
      (∀ id row, pool.shared.awardBenefits.get? id = some row → row.Listed pool.shared) := by
  have runs : ((engine fixedIntl).playPool (fun _ event => carriesNoBalance event)
      ⟨launchThresholds, []⟩ (commentOffered 5)).any (fun pool =>
        (pool.shared.awards.get? 1).any fun row => row.status == .granted &&
          (pool.shared.rules.get? row.ruleId).any fun rule =>
            rule.triggerConfig.minPointsBalance == some 100) = true := by
    decide +kernel
  obtain ⟨pool, played, done⟩ := (Option.any_eq_true _ _).mp runs
  obtain ⟨row, found, fired⟩ := (Option.any_eq_true _ _).mp done
  rw [Bool.and_eq_true, beq_iff_eq] at fired
  obtain ⟨rule, ruleFound, threshold⟩ := (Option.any_eq_true _ _).mp fired.2
  have reached := (engine fixedIntl).playPool_sound (fun _ _ passed => passed) played
  exact ⟨pool, ⟨row, rule, found, fired.1, ruleFound, beq_iff_eq.mp threshold⟩,
    (threshold_rules_hold fixedIntl _ _ _ _ pool reached).2.1⟩

def GrantsOnBalance (db next : RewardDb) : Prop :=
  ∀ id award rule minimum, next.awards.get? id = some award → award.status = .granted →
    (∀ before, db.awards.get? id = some before → before.status ≠ .granted) →
    next.rules.get? award.ruleId = some rule →
    rule.triggerConfig.minPointsBalance = some minimum →
    db.PointsReach award.enterpriseId award.customerId minimum

def balanceRead (answer : Except RewardError (Option (Stored RewardWalletRow))) : Option Int :=
  (answer.toOption.bind id).map (·.row.balance)

def firesOnFifty (db : RewardDb) : List (List EngineTask) → Bool
  | [task :: _] =>
      (db.awards.get? 2).isNone &&
        (((engineStep fixedIntl db task later).1.awards.get? 2).any fun award =>
          award.status == .granted && award.enterpriseId == 1 && award.customerId == 7 &&
            ((engineStep fixedIntl db task later).1.rules.get? award.ruleId).any fun rule =>
              rule.triggerConfig.minPointsBalance == some 100) &&
        balanceRead (db.store.findCustomerWallet
          { enterpriseId := 1, customerId := 7, walletKind := .points
            currencyCode := none }) == some 50
  | _ => false

/-- Both rules are offered a hundred and fifty points. The first burns a hundred, and the
second fires on the fifty that are left. -/
theorem second_rule_fires_on_fifty :
    ¬ ∀ (intl : Intl) (businesses : Nat → Business) (firstSeenAt : Nat → Nat → Option Int)
      (programs : Table RewardProgramRow) (rules : Table RewardRuleRow)
      (pool : Pool RewardDb EngineTask),
      (engine intl).PoolReaches (fun _ event => carriesNoBalance event = true)
        (.launch businesses firstSeenAt programs rules) pool →
      ∀ process task rest choice, process ∈ pool.processes → process = task :: rest →
        GrantsOnBalance pool.shared (engineStep intl pool.shared task choice).1 := by
  intro claimed
  have fires : ((engine fixedIntl).playPool (fun _ event => carriesNoBalance event)
      ⟨launchThresholds, []⟩ (commentOffered 5)).any (fun pool =>
        firesOnFifty pool.shared pool.processes) = true := by
    decide +kernel
  obtain ⟨pool, played, fired⟩ := (Option.any_eq_true _ _).mp fires
  have reached := (engine fixedIntl).playPool_sound (fun _ _ passed => passed) played
  unfold firesOnFifty at fired
  split at fired
  · next task rest only =>
      simp only [Bool.and_eq_true] at fired
      obtain ⟨⟨fresh, granted⟩, balance⟩ := fired
      obtain ⟨award, found, granted⟩ := (Option.any_eq_true _ _).mp granted
      simp only [Bool.and_eq_true, beq_iff_eq] at granted
      obtain ⟨⟨⟨status, enterprise⟩, customer⟩, asks⟩ := granted
      obtain ⟨rule, ruleFound, threshold⟩ := (Option.any_eq_true _ _).mp asks
      obtain ⟨wallet, walletFound, enough⟩ := claimed fixedIntl _ _ _ _ pool reached _ task rest
        later (only ▸ List.mem_cons_self) rfl 2 award rule 100 found status
        (fun before present => by
          rw [Option.isNone_iff_eq_none.mp fresh] at present
          contradiction) ruleFound (beq_iff_eq.mp threshold)
      rw [enterprise, customer] at walletFound
      rw [walletFound] at balance
      have fifty : wallet.row.balance = 50 := Option.some.inj (beq_iff_eq.mp balance)
      omega
  · exact absurd fired Bool.false_ne_true

end UnifiedService.Rewards
