import Mathlib.Data.List.Forall2
import UnifiedService.Rewards.CapProperties
import UnifiedService.Rewards.GrantProperties
import UnifiedService.Rewards.Rules

/-! Where benefits land. Two are told apart by a key when the rule is written, and the
wallet is chosen at grant time, when the business's currency fills in what was left out. -/

set_option autoImplicit false

namespace UnifiedService.Rewards

open UnifiedService.Library

/-! ### Places and keys -/

inductive Place where
  | points
  | currency (code : String)
  deriving DecidableEq, Repr

def Place.walletInput (enterpriseId customerId : Nat) : Place → CustomerWalletInput
  | .points => { enterpriseId, customerId, walletKind := .points, currencyCode := none }
  | .currency code =>
      { enterpriseId, customerId, walletKind := .currency, currencyCode := some code }

def RewardBenefitConfig.place? : RewardBenefitConfig → Option Place
  | .grantPoints _ => some .points
  | .grantCurrency _ currencyCode => currencyCode.map .currency
  | .issueEntitlement _ _ => none
  | .convertValue _ _ _ => none

def RewardBenefitConfig.item? : RewardBenefitConfig → Option String
  | .issueEntitlement itemRef _ => some itemRef
  | .grantPoints _ => none
  | .grantCurrency _ _ => none
  | .convertValue _ _ _ => none

def RewardBenefitConfig.placeIn (intl : Intl) (businessCurrency : Option String) :
    RewardBenefitConfig → Option Place
  | .grantCurrency _ none => (businessCurrency.bind (parseCurrencyCode intl)).map .currency
  | other => other.place?

def RewardBenefitConfig.writtenPlace (intl : Intl) : RewardBenefitConfig → Option Place
  | .grantPoints _ => some .points
  | .grantCurrency _ currencyCode => (currencyCode.bind (parseCurrencyCode intl)).map .currency
  | .issueEntitlement _ _ => none
  | .convertValue _ _ _ => none

/-- A `grant_currency` that leaves its currency to the business. -/
def RewardBenefitConfig.leavesCurrency : RewardBenefitConfig → Bool
  | .grantCurrency _ none => true
  | _ => false

/-- A `grant_currency` that states the currency the business has. -/
def RewardBenefitConfig.repeatsCurrency (intl : Intl) (businessCurrency : Option String) :
    RewardBenefitConfig → Bool
  | .grantCurrency _ (some code) => businessCurrency.bind (parseCurrencyCode intl) == some code
  | _ => false

def statesCurrencyTwice (intl : Intl) (businessCurrency : Option String)
    (benefits : List RewardBenefitInput) : Bool :=
  benefits.any (fun benefit => benefit.config.leavesCurrency) &&
    benefits.any fun benefit => benefit.config.repeatsCurrency intl businessCurrency

structure Contracted (intl : Intl) (benefits : List RewardBenefitInput) : Prop where
  parsed : ∀ benefit ∈ benefits, benefit.config.parse intl = some benefit.config
  distinct : benefitsAreDistinct benefits = true

section Keys

variable {intl : Intl} {businessCurrency : Option String} {benefits : List RewardBenefitInput}

theorem parse_config {benefit : RewardBenefitInput}
    (accepted : (benefit.parse intl == some benefit) = true) :
    benefit.config.parse intl = some benefit.config := by
  rw [beq_iff_eq, RewardBenefitInput.parse, Option.ite_none_right_eq_some,
    Option.map_eq_some_iff] at accepted
  obtain ⟨-, config, parsed, same⟩ := accepted
  rw [parsed, ← congrArg RewardBenefitInput.config same]

theorem CreateRewardProgramInput.contracted {form : CreateRewardProgramInput}
    (accepted : form.accepted intl = true) : Contracted intl form.benefits := by
  simp only [CreateRewardProgramInput.accepted, wellTyped, programRefinements, List.all_cons,
    Bool.and_eq_true] at accepted
  obtain ⟨typed, -, -, -, -, -, -, -, -, -, -, -, distinct, -⟩ := accepted
  constructor
  · intro benefit member
    exact parse_config (List.all_eq_true.mp typed.1.1.1.1.2 benefit member)
  · exact distinct

theorem CreateRewardRuleInput.contracted {form : CreateRewardRuleInput}
    (accepted : form.accepted intl = true) : Contracted intl form.benefits := by
  simp only [CreateRewardRuleInput.accepted, wellTyped, ruleRefinements, List.all_cons,
    Bool.and_eq_true] at accepted
  obtain ⟨typed, -, -, -, -, -, -, -, distinct, -⟩ := accepted
  constructor
  · intro benefit member
    exact parse_config (List.all_eq_true.mp typed.2 benefit member)
  · exact distinct

theorem Contracted.empty : Contracted intl [] := ⟨by simp, rfl⟩

/-- Of two payloads with different keys that pay to one place, one leaves its currency to the
business and the other states it. -/
theorem same_place {first second : RewardBenefitConfig} {place : Place}
    (keys : benefitEffectKey first ≠ benefitEffectKey second)
    (here : first.placeIn intl businessCurrency = some place)
    (there : second.placeIn intl businessCurrency = some place) :
    (first.leavesCurrency = true ∧ second.repeatsCurrency intl businessCurrency = true) ∨
      second.leavesCurrency = true ∧ first.repeatsCurrency intl businessCurrency = true := by
  cases first with
  | issueEntitlement _ _ | convertValue _ _ _ => cases here
  | grantPoints points =>
      obtain rfl := Option.some.inj here
      cases second with
      | issueEntitlement _ _ | convertValue _ _ _ => cases there
      | grantPoints other => exact absurd rfl keys
      | grantCurrency minorUnits code =>
          cases code with
          | none =>
              obtain ⟨_, -, other⟩ := Option.map_eq_some_iff.mp there
              cases other
          | some code => cases there
  | grantCurrency minorUnits code =>
      cases second with
      | issueEntitlement _ _ | convertValue _ _ _ => cases there
      | grantPoints points =>
          obtain rfl := Option.some.inj there
          cases code with
          | none =>
              obtain ⟨_, -, other⟩ := Option.map_eq_some_iff.mp here
              cases other
          | some code => cases here
      | grantCurrency other otherCode =>
          cases code with
          | none =>
              obtain ⟨currency, filled, rfl⟩ := Option.map_eq_some_iff.mp here
              cases otherCode with
              | none => exact absurd rfl keys
              | some otherCode =>
                  obtain rfl := Place.currency.inj (Option.some.inj there)
                  exact .inl ⟨rfl, beq_iff_eq.mpr filled⟩
          | some code =>
              obtain rfl := Option.some.inj here
              cases otherCode with
              | none =>
                  obtain ⟨currency, filled, same⟩ := Option.map_eq_some_iff.mp there
                  obtain rfl := Place.currency.inj same
                  exact .inr ⟨rfl, beq_iff_eq.mpr filled⟩
              | some otherCode =>
                  obtain rfl := Place.currency.inj (Option.some.inj there)
                  exact absurd rfl keys

theorem leaves_and_repeats {first second : RewardBenefitConfig}
    (leaves : first.leavesCurrency = true)
    (repeats : second.repeatsCurrency intl businessCurrency = true) :
    first ≠ second ∧ ∃ place, first.placeIn intl businessCurrency = some place ∧
      second.placeIn intl businessCurrency = some place := by
  unfold RewardBenefitConfig.leavesCurrency at leaves
  unfold RewardBenefitConfig.repeatsCurrency at repeats
  split at leaves
  · split at repeats
    · next code =>
        refine ⟨by simp, .currency code, ?_, rfl⟩
        rw [RewardBenefitConfig.placeIn, beq_iff_eq.mp repeats]
        rfl
    · contradiction
  · contradiction

/-- Benefits with different keys pay to different places, but for one currency stated twice. -/
theorem places_nodup_iff (distinct : benefitsAreDistinct benefits = true) :
    (benefits.filterMap fun benefit => benefit.config.placeIn intl businessCurrency).Nodup ↔
      statesCurrencyTwice intl businessCurrency benefits = false := by
  have keys := List.pairwise_map.mp (of_decide_eq_true distinct)
  rw [List.Nodup, List.pairwise_filterMap, statesCurrencyTwice, ← Bool.not_eq_true,
    Bool.and_eq_true, List.any_eq_true, List.any_eq_true]
  constructor
  · rintro apart ⟨⟨first, member, leaves⟩, second, other, repeats⟩
    obtain ⟨different, place, here, there⟩ := leaves_and_repeats leaves repeats
    have symmetric : Std.Symm fun first second : RewardBenefitInput =>
        ∀ place, first.config.placeIn intl businessCurrency = some place → ∀ elsewhere,
          second.config.placeIn intl businessCurrency = some elsewhere → place ≠ elsewhere :=
      ⟨fun _ _ apart place here elsewhere there same => apart _ there _ here same.symm⟩
    exact apart.forall member other (fun same => different (congrArg _ same)) place here
      place there rfl
  · intro once
    refine keys.imp_of_mem fun member other key place here elsewhere there same => ?_
    subst same
    rcases same_place key here there with ⟨leaves, repeats⟩ | ⟨leaves, repeats⟩
    · exact once ⟨⟨_, member, leaves⟩, _, other, repeats⟩
    · exact once ⟨⟨_, other, leaves⟩, _, member, repeats⟩

theorem items_nodup (distinct : benefitsAreDistinct benefits = true) :
    (benefits.filterMap fun benefit => benefit.config.item?).Nodup := by
  have keys := List.pairwise_map.mp (of_decide_eq_true distinct)
  rw [List.Nodup, List.pairwise_filterMap]
  refine keys.imp fun {first second} key item here other there same => key ?_
  subst same
  cases one : first.config <;> cases two : second.config <;> rw [one] at here <;>
    rw [two] at there <;> cases here <;> cases there
  rfl

end Keys

/-! ### Wallets by place -/

namespace WalletStore

def Addresses (store : WalletStore) (input : CustomerWalletInput) (id : Nat) : Prop :=
  (store.wallets.find? (customerKey input)).map (·.id) = some id

def KeepsAddresses (store next : WalletStore) : Prop :=
  ∀ input id, store.Addresses input id → next.Addresses input id

theorem KeepsAddresses.refl (store : WalletStore) : store.KeepsAddresses store :=
  fun _ _ addressed => addressed

theorem KeepsAddresses.trans {first second third : WalletStore}
    (earlier : first.KeepsAddresses second) (later : second.KeepsAddresses third) :
    first.KeepsAddresses third :=
  fun input id addressed => later input id (earlier input id addressed)

section Stores

variable {store next : WalletStore}

theorem KeepsAddresses.insert (row : RewardWalletRow) :
    store.KeepsAddresses { store with wallets := store.wallets.insert row } := by
  intro input id addressed
  obtain ⟨stored, found, same⟩ := Option.map_eq_some_iff.mp addressed
  rw [Addresses, Table.find?_insert_of_some row found, Option.map_some, same]

/-- A movement changes balances, and none of the columns a wallet is asked for by. -/
theorem Records.addresses {input : PostEntryInput} {lifetimeDelta : Int}
    {entry : Stored LedgerEntryRow} (records : store.Records input lifetimeDelta entry next) :
    store.KeepsAddresses next := by
  obtain ⟨-, ⟨wallet, -, -, -, -, rfl⟩, -, -⟩ := records
  intro asked id addressed
  have moved : (store.record input wallet lifetimeDelta).wallets =
      store.wallets.updateWhere (fun other _ => other == input.walletId && true) _ :=
    (Table.updateWhere_id store.wallets input.walletId (fun _ => true) _).symm
  rw [Addresses, moved, Table.find?_updateWhere, Option.map_map]
  · exact addressed
  · intro row
    rfl

theorem credit_addresses {input : PostEntryInput} {entry : Stored LedgerEntryRow}
    (credited : credit input store = .ok (entry, next)) : store.KeepsAddresses next := by
  rcases post_cases credited with replay | records
  · rw [replay.unchanged]
    exact .refl store
  · exact records.addresses

theorem debit_addresses {input : PostEntryInput} {entry : Option (Stored LedgerEntryRow)}
    (debited : debitIfSufficient input store = .ok (entry, next)) :
    store.KeepsAddresses next := by
  rcases debitIfSufficient_cases debited with ⟨-, rfl, -⟩ | ⟨written, -, replay | ⟨records, -⟩⟩
  · exact .refl _
  · rw [replay.unchanged]
    exact .refl store
  · exact records.addresses

theorem ensureCustomerWallet_addresses {input : CustomerWalletInput}
    {wallet : Stored RewardWalletRow}
    (ensured : ensureCustomerWallet input store = .ok (wallet, next)) :
    store.KeepsAddresses next ∧ next.Addresses input wallet.id := by
  unfold ensureCustomerWallet at ensured
  split at ensured
  · split at ensured
    · next existing found =>
        obtain ⟨read, same, done⟩ := bind_eq_ok.mp ensured
        obtain rfl := readWallet_ok same
        obtain ⟨rfl, rfl⟩ := Prod.mk.inj (Except.ok.inj done)
        exact ⟨.refl _, by rw [Addresses, found, Option.map_some]⟩
    · next absent =>
        obtain ⟨rfl, rfl⟩ := Prod.mk.inj (Except.ok.inj ensured)
        refine ⟨.insert _, ?_⟩
        rw [Addresses, Table.find?_insert_new absent (by simp [customerKey]), Option.map_some]
  · contradiction

theorem addresses_place (store : WalletStore) (enterpriseId customerId : Nat) :
    Relator.BiUnique fun (place : Place) id =>
      store.Addresses (place.walletInput enterpriseId customerId) id := by
  constructor
  · intro first second id here there
    obtain ⟨one, found, rfl⟩ := Option.map_eq_some_iff.mp here
    obtain ⟨other, there, same⟩ := Option.map_eq_some_iff.mp there
    obtain ⟨present, asks⟩ := Table.find?_some found
    obtain ⟨again, asksToo⟩ := Table.find?_some there
    rw [same, present] at again
    obtain row := Option.some.inj again
    simp only [customerKey, Bool.and_eq_true, beq_iff_eq] at asks asksToo
    rw [← row] at asksToo
    have kinds := asks.1.1.1.2.symm.trans asksToo.1.1.1.2
    have codes := asks.1.1.2.symm.trans asksToo.1.1.2
    cases first <;> cases second
    · rfl
    · cases kinds
    · cases kinds
    · exact congrArg Place.currency codes
  · intro place one other here there
    exact Option.some.inj (here.symm.trans there)

end Stores

end WalletStore

/-! ### What a grant lands on -/

def Compensation.creditedWallet : Compensation → Option Nat
  | .points _ walletId _ => some walletId
  | .minorUnits _ walletId _ => some walletId
  | .entitlement _ => none
  | .conversion _ _ _ _ _ _ => none

/-- The wallets that benefits of the granting kinds credited between two databases. -/
def creditedWallets (db next : RewardDb) : List Nat :=
  (next.awardBenefits.rows.drop db.awardBenefits.rows.length).filterMap
    (·.compensation.creditedWallet)

def issuedItems (db next : RewardDb) : List String :=
  (next.entitlements.rows.drop db.entitlements.rows.length).map (·.itemRef)

/-- No wallet was credited twice, and no item issued twice. -/
def LandsApart (db next : RewardDb) : Prop :=
  (creditedWallets db next).Nodup ∧ (issuedItems db next).Nodup

instance (db next : RewardDb) : Decidable (LandsApart db next) :=
  inferInstanceAs (Decidable (_ ∧ _))

def WalletOf (enterpriseId customerId : Nat) (store : WalletStore) (place : Place) (id : Nat) :
    Prop :=
  store.Addresses (place.walletInput enterpriseId customerId) id

structure Lands (enterpriseId customerId : Nat) (places : List Place) (items : List String)
    (db next : RewardDb) : Prop where
  wallets : ∃ added, next.awardBenefits.rows = db.awardBenefits.rows ++ added ∧
    List.Forall₂ (WalletOf enterpriseId customerId next.store) places
      (added.filterMap (·.compensation.creditedWallet))
  issues : ∃ issued, next.entitlements.rows = db.entitlements.rows ++ issued ∧
    issued.map (·.itemRef) = items
  addresses : db.store.KeepsAddresses next.store

namespace Lands

variable {enterpriseId customerId : Nat} {places later : List Place} {items others : List String}
  {db middle next : RewardDb}

theorem refl (db : RewardDb) : Lands enterpriseId customerId [] [] db db :=
  ⟨⟨[], (List.append_nil _).symm, .nil⟩, ⟨[], (List.append_nil _).symm, rfl⟩, .refl db.store⟩

theorem trans (first : Lands enterpriseId customerId places items db middle)
    (second : Lands enterpriseId customerId later others middle next) :
    Lands enterpriseId customerId (places ++ later) (items ++ others) db next := by
  obtain ⟨added, rows, wallets⟩ := first.wallets
  obtain ⟨more, moreRows, moreWallets⟩ := second.wallets
  obtain ⟨issued, entitlements, same⟩ := first.issues
  obtain ⟨further, moreEntitlements, sameToo⟩ := second.issues
  have kept := wallets.imp fun place id addressed => second.addresses _ id addressed
  refine ⟨⟨added ++ more, ?_, ?_⟩, ⟨issued ++ further, ?_, ?_⟩,
    first.addresses.trans second.addresses⟩
  · rw [moreRows, rows, List.append_assoc]
  · rw [List.filterMap_append]
    exact List.rel_append kept moreWallets
  · rw [moreEntitlements, entitlements, List.append_assoc]
  · rw [List.map_append, same, sameToo]

theorem apart_iff (lands : Lands enterpriseId customerId places items db next) :
    LandsApart db next ↔ places.Nodup ∧ items.Nodup := by
  obtain ⟨added, rows, wallets⟩ := lands.wallets
  obtain ⟨issued, entitlements, same⟩ := lands.issues
  have unique := next.store.addresses_place enterpriseId customerId
  rw [LandsApart, creditedWallets, issuedItems, rows, List.drop_left, entitlements,
    List.drop_left, same]
  exact and_congr_left' (List.rel_nodup unique wallets).symm

end Lands

section Grants

variable {intl : Intl} {input : GrantInput} {basisPoints : Option Nat} {db next : RewardDb}

theorem applyBenefit_lands {config : RewardBenefitConfig} {context : BenefitContext}
    {compensation : Compensation}
    (applied : applyBenefit config context db = .ok (compensation, next)) :
    db.store.KeepsAddresses next.store ∧
      List.Forall₂ (WalletOf context.enterpriseId context.customerId next.store)
        config.place?.toList compensation.creditedWallet.toList ∧
      ∃ issued, next.entitlements.rows = db.entitlements.rows ++ issued ∧
        issued.map (·.itemRef) = config.item?.toList := by
  cases config with
  | grantPoints points =>
      obtain ⟨wallet, entry, middle, ensured, credited, rfl⟩ := applyGrantPoints_ok applied
      obtain ⟨opened, ensuring, rfl⟩ := onStore_ok ensured
      obtain ⟨paid, crediting, rfl⟩ := onStore_ok credited
      obtain ⟨kept, addressed⟩ := WalletStore.ensureCustomerWallet_addresses ensuring
      have later := WalletStore.credit_addresses crediting
      exact ⟨kept.trans later, .cons (later _ _ addressed) .nil, [],
        (List.append_nil _).symm, rfl⟩
  | grantCurrency minorUnits currencyCode =>
      obtain ⟨wallet, entry, middle, ensured, credited, rfl⟩ := applyGrantCurrency_ok applied
      obtain ⟨opened, ensuring, rfl⟩ := onStore_ok ensured
      obtain ⟨paid, crediting, rfl⟩ := onStore_ok credited
      obtain ⟨kept, addressed⟩ := WalletStore.ensureCustomerWallet_addresses ensuring
      have later := WalletStore.credit_addresses crediting
      cases currencyCode with
      | none => contradiction
      | some code =>
          exact ⟨kept.trans later, .cons (later _ _ addressed) .nil, [],
            (List.append_nil _).symm, rfl⟩
  | issueEntitlement itemRef validForDays =>
      obtain ⟨rfl, rfl⟩ := Prod.mk.inj (Except.ok.inj applied)
      exact ⟨.refl _, .nil, [_], rfl, rfl⟩
  | convertValue burnPoints grantMinor currencyCode =>
      obtain ⟨_, _, _, _, _, _, _, _, _, ensured, debited, opened, credited, rfl⟩ :=
        applyConvertValue_ok applied
      obtain ⟨first, ensuring, rfl⟩ := onStore_ok ensured
      obtain ⟨second, debiting, rfl⟩ := onStore_ok debited
      obtain ⟨third, opening, rfl⟩ := onStore_ok opened
      obtain ⟨fourth, crediting, rfl⟩ := onStore_ok credited
      have burned := (WalletStore.ensureCustomerWallet_addresses ensuring).1.trans
        (WalletStore.debit_addresses debiting)
      have earned := (WalletStore.ensureCustomerWallet_addresses opening).1.trans
        (WalletStore.credit_addresses crediting)
      exact ⟨burned.trans earned, .nil, [], (List.append_nil _).symm, rfl⟩

theorem dispatch_lands {config : RewardBenefitConfig} {context : DispatchContext} {index : Nat}
    (applied : BenefitDispatcher.apply config context index db = .ok ((), next)) :
    Lands context.enterpriseId context.customerId config.place?.toList config.item?.toList
      db next := by
  obtain ⟨compensation, middle, handled, recorded⟩ := BenefitDispatcher.apply_ok applied
  obtain ⟨addresses, wallets, issues⟩ := applyBenefit_lands handled
  obtain ⟨rfl, -⟩ := recordBenefit_ok recorded
  have before := applyBenefit_awardBenefits handled
  refine ⟨⟨_, by rw [Table.insert, before], ?_⟩, issues, addresses⟩
  rw [List.filterMap_cons, List.filterMap_nil]
  revert wallets
  cases compensation.creditedWallet <;> exact id

theorem parseOptionalCurrency_ok {code parsed : Option String}
    (accepted : parseOptionalCurrency intl code = some parsed) :
    parsed = code.bind (parseCurrencyCode intl) := by
  cases code with
  | none => exact (Option.some.inj accepted).symm
  | some code =>
      obtain ⟨currency, same, rfl⟩ := Option.map_eq_some_iff.mp accepted
      exact same.symm

theorem parse_place {payload config : RewardBenefitConfig}
    (accepted : payload.parse intl = some config) :
    config.place? = payload.writtenPlace intl ∧ config.item? = payload.item?.map jsTrim := by
  cases payload with
  | grantPoints points =>
      simp only [RewardBenefitConfig.parse, Option.ite_none_right_eq_some,
        Option.some.injEq] at accepted
      obtain ⟨-, rfl⟩ := accepted
      exact ⟨rfl, rfl⟩
  | grantCurrency minorUnits code =>
      simp only [RewardBenefitConfig.parse, Option.ite_none_right_eq_some,
        Option.map_eq_some_iff] at accepted
      obtain ⟨-, parsed, read, rfl⟩ := accepted
      rw [RewardBenefitConfig.writtenPlace, ← parseOptionalCurrency_ok read]
      exact ⟨rfl, rfl⟩
  | issueEntitlement itemRef validForDays =>
      simp only [RewardBenefitConfig.parse, Option.ite_none_right_eq_some,
        Option.some.injEq] at accepted
      obtain ⟨-, rfl⟩ := accepted
      exact ⟨rfl, rfl⟩
  | convertValue burnPoints grantMinor code =>
      simp only [RewardBenefitConfig.parse, Option.ite_none_right_eq_some,
        Option.map_eq_some_iff] at accepted
      obtain ⟨-, parsed, read, rfl⟩ := accepted
      exact ⟨rfl, rfl⟩

/-- A stored payload that parses to itself pays, resolved and parsed, where it pays to once
the business's currency is filled in. -/
theorem resolved_place {stored : RewardBenefitInput} {config : RewardBenefitConfig}
    {businessCurrency : Option String} (itself : stored.config.parse intl = some stored.config)
    (accepted : (resolveConfig stored basisPoints businessCurrency).parse intl = some config) :
    config.place? = stored.config.placeIn intl businessCurrency ∧
      config.item? = stored.config.item? := by
  obtain ⟨own, ownItem⟩ := parse_place itself
  obtain ⟨place, item⟩ := parse_place accepted
  -- The factor sets the amount, and where a payload pays to is not in its amount.
  have scaled : resolveConfig stored basisPoints businessCurrency =
      withDefaultCurrency stored.config businessCurrency ∨
      ∃ amount, resolveConfig stored basisPoints businessCurrency =
        withAmount (withDefaultCurrency stored.config businessCurrency) amount := by
    unfold resolveConfig
    dsimp only
    split
    · exact .inr ⟨_, rfl⟩
    · exact .inl rfl
  cases payload : stored.config with
  | grantPoints points =>
      rw [payload] at scaled
      rcases scaled with same | ⟨amount, same⟩ <;> rw [same] at place item <;> exact ⟨place, item⟩
  | grantCurrency minorUnits code =>
      rw [payload] at scaled own
      cases code with
      | none =>
          rcases scaled with same | ⟨amount, same⟩ <;> rw [same] at place item <;>
            exact ⟨place, item⟩
      | some code =>
          rcases scaled with same | ⟨amount, same⟩ <;> rw [same] at place item <;>
            exact ⟨place.trans own.symm, item⟩
  | issueEntitlement itemRef validForDays =>
      rw [payload] at scaled ownItem
      rcases scaled with same | ⟨amount, same⟩ <;> rw [same] at place item <;>
        exact ⟨place, item.trans ownItem.symm⟩
  | convertValue burnPoints grantMinor code =>
      rw [payload] at scaled
      cases code <;> rcases scaled with same | ⟨amount, same⟩ <;> rw [same] at place item <;>
        exact ⟨place, item⟩

theorem applyBenefits_lands {index : Nat} {benefits : List RewardBenefitInput}
    (itself : ∀ benefit ∈ benefits, benefit.config.parse intl = some benefit.config)
    (applied : applyBenefits intl input basisPoints index benefits db = .ok ((), next)) :
    Lands input.enterpriseId input.customerId
      (benefits.filterMap fun benefit => benefit.config.placeIn intl input.defaultCurrencyCode)
      (benefits.filterMap fun benefit => benefit.config.item?) db next := by
  induction benefits generalizing index db with
  | nil =>
      obtain ⟨-, rfl⟩ := Prod.mk.inj (Except.ok.inj applied)
      exact .refl db
  | cons stored rest ih =>
      simp only [applyBenefits] at applied
      split at applied
      · contradiction
      · next config accepted =>
          obtain ⟨⟨_, middle⟩, dispatched, remaining⟩ := bind_eq_ok.mp applied
          obtain ⟨place, item⟩ := resolved_place (itself stored List.mem_cons_self) accepted
          have here := dispatch_lands dispatched
          have later := ih (fun benefit member => itself benefit (List.mem_cons_of_mem _ member))
            remaining
          rw [place, item] at here
          have both := here.trans later
          rw [List.filterMap_cons, List.filterMap_cons]
          revert both
          cases stored.config.placeIn intl input.defaultCurrencyCode <;>
            cases stored.config.item? <;> exact id

theorem grant_lands {factor : FactorResult} {credited : Bool}
    (contracted : Contracted intl input.benefits)
    (granted : grant intl input factor db = .ok (credited, next)) :
    LandsApart db next ↔ input.worthless factor = true ∨
      statesCurrencyTwice intl input.defaultCurrencyCode input.benefits = false := by
  rcases grant_cases granted with ⟨worthless, -, reasonCode, rfl⟩ |
    ⟨worth, basisPoints, after, applied, rfl⟩
  · refine iff_of_true ?_ (.inl worthless)
    have kept : ∀ periodKey, (releaseFor db input.enterpriseId input.rule.id input.customerId
        input.awardId periodKey).awardBenefits = db.awardBenefits ∧
        (releaseFor db input.enterpriseId input.rule.id input.customerId input.awardId
          periodKey).entitlements = db.entitlements := by
      intro periodKey
      cases periodKey <;> exact ⟨rfl, rfl⟩
    have nothing : ∀ next : RewardDb, next.awardBenefits = db.awardBenefits →
        next.entitlements = db.entitlements → LandsApart db next := by
      intro next benefits entitlements
      rw [LandsApart, creditedWallets, issuedItems, benefits, entitlements, List.drop_length,
        List.drop_length]
      exact ⟨List.nodup_nil, List.nodup_nil⟩
    exact nothing _ (kept _).1 (kept _).2
  · have lands := applyBenefits_lands contracted.parsed applied
    have apart : LandsApart db (after.markGranted input.enterpriseId input.awardId basisPoints
        input.periodKey) ↔ LandsApart db after := Iff.rfl
    rw [apart, lands.apart_iff, places_nodup_iff contracted.distinct, worth]
    exact ⟨fun both => .inr both.1,
      fun either => ⟨either.resolve_left Bool.false_ne_true, items_nodup contracted.distinct⟩⟩

end Grants

/-! ### Every rule that was saved -/

def ManagementCall.parsed (intl : Intl) : ManagementCall → Bool
  | .createProgram _ input => input.accepted intl
  | .updateProgram _ _ input => input.accepted intl
  | .setProgramStatus _ _ _ => true
  | .setRuleActive _ _ _ => true
  | .adjustBalance _ _ => true

/-- What any order of steps leaves: of the engine, of rules added on their own, and of
businesses that change their settings. -/
inductive Served (intl : Intl) : RewardDb → Prop where
  | launched (businesses : Nat → Business) (firstSeenAt : Nat → Nat → Option Int)
      (programs : Table RewardProgramRow) :
      Served intl (.launch businesses firstSeenAt programs .empty)
  | stepped (db : RewardDb) (task : EngineTask) (choice : EngineChoice) (before : Served intl db)
      (parsed : ∀ call, task = .manage call → call.parsed intl = true) :
      Served intl (engineStep intl db task choice).1
  | ruled (db : RewardDb) (enterpriseId : Nat) (input : CreateRewardRuleInput)
      (before : Served intl db) (parsed : input.accepted intl = true) :
      Served intl (transact (createRule enterpriseId input) db).2
  | configured (db : RewardDb) (businesses : Nat → Business) (before : Served intl db) :
      Served intl { db with businesses }

section Saved

variable {intl : Intl} {db next : RewardDb}

theorem createRule_ok {enterpriseId id : Nat} {input : CreateRewardRuleInput}
    (created : createRule enterpriseId input db = .ok (id, next)) :
    next = { db with rules :=
      db.rules.insert (input.rule.row enterpriseId input.programId) } := by
  unfold createRule at created
  split at created
  · contradiction
  · obtain ⟨_, -, rest⟩ := bind_eq_ok.mp created
    obtain ⟨_, -, rest⟩ := bind_eq_ok.mp rest
    obtain ⟨_, -, rest⟩ := bind_eq_ok.mp rest
    obtain ⟨_, -, done⟩ := bind_eq_ok.mp rest
    exact (Prod.mk.inj (Except.ok.inj done)).2.symm

theorem Served.contracted (served : Served intl db) : ∀ id rule,
    db.rules.get? id = some rule → Contracted intl rule.benefits := by
  induction served with
  | launched businesses firstSeenAt programs =>
      intro id rule found
      simp [RewardDb.launch] at found
  | stepped db task choice before parsed ih =>
      intro id rule found
      rcases (engineStep_effect intl db task choice).rules_origin found with
        ⟨old, isActive, there, rfl⟩ |
        ⟨call, enterpriseId, programId, input, previous, triggerKind, rfl, form, -, rfl⟩
      · exact ih id old there
      · have accepted : input.accepted intl = true := by
          have given := parsed call rfl
          cases call <;> cases form <;> exact given
        exact input.contracted accepted
  | ruled db enterpriseId input before parsed ih =>
      intro id rule found
      rcases transact_snd (createRule enterpriseId input) db with same | ⟨value, created⟩
      · rw [same] at found
        exact ih id rule found
      · rw [createRule_ok created, Table.get?_insert] at found
        split at found
        · obtain rfl := Option.some.inj found
          exact input.contracted parsed
        · exact ih id rule found
  | configured db businesses before ih => exact ih

theorem Served.loaded (served : Served intl db) (enterpriseId ruleId version : Nat) :
    Contracted intl (db.loadBenefits enterpriseId ruleId version) := by
  unfold RewardDb.loadBenefits
  split
  · next rule found =>
      split
      · exact served.contracted ruleId rule found
      · exact .empty
  · exact .empty

/-- A grant of a rule that was saved credits no wallet twice and issues no item twice, if
and only if the factor leaves nothing worth granting or the currency of the business is not
left out of one of its benefits and stated by another. -/
theorem benefits_land_apart_iff (intl : Intl) (db next : RewardDb) (served : Served intl db)
    (input : GrantInput) (enterpriseId ruleId version : Nat)
    (saved : input.benefits = db.loadBenefits enterpriseId ruleId version)
    (factor : FactorResult) (credited : Bool)
    (granted : grant intl input factor db = .ok (credited, next)) :
    LandsApart db next ↔ input.worthless factor = true ∨
      statesCurrencyTwice intl input.defaultCurrencyCode input.benefits = false :=
  grant_lands (saved ▸ served.loaded enterpriseId ruleId version) granted

end Saved

def payingForm (benefits : List RewardBenefitInput) : CreateRewardProgramInput where
  name := "Comments"
  triggers := [.commentOnOwnPost]
  benefits := benefits

def savedForm (benefits : List RewardBenefitInput) : RewardDb :=
  (engineStep fixedIntl (.launch (fun _ => openBusiness) (fun _ _ => none) .empty .empty)
    (.manage (.createProgram 1 (payingForm benefits))) ⟨0, later.factor⟩).1

theorem savedForm_served {benefits : List RewardBenefitInput}
    (accepted : (payingForm benefits).accepted fixedIntl = true) :
    Served fixedIntl (savedForm benefits) :=
  .stepped _ _ _ (.launched _ _ _) fun _ same => by cases same; exact accepted

def grantOfForm (benefits : List RewardBenefitInput) : GrantInput where
  enterpriseId := 1
  awardId := 0
  customerId := 7
  rule := ⟨0, (payingForm benefits).newRule 1 0 (fun _ => none) .commentOnOwnPost⟩
  defaultCurrencyCode := openBusiness.currencyCode
  periodKey := none
  occurredAtUtc := 0
  benefits := (savedForm benefits).loadBenefits 1 0 1

def pointsAndMoney : List RewardBenefitInput :=
  [{ config := .grantPoints 10 }, { config := .grantCurrency 100 none }]

/-- Points and money of one rule land in two wallets. -/
theorem benefits_land_apart_iff_points_and_money : ∃ credited next,
    grant fixedIntl (grantOfForm pointsAndMoney) ⟨10000, by decide⟩ (savedForm pointsAndMoney) =
      .ok (credited, next) ∧ LandsApart (savedForm pointsAndMoney) next := by
  have pays : (grant fixedIntl (grantOfForm pointsAndMoney) ⟨10000, by decide⟩
      (savedForm pointsAndMoney)).toOption.isSome = true := by decide +kernel
  cases outcome : grant fixedIntl (grantOfForm pointsAndMoney) ⟨10000, by decide⟩
      (savedForm pointsAndMoney) with
  | error error =>
      rw [outcome] at pays
      contradiction
  | ok result =>
      obtain ⟨credited, next⟩ := result
      have apart := (benefits_land_apart_iff fixedIntl _ next
        (savedForm_served (by decide +kernel)) (grantOfForm pointsAndMoney) 1 0 1 rfl _ credited
        outcome).mpr (.inr (by decide +kernel))
      exact ⟨credited, next, rfl, apart⟩

def eurosTwice : List RewardBenefitInput :=
  [{ config := .grantCurrency 100 none }, { config := .grantCurrency 200 (some "EUR") }]

/-- The form is accepted and saved, and its grant credits one wallet twice. -/
theorem one_wallet_credited_twice :
    ¬ ∀ (intl : Intl) (db next : RewardDb), Served intl db →
      ∀ (input : GrantInput) (enterpriseId ruleId version : Nat),
      input.benefits = db.loadBenefits enterpriseId ruleId version →
      ∀ (factor : FactorResult) (credited : Bool),
      grant intl input factor db = .ok (credited, next) → LandsApart db next := by
  intro claimed
  have twice : (grant fixedIntl (grantOfForm eurosTwice) ⟨10000, by decide⟩
      (savedForm eurosTwice)).toOption.any (fun result =>
        creditedWallets (savedForm eurosTwice) result.2 == [0, 0]) = true := by decide +kernel
  obtain ⟨⟨credited, next⟩, outcome, same⟩ := toOption_any_eq_true.mp twice
  have apart := (claimed fixedIntl _ next (savedForm_served (by decide +kernel))
    (grantOfForm eurosTwice) 1 0 1 rfl _ credited outcome).1
  rw [beq_iff_eq.mp same] at apart
  contradiction

end UnifiedService.Rewards
