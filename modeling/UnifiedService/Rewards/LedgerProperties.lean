import UnifiedService.Rewards.CapProperties
import UnifiedService.Rewards.Compensation

/-! The books through every step of the engine: what compensating an award takes
back, and what a reversed award leaves behind, with any number of calls at a time. -/

set_option autoImplicit false

namespace UnifiedService.Rewards

open UnifiedService.Library

/-! ### Applying benefits keeps the books -/

def RowsOf (enterpriseId awardId : Nat) (benefits later : Table AwardBenefitRow) : Prop :=
  ∀ id row, later.get? id = some row →
    benefits.get? id = some row ∨ (row.awardId = awardId ∧ row.enterpriseId = enterpriseId)

theorem dispatcher_apply_books {benefit : RewardBenefitConfig} {context : DispatchContext}
    {benefitIndex : Nat} {db next : RewardDb} (books : Books db.store db.awardBenefits)
    (applied : BenefitDispatcher.apply benefit context benefitIndex db = .ok ((), next)) :
    Books next.store next.awardBenefits ∧ (∃ added, Movement db.store added next.store) ∧
      RowsOf context.enterpriseId context.awardId db.awardBenefits next.awardBenefits := by
  obtain ⟨compensation, middle, handled, recorded⟩ := BenefitDispatcher.apply_ok applied
  obtain ⟨rfl, unused⟩ := recordBenefit_ok recorded
  have benefitsKept := applyBenefit_awardBenefits handled
  rw [benefitsKept] at unused
  have applies := (applyBenefit_applies (books.keys_unused unused) handled).1
  refine ⟨?_, ?_, fun id row found => ?_⟩
  · rw [benefitsKept]
    exact books.record applies unused
  · obtain ⟨added, movement, -⟩ := applies.movement
    exact ⟨added, movement⟩
  · rw [Table.get?_insert, benefitsKept] at found
    split at found
    · obtain rfl := Option.some.inj found
      exact .inr ⟨rfl, rfl⟩
    · exact .inl found

theorem applyBenefits_books {intl : Intl} {input : GrantInput} {basisPoints : Option Nat}
    {index : Nat} {benefits : List RewardBenefitInput} {db next : RewardDb}
    (books : Books db.store db.awardBenefits)
    (applied : applyBenefits intl input basisPoints index benefits db = .ok ((), next)) :
    Books next.store next.awardBenefits ∧ (∃ added, Movement db.store added next.store) ∧
      RowsOf input.enterpriseId input.awardId db.awardBenefits next.awardBenefits := by
  induction benefits generalizing index db with
  | nil =>
      obtain ⟨-, rfl⟩ := Prod.mk.inj (Except.ok.inj applied)
      exact ⟨books, ⟨[], .refl _⟩, fun _ _ found => .inl found⟩
  | cons stored rest ih =>
      simp only [applyBenefits] at applied
      split at applied
      · contradiction
      · obtain ⟨⟨_, middle⟩, dispatched, remaining⟩ := bind_eq_ok.mp applied
        dsimp only at remaining
        obtain ⟨booksHere, ⟨added, movement⟩, rowsHere⟩ := dispatcher_apply_books books dispatched
        obtain ⟨booksLast, ⟨more, further⟩, rows⟩ := ih booksHere remaining
        refine ⟨booksLast, ⟨_, movement.trans further⟩, fun id row found => ?_⟩
        rcases rows id row found with old | new
        · exact rowsHere id row old
        · exact .inr new

/-! ### Every step keeps the books -/

def Pays (db next : RewardDb) (row : AwardBenefitRow) : Prop :=
  (∀ award, db.awards.get? row.awardId = some award → award.status = .held) ∧
    ∃ later, next.awards.get? row.awardId = some later ∧ later.status = .granted ∧
      later.enterpriseId = row.enterpriseId

structure ValueStep (db next : RewardDb) : Prop where
  books : Books next.store next.awardBenefits
  movement : ∃ added, Movement db.store added next.store
  rows : ∀ id row, next.awardBenefits.get? id = some row →
    (∃ old, db.awardBenefits.get? id = some old ∧ SameBenefit old row) ∨ Pays db next row

theorem ValueStep.of_eq {db next : RewardDb} (books : Books db.store db.awardBenefits)
    (store : next.store = db.store) (benefits : next.awardBenefits = db.awardBenefits) :
    ValueStep db next where
  books := by rw [store, benefits]; exact books
  movement := ⟨[], store ▸ .refl _⟩
  rows := fun _ row found => .inl ⟨row, benefits ▸ found, .refl row⟩

/-- The award of a benefit was granted, and nothing but a reversal followed. -/
def Paid (db : RewardDb) : Prop :=
  ∀ id row, db.awardBenefits.get? id = some row →
    ∃ award, db.awards.get? row.awardId = some award ∧
      award.enterpriseId = row.enterpriseId ∧
      (award.status = .granted ∨ award.status = .reversed)

def LedgerReady (db : RewardDb) : EngineTask → Prop
  | .reverse award input =>
      ∃ row, db.awards.get? award.id = some row ∧ row.enterpriseId = input.enterpriseId
  | _ => True

theorem releaseFor_store (db : RewardDb) (enterpriseId ruleId customerId awardId : Nat)
    (periodKey : Option String) :
    (releaseFor db enterpriseId ruleId customerId awardId periodKey).store = db.store ∧
      (releaseFor db enterpriseId ruleId customerId awardId periodKey).awardBenefits =
        db.awardBenefits := by
  cases periodKey <;> exact ⟨rfl, rfl⟩

theorem EvaluateEffect.value {intl : Intl} {rule : Stored RewardRuleRow}
    {event : RewardTriggerEvent} {factor : FactorResult} {db next : RewardDb}
    (effect : EvaluateEffect intl rule event factor db next)
    (books : Books db.store db.awardBenefits) : ValueStep db next := by
  cases effect with
  | unchanged => exact .of_eq books rfl rfl
  | refused award => exact .of_eq books rfl rfl
  | held award claimed isFor status unrecorded fresh taken =>
      obtain ⟨-, -, -, store, benefits, -⟩ := taken.frame
      exact .of_eq books store benefits
  | worthless award claimed isFor status recorded fresh taken =>
      obtain ⟨-, -, -, store, benefits, -⟩ := taken.frame
      obtain ⟨releasedStore, releasedBenefits⟩ := releaseFor_store claimed event.enterpriseId
        rule.id event.customerId db.awards.nextId (eventPeriod intl db rule.row event)
      exact .of_eq books (releasedStore.trans store) (releasedBenefits.trans benefits)
  | granted award claimed held after input basisPoints isFor status recorded fresh taken grants
      value applied =>
      rw [← value.1, ← value.2] at books
      obtain ⟨booksAfter, movement, rows⟩ := applyBenefits_books books applied
      rw [value.1] at movement
      rw [value.2, grants.enterpriseId, grants.awardId] at rows
      refine ⟨booksAfter, movement, fun id row found => ?_⟩
      rcases rows id row found with old | ⟨ofAward, ofEnterprise⟩
      · exact .inl ⟨row, old, .refl row⟩
      · refine .inr ⟨fun present found => ?_, award, ?_, status, ?_⟩
        · rw [ofAward, Table.get?_nextId] at found
          contradiction
        · rw [ofAward, ← taken.frame.1]
          exact Table.get?_insert_self _ _
        · rw [isFor.enterpriseId, ofEnterprise]

theorem HeldEffect.value {intl : Intl} {award : Stored RewardAwardRow} {factor : FactorResult}
    {db next : RewardDb} (effect : HeldEffect intl award factor db next)
    (books : Books db.store db.awardBenefits) : ValueStep db next := by
  cases effect with
  | unchanged => exact .of_eq books rfl rfl
  | worthless row rule reasonCode =>
      obtain ⟨store, benefits⟩ := releaseFor_store db award.row.enterpriseId award.row.ruleId
        award.row.customerId award.id award.row.periodKey
      exact .of_eq books store benefits
  | granted row rule basisPoints after found sameEnterprise held applied =>
      obtain ⟨booksAfter, movement, rows⟩ := applyBenefits_books books applied
      refine ⟨booksAfter, movement, fun id benefit present => ?_⟩
      rcases rows id benefit present with old | ⟨ofAward, ofEnterprise⟩
      · exact .inl ⟨benefit, old, .refl benefit⟩
      · rw [heldGrantInput_awardId] at ofAward
        rw [heldGrantInput_enterpriseId] at ofEnterprise
        refine .inr ⟨fun other otherFound => ?_, ?_⟩
        · rw [ofAward, found] at otherFound
          exact Option.some.inj otherFound ▸ held
        · simp only [ofAward, Table.get?_update_self, found, Option.map_some]
          exact ⟨_, rfl, rfl, sameEnterprise.trans ofEnterprise.symm⟩

theorem reversal_ofEnterprise {award : Stored RewardAwardRow} {input : ReversalInput}
    {db : RewardDb} (paid : Paid db) (ready : LedgerReady db (.reverse award input)) (id : Nat)
    (row : AwardBenefitRow) (found : db.awardBenefits.get? id = some row)
    (ofAward : row.awardId = (reversalContext award input).awardId) :
    row.enterpriseId = (reversalContext award input).enterpriseId := by
  obtain ⟨listed, listedFound, sameEnterprise⟩ := ready
  obtain ⟨granted, grantedFound, ofEnterprise, -⟩ := paid id row found
  rw [ofAward] at grantedFound
  obtain rfl := Option.some.inj (listedFound.symm.trans grantedFound)
  exact ofEnterprise.symm.trans sameEnterprise

theorem ReverseEffect.value {award : Stored RewardAwardRow} {input : ReversalInput}
    {db next : RewardDb} (effect : ReverseEffect award input db next)
    (books : Books db.store db.awardBenefits) (paid : Paid db)
    (ready : LedgerReady db (.reverse award input)) : ValueStep db next := by
  cases effect with
  | unchanged => exact .of_eq books rfl rfl
  | reversed after reversible compensated untouched =>
      by_cases granted : award.row.status = .granted
      · obtain ⟨booksAfter, ⟨added, movement, -⟩, same, -⟩ :=
          BenefitDispatcher.compensateAward_ok books
            (fun id row found ofAward => reversal_ofEnterprise paid ready id row found ofAward)
            (compensated granted)
        exact ⟨booksAfter, ⟨added, movement⟩, fun id row found => .inl (same.2 id row found)⟩
      · obtain rfl := untouched granted
        exact .of_eq books rfl rfl

theorem adjustBalance_value {enterpriseId : Nat} {input : AdjustRewardBalanceInput}
    {db next : RewardDb} (books : Books db.store db.awardBenefits)
    (adjusted : adjustBalance enterpriseId input db = .ok ((), next)) : ValueStep db next := by
  have benefitsKept := (adjustBalance_valueOnly adjusted).2
  obtain ⟨⟨wallet, middle⟩, ensured, rest⟩ := bind_eq_ok.mp adjusted
  obtain ⟨⟨entry, after⟩, posted, done⟩ := bind_eq_ok.mp rest
  obtain ⟨-, rfl⟩ := Prod.mk.inj (Except.ok.inj done)
  obtain ⟨opened, ensuredStore, rfl⟩ := onStore_ok ensured
  obtain ⟨store, ran, rfl⟩ := onStore_ok posted
  have openedBooks := books.ensure ensuredStore
  have opening := (Movement.of_ensure ensuredStore).1
  have moved : Books store db.awardBenefits ∧ ∃ added, Movement opened added store := by
    rcases WalletStore.post_cases ran with replay | records
    · rw [replay.unchanged]
      exact ⟨openedBooks, [], .refl opened⟩
    · have movement := Movement.of_records records
      refine ⟨openedBooks.unrelated movement fun other isNew => ?_, _, movement⟩
      obtain ⟨-, ⟨row, -, -, -, rfl, rfl⟩, -, -⟩ := records
      rw [List.mem_singleton.mp isNew]
      exact ⟨rfl, rfl, adjust_ne_benefitKey input.idempotencyKey⟩
  obtain ⟨booksAfter, added, movement⟩ := moved
  exact ⟨booksAfter, ⟨_, opening.trans movement⟩, fun id row found => .inl ⟨row, found, .refl row⟩⟩

theorem StepEffect.value {intl : Intl} {choice : EngineChoice} {db next : RewardDb}
    {task : EngineTask} (books : Books db.store db.awardBenefits) (paid : Paid db)
    (ready : LedgerReady db task) (effect : StepEffect intl choice db task next) :
    ValueStep db next := by
  cases effect with
  | unchanged => exact .of_eq books rfl rfl
  | evaluated rule event _ effect => exact effect.value books
  | swept award _ effect => exact effect.value books
  | reversed award input _ effect => exact effect.value books paid ready
  | managed call _ effect =>
      rcases effect.store with same | ⟨enterpriseId, input, -, adjusted⟩
      · exact .of_eq books same effect.awardBenefits
      · exact adjustBalance_value books adjusted

/-! ### Who was paid -/

theorem StepEffect.settled {intl : Intl} {choice : EngineChoice} {db next : RewardDb}
    {task : EngineTask} (effect : StepEffect intl choice db task next) {id : Nat}
    {award : RewardAwardRow} (found : db.awards.get? id = some award)
    (status : award.status = .granted ∨ award.status = .reversed) :
    ∃ later, next.awards.get? id = some later ∧ later.enterpriseId = award.enterpriseId ∧
      (later.status = .granted ∨ later.status = .reversed) := by
  by_cases other : task.subject = some id
  · cases effect with
    | unchanged => exact ⟨award, found, rfl, status⟩
    | evaluated rule event _ effect => contradiction
    | managed call _ effect => contradiction
    | swept listed _ effect =>
        obtain rfl : listed.id = id := Option.some.inj other
        have notHeld : ∀ row, db.awards.get? listed.id = some row → row.status ≠ .held := by
          intro row rowFound held
          obtain rfl := Option.some.inj (found.symm.trans rowFound)
          rcases status with granted | reversed
          · rw [granted] at held
            contradiction
          · rw [reversed] at held
            contradiction
        cases effect with
        | unchanged => exact ⟨award, found, rfl, status⟩
        | worthless row rule reasonCode rowFound sameEnterprise held =>
            exact absurd held (notHeld row rowFound)
        | granted row rule basisPoints after rowFound sameEnterprise held =>
            exact absurd held (notHeld row rowFound)
    | reversed listed input _ effect =>
        obtain rfl : listed.id = id := Option.some.inj other
        cases effect with
        | unchanged => exact ⟨award, found, rfl, status⟩
        | reversed after =>
            simp only [RewardDb.markReversed, RewardDb.updateAward, releaseFor_awards,
              Table.get?_update_self, found, Option.map_some]
            split
            · exact ⟨_, rfl, rfl, .inr rfl⟩
            · exact ⟨_, rfl, rfl, status⟩
  · exact ⟨award, effect.awards_kept other found, rfl, status⟩

theorem Paid.step {intl : Intl} {choice : EngineChoice} {db next : RewardDb} {task : EngineTask}
    (paid : Paid db) (effect : StepEffect intl choice db task next) (value : ValueStep db next) :
    Paid next := by
  intro id row found
  rcases value.rows id row found with ⟨old, oldFound, same⟩ | ⟨-, later, laterFound, granted, enterprise⟩
  · obtain ⟨award, awardFound, ofEnterprise, status⟩ := paid id old oldFound
    obtain ⟨later, laterFound, sameEnterprise, laterStatus⟩ := effect.settled awardFound status
    refine ⟨later, same.awardId ▸ laterFound, ?_, laterStatus⟩
    rw [sameEnterprise, ofEnterprise, same.enterpriseId]
  · exact ⟨later, laterFound, enterprise, .inl granted⟩

theorem AllReversed.step {db next : RewardDb} {awardId : Nat} {award : RewardAwardRow}
    (reversed : AllReversed db.store db.awardBenefits awardId) (value : ValueStep db next)
    (found : db.awards.get? awardId = some award) (settled : award.status ≠ .held) :
    AllReversed next.store next.awardBenefits awardId := by
  intro id row rowFound ofAward leg isLeg
  rcases value.rows id row rowFound with ⟨old, oldFound, same⟩ | ⟨held, -⟩
  · rw [same.compensation] at isLeg
    have before := reversed id old oldFound (same.awardId ▸ ofAward) leg isLeg
    obtain ⟨added, movement⟩ := value.movement
    exact same.legReversed.mpr (movement.hasKey.mpr (.inl before))
  · rw [ofAward] at held
    exact absurd (held award found) settled

theorem LedgerReady.step {intl : Intl} {choice : EngineChoice} {db next : RewardDb}
    {task other : EngineTask} (ready : LedgerReady db other)
    (effect : StepEffect intl choice db task next) : LedgerReady next other := by
  cases other with
  | reverse award input =>
      obtain ⟨row, found, sameEnterprise⟩ := ready
      obtain ⟨later, laterFound, same⟩ := effect.awards_later found
      exact ⟨later, laterFound, same.enterpriseId.trans sameEnterprise⟩
  | findRules event => trivial
  | evaluate rule event => trivial
  | offerBalanceThresholds offer => trivial
  | claimDueHeldAwards => trivial
  | grantHeld award => trivial
  | findBySource input => trivial
  | manage call => trivial

theorem LedgerReady.of_awards_eq {db next : RewardDb} {task : EngineTask}
    (ready : LedgerReady db task) (awards : next.awards = db.awards) : LedgerReady next task := by
  cases task <;> simp only [LedgerReady, awards] at ready ⊢
  exact ready

theorem LedgerReady.spawned {intl : Intl} {choice : EngineChoice} {db : RewardDb}
    {task next : EngineTask} (spawned : Spawned db task next) :
    LedgerReady (engineStep intl db task choice).1 next := by
  cases spawned with
  | reverse input award found sameEnterprise => exact ⟨award.row, found, sameEnterprise⟩
  | evaluate event rule => trivial
  | offerBalanceThresholds offer => trivial
  | findRules offer event => trivial
  | grantHeld award => trivial

structure LedgerHolds (db : RewardDb) : Prop where
  books : Books db.store db.awardBenefits
  paid : Paid db

theorem LedgerHolds.launch (businesses : Nat → Business) (firstSeenAt : Nat → Nat → Option Int)
    (programs : Table RewardProgramRow) (rules : Table RewardRuleRow) :
    LedgerHolds (.launch businesses firstSeenAt programs rules) :=
  ⟨.launch, fun _ _ found => by simp [RewardDb.launch] at found⟩

theorem LedgerHolds.step {intl : Intl} {choice : EngineChoice} {db next : RewardDb}
    {task : EngineTask} (holds : LedgerHolds db) (ready : LedgerReady db task)
    (effect : StepEffect intl choice db task next) : LedgerHolds next := by
  have value := effect.value holds.books holds.paid ready
  exact ⟨value.books, holds.paid.step effect value⟩

theorem LedgerReady.opening (intl : Intl) (db : RewardDb) (call : EngineCall) :
    ∀ task ∈ (engine intl).opening call, LedgerReady db task := by
  intro task member
  cases call <;> (rw [List.mem_singleton.mp member]; trivial)

/-- Whatever calls run at a time, the books stay in order. -/
theorem ledger_holds {intl : Intl} {businesses : Nat → Business}
    {firstSeenAt : Nat → Nat → Option Int} {programs : Table RewardProgramRow}
    {rules : Table RewardRuleRow} {pool : Pool RewardDb EngineTask}
    (reached : (engine intl).PoolReaches (fun _ _ => True)
      (.launch businesses firstSeenAt programs rules) pool) :
    LedgerHolds pool.shared ∧
      ∀ process ∈ pool.processes, ∀ task ∈ process, LedgerReady pool.shared task :=
  (engine intl).pool_invariant LedgerHolds LedgerReady (.launch _ _ _ _)
    (fun db call _ _ => LedgerReady.opening intl db call)
    (fun db task choice holds ready _ => by
      have effect := engineStep_effect intl db task choice
      exact ⟨holds.step ready effect, fun _ member => .spawned (engineStep_spawned member),
        fun _ waiting => waiting.step effect⟩)
    reached

/-! ### Undoing an award -/

structure Undone (db : RewardDb) (awardId : Nat) : Prop where
  settled : ∃ award, db.awards.get? awardId = some award ∧
    (award.status = .granted ∨ award.status = .reversed)
  reversed : AllReversed db.store db.awardBenefits awardId

theorem Undone.step {intl : Intl} {choice : EngineChoice} {db next : RewardDb} {task : EngineTask}
    {awardId : Nat} (undone : Undone db awardId) (effect : StepEffect intl choice db task next)
    (value : ValueStep db next) : Undone next awardId := by
  obtain ⟨award, found, status⟩ := undone.settled
  obtain ⟨later, laterFound, -, laterStatus⟩ := effect.settled found status
  have notHeld : award.status ≠ .held := by
    rcases status with granted | reversed <;> simp [*]
  exact ⟨⟨later, laterFound, laterStatus⟩, undone.reversed.step value found notHeld⟩

theorem compensateAward_undoes {context : DispatchContext} {db next : RewardDb}
    {award : RewardAwardRow} (holds : LedgerHolds db)
    (found : db.awards.get? context.awardId = some award) (granted : award.status = .granted)
    (sameEnterprise : award.enterpriseId = context.enterpriseId)
    (ran : BenefitDispatcher.compensateAward context db = .ok ((), next)) :
    LedgerHolds next ∧ Undone next context.awardId ∧ next.awards = db.awards ∧
      OnlyOfAward context.awardId db.store next.store := by
  obtain ⟨books, grown, same, reversed⟩ := BenefitDispatcher.compensateAward_ok holds.books
    (fun id row rowFound ofAward => by
      obtain ⟨owner, ownerFound, ofEnterprise, -⟩ := holds.paid id row rowFound
      rw [ofAward, found] at ownerFound
      obtain rfl := Option.some.inj ownerFound
      exact ofEnterprise.symm.trans sameEnterprise) ran
  have awards := (compensateAward_valueOnly ran).awards
  refine ⟨⟨books, fun id row rowFound => ?_⟩, ⟨⟨award, awards ▸ found, .inl granted⟩, reversed⟩,
    awards, grown⟩
  obtain ⟨old, oldFound, sameRow⟩ := same.2 id row rowFound
  obtain ⟨owner, ownerFound, ofEnterprise, status⟩ := holds.paid id old oldFound
  refine ⟨owner, ?_, ofEnterprise.trans sameRow.enterpriseId.symm, status⟩
  rw [awards, sameRow.awardId]
  exact ownerFound

/-- In any state the calls reach, whatever they moved or edited since the grant: a
compensation goes through where no balance on its way passes the safe range; one that
goes through takes off each wallet exactly what the award had put there; and from
then on another one changes no wallet and adds no entry. -/
theorem compensation_undoes_an_award (intl : Intl) (businesses : Nat → Business)
    (firstSeenAt : Nat → Nat → Option Int) (programs : Table RewardProgramRow)
    (rules : Table RewardRuleRow) (pool : Pool RewardDb EngineTask)
    (reached : (engine intl).PoolReaches (fun _ _ => True)
      (.launch businesses firstSeenAt programs rules) pool)
    (context : DispatchContext) (award : RewardAwardRow)
    (found : pool.shared.awards.get? context.awardId = some award)
    (granted : award.status = .granted) (sameEnterprise : award.enterpriseId = context.enterpriseId) :
    ((∀ walletId, |pool.shared.store.balanceOf walletId| +
        awardGross pool.shared.awardBenefits context.awardId walletId ≤ maxSafeInteger) →
      ∃ next, BenefitDispatcher.compensateAward context pool.shared = .ok ((), next)) ∧
    ∀ next, BenefitDispatcher.compensateAward context pool.shared = .ok ((), next) →
      (∀ walletId, awardNet next.store context.awardId walletId = 0) ∧
      (∀ walletId, next.store.balanceOf walletId = pool.shared.store.balanceOf walletId -
        awardNet pool.shared.store context.awardId walletId) ∧
      ∀ later, Relation.ReflTransGen ((engine intl).PoolStep fun _ _ => True)
          ⟨next, pool.processes⟩ later →
        ∃ last, BenefitDispatcher.compensateAward context later.shared = .ok ((), last) ∧
          last.store = later.shared.store := by
  obtain ⟨holds, waiting⟩ := ledger_holds reached
  refine ⟨BenefitDispatcher.compensateAward_succeeds holds.books fun id row rowFound ofAward => ?_,
    fun next ran => ?_⟩
  · obtain ⟨owner, ownerFound, ofEnterprise, -⟩ := holds.paid id row rowFound
    rw [ofAward, found] at ownerFound
    obtain rfl := Option.some.inj ownerFound
    exact ofEnterprise.symm.trans sameEnterprise
  · obtain ⟨holdsNext, undone, awards, grown⟩ :=
      compensateAward_undoes holds found granted sameEnterprise ran
    have settled := holdsNext.books.awardNet_eq_zero undone.reversed
    refine ⟨settled, fun walletId => ?_, fun later runs => ?_⟩
    · rw [grown.balanceOf walletId, settled walletId]
      ring
    · have stillWaiting : ∀ process ∈ pool.processes, ∀ task ∈ process, LedgerReady next task :=
        fun process member task waits => (waiting process member task waits).of_awards_eq awards
      have invariant := (engine intl).pool_invariant_from
        (fun db => LedgerHolds db ∧ Undone db context.awardId) LedgerReady
        (fun db call _ _ => LedgerReady.opening intl db call)
        (fun db task choice holds ready _ => by
          have effect := engineStep_effect intl db task choice
          have value := effect.value holds.1.books holds.1.paid ready
          exact ⟨⟨holds.1.step ready effect, holds.2.step effect value⟩,
            fun _ member => .spawned (engineStep_spawned member),
            fun _ waiting => waiting.step effect⟩)
        ⟨holdsNext, undone⟩ stillWaiting runs
      exact BenefitDispatcher.compensateAward_again invariant.1.1.books invariant.1.2.reversed

def firstComment : DispatchContext where
  enterpriseId := 1
  customerId := 7
  awardId := 0
  ruleId := 0
  ruleVersion := 1
  occurredAtUtc := 0

def grantComment : List (EngineCall ⊕ (Nat × EngineChoice)) :=
  [.inl (.onTriggerEvent (commentEvent 1)), .inr (0, later), .inr (0, later)]

/-- Ten points granted, then taken back once. -/
theorem compensation_undoes_an_award_ten_points :
    ∃ (pool : Pool RewardDb EngineTask) (next last : RewardDb),
      BenefitDispatcher.compensateAward firstComment pool.shared = .ok ((), next) ∧
      pool.shared.store.balanceOf 0 = 10 ∧ (∀ walletId, awardNet next.store 0 walletId = 0) ∧
      BenefitDispatcher.compensateAward firstComment next = .ok ((), last) ∧
      last.store = next.store := by
  have runs : ((engine fixedIntl).playPool (fun _ _ => true) ⟨launchOnce 0, []⟩ grantComment).any
      (fun pool => pool.shared.store.balanceOf 0 == 10 &&
        ((pool.shared.awards.get? 0).any fun award =>
          award.status == .granted && award.enterpriseId == 1) &&
        (BenefitDispatcher.compensateAward firstComment pool.shared).toOption.any
          fun _ => true) = true := by
    decide +kernel
  obtain ⟨pool, played, done⟩ := (Option.any_eq_true _ _).mp runs
  simp only [Bool.and_eq_true, beq_iff_eq] at done
  obtain ⟨⟨balance, listed⟩, compensates⟩ := done
  obtain ⟨award, found, granted⟩ := (Option.any_eq_true _ _).mp listed
  simp only [Bool.and_eq_true, beq_iff_eq] at granted
  have reached := (engine fixedIntl).playPool_sound (fun _ _ _ => trivial) played
  have undoes := (compensation_undoes_an_award fixedIntl _ _ _ _ pool reached firstComment award
    found granted.1 granted.2).2
  obtain ⟨⟨_, next⟩, ran, -⟩ := toOption_any_eq_true.mp compensates
  obtain ⟨settled, -, again⟩ := undoes next ran
  obtain ⟨last, ranAgain, same⟩ := again ⟨next, pool.processes⟩ .refl
  exact ⟨pool, next, last, ran, balance, settled, ranAgain, same⟩

def adjustPoints (amount : Int) (idempotencyKey : String) : EngineCall :=
  .manage (.adjustBalance 1
    { customerId := 7, walletKind := .points, currencyCode := none, amount
      occurredAtUtc := 0, idempotencyKey })

/-- With the balance driven to the edge of what can be read, taking ten points back
throws, and the award's entries still sum to ten. -/
theorem compensation_refused_at_the_edge :
    ¬ ∀ (intl : Intl) (businesses : Nat → Business) (firstSeenAt : Nat → Nat → Option Int)
      (programs : Table RewardProgramRow) (rules : Table RewardRuleRow)
      (pool : Pool RewardDb EngineTask),
      (engine intl).PoolReaches (fun _ _ => True)
        (.launch businesses firstSeenAt programs rules) pool →
      ∀ (context : DispatchContext) (award : RewardAwardRow),
      pool.shared.awards.get? context.awardId = some award → award.status = .granted →
      award.enterpriseId = context.enterpriseId →
      ∀ walletId, awardNet (transact (BenefitDispatcher.compensateAward context)
        pool.shared).2.store context.awardId walletId = 0 := by
  intro claimed
  have runs : ((engine fixedIntl).playPool (fun _ _ => true) ⟨launchOnce 0, []⟩
      (grantComment ++ [.inl (adjustPoints (-9007199254740991) "first"), .inr (1, later),
        .inl (adjustPoints (-9) "second"), .inr (2, later)])).any (fun pool =>
        ((pool.shared.awards.get? 0).any fun award =>
          award.status == .granted && award.enterpriseId == 1) &&
        awardNet (transact (BenefitDispatcher.compensateAward firstComment)
          pool.shared).2.store 0 0 == 10) = true := by
    decide +kernel
  obtain ⟨pool, played, done⟩ := (Option.any_eq_true _ _).mp runs
  simp only [Bool.and_eq_true, beq_iff_eq] at done
  obtain ⟨listed, stays⟩ := done
  obtain ⟨award, found, granted⟩ := (Option.any_eq_true _ _).mp listed
  simp only [Bool.and_eq_true, beq_iff_eq] at granted
  have reached := (engine fixedIntl).playPool_sound (fun _ _ _ => trivial) played
  have nothing := claimed fixedIntl _ _ _ _ pool reached firstComment award found granted.1
    granted.2 0
  rw [show firstComment.awardId = 0 from rfl, stays] at nothing
  exact absurd nothing (by decide)

end UnifiedService.Rewards
