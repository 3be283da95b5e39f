import UnifiedService.Rewards.BenefitProperties
import UnifiedService.Rewards.Engine
import UnifiedService.Rewards.ProgramProperties

/-! What each transaction of the reward engine can do to awards, cap counters and
rules, said once. -/

set_option autoImplicit false

namespace UnifiedService.Rewards

open UnifiedService.Library

/-! ### Evaluating a rule -/

/-- The award an evaluation writes, in the fields no later step changes. -/
structure AwardFor (rule : Stored RewardRuleRow) (event : RewardTriggerEvent)
    (award : RewardAwardRow) : Prop where
  enterpriseId : award.enterpriseId = event.enterpriseId
  programId : award.programId = rule.row.programId
  ruleId : award.ruleId = rule.id
  ruleVersion : award.ruleVersion = rule.row.version
  customerId : award.customerId = event.customerId
  sourceRefKind : award.sourceRefKind = event.sourceRefKind
  sourceRefId : award.sourceRefId = event.sourceRefId
  occurredAtUtc : award.occurredAtUtc = event.occurredAtUtc

def SourceUnused (db : RewardDb) (rule : Stored RewardRuleRow) (event : RewardTriggerEvent) :
    Prop :=
  ∀ id award, db.awards.get? id = some award →
    ¬ (award.enterpriseId = event.enterpriseId ∧ award.ruleId = rule.id ∧
      award.customerId = event.customerId ∧ award.sourceRefKind = event.sourceRefKind ∧
      award.sourceRefId = event.sourceRefId)

def eventSlot (intl : Intl) (db : RewardDb) (rule : Stored RewardRuleRow)
    (event : RewardTriggerEvent) : Option CapKey :=
  (eventPeriod intl db rule.row event).map fun periodKey =>
    { enterpriseId := event.enterpriseId, ruleId := rule.id, customerId := event.customerId,
      periodKey }

inductive SlotTaken (db : RewardDb) (cap awardId : Nat) : Option CapKey → RewardDb → Prop where
  | uncapped : SlotTaken db cap awardId none db
  | first (key : CapKey) (unused : db.counters key = none) (room : 1 ≤ cap) :
      SlotTaken db cap awardId (some key) (db.takeSlot key { used := 1, cap } awardId)
  | next (key : CapKey) (counter : CapCounter) (counted : db.counters key = some counter)
      (room : counter.used < counter.cap) :
      SlotTaken db cap awardId (some key)
        (db.takeSlot key { counter with used := counter.used + 1 } awardId)

def RewardDb.addAward (db : RewardDb) (award : RewardAwardRow) : RewardDb :=
  { db with awards := db.awards.insert award }

structure GrantsNew (intl : Intl) (rule : Stored RewardRuleRow) (event : RewardTriggerEvent)
    (db : RewardDb) (input : GrantInput) : Prop where
  awardId : input.awardId = db.awards.nextId
  enterpriseId : input.enterpriseId = event.enterpriseId
  ruleId : input.rule.id = rule.id
  customerId : input.customerId = event.customerId
  periodKey : input.periodKey = eventPeriod intl db rule.row event
  benefits : input.benefits = db.loadBenefits event.enterpriseId rule.id rule.row.version

inductive EvaluateEffect (intl : Intl) (rule : Stored RewardRuleRow)
    (event : RewardTriggerEvent) (factor : FactorResult) (db : RewardDb) : RewardDb → Prop where
  | unchanged : EvaluateEffect intl rule event factor db db
  | refused (award : RewardAwardRow) (isFor : AwardFor rule event award)
      (status : award.status = .skippedCondition ∨ award.status = .skippedCap)
      (fresh : SourceUnused db rule event) :
      EvaluateEffect intl rule event factor db (db.addAward award)
  | held (award : RewardAwardRow) (claimed : RewardDb) (isFor : AwardFor rule event award)
      (status : award.status = .held) (unrecorded : award.periodKey = none)
      (fresh : SourceUnused db rule event)
      (taken : SlotTaken db rule.row.capCount db.awards.nextId (eventSlot intl db rule event)
        claimed) :
      EvaluateEffect intl rule event factor db (claimed.addAward award)
  | worthless (award : RewardAwardRow) (claimed : RewardDb) (isFor : AwardFor rule event award)
      (status : award.status = .skippedZeroFactor)
      (recorded : award.periodKey = eventPeriod intl db rule.row event)
      (fresh : SourceUnused db rule event)
      (taken : SlotTaken db rule.row.capCount db.awards.nextId (eventSlot intl db rule event)
        claimed) :
      EvaluateEffect intl rule event factor db
        ((releaseFor claimed event.enterpriseId rule.id event.customerId db.awards.nextId
          (eventPeriod intl db rule.row event)).addAward award)
  | granted (award : RewardAwardRow) (claimed held after : RewardDb) (input : GrantInput)
      (basisPoints : Option Nat) (isFor : AwardFor rule event award)
      (status : award.status = .granted)
      (recorded : award.periodKey = eventPeriod intl db rule.row event)
      (fresh : SourceUnused db rule event)
      (taken : SlotTaken db rule.row.capCount db.awards.nextId (eventSlot intl db rule event)
        claimed)
      (grants : GrantsNew intl rule event db input)
      (value : held.store = db.store ∧ held.awardBenefits = db.awardBenefits)
      (applied : applyBenefits intl input basisPoints 0 input.benefits held = .ok ((), after)) :
      EvaluateEffect intl rule event factor db
        { claimed.addAward award with
          store := after.store
          awardBenefits := after.awardBenefits
          entitlements := after.entitlements }

theorem applyBenefits_valueOnly {intl : Intl} {input : GrantInput} {basisPoints : Option Nat}
    {index : Nat} {benefits : List RewardBenefitInput} {db next : RewardDb}
    (applied : applyBenefits intl input basisPoints index benefits db = .ok ((), next)) :
    ValueOnly db next := by
  induction benefits generalizing index db with
  | nil =>
      obtain ⟨-, rfl⟩ := Prod.mk.inj (Except.ok.inj applied)
      exact .refl db
  | cons stored rest ih =>
      simp only [applyBenefits] at applied
      split at applied
      · contradiction
      · obtain ⟨⟨_, middle⟩, dispatched, remaining⟩ := bind_eq_ok.mp applied
        dsimp only at remaining
        exact (BenefitDispatcher.apply_valueOnly dispatched).trans (ih remaining)

theorem ValueOnly.eq_update {db next : RewardDb} (frame : ValueOnly db next) :
    next = { db with
      store := next.store
      awardBenefits := next.awardBenefits
      entitlements := next.entitlements } := by
  obtain ⟨businesses, firstSeenAt, programs, rules, awards, counters, slotMoves⟩ := frame
  cases next
  cases db
  simp_all

theorem claimSlot_cases {slot : Option CapKey} {cap awardId : Nat} {db next : RewardDb}
    {claimed : Bool} (success : claimSlot slot cap awardId db = .ok (claimed, next)) :
    (claimed = false ∧ next = db) ∨ (claimed = true ∧ SlotTaken db cap awardId slot next) := by
  cases slot with
  | none =>
      obtain ⟨rfl, rfl⟩ := Prod.mk.inj (Except.ok.inj success)
      exact .inr ⟨rfl, .uncapped⟩
  | some key =>
      simp only [claimSlot, RewardDb.claimCapSlot] at success
      cases counted : db.counters key with
      | none =>
          simp only [counted] at success
          split at success
          · next room =>
              obtain ⟨rfl, rfl⟩ := Prod.mk.inj (Except.ok.inj success)
              exact .inr ⟨rfl, .first key counted room⟩
          · contradiction
      | some counter =>
          simp only [counted] at success
          split at success
          · next room =>
              obtain ⟨rfl, rfl⟩ := Prod.mk.inj (Except.ok.inj success)
              exact .inr ⟨rfl, .next key counter counted room⟩
          · obtain ⟨rfl, rfl⟩ := Prod.mk.inj (Except.ok.inj success)
            exact .inl ⟨rfl, rfl⟩

theorem SlotTaken.of_addAward {db next : RewardDb} {award : RewardAwardRow} {cap awardId : Nat}
    {slot : Option CapKey} (taken : SlotTaken (db.addAward award) cap awardId slot next) :
    ∃ claimed, SlotTaken db cap awardId slot claimed ∧ next = claimed.addAward award := by
  cases taken with
  | uncapped => exact ⟨db, .uncapped, rfl⟩
  | first key unused room => exact ⟨_, .first key unused room, rfl⟩
  | next key counter counted room => exact ⟨_, .next key counter counted room, rfl⟩

theorem SlotTaken.frame {db claimed : RewardDb} {cap awardId : Nat} {slot : Option CapKey}
    (taken : SlotTaken db cap awardId slot claimed) :
    claimed.awards = db.awards ∧ claimed.rules = db.rules ∧
      claimed.businesses = db.businesses ∧ claimed.store = db.store ∧
      claimed.awardBenefits = db.awardBenefits ∧ claimed.programs = db.programs := by
  cases taken <;> exact ⟨rfl, rfl, rfl, rfl, rfl, rfl⟩

theorem createIfAbsent_some {db next : RewardDb} {rule : Stored RewardRuleRow}
    {event : RewardTriggerEvent} {passed : Bool} {awardId : Nat}
    (created : db.createIfAbsent (awardInput rule event passed) = some (awardId, next)) :
    awardId = db.awards.nextId ∧ next = db.addAward (awardInput rule event passed).row ∧
      SourceUnused db rule event := by
  unfold RewardDb.createIfAbsent at created
  split at created
  · contradiction
  · next absent =>
      obtain ⟨rfl, rfl⟩ := Prod.mk.inj (Option.some.inj created)
      refine ⟨rfl, rfl, fun id award found same => ?_⟩
      have different := Table.find?_eq_none.mp absent id award found
      simp only [RewardDb.CreateAwardInput.sameSource, awardInput, Bool.and_eq_false_iff,
        beq_eq_false_iff_ne] at different
      tauto

theorem updateAward_addAward {db : RewardDb} {award : RewardAwardRow} {enterpriseId awardId : Nat}
    (change : RewardAwardRow → RewardAwardRow) (same : award.enterpriseId = enterpriseId)
    (last : awardId = db.awards.nextId) :
    (db.addAward award).updateAward enterpriseId awardId change = db.addAward (change award) := by
  subst last
  simp only [RewardDb.updateAward, RewardDb.addAward, Table.update_insert_nextId, same, if_true]

theorem awardInput_enterpriseId (rule : Stored RewardRuleRow) (event : RewardTriggerEvent)
    (passed : Bool) : (awardInput rule event passed).row.enterpriseId = event.enterpriseId := rfl

theorem refused_effect {intl : Intl} {rule : Stored RewardRuleRow} {event : RewardTriggerEvent}
    {factor : FactorResult} {db : RewardDb} {passed : Bool} {status : RewardAwardStatus}
    {reasonCode : String} {periodKey : Option String}
    (skipped : status = .skippedCondition ∨ status = .skippedCap)
    (fresh : SourceUnused db rule event) :
    EvaluateEffect intl rule event factor db
      ((db.addAward (awardInput rule event passed).row).markSkipped event.enterpriseId
        db.awards.nextId status reasonCode periodKey) := by
  rw [RewardDb.markSkipped,
    updateAward_addAward _ (awardInput_enterpriseId rule event passed) rfl]
  exact .refused _ ⟨rfl, rfl, rfl, rfl, rfl, rfl, rfl, rfl⟩ skipped fresh

/-- What a successful grant does: it hands the slot back and skips, or it applies
every benefit and marks the award granted. -/
theorem grant_cases {intl : Intl} {input : GrantInput} {factor : FactorResult}
    {db next : RewardDb} {credited : Bool}
    (success : grant intl input factor db = .ok (credited, next)) :
    (input.worthless factor = true ∧ credited = false ∧ ∃ reasonCode,
      next = (releaseFor db input.enterpriseId input.rule.id input.customerId input.awardId
        input.periodKey).markSkipped input.enterpriseId input.awardId .skippedZeroFactor
          reasonCode input.periodKey) ∨
      (input.worthless factor = false ∧ ∃ basisPoints after,
        applyBenefits intl input basisPoints 0 input.benefits db = .ok ((), after) ∧
        next = after.markGranted input.enterpriseId input.awardId basisPoints
          input.periodKey) := by
  unfold grant at success
  dsimp only at success
  by_cases worthless : input.worthless factor = true
  · rw [if_pos worthless] at success
    obtain ⟨rfl, rfl⟩ := Prod.mk.inj (Except.ok.inj success)
    refine .inl ⟨worthless, rfl, if factor.basisPoints = 0 then "factor_zero" else
      "factor_scaled_to_zero", ?_⟩
    cases input.periodKey <;> rfl
  · rw [if_neg worthless] at success
    obtain ⟨⟨_, after⟩, applied, done⟩ := bind_eq_ok.mp success
    obtain ⟨-, rfl⟩ := Prod.mk.inj (Except.ok.inj done)
    exact .inr ⟨by simpa using worthless, _, after, applied, rfl⟩

theorem releaseFor_addAward (db : RewardDb) (award : RewardAwardRow)
    (enterpriseId ruleId customerId awardId : Nat) (periodKey : Option String) :
    releaseFor (db.addAward award) enterpriseId ruleId customerId awardId periodKey =
      (releaseFor db enterpriseId ruleId customerId awardId periodKey).addAward award := by
  cases periodKey <;> rfl

theorem releaseFor_awards (db : RewardDb) (enterpriseId ruleId customerId awardId : Nat)
    (periodKey : Option String) :
    (releaseFor db enterpriseId ruleId customerId awardId periodKey).awards = db.awards := by
  cases periodKey <;> rfl

theorem releaseFor_rules (db : RewardDb) (enterpriseId ruleId customerId awardId : Nat)
    (periodKey : Option String) :
    (releaseFor db enterpriseId ruleId customerId awardId periodKey).rules = db.rules := by
  cases periodKey <;> rfl

theorem releaseFor_businesses (db : RewardDb) (enterpriseId ruleId customerId awardId : Nat)
    (periodKey : Option String) :
    (releaseFor db enterpriseId ruleId customerId awardId periodKey).businesses =
      db.businesses := by
  cases periodKey <;> rfl

theorem slotOf_eventPeriod (intl : Intl) (db : RewardDb) (rule : Stored RewardRuleRow)
    (event : RewardTriggerEvent) :
    slotOf rule event (eventPeriod intl db rule.row event) = eventSlot intl db rule event := by
  unfold slotOf eventSlot
  split
  · next uncapped =>
      have noPeriod : eventPeriod intl db rule.row event = none := by
        unfold eventPeriod
        cases (db.businesses event.enterpriseId).timezone with
        | none => rfl
        | some timezone => simp [uncapped, derivePeriodKey]
      rw [noPeriod]
      rfl
  · rfl

def RewardDb.Granted (db : RewardDb) (awardId : Nat) : Prop :=
  ∃ award, db.awards.get? awardId = some award ∧ award.status = .granted

theorem granting_effect {intl : Intl} {rule : Stored RewardRuleRow} {event : RewardTriggerEvent}
    {factor : FactorResult} {db claimed next : RewardDb} {input : GrantInput}
    {creditedPoints passed : Bool} (fresh : SourceUnused db rule event)
    (taken : SlotTaken db rule.row.capCount db.awards.nextId (eventSlot intl db rule event) claimed)
    (grants : GrantsNew intl rule event db input)
    (success : grant intl input factor (claimed.addAward (awardInput rule event passed).row) =
      .ok (creditedPoints, next)) :
    EvaluateEffect intl rule event factor db next ∧
      (creditedPoints = true → next.Granted db.awards.nextId) := by
  have last : input.awardId = claimed.awards.nextId := by rw [grants.awardId, taken.frame.1]
  have sameEnterprise : (awardInput rule event passed).row.enterpriseId = input.enterpriseId :=
    grants.enterpriseId.symm
  have recorded : (input.periodKey.orElse fun _ => none) = eventPeriod intl db rule.row event := by
    rw [← grants.periodKey]
    cases input.periodKey <;> rfl
  rcases grant_cases success with
    ⟨-, rfl, reasonCode, rfl⟩ | ⟨-, basisPoints, after, applied, rfl⟩
  · refine ⟨?_, nofun⟩
    rw [releaseFor_addAward, RewardDb.markSkipped,
      updateAward_addAward _ sameEnterprise (by rw [releaseFor_awards, last]), grants.enterpriseId,
      grants.ruleId, grants.customerId, grants.awardId, grants.periodKey]
    refine .worthless _ claimed ⟨rfl, rfl, rfl, rfl, rfl, rfl, rfl, rfl⟩ rfl ?_ fresh taken
    rw [← grants.periodKey]
    exact recorded.trans grants.periodKey.symm
  · have value := applyBenefits_valueOnly applied
    have marked : after.markGranted input.enterpriseId input.awardId basisPoints input.periodKey =
        { claimed.addAward
            { (awardInput rule event passed).row with
              status := .granted
              factorBasisPoints := basisPoints
              periodKey := input.periodKey.orElse fun _ => none } with
          store := after.store
          awardBenefits := after.awardBenefits
          entitlements := after.entitlements } := by
      rw [value.eq_update, RewardDb.markGranted]
      simp only [RewardDb.updateAward, RewardDb.addAward, last, Table.update_insert_nextId,
        sameEnterprise, if_true]
      rfl
    rw [marked]
    refine ⟨?_, fun _ => ⟨_, by rw [← taken.frame.1]; exact Table.get?_insert_self _ _, rfl⟩⟩
    exact .granted _ claimed (claimed.addAward (awardInput rule event passed).row) after input
      basisPoints ⟨rfl, rfl, rfl, rfl, rfl, rfl, rfl, rfl⟩ rfl recorded fresh taken grants
      ⟨taken.frame.2.2.2.1, taken.frame.2.2.2.2.1⟩ applied

/-- Evaluating a rule does one of five things, and says that it credited points only for an
award it granted. -/
theorem evaluateRule_effect {intl : Intl} {rule : Stored RewardRuleRow}
    {event : RewardTriggerEvent} {factor : FactorResult} {db next : RewardDb}
    {credited : Option Nat}
    (success : evaluateRule intl rule event factor db = .ok (credited, next)) :
    EvaluateEffect intl rule event factor db next ∧
      ∀ awardId, credited = some awardId → awardId = db.awards.nextId ∧ next.Granted awardId := by
  unfold evaluateRule at success
  split at success
  · obtain ⟨rfl, rfl⟩ := Prod.mk.inj (Except.ok.inj success)
    exact ⟨.unchanged, nofun⟩
  · dsimp only at success
    split at success
    · obtain ⟨rfl, rfl⟩ := Prod.mk.inj (Except.ok.inj success)
      exact ⟨.unchanged, nofun⟩
    · next awardId created createdEq =>
        obtain ⟨rfl, rfl, fresh⟩ := createIfAbsent_some createdEq
        cases outcome : conditionOutcome intl db rule event with
        | failed failedKind =>
            simp only [outcome] at success
            obtain ⟨rfl, rfl⟩ := Prod.mk.inj (Except.ok.inj success)
            exact ⟨refused_effect (.inl rfl) fresh, nofun⟩
        | passed =>
            simp only [outcome] at success
            split at success
            · obtain ⟨rfl, rfl⟩ := Prod.mk.inj (Except.ok.inj success)
              exact ⟨refused_effect (.inl rfl) fresh, nofun⟩
            · obtain ⟨⟨claimed, afterClaim⟩, claim, success⟩ := bind_eq_ok.mp success
              have slot : slotOf rule event (eventPeriod intl
                  (db.addAward (awardInput rule event ConditionOutcome.passed.hasPassed).row)
                  rule.row event) = eventSlot intl db rule event :=
                slotOf_eventPeriod intl db rule event
              rw [slot] at claim
              rcases claimSlot_cases claim with ⟨rfl, rfl⟩ | ⟨rfl, taken⟩
              · obtain ⟨rfl, rfl⟩ := Prod.mk.inj (Except.ok.inj success)
                exact ⟨refused_effect (.inr rfl) fresh, nofun⟩
              · obtain ⟨claimedDb, slotTaken, rfl⟩ := taken.of_addAward
                simp only [Bool.not_true, Bool.false_eq_true, if_false] at success
                split at success
                · obtain ⟨rfl, rfl⟩ := Prod.mk.inj (Except.ok.inj success)
                  exact ⟨.held _ claimedDb ⟨rfl, rfl, rfl, rfl, rfl, rfl, rfl, rfl⟩ rfl rfl fresh
                    slotTaken, nofun⟩
                · obtain ⟨⟨creditedPoints, granted⟩, grants, done⟩ := bind_eq_ok.mp success
                  obtain ⟨rfl, rfl⟩ := Prod.mk.inj (Except.ok.inj done)
                  have rules : claimedDb.rules = db.rules := slotTaken.frame.2.1
                  obtain ⟨effect, granting⟩ := granting_effect fresh slotTaken
                    ⟨rfl, rfl, rfl, rfl, rfl,
                      by simp only [RewardDb.loadBenefits, RewardDb.addAward, rules]⟩ grants
                  refine ⟨effect, fun awardId announced => ?_⟩
                  cases creditedPoints with
                  | false => contradiction
                  | true =>
                      obtain rfl := Option.some.inj announced
                      exact ⟨rfl, granting rfl⟩

/-! ### Granting a held award -/

inductive HeldEffect (intl : Intl) (award : Stored RewardAwardRow) (factor : FactorResult)
    (db : RewardDb) : RewardDb → Prop where
  | unchanged : HeldEffect intl award factor db db
  | worthless (row : RewardAwardRow) (rule : Stored RewardRuleRow) (reasonCode : String)
      (found : db.awards.get? award.id = some row)
      (sameEnterprise : row.enterpriseId = award.row.enterpriseId) (held : row.status = .held)
      (ruleFound : db.findRuleById award.row.enterpriseId award.row.ruleId = some rule)
      (worthless : (heldGrantInput db award rule).worthless factor = true) :
      HeldEffect intl award factor db
        { releaseFor db award.row.enterpriseId award.row.ruleId award.row.customerId award.id
            award.row.periodKey with
          awards := db.awards.update award.id fun _ =>
            { row with
              status := .skippedZeroFactor
              reasonCode := some reasonCode
              periodKey := award.row.periodKey.orElse fun _ => row.periodKey } }
  | granted (row : RewardAwardRow) (rule : Stored RewardRuleRow) (basisPoints : Option Nat)
      (after : RewardDb) (found : db.awards.get? award.id = some row)
      (sameEnterprise : row.enterpriseId = award.row.enterpriseId) (held : row.status = .held)
      (applied : applyBenefits intl (heldGrantInput db award rule) basisPoints 0
        (heldGrantInput db award rule).benefits db = .ok ((), after)) :
      HeldEffect intl award factor db
        { db with
          awards := db.awards.update award.id fun _ =>
            { row with
              status := .granted
              factorBasisPoints := basisPoints
              periodKey := award.row.periodKey.orElse fun _ => row.periodKey }
          store := after.store
          awardBenefits := after.awardBenefits
          entitlements := after.entitlements }

theorem lockHeldAward_eq_true {db : RewardDb} {enterpriseId awardId : Nat}
    (locked : db.lockHeldAward enterpriseId awardId = true) :
    ∃ row, db.awards.get? awardId = some row ∧ row.enterpriseId = enterpriseId ∧
      row.status = .held := by
  simpa [RewardDb.lockHeldAward, Option.any_eq_true] using locked

theorem findRuleById_some {db : RewardDb} {enterpriseId id : Nat} {rule : Stored RewardRuleRow}
    (found : db.findRuleById enterpriseId id = some rule) :
    rule.id = id ∧ db.rules.get? id = some rule.row ∧ rule.row.enterpriseId = enterpriseId := by
  simp only [RewardDb.findRuleById, Option.map_eq_some_iff, Option.filter_eq_some_iff,
    beq_iff_eq] at found
  obtain ⟨row, ⟨present, same⟩, rfl⟩ := found
  exact ⟨rfl, present, same⟩

/-- Updating an award whose row is known writes that row's new value. -/
theorem updateAward_awards {db : RewardDb} {enterpriseId awardId : Nat} {row : RewardAwardRow}
    (change : RewardAwardRow → RewardAwardRow) (found : db.awards.get? awardId = some row)
    (same : row.enterpriseId = enterpriseId) :
    (db.updateAward enterpriseId awardId change) =
      { db with awards := db.awards.update awardId fun _ => change row } := by
  rw [RewardDb.updateAward, Table.update_eq_const _ found, if_pos same]

theorem grantHeldAward_effect {intl : Intl} {award : Stored RewardAwardRow}
    {factor : FactorResult} {db next : RewardDb} {outcome : GrantOutcome}
    (success : grantHeldAward intl award factor db = .ok (outcome, next)) :
    HeldEffect intl award factor db next ∧
      ∀ triggerKind, outcome = .granted true triggerKind → next.Granted award.id := by
  unfold grantHeldAward at success
  split at success
  · obtain ⟨rfl, rfl⟩ := Prod.mk.inj (Except.ok.inj success)
    exact ⟨.unchanged, nofun⟩
  · next locked =>
      obtain ⟨row, found, sameEnterprise, held⟩ := lockHeldAward_eq_true (by simpa using locked)
      split at success
      · obtain ⟨rfl, rfl⟩ := Prod.mk.inj (Except.ok.inj success)
        exact ⟨.unchanged, nofun⟩
      · next rule ruleFound =>
          split at success
          · obtain ⟨rfl, rfl⟩ := Prod.mk.inj (Except.ok.inj success)
            exact ⟨.unchanged, nofun⟩
          · obtain ⟨⟨creditedPoints, after⟩, grants, done⟩ := bind_eq_ok.mp success
            obtain ⟨rfl, rfl⟩ := Prod.mk.inj (Except.ok.inj done)
            rcases grant_cases grants with
              ⟨worthless, rfl, reasonCode, rfl⟩ | ⟨-, basisPoints, applied, ran, rfl⟩
            · refine ⟨?_, nofun⟩
              have sameRule : rule.id = award.row.ruleId := (findRuleById_some ruleFound).1
              have present : (releaseFor db award.row.enterpriseId award.row.ruleId
                  award.row.customerId award.id award.row.periodKey).awards.get? award.id =
                  some row := by rw [releaseFor_awards, found]
              simp only [heldGrantInput_enterpriseId, heldGrantInput_rule, sameRule,
                heldGrantInput_customerId, heldGrantInput_awardId, heldGrantInput_periodKey,
                RewardDb.markSkipped]
              rw [updateAward_awards _ present sameEnterprise, releaseFor_awards]
              exact .worthless row rule reasonCode found sameEnterprise held ruleFound worthless
            · have value := applyBenefits_valueOnly ran
              have present : applied.awards.get? award.id = some row := by rw [value.awards, found]
              simp only [heldGrantInput_enterpriseId, heldGrantInput_awardId,
                heldGrantInput_periodKey, RewardDb.markGranted]
              rw [updateAward_awards _ present sameEnterprise, value.eq_update]
              refine ⟨.granted row rule basisPoints applied found sameEnterprise held ran,
                fun _ _ => ⟨_, by rw [Table.get?_update_self, found, Option.map_some], rfl⟩⟩

/-! ### Reversing an award -/

inductive ReverseEffect (award : Stored RewardAwardRow) (input : ReversalInput)
    (db : RewardDb) : RewardDb → Prop where
  | unchanged : ReverseEffect award input db db
  | reversed (after : RewardDb)
      (reversible : isReversible db award input = true)
      (compensated : award.row.status = .granted →
        BenefitDispatcher.compensateAward (reversalContext award input) db = .ok ((), after))
      (untouched : award.row.status ≠ .granted → after = db) :
      ReverseEffect award input db
        ({ releaseFor db input.enterpriseId award.row.ruleId award.row.customerId award.id
            award.row.periodKey with
          store := after.store
          awardBenefits := after.awardBenefits
          entitlements := after.entitlements }.markReversed input.enterpriseId award.id
            input.reasonCode)

theorem compensateAward_valueOnly {context : DispatchContext} {db next : RewardDb}
    (compensated : BenefitDispatcher.compensateAward context db = .ok ((), next)) :
    ValueOnly db next :=
  BenefitDispatcher.compensateRows_valueOnly compensated

theorem releaseFor_value (db after : RewardDb) (value : ValueOnly db after)
    (enterpriseId ruleId customerId awardId : Nat) (periodKey : Option String) :
    releaseFor after enterpriseId ruleId customerId awardId periodKey =
      { releaseFor db enterpriseId ruleId customerId awardId periodKey with
        store := after.store
        awardBenefits := after.awardBenefits
        entitlements := after.entitlements } := by
  rw [value.eq_update]
  cases periodKey <;> rfl

theorem reverseAward_effect {award : Stored RewardAwardRow} {input : ReversalInput}
    {db next : RewardDb} (reversible : isReversible db award input = true)
    (success : reverseAward award input db = .ok ((), next)) :
    ReverseEffect award input db next := by
  obtain ⟨⟨_, after⟩, undone, done⟩ := bind_eq_ok.mp success
  obtain ⟨-, rfl⟩ := Prod.mk.inj (Except.ok.inj done)
  have value : ValueOnly db after ∧
      (award.row.status = .granted →
        BenefitDispatcher.compensateAward (reversalContext award input) db = .ok ((), after)) ∧
      (award.row.status ≠ .granted → after = db) := by
    unfold takeBackValue at undone
    split at undone
    · next granted =>
        exact ⟨compensateAward_valueOnly undone, fun _ => undone, fun other => absurd granted other⟩
    · next other =>
        obtain ⟨-, rfl⟩ := Prod.mk.inj (Except.ok.inj undone)
        exact ⟨.refl db, fun granted => absurd granted other, fun _ => rfl⟩
  obtain ⟨frame, compensated, untouched⟩ := value
  rw [releaseFor_value db after frame]
  exact .reversed after reversible compensated untouched

/-! ### Managing programmes, rules and balances -/

def ManagementCall.form? (db : RewardDb) :
    ManagementCall → Option (Nat × Nat × CreateRewardProgramInput)
  | .createProgram enterpriseId input => some (enterpriseId, db.programs.nextId, input)
  | .updateProgram enterpriseId programId input => some (enterpriseId, programId, input)
  | .setProgramStatus _ _ _ | .setRuleActive _ _ _ | .adjustBalance _ _ => none

structure ManageEffect (call : ManagementCall) (db next : RewardDb) : Prop where
  businesses : next.businesses = db.businesses
  awards : next.awards = db.awards
  awardBenefits : next.awardBenefits = db.awardBenefits
  counters : next.counters = db.counters
  slotMoves : next.slotMoves = db.slotMoves
  rules : RulesGrow db next
  written : ∀ id rule, next.rules.get? id = some rule → db.rules.get? id = none →
    ∃ enterpriseId programId input previous triggerKind,
      call.form? db = some (enterpriseId, programId, input) ∧ triggerKind ∈ input.triggers ∧
      rule = input.newRule enterpriseId programId previous triggerKind
  store : next.store = db.store ∨ ∃ enterpriseId input, call = .adjustBalance enterpriseId input ∧
    adjustBalance enterpriseId input db = .ok ((), next)

theorem adjustBalance_valueOnly {enterpriseId : Nat} {input : AdjustRewardBalanceInput}
    {db next : RewardDb} (adjusted : adjustBalance enterpriseId input db = .ok ((), next)) :
    ValueOnly db next ∧ next.awardBenefits = db.awardBenefits := by
  obtain ⟨⟨wallet, middle⟩, ensured, rest⟩ := bind_eq_ok.mp adjusted
  obtain ⟨⟨entry, after⟩, posted, done⟩ := bind_eq_ok.mp rest
  obtain ⟨-, rfl⟩ := Prod.mk.inj (Except.ok.inj done)
  refine ⟨(onStore_valueOnly ensured).trans (onStore_valueOnly posted), ?_⟩
  obtain ⟨_, -, rfl⟩ := onStore_ok ensured
  obtain ⟨_, -, rfl⟩ := onStore_ok posted
  rfl

theorem manage_effect {intl : Intl} {call : ManagementCall} {db next : RewardDb}
    (success : call.statement intl db = .ok ((), next)) : ManageEffect call db next := by
  cases call with
  | createProgram enterpriseId input =>
      obtain ⟨⟨programId, after⟩, created, done⟩ := bind_eq_ok.mp success
      obtain ⟨-, rfl⟩ := Prod.mk.inj (Except.ok.inj done)
      obtain ⟨rfl, program, -, rfl⟩ := createProgram_ok created
      refine ⟨rfl, rfl, rfl, rfl, rfl, ?_, fun id rule found absent => ?_, .inl rfl⟩
      · refine RulesGrow.trans ?_ (RulesGrow.withNewRules _ _ _ _ _)
        exact .of_rules_eq rfl
      · rcases withNewRules_get? found with old | ⟨-, triggerKind, listed, same⟩
        · exact absurd (absent.symm.trans old) (by simp)
        · exact ⟨_, _, _, _, triggerKind, rfl, listed, same⟩
  | updateProgram enterpriseId programId input =>
      obtain ⟨change, -, rfl⟩ := updateProgram_ok success
      refine ⟨rfl, rfl, rfl, rfl, rfl, ?_, fun id rule found absent => ?_, .inl rfl⟩
      · refine RulesGrow.trans ?_ (RulesGrow.withNewRules _ _ _ _ _)
        refine RulesGrow.trans ?_ (RulesGrow.deactivateProgramRules _ _ _)
        exact .of_rules_eq rfl
      · rcases withNewRules_get? found with old | ⟨-, triggerKind, listed, same⟩
        · exact absurd ((deactivateProgramRules_missing enterpriseId programId absent).symm.trans old)
            (by simp)
        · exact ⟨_, _, _, _, triggerKind, rfl, listed, same⟩
  | setProgramStatus enterpriseId programId status =>
      simp only [ManagementCall.statement, setProgramStatus] at success
      split at success
      · contradiction
      · split at success
        · contradiction
        · obtain ⟨-, rfl⟩ := Prod.mk.inj (Except.ok.inj success)
          exact ⟨rfl, rfl, rfl, rfl, rfl, .of_rules_eq rfl,
            fun id rule found absent => absurd (absent.symm.trans found) (by simp), .inl rfl⟩
  | setRuleActive enterpriseId ruleId isActive =>
      simp only [ManagementCall.statement, setRuleActive] at success
      split at success
      · contradiction
      · obtain ⟨-, rfl⟩ := Prod.mk.inj (Except.ok.inj success)
        refine ⟨rfl, rfl, rfl, rfl, rfl, fun id rule found => ?_, fun id rule found absent => ?_,
          .inl rfl⟩
        · dsimp only
          rw [Table.get?_update, found]
          split
          · exact ⟨isActive, rfl⟩
          · exact ⟨rule.isActive, rfl⟩
        · simp only [Table.get?_update, absent, Option.map_none, ite_self] at found
          contradiction
  | adjustBalance enterpriseId input =>
      obtain ⟨frame, benefits⟩ := adjustBalance_valueOnly success
      refine ⟨frame.businesses, frame.awards, benefits, frame.counters, frame.slotMoves,
        .of_rules_eq frame.rules, fun id rule found absent => ?_, .inr ⟨_, _, rfl, success⟩⟩
      rw [frame.rules, absent] at found
      contradiction

/-! ### Any step -/

inductive StepEffect (intl : Intl) (choice : EngineChoice) (db : RewardDb) :
    EngineTask → RewardDb → Prop where
  | unchanged (task : EngineTask) : StepEffect intl choice db task db
  | evaluated (rule : Stored RewardRuleRow) (event : RewardTriggerEvent) (next : RewardDb)
      (effect : EvaluateEffect intl rule event choice.factor db next) :
      StepEffect intl choice db (.evaluate rule event) next
  | swept (award : Stored RewardAwardRow) (next : RewardDb)
      (effect : HeldEffect intl award choice.factor db next) :
      StepEffect intl choice db (.grantHeld award) next
  | reversed (award : Stored RewardAwardRow) (input : ReversalInput) (next : RewardDb)
      (effect : ReverseEffect award input db next) :
      StepEffect intl choice db (.reverse award input) next
  | managed (call : ManagementCall) (next : RewardDb) (effect : ManageEffect call db next) :
      StepEffect intl choice db (.manage call) next

theorem transact_snd {Value : Type} (statement : Statement RewardDb RewardError Value)
    (db : RewardDb) :
    (transact statement db).2 = db ∨
      ∃ value, statement db = .ok (value, (transact statement db).2) := by
  cases result : statement db with
  | error error => exact .inl (by rw [transact_of_error result])
  | ok outcome =>
      obtain ⟨value, next⟩ := outcome
      exact .inr ⟨value, by rw [transact_of_ok result]⟩

theorem engineStep_effect (intl : Intl) (db : RewardDb) (task : EngineTask)
    (choice : EngineChoice) :
    StepEffect intl choice db task (engineStep intl db task choice).1 := by
  cases task with
  | findRules event => exact .unchanged _
  | evaluate rule event =>
      have committed : (engineStep intl db (.evaluate rule event) choice).1 =
          (transact (evaluateRule intl rule event choice.factor) db).2 := by
        simp only [engineStep]
        rcases transact (evaluateRule intl rule event choice.factor) db with ⟨_ | _ | _, _⟩ <;> rfl
      rw [committed]
      rcases transact_snd (evaluateRule intl rule event choice.factor) db with same | ⟨_, success⟩
      · exact same.symm ▸ .unchanged _
      · exact .evaluated _ _ _ (evaluateRule_effect success).1
  | offerBalanceThresholds offer =>
      have same : (engineStep intl db (.offerBalanceThresholds offer) choice).1 = db := by
        simp only [engineStep]
        split <;> rfl
      exact same.symm ▸ .unchanged _
  | claimDueHeldAwards => exact .unchanged _
  | grantHeld award =>
      have committed : (engineStep intl db (.grantHeld award) choice).1 =
          (transact (grantHeldAward intl award choice.factor) db).2 := by
        simp only [engineStep]
        rcases transact (grantHeldAward intl award choice.factor) db with
          ⟨_ | _ | ⟨_ | _, _⟩, _⟩ <;> rfl
      rw [committed]
      rcases transact_snd (grantHeldAward intl award choice.factor) db with same | ⟨_, success⟩
      · exact same.symm ▸ .unchanged _
      · exact .swept _ _ (grantHeldAward_effect success).1
  | findBySource input => exact .unchanged _
  | reverse award input =>
      simp only [engineStep]
      split
      · next reversible =>
          rcases transact_snd (reverseAward award input) db with same | ⟨_, success⟩
          · rw [same]
            exact .unchanged _
          · exact .reversed _ _ _ (reverseAward_effect reversible success)
      · exact .unchanged _
  | manage call =>
      simp only [engineStep]
      rcases transact_snd (call.statement intl) db with same | ⟨_, success⟩
      · rw [same]
        exact .unchanged _
      · exact .managed _ _ (manage_effect success)

theorem mem_orderBy {Row : Type} {key : Row → Int} {rows : List Row} {row : Row} :
    row ∈ RewardDb.orderBy key rows ↔ row ∈ rows :=
  (List.perm_insertionSort _ rows).mem_iff

/-- A step puts further tasks in front of what is left: what it listed, as it
read it, or an offer. Steps that list change nothing. -/
inductive Spawned (db : RewardDb) : EngineTask → EngineTask → Prop where
  | evaluate (event : RewardTriggerEvent) (rule : Stored RewardRuleRow)
      (found : db.rules.get? rule.id = some rule.row)
      (sameEnterprise : rule.row.enterpriseId = event.enterpriseId)
      (sameTrigger : rule.row.triggerKind = event.triggerKind)
      (applies : ruleMatchesEvent rule event = true) :
      Spawned db (.findRules event) (.evaluate rule event)
  | offerBalanceThresholds (task : EngineTask) (offer : ThresholdOffer)
      (sweeps : task ≠ .claimDueHeldAwards) (seeks : ∀ input, task ≠ .findBySource input) :
      Spawned db task (.offerBalanceThresholds offer)
  | findRules (offer : ThresholdOffer) (event : RewardTriggerEvent)
      (raised : thresholdEvent db offer = some event) :
      Spawned db (.offerBalanceThresholds offer) (.findRules event)
  | grantHeld (award : Stored RewardAwardRow)
      (found : db.awards.get? award.id = some award.row) (held : award.row.status = .held) :
      Spawned db .claimDueHeldAwards (.grantHeld award)
  | reverse (input : ReversalInput) (award : Stored RewardAwardRow)
      (found : db.awards.get? award.id = some award.row)
      (sameEnterprise : award.row.enterpriseId = input.enterpriseId) :
      Spawned db (.findBySource input) (.reverse award input)

theorem engineStep_spawned {intl : Intl} {db : RewardDb} {task next : EngineTask}
    {choice : EngineChoice} (spawned : next ∈ (engineStep intl db task choice).2) :
    Spawned db task next := by
  cases task with
  | findRules event =>
      simp only [engineStep, List.mem_map, List.mem_filter] at spawned
      obtain ⟨rule, ⟨candidate, applies⟩, rfl⟩ := spawned
      obtain ⟨found, wanted⟩ := Table.mem_select.mp (mem_orderBy.mp candidate)
      simp only [Bool.and_eq_true, beq_iff_eq] at wanted
      exact .evaluate event rule found wanted.1.1.1 wanted.1.1.2 applies
  | evaluate rule event =>
      simp only [engineStep] at spawned
      split at spawned
      · rw [List.mem_singleton.mp spawned]
        exact .offerBalanceThresholds _ _ (by simp) (by simp)
      · contradiction
  | offerBalanceThresholds offer =>
      simp only [engineStep] at spawned
      split at spawned
      · next event raised =>
        rw [List.mem_singleton.mp spawned]
        exact .findRules _ _ raised
      · contradiction
  | claimDueHeldAwards =>
      simp only [engineStep, List.mem_map] at spawned
      obtain ⟨award, listed, rfl⟩ := spawned
      obtain ⟨found, due⟩ := Table.mem_select.mp (mem_orderBy.mp (List.mem_of_mem_take listed))
      simp only [Bool.and_eq_true, beq_iff_eq] at due
      exact .grantHeld award found due.1
  | grantHeld award =>
      simp only [engineStep] at spawned
      split at spawned
      · rw [List.mem_singleton.mp spawned]
        exact .offerBalanceThresholds _ _ (by simp) (by simp)
      · contradiction
  | findBySource input =>
      simp only [engineStep, List.mem_map] at spawned
      obtain ⟨award, listed, rfl⟩ := spawned
      obtain ⟨found, wanted⟩ := Table.mem_select.mp listed
      simp only [Bool.and_eq_true, beq_iff_eq] at wanted
      exact .reverse input award found wanted.1.1
  | reverse award input =>
      simp only [engineStep] at spawned
      split at spawned <;> contradiction
  | manage call =>
      simp only [engineStep] at spawned
      contradiction

/-! ### What a step leaves alone -/

def EngineTask.subject : EngineTask → Option Nat
  | .grantHeld award => some award.id
  | .reverse award _ => some award.id
  | .findRules _ | .evaluate _ _ | .offerBalanceThresholds _ | .claimDueHeldAwards
  | .findBySource _ | .manage _ => none

theorem EvaluateEffect.frame {intl : Intl} {rule : Stored RewardRuleRow}
    {event : RewardTriggerEvent} {factor : FactorResult} {db next : RewardDb}
    (effect : EvaluateEffect intl rule event factor db next) :
    next.businesses = db.businesses ∧ next.rules = db.rules ∧
      (next.awards = db.awards ∨ ∃ award, AwardFor rule event award ∧
        SourceUnused db rule event ∧ next.awards = db.awards.insert award) := by
  cases effect with
  | unchanged => exact ⟨rfl, rfl, .inl rfl⟩
  | refused award isFor status fresh => exact ⟨rfl, rfl, .inr ⟨award, isFor, fresh, rfl⟩⟩
  | held award claimed isFor status unrecorded fresh taken =>
      obtain ⟨awards, rules, businesses, -⟩ := taken.frame
      exact ⟨businesses, rules, .inr ⟨award, isFor, fresh, by rw [RewardDb.addAward, awards]⟩⟩
  | worthless award claimed isFor status recorded fresh taken =>
      obtain ⟨awards, rules, businesses, -⟩ := taken.frame
      refine ⟨?_, ?_, .inr ⟨award, isFor, fresh, by rw [RewardDb.addAward, releaseFor_awards, awards]⟩⟩
      · rw [RewardDb.addAward, releaseFor_businesses, businesses]
      · rw [RewardDb.addAward, releaseFor_rules, rules]
  | granted award claimed held after input basisPoints isFor status recorded fresh taken grants
      value applied =>
      obtain ⟨awards, rules, businesses, -⟩ := taken.frame
      exact ⟨businesses, rules, .inr ⟨award, isFor, fresh, by rw [RewardDb.addAward, awards]⟩⟩

/-- Held or granted: the award's value is due or given. -/
def RewardAwardRow.isLive (award : RewardAwardRow) : Bool :=
  award.status == .held || award.status == .granted

structure Later (award later : RewardAwardRow) : Prop where
  enterpriseId : later.enterpriseId = award.enterpriseId
  programId : later.programId = award.programId
  ruleId : later.ruleId = award.ruleId
  customerId : later.customerId = award.customerId
  sourceRefKind : later.sourceRefKind = award.sourceRefKind
  sourceRefId : later.sourceRefId = award.sourceRefId
  occurredAtUtc : later.occurredAtUtc = award.occurredAtUtc
  live : later.isLive = true → award.isLive = true

theorem Later.refl (award : RewardAwardRow) : Later award award :=
  ⟨rfl, rfl, rfl, rfl, rfl, rfl, rfl, fun live => live⟩

theorem Later.trans {first second third : RewardAwardRow} (earlier : Later first second)
    (later : Later second third) : Later first third where
  enterpriseId := later.enterpriseId.trans earlier.enterpriseId
  programId := later.programId.trans earlier.programId
  ruleId := later.ruleId.trans earlier.ruleId
  customerId := later.customerId.trans earlier.customerId
  sourceRefKind := later.sourceRefKind.trans earlier.sourceRefKind
  sourceRefId := later.sourceRefId.trans earlier.sourceRefId
  occurredAtUtc := later.occurredAtUtc.trans earlier.occurredAtUtc
  live := fun live => earlier.live (later.live live)

theorem HeldEffect.frame {intl : Intl} {award : Stored RewardAwardRow} {factor : FactorResult}
    {db next : RewardDb} (effect : HeldEffect intl award factor db next) :
    next.businesses = db.businesses ∧ next.rules = db.rules ∧
      ∃ change, next.awards = db.awards.update award.id change ∧
        ∀ row, db.awards.get? award.id = some row → Later row (change row) := by
  cases effect with
  | unchanged =>
      exact ⟨rfl, rfl, fun row => row, (Table.update_id _ _).symm, fun row _ => .refl row⟩
  | worthless row rule reasonCode found =>
      refine ⟨releaseFor_businesses .., releaseFor_rules .., _, rfl, fun other same => ?_⟩
      obtain rfl := Option.some.inj (found.symm.trans same)
      exact ⟨rfl, rfl, rfl, rfl, rfl, rfl, rfl, fun live => absurd live (by simp [RewardAwardRow.isLive])⟩
  | granted row rule basisPoints after found sameEnterprise held =>
      refine ⟨rfl, rfl, _, rfl, fun other same => ?_⟩
      obtain rfl := Option.some.inj (found.symm.trans same)
      exact ⟨rfl, rfl, rfl, rfl, rfl, rfl, rfl, fun _ => by simp [RewardAwardRow.isLive, held]⟩

theorem ReverseEffect.frame {award : Stored RewardAwardRow} {input : ReversalInput}
    {db next : RewardDb} (effect : ReverseEffect award input db next) :
    next.businesses = db.businesses ∧ next.rules = db.rules ∧
      ∃ change, next.awards = db.awards.update award.id change ∧
        ∀ row, db.awards.get? award.id = some row → Later row (change row) := by
  cases effect with
  | unchanged =>
      exact ⟨rfl, rfl, fun row => row, (Table.update_id _ _).symm, fun row _ => .refl row⟩
  | reversed after =>
      refine ⟨releaseFor_businesses .., releaseFor_rules .., ?_⟩
      simp only [RewardDb.markReversed, RewardDb.updateAward, releaseFor_awards]
      refine ⟨_, rfl, fun row _ => ?_⟩
      split
      · exact ⟨rfl, rfl, rfl, rfl, rfl, rfl, rfl, fun live => absurd live (by simp [RewardAwardRow.isLive])⟩
      · exact .refl row

theorem StepEffect.rules {intl : Intl} {choice : EngineChoice} {db next : RewardDb}
    {task : EngineTask} (effect : StepEffect intl choice db task next) :
    next.businesses = db.businesses ∧ RulesGrow db next := by
  cases effect with
  | unchanged => exact ⟨rfl, .refl db⟩
  | evaluated rule event _ effect => exact ⟨effect.frame.1, .of_rules_eq effect.frame.2.1⟩
  | swept award _ effect => exact ⟨effect.frame.1, .of_rules_eq effect.frame.2.1⟩
  | reversed award input _ effect => exact ⟨effect.frame.1, .of_rules_eq effect.frame.2.1⟩
  | managed call _ effect => exact ⟨effect.businesses, effect.rules⟩

theorem StepEffect.rules_origin {intl : Intl} {choice : EngineChoice} {db next : RewardDb}
    {task : EngineTask} (effect : StepEffect intl choice db task next) {id : Nat}
    {rule : RewardRuleRow} (found : next.rules.get? id = some rule) :
    (∃ old isActive, db.rules.get? id = some old ∧ rule = { old with isActive }) ∨
      ∃ call enterpriseId programId input previous triggerKind, task = .manage call ∧
        call.form? db = some (enterpriseId, programId, input) ∧ triggerKind ∈ input.triggers ∧
        rule = input.newRule enterpriseId programId previous triggerKind := by
  cases present : db.rules.get? id with
  | some old =>
      obtain ⟨isActive, later⟩ := effect.rules.2 id old present
      exact .inl ⟨old, isActive, rfl, Option.some.inj (found.symm.trans later)⟩
  | none =>
      have absent : next.rules ≠ db.rules := by
        intro same
        rw [same, present] at found
        contradiction
      cases effect with
      | unchanged => exact absurd rfl absent
      | evaluated rule event _ effect => exact absurd effect.frame.2.1 absent
      | swept award _ effect => exact absurd effect.frame.2.1 absent
      | reversed award input _ effect => exact absurd effect.frame.2.1 absent
      | managed call _ effect =>
          obtain ⟨enterpriseId, programId, input, previous, triggerKind, form, listed, same⟩ :=
            effect.written id rule found present
          exact .inr ⟨call, enterpriseId, programId, input, previous, triggerKind, rfl, form,
            listed, same⟩

theorem StepEffect.awards_kept {intl : Intl} {choice : EngineChoice} {db next : RewardDb}
    {task : EngineTask} (effect : StepEffect intl choice db task next) {id : Nat}
    {row : RewardAwardRow} (other : task.subject ≠ some id)
    (found : db.awards.get? id = some row) : next.awards.get? id = some row := by
  cases effect with
  | unchanged => exact found
  | evaluated rule event _ effect =>
      rcases effect.frame.2.2 with same | ⟨award, -, -, added⟩
      · rw [same, found]
      · rw [added, Table.get?_insert_of_some award found]
  | swept award _ effect =>
      obtain ⟨change, updated, -⟩ := effect.frame.2.2
      rw [updated, Table.get?_update_of_ne _ change (fun same => other (congrArg some same)), found]
  | reversed award input _ effect =>
      obtain ⟨change, updated, -⟩ := effect.frame.2.2
      rw [updated, Table.get?_update_of_ne _ change (fun same => other (congrArg some same)), found]
  | managed call _ effect => rw [effect.awards, found]

theorem StepEffect.awards_later {intl : Intl} {choice : EngineChoice} {db next : RewardDb}
    {task : EngineTask} (effect : StepEffect intl choice db task next) {id : Nat}
    {award : RewardAwardRow} (found : db.awards.get? id = some award) :
    ∃ later, next.awards.get? id = some later ∧ Later award later := by
  have of_update : ∀ {target : Nat} {change : RewardAwardRow → RewardAwardRow},
      next.awards = db.awards.update target change →
      (∀ row, db.awards.get? target = some row → Later row (change row)) →
      ∃ later, next.awards.get? id = some later ∧ Later award later := by
    intro target change updated changed
    rw [updated, Table.get?_update, found]
    split
    · next same => exact ⟨change award, rfl, changed award (same ▸ found)⟩
    · exact ⟨award, rfl, .refl award⟩
  cases effect with
  | unchanged => exact ⟨award, found, .refl award⟩
  | evaluated rule event _ effect =>
      rcases effect.frame.2.2 with same | ⟨new, -, -, added⟩
      · exact ⟨award, same ▸ found, .refl award⟩
      · exact ⟨award, by rw [added, Table.get?_insert_of_some new found], .refl award⟩
  | swept listed _ effect =>
      obtain ⟨change, updated, changed⟩ := effect.frame.2.2
      exact of_update updated changed
  | reversed listed input _ effect =>
      obtain ⟨change, updated, changed⟩ := effect.frame.2.2
      exact of_update updated changed
  | managed call _ effect => exact ⟨award, effect.awards ▸ found, .refl award⟩

theorem StepEffect.awards_origin {intl : Intl} {choice : EngineChoice} {db next : RewardDb}
    {task : EngineTask} (effect : StepEffect intl choice db task next) {id : Nat}
    {later : RewardAwardRow} (found : next.awards.get? id = some later) :
    (∃ award, db.awards.get? id = some award ∧ Later award later) ∨
      (id = db.awards.nextId ∧ ∃ rule event, task = .evaluate rule event ∧
        AwardFor rule event later ∧ SourceUnused db rule event) := by
  have of_update : ∀ {target : Nat} {change : RewardAwardRow → RewardAwardRow},
      next.awards = db.awards.update target change →
      (∀ row, db.awards.get? target = some row → Later row (change row)) →
      ∃ award, db.awards.get? id = some award ∧ Later award later := by
    intro target change updated changed
    rw [updated, Table.get?_update] at found
    split at found
    · next same =>
        subst same
        obtain ⟨award, present, rfl⟩ := Option.map_eq_some_iff.mp found
        exact ⟨award, present, changed award present⟩
    · exact ⟨later, found, .refl later⟩
  cases effect with
  | unchanged => exact .inl ⟨later, found, .refl later⟩
  | evaluated rule event _ effect =>
      rcases effect.frame.2.2 with same | ⟨award, isFor, fresh, added⟩
      · exact .inl ⟨later, same ▸ found, .refl later⟩
      · rw [added, Table.get?_insert] at found
        split at found
        · next last =>
            obtain rfl := Option.some.inj found
            exact .inr ⟨last, rule, event, rfl, isFor, fresh⟩
        · exact .inl ⟨later, found, .refl later⟩
  | swept award _ effect =>
      obtain ⟨change, updated, changed⟩ := effect.frame.2.2
      exact .inl (of_update updated changed)
  | reversed award input _ effect =>
      obtain ⟨change, updated, changed⟩ := effect.frame.2.2
      exact .inl (of_update updated changed)
  | managed call _ effect => exact .inl ⟨later, effect.awards ▸ found, .refl later⟩

end UnifiedService.Rewards
