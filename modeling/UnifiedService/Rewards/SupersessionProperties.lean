import UnifiedService.Rewards.CapProperties

/-! Awards across the rule versions of one programme: what a cap and the
exactly-once index still promise when edits fall between events, with any
number of calls at a time. -/

set_option autoImplicit false

namespace UnifiedService.Rewards

open UnifiedService.Library

def triggerOf (db : RewardDb) (award : RewardAwardRow) : Option RewardTriggerKind :=
  (db.rules.get? award.ruleId).map (·.triggerKind)

theorem triggerOf_grow {db next : RewardDb} {award : RewardAwardRow} {rule : RewardRuleRow}
    (found : db.rules.get? award.ruleId = some rule) (grow : RulesGrow db next) :
    triggerOf next award = triggerOf db award := by
  obtain ⟨isActive, later⟩ := grow _ _ found
  simp only [triggerOf, found, later, Option.map_some]

theorem triggerOf_new {db : RewardDb} {rule : Stored RewardRuleRow} {event : RewardTriggerEvent}
    {award : RewardAwardRow} (read : RuleRead db rule) (isFor : AwardFor rule event award) :
    triggerOf db award = some rule.row.triggerKind := by
  obtain ⟨isActive, found⟩ := read
  simp only [triggerOf, isFor.ruleId, found, Option.map_some]

/-! ### Live awards of one kind come from one rule row -/

def FromOneRule (kind : RewardAwardRow → Prop) (db : RewardDb) : Prop :=
  ∀ first second one other, db.awards.get? first = some one → db.awards.get? second = some other →
    one.isLive = true → other.isLive = true → kind one → kind other → one.ruleId = other.ruleId

theorem FromOneRule.step {intl : Intl} {choice : EngineChoice} {db next : RewardDb}
    {task : EngineTask} {kind kindLater : RewardAwardRow → Prop} (unique : FromOneRule kind db)
    (effect : StepEffect intl choice db task next)
    (stable : ∀ id award later, db.awards.get? id = some award → Later award later →
      kindLater later → kind award)
    (beside : ∀ rule event later, task = .evaluate rule event → AwardFor rule event later →
      kindLater later → ∀ id award, db.awards.get? id = some award → award.isLive = true →
        kind award → award.ruleId = rule.id) :
    FromOneRule kindLater next := by
  intro first second one other firstFound secondFound oneLive otherLive oneKind otherKind
  rcases effect.awards_origin firstFound with
    ⟨award, present, same⟩ | ⟨-, rule, event, isTask, isFor, -⟩
  · have awardKind := stable _ _ _ present same oneKind
    rcases effect.awards_origin secondFound with
      ⟨second, secondPresent, secondSame⟩ | ⟨-, rule, event, isTask, isFor, -⟩
    · have secondKind := stable _ _ _ secondPresent secondSame otherKind
      rw [same.ruleId, secondSame.ruleId]
      exact unique _ _ _ _ present secondPresent (same.live oneLive) (secondSame.live otherLive)
        awardKind secondKind
    · rw [same.ruleId, isFor.ruleId]
      exact beside rule event other isTask isFor otherKind _ _ present (same.live oneLive) awardKind
  · rcases effect.awards_origin secondFound with
      ⟨second, secondPresent, secondSame⟩ | ⟨-, otherRule, otherEvent, isSame, otherFor, -⟩
    · have secondKind := stable _ _ _ secondPresent secondSame otherKind
      rw [secondSame.ruleId, isFor.ruleId]
      exact (beside rule event one isTask isFor oneKind _ _ secondPresent
        (secondSame.live otherLive) secondKind).symm
    · obtain ⟨rfl, rfl⟩ := EngineTask.evaluate.inj (isTask.symm.trans isSame)
      rw [isFor.ruleId, otherFor.ruleId]

/-! ### Counters stay within the cap of their rule -/

/-- A counter never passes its cap, and its cap is that of its rule. -/
def CountersBounded (db : RewardDb) : Prop :=
  ∀ key counter, db.counters key = some counter → counter.used ≤ counter.cap ∧
    ∃ rule, db.rules.get? key.ruleId = some rule ∧ rule.capCount = counter.cap

theorem CountersBounded.of_counters_eq {db next : RewardDb} (bounded : CountersBounded db)
    (counters : next.counters = db.counters) (grow : RulesGrow db next) :
    CountersBounded next := by
  intro key counter counted
  obtain ⟨within, rule, found, same⟩ := bounded key counter (counters ▸ counted)
  obtain ⟨isActive, later⟩ := grow _ _ found
  exact ⟨within, _, later, same⟩

theorem CountersBounded.taken {db claimed : RewardDb} {rule : Stored RewardRuleRow}
    {awardId : Nat} {slot : Option CapKey} (bounded : CountersBounded db)
    (read : RuleRead db rule) (ofRule : ∀ key, slot = some key → key.ruleId = rule.id)
    (taken : SlotTaken db rule.row.capCount awardId slot claimed) : CountersBounded claimed := by
  obtain ⟨isActive, found⟩ := read
  cases taken with
  | uncapped => exact bounded
  | first key unused room =>
      intro other counter counted
      simp only [RewardDb.takeSlot] at counted
      split at counted
      · next same =>
          obtain rfl := Option.some.inj counted
          exact ⟨room, _, (congrArg db.rules.get? (same ▸ ofRule key rfl)).trans found, rfl⟩
      · exact bounded other counter counted
  | next key held heldCount room =>
      intro other counter counted
      simp only [RewardDb.takeSlot] at counted
      split at counted
      · next same =>
          obtain rfl := Option.some.inj counted
          exact ⟨room, same ▸ (bounded key held heldCount).2⟩
      · exact bounded other counter counted

theorem CountersBounded.released {db : RewardDb} (bounded : CountersBounded db)
    (enterpriseId ruleId customerId awardId : Nat) (periodKey : Option String) :
    CountersBounded (releaseFor db enterpriseId ruleId customerId awardId periodKey) := by
  cases periodKey with
  | none => exact bounded
  | some periodKey =>
      intro other counter counted
      simp only [releaseFor, RewardDb.releaseCapSlot] at counted
      split at counted
      · next same =>
          obtain ⟨held, heldCount, rfl⟩ := Option.map_eq_some_iff.mp counted
          obtain ⟨within, known⟩ := bounded _ held heldCount
          exact ⟨Nat.le_trans (Nat.sub_le _ _) within, same ▸ known⟩
      · exact bounded other counter counted

theorem eventSlot_ruleId {intl : Intl} {db : RewardDb} {rule : Stored RewardRuleRow}
    {event : RewardTriggerEvent} {key : CapKey} (slot : eventSlot intl db rule event = some key) :
    key.ruleId = rule.id := by
  obtain ⟨periodKey, -, rfl⟩ := Option.map_eq_some_iff.mp slot
  rfl

theorem CountersBounded.step {intl : Intl} {choice : EngineChoice} {db next : RewardDb}
    {task : EngineTask} (bounded : CountersBounded db)
    (effect : StepEffect intl choice db task next)
    (read : ∀ rule event, task = .evaluate rule event → RuleRead db rule) :
    CountersBounded next := by
  cases effect with
  | unchanged => exact bounded
  | evaluated rule event _ effect =>
      have known := read rule event rfl
      cases effect with
      | unchanged => exact bounded
      | refused award => exact bounded
      | held award claimed isFor status unrecorded fresh taken =>
          have within := bounded.taken known (fun _ => eventSlot_ruleId) taken
          exact within
      | worthless award claimed isFor status recorded fresh taken =>
          exact (bounded.taken known (fun _ => eventSlot_ruleId) taken).released _ _ _ _ _
      | granted award claimed held after input basisPoints isFor status recorded fresh taken =>
          have within := bounded.taken known (fun _ => eventSlot_ruleId) taken
          exact within
  | swept award _ effect =>
      cases effect with
      | unchanged => exact bounded
      | worthless row rule reasonCode => exact bounded.released _ _ _ _ _
      | granted row rule basisPoints after => exact bounded
  | reversed award input _ effect =>
      cases effect with
      | unchanged => exact bounded
      | reversed after => exact bounded.released _ _ _ _ _
  | managed call _ effect => exact bounded.of_counters_eq effect.counters effect.rules

/-! ### A cap across the edits of a programme -/

structure Earning where
  enterpriseId : Nat
  programId : Nat
  triggerKind : RewardTriggerKind
  customerId : Nat
  periodKey : String

def Earning.earned (intl : Intl) (earning : Earning) (db : RewardDb) (award : RewardAwardRow) :
    Bool :=
  award.enterpriseId == earning.enterpriseId && award.programId == earning.programId &&
    triggerOf db award == some earning.triggerKind && award.customerId == earning.customerId &&
    periodOf intl db award == some earning.periodKey

def Earning.granted (intl : Intl) (earning : Earning) (db : RewardDb) : Nat :=
  db.awards.count fun award => award.status == .granted && earning.earned intl db award

def Earning.earnedBy (intl : Intl) (earning : Earning) (db : RewardDb)
    (rule : Stored RewardRuleRow) (event : RewardTriggerEvent) : Bool :=
  event.enterpriseId == earning.enterpriseId && rule.row.programId == earning.programId &&
    rule.row.triggerKind == earning.triggerKind && event.customerId == earning.customerId &&
    eventPeriod intl db rule.row event == some earning.periodKey

/-- Every rule of the programme and trigger, old or new, has this cap. -/
def CapKept (earning : Earning) (capScope : RewardCapScope) (capCount : Nat)
    (rules : Table RewardRuleRow) : Prop :=
  ∀ id rule, rules.get? id = some rule → rule.enterpriseId = earning.enterpriseId →
    rule.programId = earning.programId → rule.triggerKind = earning.triggerKind →
      rule.capScope = capScope ∧ rule.capCount = capCount

def FormKeepsCap (earning : Earning) (capScope : RewardCapScope) (capCount : Nat)
    (db : RewardDb) (call : ManagementCall) : Prop :=
  match call.form? db with
  | some (enterpriseId, programId, input) =>
      enterpriseId = earning.enterpriseId → programId = earning.programId →
        earning.triggerKind ∈ input.triggers →
          input.capScope = capScope ∧ input.capCount = capCount
  | none => True

/-- The steps of a run that keeps the cap: forms keep it, nothing is taken back,
and no award is earned in a period where another rule row has a live one. -/
def KeepsCap (intl : Intl) (earning : Earning) (capScope : RewardCapScope) (capCount : Nat)
    (db : RewardDb) : Event EngineTask EngineCall EngineChoice → Prop
  | .opened (.reverseForDeletedContent _) => False
  | .ran (.manage call) _ => FormKeepsCap earning capScope capCount db call
  | .ran (.evaluate rule event) _ => earning.earnedBy intl db rule event = true →
      ∀ stored ∈ db.awards.select fun award => award.isLive && earning.earned intl db award,
        stored.row.ruleId = rule.id
  | _ => True

instance (earning : Earning) (capScope : RewardCapScope) (capCount : Nat) (db : RewardDb)
    (call : ManagementCall) : Decidable (FormKeepsCap earning capScope capCount db call) := by
  unfold FormKeepsCap
  exact match call.form? db with
  | some (enterpriseId, programId, input) => inferInstance
  | none => isTrue trivial

instance (intl : Intl) (earning : Earning) (capScope : RewardCapScope) (capCount : Nat)
    (db : RewardDb) (event : Event EngineTask EngineCall EngineChoice) :
    Decidable (KeepsCap intl earning capScope capCount db event) :=
  match event with
  | .opened (.reverseForDeletedContent _) => isFalse id
  | .ran (.manage call) _ =>
      inferInstanceAs (Decidable (FormKeepsCap earning capScope capCount db call))
  | .ran (.evaluate rule event) _ =>
      inferInstanceAs (Decidable (earning.earnedBy intl db rule event = true →
        ∀ stored ∈ db.awards.select fun award => award.isLive && earning.earned intl db award,
          stored.row.ruleId = rule.id))
  | .opened (.onTriggerEvent _) | .opened .grantDueAwards | .opened (.manage _)
  | .ran (.findRules _) _ | .ran (.offerBalanceThresholds _) _ | .ran .claimDueHeldAwards _
  | .ran (.grantHeld _) _ | .ran (.findBySource _) _ | .ran (.reverse _ _) _ => isTrue trivial

def HeldUnrecorded (db : RewardDb) : Prop :=
  ∀ id award, db.awards.get? id = some award → award.status = .held → award.periodKey = none

structure CapHolds (intl : Intl) (earning : Earning) (capScope : RewardCapScope) (capCount : Nat)
    (db : RewardDb) : Prop where
  known : RulesKnown db
  kept : CapKept earning capScope capCount db.rules
  bounded : CountersBounded db
  counted : ∀ key, liveAwards intl db key ≤ db.used key
  unrecorded : HeldUnrecorded db
  oneRule : FromOneRule (fun award => earning.earned intl db award = true) db

def CapReady (db : RewardDb) : EngineTask → Prop
  | .evaluate rule event => RuleRead db rule ∧ rule.row.enterpriseId = event.enterpriseId
  | .grantHeld award => award.row.periodKey = none
  | .findBySource _ | .reverse _ _ => False
  | .findRules _ | .offerBalanceThresholds _ | .claimDueHeldAwards | .manage _ => True

theorem Earning.earned_grow {intl : Intl} {earning : Earning} {db next : RewardDb}
    {award later : RewardAwardRow} {rule : RewardRuleRow} (same : Later award later)
    (found : db.rules.get? award.ruleId = some rule)
    (businesses : next.businesses = db.businesses) (grow : RulesGrow db next) :
    earning.earned intl next later = earning.earned intl db award := by
  have trigger : triggerOf next later = triggerOf db award := by
    rw [← triggerOf_grow found grow, triggerOf, triggerOf, same.ruleId]
  have period : periodOf intl next later = periodOf intl db award := by
    rw [← periodOf_grow found businesses grow, periodOf, periodOf, same.ruleId,
      same.enterpriseId, same.occurredAtUtc]
  rw [Earning.earned, Earning.earned, trigger, period, same.enterpriseId, same.programId,
    same.customerId]

theorem Earning.earned_new {intl : Intl} {earning : Earning} {db next : RewardDb}
    {rule : Stored RewardRuleRow} {event : RewardTriggerEvent} {award : RewardAwardRow}
    (read : RuleRead db rule) (businesses : next.businesses = db.businesses)
    (grow : RulesGrow db next) (isFor : AwardFor rule event award) :
    earning.earned intl next award = earning.earnedBy intl db rule event := by
  obtain ⟨isActive, found⟩ := read
  rw [← isFor.ruleId] at found
  have trigger : triggerOf next award = some rule.row.triggerKind := by
    rw [triggerOf_grow found grow, triggerOf, found]
    rfl
  have period : periodOf intl next award = eventPeriod intl db rule.row event := by
    rw [periodOf_grow found businesses grow]
    exact periodOf_new ⟨isActive, isFor.ruleId ▸ found⟩ isFor
  rw [Earning.earned, Earning.earnedBy, trigger, period, isFor.enterpriseId, isFor.programId,
    isFor.customerId]
  rfl

theorem HeldUnrecorded.insert {db next : RewardDb} {award : RewardAwardRow}
    (unrecorded : HeldUnrecorded db) (awards : next.awards = db.awards.insert award)
    (known : award.status = .held → award.periodKey = none) : HeldUnrecorded next := by
  intro id row found
  rw [awards, Table.get?_insert] at found
  split at found
  · exact Option.some.inj found ▸ known
  · exact unrecorded id row found

theorem HeldUnrecorded.update {db next : RewardDb} {target : Nat}
    {change : RewardAwardRow → RewardAwardRow} (unrecorded : HeldUnrecorded db)
    (awards : next.awards = db.awards.update target change)
    (settles : ∀ row, (change row).status = .held → change row = row) : HeldUnrecorded next := by
  intro id row found
  rw [awards, Table.get?_update] at found
  split at found
  · obtain ⟨award, present, rfl⟩ := Option.map_eq_some_iff.mp found
    intro held
    have same := settles award held
    rw [same] at held ⊢
    exact unrecorded id award present held
  · exact unrecorded id row found

theorem HeldUnrecorded.step {intl : Intl} {choice : EngineChoice} {db next : RewardDb}
    {task : EngineTask} (unrecorded : HeldUnrecorded db)
    (effect : StepEffect intl choice db task next) : HeldUnrecorded next := by
  cases effect with
  | unchanged => exact unrecorded
  | evaluated rule event _ effect =>
      cases effect with
      | unchanged => exact unrecorded
      | refused award isFor status fresh =>
          refine unrecorded.insert rfl fun held => ?_
          rcases status with status | status <;> rw [status] at held <;> contradiction
      | held award claimed isFor status none fresh taken =>
          exact unrecorded.insert (by rw [RewardDb.addAward, taken.frame.1]) fun _ => none
      | worthless award claimed isFor status recorded fresh taken =>
          refine unrecorded.insert
            (by rw [RewardDb.addAward, releaseFor_awards, taken.frame.1]) fun held => ?_
          rw [status] at held
          contradiction
      | granted award claimed held after input basisPoints isFor status recorded fresh taken =>
          refine unrecorded.insert (by rw [RewardDb.addAward, taken.frame.1]) fun held => ?_
          rw [status] at held
          contradiction
  | swept award _ effect =>
      cases effect with
      | unchanged => exact unrecorded
      | worthless row rule reasonCode =>
          refine unrecorded.update rfl fun _ held => ?_
          contradiction
      | granted row rule basisPoints after =>
          refine unrecorded.update rfl fun _ held => ?_
          contradiction
  | reversed award input _ effect =>
      cases effect with
      | unchanged => exact unrecorded
      | reversed after =>
          refine unrecorded.update
            (by simp only [RewardDb.markReversed, RewardDb.updateAward, releaseFor_awards]; rfl)
            fun row held => ?_
          split at held
          · contradiction
          · next other => rw [if_neg other]
  | managed call _ effect =>
      intro id award found
      exact unrecorded id award (effect.awards ▸ found)

theorem CapKept.step {intl : Intl} {earning : Earning} {capScope : RewardCapScope}
    {capCount : Nat} {choice : EngineChoice} {db next : RewardDb} {task : EngineTask}
    (kept : CapKept earning capScope capCount db.rules)
    (effect : StepEffect intl choice db task next)
    (permitted : KeepsCap intl earning capScope capCount db (.ran task choice)) :
    CapKept earning capScope capCount next.rules := by
  intro id rule found sameEnterprise sameProgram sameTrigger
  rcases effect.rules_origin found with
    ⟨old, isActive, present, rfl⟩ |
    ⟨call, enterpriseId, programId, input, previous, triggerKind, rfl, form, listed, rfl⟩
  · exact kept id old present sameEnterprise sameProgram sameTrigger
  · obtain rfl : enterpriseId = earning.enterpriseId := sameEnterprise
    obtain rfl : programId = earning.programId := sameProgram
    obtain rfl : triggerKind = earning.triggerKind := sameTrigger
    have keeps : FormKeepsCap earning capScope capCount db call := permitted
    rw [FormKeepsCap, form] at keeps
    exact keeps rfl rfl listed

theorem counted_step {intl : Intl} {choice : EngineChoice} {db next : RewardDb}
    {task : EngineTask} (known : RulesKnown db) (counted : ∀ key, liveAwards intl db key ≤ db.used key)
    (effect : StepEffect intl choice db task next) (ready : CapReady db task) (key : CapKey) :
    liveAwards intl next key ≤ next.used key := by
  have before := counted key
  cases effect with
  | unchanged => exact before
  | evaluated rule event _ effect =>
      obtain ⟨taken, used, live⟩ := effect.counts ready.1 key
      rw [used, live]
      omega
  | swept award _ effect =>
      obtain ⟨businesses, rules, -⟩ := effect.frame
      have noKey : award.row.periodKey = none := ready
      cases effect with
      | unchanged => exact before
      | worthless row rule reasonCode found sameEnterprise held =>
          have gone := liveAwards_update intl businesses rules rfl found key
          rw [noKey] at gone ⊢
          have dead : slotHeld intl db
              { row with
                status := .skippedZeroFactor
                reasonCode := some reasonCode
                periodKey := (none : Option String).orElse fun _ => row.periodKey } = none := rfl
          rw [dead, if_neg (show ¬ (none : Option CapKey) = some key from nofun)] at gone
          exact Nat.le_trans (Nat.le_add_right _ _) (Nat.le_trans (Nat.le_of_eq gone) before)
      | granted row rule basisPoints after found sameEnterprise held =>
          have live : row.isLive = true := by simp [RewardAwardRow.isLive, held]
          have same := liveAwards_update intl businesses rules rfl found key
          rw [slotHeld_granted live] at same
          exact Nat.le_trans (Nat.le_of_eq (Nat.add_right_cancel same)) before
  | reversed award input _ effect => exact ready.elim
  | managed call _ effect =>
      rw [liveAwards_grow known effect.businesses effect.rules effect.awards, RewardDb.used,
        effect.counters]
      exact before

theorem CapHolds.step {intl : Intl} {earning : Earning} {capScope : RewardCapScope}
    {capCount : Nat} {choice : EngineChoice} {db next : RewardDb} {task : EngineTask}
    (holds : CapHolds intl earning capScope capCount db) (ready : CapReady db task)
    (effect : StepEffect intl choice db task next)
    (permitted : KeepsCap intl earning capScope capCount db (.ran task choice)) :
    CapHolds intl earning capScope capCount next := by
  obtain ⟨businesses, grow⟩ := effect.rules
  have read : ∀ rule event, task = .evaluate rule event →
      RuleRead db rule ∧ rule.row.enterpriseId = event.enterpriseId := by
    rintro rule event rfl
    exact ready
  refine ⟨holds.known.step effect read, holds.kept.step effect permitted,
    holds.bounded.step effect fun rule event same => (read rule event same).1,
    counted_step holds.known holds.counted effect ready, holds.unrecorded.step effect, ?_⟩
  refine holds.oneRule.step effect ?_ ?_
  · intro id award later present same earned
    obtain ⟨rule, found, -⟩ := holds.known id award present
    rwa [← Earning.earned_grow same found businesses grow]
  · rintro rule event award rfl isFor earned id other present live otherEarned
    rw [Earning.earned_new ready.1 businesses grow isFor] at earned
    exact permitted earned ⟨id, other⟩ (Table.mem_select.mpr ⟨present, by
      rw [live, otherEarned]
      rfl⟩)

theorem CapReady.step {intl : Intl} {choice : EngineChoice} {db next : RewardDb}
    {task other : EngineTask} (ready : CapReady db other)
    (effect : StepEffect intl choice db task next) : CapReady next other := by
  cases other with
  | evaluate rule event => exact ⟨ready.1.grow effect.rules.2, ready.2⟩
  | grantHeld award => exact ready
  | findBySource input => exact ready
  | reverse award input => exact ready
  | findRules event => trivial
  | offerBalanceThresholds offer => trivial
  | claimDueHeldAwards => trivial
  | manage call => trivial

theorem CapReady.spawned {intl : Intl} {choice : EngineChoice} {db : RewardDb}
    {task next : EngineTask} (unrecorded : HeldUnrecorded db) (ready : CapReady db task)
    (spawned : Spawned db task next) : CapReady (engineStep intl db task choice).1 next := by
  cases spawned with
  | evaluate event rule found sameEnterprise =>
      exact ⟨⟨rule.row.isActive, found⟩, sameEnterprise⟩
  | offerBalanceThresholds offer => trivial
  | findRules offer event => trivial
  | grantHeld award found held => exact unrecorded award.id award.row found held
  | reverse input award => exact ready.elim

/-- Awards that all come from one rule row share one counter, which is within its cap. -/
theorem CapHolds.granted_le {intl : Intl} {earning : Earning} {capScope : RewardCapScope}
    {capCount : Nat} {db : RewardDb} (holds : CapHolds intl earning capScope capCount db) :
    earning.granted intl db ≤ capCount := by
  rcases Nat.eq_zero_or_pos (earning.granted intl db) with none | some
  · omega
  · obtain ⟨award, member, counts⟩ := List.countP_pos_iff.mp some
    obtain ⟨id, found⟩ := Table.mem_rows_iff.mp member
    simp only [Bool.and_eq_true, beq_iff_eq] at counts
    obtain ⟨status, earned⟩ := counts
    have live : award.isLive = true := by simp [RewardAwardRow.isLive, status]
    have ofRule := earned
    simp only [Earning.earned, Bool.and_eq_true, beq_iff_eq] at ofRule
    obtain ⟨⟨⟨⟨sameEnterprise, sameProgram⟩, trigger⟩, sameCustomer⟩, period⟩ := ofRule
    let key := award.capKey earning.periodKey
    have within : earning.granted intl db ≤ liveAwards intl db key := by
      refine List.countP_mono_left fun other otherMember otherCounts => ?_
      obtain ⟨otherId, otherFound⟩ := Table.mem_rows_iff.mp otherMember
      simp only [Bool.and_eq_true, beq_iff_eq] at otherCounts
      have otherLive : other.isLive = true := by simp [RewardAwardRow.isLive, otherCounts.1]
      have sameRule := holds.oneRule _ _ _ _ otherFound found otherLive live otherCounts.2 earned
      have ofOther := otherCounts.2
      simp only [Earning.earned, Bool.and_eq_true, beq_iff_eq] at ofOther
      rw [decide_eq_true_eq, slotHeld, if_pos otherLive, ofOther.2, Option.map_some,
        Option.some.injEq]
      simp only [key, RewardAwardRow.capKey, sameRule, ofOther.1.1.1.1, sameEnterprise,
        ofOther.1.2, sameCustomer]
    have used := holds.counted key
    obtain ⟨rule, ruleFound, ruleProgram, ruleEnterprise⟩ := holds.known id award found
    have cap := holds.kept award.ruleId rule ruleFound (ruleEnterprise.trans sameEnterprise)
      (ruleProgram.trans sameProgram) (by simpa [triggerOf, ruleFound] using trigger)
    cases counted : db.counters key with
    | none =>
        rw [RewardDb.used, counted, Option.map_none, Option.getD_none] at used
        omega
    | some counter =>
        rw [RewardDb.used, counted, Option.map_some, Option.getD_some] at used
        obtain ⟨bound, known, knownFound, sameCap⟩ := holds.bounded key counter counted
        obtain rfl := Option.some.inj (ruleFound.symm.trans knownFound)
        omega

/-- However often a programme is edited, a run in which no period is earned on two
rule rows grants at most the cap, for any interleaving of calls. -/
theorem cap_survives_edits (intl : Intl) (businesses : Nat → Business)
    (firstSeenAt : Nat → Nat → Option Int) (programs : Table RewardProgramRow)
    (rules : Table RewardRuleRow) (earning : Earning) (capScope : RewardCapScope)
    (capCount : Nat) (kept : CapKept earning capScope capCount rules)
    (pool : Pool RewardDb EngineTask)
    (reached : (engine intl).PoolReaches (KeepsCap intl earning capScope capCount)
      (.launch businesses firstSeenAt programs rules) pool) :
    earning.granted intl pool.shared ≤ capCount := by
  have holds := ((engine intl).pool_invariant (CapHolds intl earning capScope capCount) CapReady
    ?_ ?_ ?_ reached).1
  · exact holds.granted_le
  · refine ⟨fun id award found => ?_, kept, fun key counter counted => ?_, fun key => ?_,
      fun id award found => ?_, fun first second one other found => ?_⟩
    · simp [RewardDb.launch] at found
    · simp [RewardDb.launch] at counted
    · simp [liveAwards, RewardDb.launch]
    · simp [RewardDb.launch] at found
    · simp [RewardDb.launch] at found
  · intro db call _ permitted task member
    cases call with
    | reverseForDeletedContent input => exact permitted.elim
    | onTriggerEvent event => exact List.mem_singleton.mp member ▸ trivial
    | grantDueAwards => exact List.mem_singleton.mp member ▸ trivial
    | manage call => exact List.mem_singleton.mp member ▸ trivial
  · intro db task choice holds ready permitted
    have effect := engineStep_effect intl db task choice
    exact ⟨holds.step ready effect permitted,
      fun next spawned => ready.spawned holds.unrecorded (engineStep_spawned spawned),
      fun other waiting => waiting.step effect⟩

def commentForm : CreateRewardProgramInput where
  name := "Comments"
  triggers := [.commentOnOwnPost]
  capScope := .lifetime
  capCount := 1
  benefits := [{ config := .grantPoints 10 }]

def customerSeven : Earning where
  enterpriseId := 1
  programId := 0
  triggerKind := .commentOnOwnPost
  customerId := 7
  periodKey := "LIFETIME"

theorem launchOnce_capKept {earning : Earning} :
    CapKept earning .lifetime 1 (launchOnce 0).rules := by
  intro id rule found _ _ _
  obtain rfl : rule = onceForAComment 0 :=
    List.mem_singleton.mp (Table.mem_rows_iff.mpr ⟨id, found⟩)
  exact ⟨rfl, rfl⟩

def commentSaveComment (next : RewardTriggerEvent) :
    List (EngineCall ⊕ (Nat × EngineChoice)) :=
  [.inl (.onTriggerEvent (commentEvent 1)), .inr (0, later), .inr (0, later),
    .inl (.manage (.updateProgram 1 0 commentForm)), .inr (1, later),
    .inl (.onTriggerEvent next), .inr (2, later), .inr (2, later)]

/-- Another customer's comment after the save leaves the first one's cap alone. -/
theorem cap_survives_edits_other_customer :
    ∃ pool : Pool RewardDb EngineTask, pool.shared.rules.nextId = 2 ∧
      customerSeven.granted fixedIntl pool.shared = 1 ∧
      customerSeven.granted fixedIntl pool.shared ≤ 1 := by
  have runs : ((engine fixedIntl).playPool
      (fun db event => decide (KeepsCap fixedIntl customerSeven .lifetime 1 db event))
      ⟨launchOnce 0, []⟩ (commentSaveComment { commentEvent 2 with customerId := 8 })).any
        (fun pool => pool.shared.rules.nextId == 2 &&
          customerSeven.granted fixedIntl pool.shared == 1) = true := by
    decide +kernel
  obtain ⟨pool, played, done⟩ := (Option.any_eq_true _ _).mp runs
  simp only [Bool.and_eq_true, beq_iff_eq] at done
  have reached := (engine fixedIntl).playPool_sound (fun _ _ => of_decide_eq_true) played
  exact ⟨pool, done.1, done.2, cap_survives_edits fixedIntl _ _ _ _ customerSeven .lifetime 1
    launchOnce_capKept pool reached⟩

def eventsAndKeepingSaves (capScope : RewardCapScope) (capCount : Nat) :
    Event EngineTask EngineCall EngineChoice → Bool
  | .opened (.onTriggerEvent _) => true
  | .opened (.manage (.updateProgram _ _ input)) =>
      input.capScope == capScope && input.capCount == capCount
  | .opened _ => false
  | .ran _ _ => true

/-- The customer who comments before and after a save is paid twice under a cap of one. -/
theorem save_resets_the_cap :
    ¬ ∀ (intl : Intl) (businesses : Nat → Business) (firstSeenAt : Nat → Nat → Option Int)
      (programs : Table RewardProgramRow) (rules : Table RewardRuleRow) (earning : Earning)
      (capScope : RewardCapScope) (capCount : Nat), CapKept earning capScope capCount rules →
      ∀ pool : Pool RewardDb EngineTask,
      (engine intl).PoolReaches (fun _ event => eventsAndKeepingSaves capScope capCount event = true)
        (.launch businesses firstSeenAt programs rules) pool →
      earning.granted intl pool.shared ≤ capCount := by
  intro claimed
  have twice : ((engine fixedIntl).playPool (fun _ event => eventsAndKeepingSaves .lifetime 1 event)
      ⟨launchOnce 0, []⟩ (commentSaveComment (commentEvent 2))).any (fun pool =>
        customerSeven.granted fixedIntl pool.shared == 2) = true := by
    decide +kernel
  obtain ⟨pool, played, paid⟩ := (Option.any_eq_true _ _).mp twice
  rw [beq_iff_eq] at paid
  have reached := (engine fixedIntl).playPool_sound (fun _ _ passed => passed) played
  have bound := claimed fixedIntl _ _ _ _ customerSeven .lifetime 1 launchOnce_capKept pool reached
  omega

/-! ### One award for one piece of content -/

structure Content where
  programId : Nat
  triggerKind : Option RewardTriggerKind
  customerId : Nat
  sourceRefKind : String
  sourceRefId : Nat
  deriving DecidableEq, Repr

def contentOf (db : RewardDb) (award : RewardAwardRow) : Content where
  programId := award.programId
  triggerKind := triggerOf db award
  customerId := award.customerId
  sourceRefKind := award.sourceRefKind
  sourceRefId := award.sourceRefId

/-- No two live awards reward the same content, whichever rule versions made them. -/
def RewardedOnce (db : RewardDb) : Prop :=
  ∀ first second one other, db.awards.get? first = some one → db.awards.get? second = some other →
    one.isLive = true → other.isLive = true → contentOf db one = contentOf db other →
      first = second

def RewardDb.liveFor (db : RewardDb) (rule : Stored RewardRuleRow) (event : RewardTriggerEvent) :
    List (Stored RewardAwardRow) :=
  db.awards.select fun award =>
    award.isLive && award.programId == rule.row.programId &&
      triggerOf db award == some rule.row.triggerKind && award.customerId == event.customerId &&
      award.sourceRefKind == event.sourceRefKind && award.sourceRefId == event.sourceRefId

/-- No event is evaluated under a rule row while another row of the programme and
trigger has rewarded its content. -/
def NotRewardedByAnother (db : RewardDb) : Event EngineTask EngineCall EngineChoice → Prop
  | .ran (.evaluate rule event) _ => ∀ stored ∈ db.liveFor rule event, stored.row.ruleId = rule.id
  | _ => True

instance (db : RewardDb) (event : Event EngineTask EngineCall EngineChoice) :
    Decidable (NotRewardedByAnother db event) :=
  match event with
  | .ran (.evaluate rule event) _ =>
      inferInstanceAs (Decidable (∀ stored ∈ db.liveFor rule event, stored.row.ruleId = rule.id))
  | .opened _ | .ran (.findRules _) _ | .ran (.manage _) _ | .ran (.offerBalanceThresholds _) _
  | .ran .claimDueHeldAwards _ | .ran (.grantHeld _) _ | .ran (.findBySource _) _
  | .ran (.reverse _ _) _ => isTrue trivial

/-- `reward_awards_source_uniq`: one award for a rule row, customer and source. -/
def SourcesUnique (db : RewardDb) : Prop :=
  ∀ first second one other, db.awards.get? first = some one → db.awards.get? second = some other →
    one.enterpriseId = other.enterpriseId → one.ruleId = other.ruleId →
    one.customerId = other.customerId → one.sourceRefKind = other.sourceRefKind →
    one.sourceRefId = other.sourceRefId → first = second

theorem SourcesUnique.step {intl : Intl} {choice : EngineChoice} {db next : RewardDb}
    {task : EngineTask} (unique : SourcesUnique db)
    (effect : StepEffect intl choice db task next) : SourcesUnique next := by
  intro first second one other firstFound secondFound sameEnterprise sameRule sameCustomer sameKind
    sameSource
  rcases effect.awards_origin firstFound with
    ⟨award, present, was⟩ | ⟨firstNew, rule, event, isTask, isFor, fresh⟩
  · rcases effect.awards_origin secondFound with
      ⟨earlier, otherPresent, otherWas⟩ | ⟨-, rule, event, isTask, isFor, fresh⟩
    · rw [was.enterpriseId, otherWas.enterpriseId] at sameEnterprise
      rw [was.ruleId, otherWas.ruleId] at sameRule
      rw [was.customerId, otherWas.customerId] at sameCustomer
      rw [was.sourceRefKind, otherWas.sourceRefKind] at sameKind
      rw [was.sourceRefId, otherWas.sourceRefId] at sameSource
      exact unique _ _ _ _ present otherPresent sameEnterprise sameRule sameCustomer sameKind
        sameSource
    · rw [was.enterpriseId, isFor.enterpriseId] at sameEnterprise
      rw [was.ruleId, isFor.ruleId] at sameRule
      rw [was.customerId, isFor.customerId] at sameCustomer
      rw [was.sourceRefKind, isFor.sourceRefKind] at sameKind
      rw [was.sourceRefId, isFor.sourceRefId] at sameSource
      exact absurd ⟨sameEnterprise, sameRule, sameCustomer, sameKind, sameSource⟩
        (fresh first award present)
  · rcases effect.awards_origin secondFound with
      ⟨earlier, otherPresent, was⟩ | ⟨secondNew, -⟩
    · rw [isFor.enterpriseId, was.enterpriseId] at sameEnterprise
      rw [isFor.ruleId, was.ruleId] at sameRule
      rw [isFor.customerId, was.customerId] at sameCustomer
      rw [isFor.sourceRefKind, was.sourceRefKind] at sameKind
      rw [isFor.sourceRefId, was.sourceRefId] at sameSource
      exact absurd ⟨sameEnterprise.symm, sameRule.symm, sameCustomer.symm, sameKind.symm,
        sameSource.symm⟩ (fresh second earlier otherPresent)
    · exact firstNew.trans secondNew.symm

structure OnceHolds (db : RewardDb) : Prop where
  known : RulesKnown db
  unique : SourcesUnique db
  oneRule : ∀ content, FromOneRule (fun award => contentOf db award = content) db

def RuleReady (db : RewardDb) : EngineTask → Prop
  | .evaluate rule event => RuleRead db rule ∧ rule.row.enterpriseId = event.enterpriseId
  | _ => True

theorem RuleReady.step {intl : Intl} {choice : EngineChoice} {db next : RewardDb}
    {task other : EngineTask} (ready : RuleReady db other)
    (effect : StepEffect intl choice db task next) : RuleReady next other := by
  cases other with
  | evaluate rule event => exact ⟨ready.1.grow effect.rules.2, ready.2⟩
  | findRules event => trivial
  | offerBalanceThresholds offer => trivial
  | claimDueHeldAwards => trivial
  | grantHeld award => trivial
  | findBySource input => trivial
  | reverse award input => trivial
  | manage call => trivial

theorem RuleReady.spawned {intl : Intl} {choice : EngineChoice} {db : RewardDb}
    {task next : EngineTask} (spawned : Spawned db task next) :
    RuleReady (engineStep intl db task choice).1 next := by
  cases spawned with
  | evaluate event rule found sameEnterprise =>
      exact ⟨⟨rule.row.isActive, found⟩, sameEnterprise⟩
  | offerBalanceThresholds offer => trivial
  | findRules offer event => trivial
  | grantHeld award => trivial
  | reverse input award => trivial

theorem OnceHolds.step {intl : Intl} {choice : EngineChoice} {db next : RewardDb}
    {task : EngineTask} (holds : OnceHolds db) (ready : RuleReady db task)
    (effect : StepEffect intl choice db task next)
    (permitted : NotRewardedByAnother db (.ran task choice)) : OnceHolds next := by
  have grow := effect.rules.2
  refine ⟨holds.known.step effect ?_, holds.unique.step effect,
    fun content => (holds.oneRule content).step effect ?_ ?_⟩
  · rintro rule event rfl
    exact ready
  · intro id award later present same rewarded
    obtain ⟨rule, found, -⟩ := holds.known id award present
    rw [← rewarded, contentOf, contentOf, ← triggerOf_grow found grow, triggerOf, triggerOf,
      same.ruleId, same.programId, same.customerId, same.sourceRefKind, same.sourceRefId]
  · rintro rule event award rfl isFor rewarded id other present live sameContent
    obtain ⟨isActive, ruleFound⟩ := ready.1
    have ofNew := ruleFound
    rw [← isFor.ruleId] at ofNew
    have trigger : triggerOf next award = some rule.row.triggerKind := by
      rw [triggerOf_grow ofNew grow, triggerOf_new ready.1 isFor]
    have content : contentOf db other =
        { programId := rule.row.programId, triggerKind := some rule.row.triggerKind,
          customerId := event.customerId, sourceRefKind := event.sourceRefKind,
          sourceRefId := event.sourceRefId } := by
      rw [sameContent, ← rewarded, contentOf, trigger, isFor.programId, isFor.customerId,
        isFor.sourceRefKind, isFor.sourceRefId]
    simp only [contentOf, Content.mk.injEq] at content
    refine permitted ⟨id, other⟩ (Table.mem_select.mpr ⟨present, ?_⟩)
    simp [live, content]

/-- Whatever is delivered, redelivered, edited and taken back, in any interleaving:
content no other rule version has rewarded is rewarded once. -/
theorem content_rewarded_once (intl : Intl) (businesses : Nat → Business)
    (firstSeenAt : Nat → Nat → Option Int) (programs : Table RewardProgramRow)
    (rules : Table RewardRuleRow) (pool : Pool RewardDb EngineTask)
    (reached : (engine intl).PoolReaches NotRewardedByAnother
      (.launch businesses firstSeenAt programs rules) pool) :
    RewardedOnce pool.shared := by
  have holds := ((engine intl).pool_invariant OnceHolds RuleReady ?_ ?_ ?_ reached).1
  · intro first second one other firstFound secondFound oneLive otherLive same
    have sameRule := holds.oneRule _ _ _ _ _ firstFound secondFound oneLive otherLive rfl same.symm
    obtain ⟨rule, ruleFound, -, ofOne⟩ := holds.known _ _ firstFound
    obtain ⟨otherRule, otherFound, -, ofOther⟩ := holds.known _ _ secondFound
    obtain rfl := Option.some.inj ((sameRule ▸ ruleFound).symm.trans otherFound)
    simp only [contentOf, Content.mk.injEq] at same
    exact holds.unique _ _ _ _ firstFound secondFound (ofOne.symm.trans ofOther) sameRule
      same.2.2.1 same.2.2.2.1 same.2.2.2.2
  · refine ⟨fun id award found => ?_, fun first second one other found => ?_,
      fun content first second one other found => ?_⟩ <;> simp [RewardDb.launch] at found
  · intro db call _ _ task member
    cases call <;> exact List.mem_singleton.mp member ▸ trivial
  · intro db task choice holds ready permitted
    have effect := engineStep_effect intl db task choice
    exact ⟨holds.step ready effect permitted,
      fun next spawned => RuleReady.spawned (engineStep_spawned spawned),
      fun other waiting => waiting.step effect⟩

/-- A comment, a save, and another customer's comment: each content is rewarded once. -/
theorem content_rewarded_once_other_customer :
    ∃ pool : Pool RewardDb EngineTask, pool.shared.awards.nextId = 2 ∧
      RewardedOnce pool.shared := by
  have runs : ((engine fixedIntl).playPool (fun db event => decide (NotRewardedByAnother db event))
      ⟨launchOnce 0, []⟩ (commentSaveComment { commentEvent 1 with customerId := 8 })).any
        (fun pool => pool.shared.awards.nextId == 2) = true := by
    decide +kernel
  obtain ⟨pool, played, done⟩ := (Option.any_eq_true _ _).mp runs
  have reached := (engine fixedIntl).playPool_sound (fun _ _ => of_decide_eq_true) played
  exact ⟨pool, beq_iff_eq.mp done, content_rewarded_once fixedIntl _ _ _ _ pool reached⟩

def eventsAndSaves (triggerKind : RewardTriggerKind) :
    Event EngineTask EngineCall EngineChoice → Bool
  | .opened (.onTriggerEvent _) => true
  | .opened (.manage (.updateProgram _ _ input)) => input.triggers.contains triggerKind
  | .opened _ => false
  | .ran _ _ => true

/-- Two live awards are given for one content under triggers of one kind. -/
def rewardedTwice (db : RewardDb) (first second : Nat) (triggerKind : RewardTriggerKind) : Bool :=
  match db.awards.get? first, db.awards.get? second with
  | some one, some other =>
      one.isLive && other.isLive && triggerOf db one == some triggerKind &&
        contentOf db one == contentOf db other
  | _, _ => false

/-- A comment redelivered after a save is rewarded under both rule rows. -/
theorem redelivery_after_save_rewards_twice :
    ¬ ∀ (intl : Intl) (businesses : Nat → Business) (firstSeenAt : Nat → Nat → Option Int)
      (programs : Table RewardProgramRow) (rules : Table RewardRuleRow)
      (triggerKind : RewardTriggerKind) (pool : Pool RewardDb EngineTask),
      (engine intl).PoolReaches (fun _ event => eventsAndSaves triggerKind event = true)
        (.launch businesses firstSeenAt programs rules) pool →
      ∀ first second one other, pool.shared.awards.get? first = some one →
        pool.shared.awards.get? second = some other → one.isLive = true → other.isLive = true →
        triggerOf pool.shared one = some triggerKind →
        contentOf pool.shared one = contentOf pool.shared other → first = second := by
  intro claimed
  have twice : ((engine fixedIntl).playPool (fun _ event => eventsAndSaves .commentOnOwnPost event)
      ⟨launchOnce 0, []⟩ (commentSaveComment (commentEvent 1))).any (fun pool =>
        rewardedTwice pool.shared 0 1 .commentOnOwnPost) = true := by
    decide +kernel
  obtain ⟨pool, played, both⟩ := (Option.any_eq_true _ _).mp twice
  have reached := (engine fixedIntl).playPool_sound (fun _ _ passed => passed) played
  rw [rewardedTwice] at both
  cases firstFound : pool.shared.awards.get? 0 with
  | none => simp [firstFound] at both
  | some one =>
      cases secondFound : pool.shared.awards.get? 1 with
      | none => simp [firstFound, secondFound] at both
      | some other =>
          simp only [firstFound, secondFound, Bool.and_eq_true, beq_iff_eq] at both
          obtain ⟨⟨⟨oneLive, otherLive⟩, trigger⟩, same⟩ := both
          have equal := claimed fixedIntl _ _ _ _ .commentOnOwnPost pool reached 0 1 one other
            firstFound secondFound oneLive otherLive trigger same
          exact absurd equal (by decide)

end UnifiedService.Rewards
