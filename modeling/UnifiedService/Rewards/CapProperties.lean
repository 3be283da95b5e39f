import UnifiedService.Rewards.EngineProperties

/-! The frequency cap: how the counters relate to the awards that hold a slot,
while calls are served one at a time. -/

set_option autoImplicit false

namespace UnifiedService.Rewards

open UnifiedService.Library

def periodOf (intl : Intl) (db : RewardDb) (award : RewardAwardRow) : Option String :=
  (db.rules.get? award.ruleId).bind fun rule =>
    (db.businesses award.enterpriseId).timezone.bind fun timezone =>
      derivePeriodKey intl award.occurredAtUtc timezone rule.capScope

def RewardAwardRow.capKey (award : RewardAwardRow) (periodKey : String) : CapKey where
  enterpriseId := award.enterpriseId
  ruleId := award.ruleId
  customerId := award.customerId
  periodKey := periodKey

def slotHeld (intl : Intl) (db : RewardDb) (award : RewardAwardRow) : Option CapKey :=
  if award.isLive then (periodOf intl db award).map award.capKey else none

def liveAwards (intl : Intl) (db : RewardDb) (key : CapKey) : Nat :=
  db.awards.count fun award => decide (slotHeld intl db award = some key)

/-- What the counter of a key reads; without a row, nothing is used. -/
def RewardDb.used (db : RewardDb) (key : CapKey) : Nat :=
  ((db.counters key).map (·.used)).getD 0

def CapsCountLiveAwards (intl : Intl) (db : RewardDb) : Prop :=
  ∀ key, db.used key = liveAwards intl db key

/-! ### Taking and handing back a slot -/

theorem SlotTaken.used_eq {db claimed : RewardDb} {cap awardId : Nat} {slot : Option CapKey}
    (taken : SlotTaken db cap awardId slot claimed) (key : CapKey) :
    claimed.used key = db.used key + if slot = some key then 1 else 0 := by
  cases taken with
  | uncapped => simp
  | first slot unused room =>
      by_cases same : key = slot
      · subst same
        simp [RewardDb.used, RewardDb.takeSlot, unused]
      · simp [RewardDb.used, RewardDb.takeSlot, same, Ne.symm same]
  | next slot counter counted room =>
      by_cases same : key = slot
      · subst same
        simp [RewardDb.used, RewardDb.takeSlot, counted]
      · simp [RewardDb.used, RewardDb.takeSlot, same, Ne.symm same]

theorem releaseFor_used (db : RewardDb) (enterpriseId ruleId customerId awardId : Nat)
    (periodKey : Option String) (key : CapKey) :
    (releaseFor db enterpriseId ruleId customerId awardId periodKey).used key =
      db.used key - if periodKey.map (fun periodKey =>
        ({ enterpriseId, ruleId, customerId, periodKey } : CapKey)) = some key then 1 else 0 := by
  cases periodKey with
  | none => simp [releaseFor]
  | some periodKey =>
      by_cases same : key = { enterpriseId, ruleId, customerId, periodKey }
      · subst same
        cases counted : db.counters { enterpriseId, ruleId, customerId, periodKey } <;>
          simp [releaseFor, RewardDb.releaseCapSlot, RewardDb.used, counted]
      · simp [releaseFor, RewardDb.releaseCapSlot, RewardDb.used, same, Ne.symm same]

/-! ### The period of an award never changes -/

def RulesKnown (db : RewardDb) : Prop :=
  ∀ id award, db.awards.get? id = some award →
    ∃ rule, db.rules.get? award.ruleId = some rule ∧ rule.programId = award.programId ∧
      rule.enterpriseId = award.enterpriseId

def RuleRead (db : RewardDb) (rule : Stored RewardRuleRow) : Prop :=
  ∃ isActive, db.rules.get? rule.id = some { rule.row with isActive }

theorem RuleRead.grow {db next : RewardDb} {rule : Stored RewardRuleRow}
    (read : RuleRead db rule) (grow : RulesGrow db next) : RuleRead next rule := by
  obtain ⟨isActive, found⟩ := read
  obtain ⟨switched, later⟩ := grow rule.id _ found
  exact ⟨switched, later⟩

theorem periodOf_grow {intl : Intl} {db next : RewardDb} {award : RewardAwardRow}
    {rule : RewardRuleRow} (found : db.rules.get? award.ruleId = some rule)
    (businesses : next.businesses = db.businesses) (grow : RulesGrow db next) :
    periodOf intl next award = periodOf intl db award := by
  obtain ⟨isActive, later⟩ := grow _ _ found
  simp only [periodOf, found, later, businesses, Option.bind_some]

theorem periodOf_new {intl : Intl} {db : RewardDb} {rule : Stored RewardRuleRow}
    {event : RewardTriggerEvent} {award : RewardAwardRow} (read : RuleRead db rule)
    (isFor : AwardFor rule event award) :
    periodOf intl db award = eventPeriod intl db rule.row event := by
  obtain ⟨isActive, found⟩ := read
  simp only [periodOf, eventPeriod, isFor.ruleId, found, isFor.enterpriseId, isFor.occurredAtUtc,
    Option.bind_some]

theorem slotHeld_new {intl : Intl} {db : RewardDb} {rule : Stored RewardRuleRow}
    {event : RewardTriggerEvent} {award : RewardAwardRow} (read : RuleRead db rule)
    (isFor : AwardFor rule event award) :
    slotHeld intl db award = if award.isLive then eventSlot intl db rule event else none := by
  rw [slotHeld, periodOf_new read isFor, eventSlot]
  have sameKey : award.capKey = fun periodKey =>
      { enterpriseId := event.enterpriseId, ruleId := rule.id, customerId := event.customerId,
        periodKey } := by
    funext periodKey
    rw [RewardAwardRow.capKey, isFor.enterpriseId, isFor.ruleId, isFor.customerId]
  rw [sameKey]

theorem RulesKnown.step {intl : Intl} {choice : EngineChoice} {db next : RewardDb}
    {task : EngineTask} (known : RulesKnown db)
    (effect : StepEffect intl choice db task next)
    (read : ∀ rule event, task = .evaluate rule event →
      RuleRead db rule ∧ rule.row.enterpriseId = event.enterpriseId) : RulesKnown next := by
  have grow := effect.rules.2
  intro id later found
  rcases effect.awards_origin found with ⟨award, present, same⟩ | ⟨-, rule, event, rfl, isFor, -⟩
  · obtain ⟨rule, ruleFound, sameProgram, sameEnterprise⟩ := known id award present
    obtain ⟨isActive, ruleLater⟩ := grow _ _ ruleFound
    refine ⟨_, same.ruleId ▸ ruleLater, ?_, ?_⟩
    · rw [same.programId, ← sameProgram]
    · rw [same.enterpriseId, ← sameEnterprise]
  · obtain ⟨⟨isActive, ruleFound⟩, sameEnterprise⟩ := read rule event rfl
    obtain ⟨switched, ruleLater⟩ := grow _ _ ruleFound
    refine ⟨_, isFor.ruleId ▸ ruleLater, ?_, ?_⟩
    · rw [isFor.programId]
    · rw [isFor.enterpriseId, ← sameEnterprise]

/-! ### Counting -/

theorem slotHeld_congr {intl : Intl} {db next : RewardDb}
    (businesses : next.businesses = db.businesses) (rules : next.rules = db.rules)
    (award : RewardAwardRow) : slotHeld intl next award = slotHeld intl db award := by
  simp only [slotHeld, periodOf, businesses, rules]

theorem liveAwards_insert {intl : Intl} {db next : RewardDb} {award : RewardAwardRow}
    (businesses : next.businesses = db.businesses) (rules : next.rules = db.rules)
    (awards : next.awards = db.awards.insert award) (key : CapKey) :
    liveAwards intl next key =
      liveAwards intl db key + if slotHeld intl db award = some key then 1 else 0 := by
  simp only [liveAwards, awards, slotHeld_congr businesses rules, Table.count_insert,
    decide_eq_true_eq]

theorem liveAwards_update (intl : Intl) {db next : RewardDb} {id : Nat} {award : RewardAwardRow}
    {change : RewardAwardRow → RewardAwardRow} (businesses : next.businesses = db.businesses)
    (rules : next.rules = db.rules) (awards : next.awards = db.awards.update id change)
    (found : db.awards.get? id = some award) (key : CapKey) :
    liveAwards intl next key + (if slotHeld intl db award = some key then 1 else 0) =
      liveAwards intl db key + if slotHeld intl db (change award) = some key then 1 else 0 := by
  have counted := Table.count_update change
    (fun award => decide (slotHeld intl db award = some key)) found
  simpa only [liveAwards, awards, slotHeld_congr businesses rules, decide_eq_true_eq] using counted

theorem liveAwards_grow {intl : Intl} {db next : RewardDb} (known : RulesKnown db)
    (businesses : next.businesses = db.businesses) (grow : RulesGrow db next)
    (awards : next.awards = db.awards) (key : CapKey) :
    liveAwards intl next key = liveAwards intl db key := by
  rw [liveAwards, awards]
  refine Table.count_congr fun id award found => ?_
  obtain ⟨rule, ruleFound, -⟩ := known id award found
  rw [slotHeld, slotHeld, periodOf_grow ruleFound businesses grow]

theorem EvaluateEffect.counts {intl : Intl} {rule : Stored RewardRuleRow}
    {event : RewardTriggerEvent} {factor : FactorResult} {db next : RewardDb}
    (effect : EvaluateEffect intl rule event factor db next) (read : RuleRead db rule)
    (key : CapKey) :
    ∃ taken, next.used key = db.used key + taken ∧
      liveAwards intl next key = liveAwards intl db key + taken := by
  have inserted : ∀ award, AwardFor rule event award → next.awards = db.awards.insert award →
      liveAwards intl next key = liveAwards intl db key +
        if (if award.isLive then eventSlot intl db rule event else none) = some key
          then 1 else 0 := by
    intro award isFor added
    rw [liveAwards_insert effect.frame.1 effect.frame.2.1 added, slotHeld_new read isFor]
  cases effect with
  | unchanged => exact ⟨0, rfl, rfl⟩
  | refused award isFor status fresh =>
      refine ⟨0, rfl, ?_⟩
      rw [inserted award isFor rfl]
      rcases status with status | status <;> simp [RewardAwardRow.isLive, status]
  | held award claimed isFor status unrecorded fresh taken =>
      refine ⟨_, taken.used_eq key, ?_⟩
      rw [inserted award isFor (by rw [RewardDb.addAward, taken.frame.1])]
      simp [RewardAwardRow.isLive, status]
  | worthless award claimed isFor status recorded fresh taken =>
      refine ⟨0, ?_, ?_⟩
      · have released := releaseFor_used claimed event.enterpriseId rule.id event.customerId
          db.awards.nextId (eventPeriod intl db rule.row event) key
        rw [taken.used_eq key] at released
        refine released.trans ?_
        rw [eventSlot, Nat.add_sub_cancel, Nat.add_zero]
      · rw [inserted award isFor (by rw [RewardDb.addAward, releaseFor_awards, taken.frame.1])]
        simp [RewardAwardRow.isLive, status]
  | granted award claimed held after input basisPoints isFor status recorded fresh taken grants
      value applied =>
      refine ⟨_, taken.used_eq key, ?_⟩
      rw [inserted award isFor (by rw [RewardDb.addAward, taken.frame.1])]
      simp [RewardAwardRow.isLive, status]

/-! ### Handing a slot back needs the period key -/

def SlotRecorded (intl : Intl) (db : RewardDb) (award : RewardAwardRow) : Prop :=
  award.periodKey = periodOf intl db award

instance (intl : Intl) (db : RewardDb) (award : RewardAwardRow) :
    Decidable (SlotRecorded intl db award) :=
  inferInstanceAs (Decidable (award.periodKey = periodOf intl db award))

theorem releaseFor_recorded {intl : Intl} {db : RewardDb} {award : RewardAwardRow} {awardId : Nat}
    (live : award.isLive = true) (recorded : SlotRecorded intl db award) (key : CapKey) :
    (releaseFor db award.enterpriseId award.ruleId award.customerId awardId
      award.periodKey).used key =
        db.used key - if slotHeld intl db award = some key then 1 else 0 := by
  rw [releaseFor_used, recorded, slotHeld, if_pos live]
  rfl

theorem slotHeld_granted {intl : Intl} {db : RewardDb} {award : RewardAwardRow}
    (live : award.isLive = true) (factorBasisPoints : Option Nat) (periodKey : Option String) :
    slotHeld intl db { award with status := .granted, factorBasisPoints, periodKey } =
      slotHeld intl db award := by
  rw [slotHeld, slotHeld, if_pos live]
  rfl

def sweepsToNothing (db : RewardDb) (award : Stored RewardAwardRow) (factor : FactorResult) :
    Bool :=
  (db.findRuleById award.row.enterpriseId award.row.ruleId).any fun rule =>
    (heldGrantInput db award rule).worthless factor

/-- An award that stops being live, its slot handed back, leaves the counters exact. -/
theorem CapsCountLiveAwards.give_up {intl : Intl} {db next : RewardDb} {id : Nat}
    {award : RewardAwardRow} {change : RewardAwardRow → RewardAwardRow}
    (accurate : CapsCountLiveAwards intl db) (businesses : next.businesses = db.businesses)
    (rules : next.rules = db.rules) (awards : next.awards = db.awards.update id change)
    (found : db.awards.get? id = some award) (dead : (change award).isLive = false)
    (released : ∀ key, next.used key =
      db.used key - if slotHeld intl db award = some key then 1 else 0) :
    CapsCountLiveAwards intl next := by
  intro key
  have before := accurate key
  have counted := liveAwards_update intl businesses rules awards found key
  have none : slotHeld intl db (change award) = none := by rw [slotHeld, dead]; rfl
  rw [none] at counted
  simp only [reduceCtorEq, if_false] at counted
  rw [released key]
  omega

theorem HeldEffect.counts {intl : Intl} {award : Stored RewardAwardRow} {factor : FactorResult}
    {db next : RewardDb} (effect : HeldEffect intl award factor db next)
    (fresh : db.awards.get? award.id = some award.row)
    (recorded : sweepsToNothing db award factor = true → SlotRecorded intl db award.row)
    (accurate : CapsCountLiveAwards intl db) : CapsCountLiveAwards intl next := by
  obtain ⟨businesses, rules, -⟩ := effect.frame
  cases effect with
  | unchanged => exact accurate
  | worthless row rule reasonCode found sameEnterprise held ruleFound worthless =>
      obtain rfl := Option.some.inj (fresh.symm.trans found)
      have live : award.row.isLive = true := by simp [RewardAwardRow.isLive, held]
      have slot := recorded (by simp [sweepsToNothing, ruleFound, worthless])
      exact accurate.give_up businesses rules rfl found (by simp [RewardAwardRow.isLive])
        (releaseFor_recorded live slot)
  | granted row rule basisPoints after found sameEnterprise held applied =>
      intro key
      have live : row.isLive = true := by simp [RewardAwardRow.isLive, held]
      have counted := liveAwards_update intl businesses rules rfl found key
      rw [slotHeld_granted live] at counted
      exact (accurate key).trans (Nat.add_right_cancel counted).symm

theorem ReverseEffect.counts {intl : Intl} {award : Stored RewardAwardRow}
    {input : ReversalInput} {db next : RewardDb} (effect : ReverseEffect award input db next)
    (fresh : db.awards.get? award.id = some award.row)
    (sameEnterprise : award.row.enterpriseId = input.enterpriseId)
    (recorded : isReversible db award input = true → SlotRecorded intl db award.row)
    (accurate : CapsCountLiveAwards intl db) : CapsCountLiveAwards intl next := by
  obtain ⟨businesses, rules, -⟩ := effect.frame
  cases effect with
  | unchanged => exact accurate
  | reversed after reversible =>
      have live : award.row.isLive = true := by
        simp only [isReversible, Bool.and_eq_true, Bool.or_eq_true, beq_iff_eq] at reversible
        simpa [RewardAwardRow.isLive, or_comm] using reversible.1
      refine accurate.give_up businesses rules
        (by simp only [RewardDb.markReversed, RewardDb.updateAward, releaseFor_awards]; rfl)
        fresh ?_ ?_
      · simp [RewardAwardRow.isLive, sameEnterprise]
      · intro key
        rw [← releaseFor_recorded live (recorded reversible) key, sameEnterprise]
        rfl

/-! ### What the tasks of a session know -/

def Fresh (db : RewardDb) : EngineTask → Prop
  | .evaluate rule event => RuleRead db rule ∧ rule.row.enterpriseId = event.enterpriseId
  | .grantHeld award => db.awards.get? award.id = some award.row
  | .reverse award input =>
      db.awards.get? award.id = some award.row ∧ award.row.enterpriseId = input.enterpriseId
  | .findRules _ | .offerBalanceThresholds _ | .claimDueHeldAwards | .findBySource _
  | .manage _ => True

def EngineTask.listsAwards : EngineTask → Bool
  | .claimDueHeldAwards | .findBySource _ => true
  | .findRules _ | .evaluate _ _ | .offerBalanceThresholds _ | .grantHeld _ | .reverse _ _
  | .manage _ => false

/-- What one call has left to do: its tasks are fresh, act on different awards,
and list awards only while nothing else is left. -/
structure Serving (db : RewardDb) (tasks : List EngineTask) : Prop where
  fresh : ∀ task ∈ tasks, Fresh db task
  distinct : (tasks.filterMap EngineTask.subject).Nodup
  alone : ∀ task ∈ tasks, task.listsAwards = true → tasks = [task]

theorem Fresh.step {intl : Intl} {choice : EngineChoice} {db next : RewardDb}
    {task other : EngineTask} (fresh : Fresh db other)
    (effect : StepEffect intl choice db task next)
    (different : ∀ id, other.subject = some id → task.subject ≠ some id) : Fresh next other := by
  cases other with
  | evaluate rule event => exact ⟨fresh.1.grow effect.rules.2, fresh.2⟩
  | grantHeld award => exact effect.awards_kept (different award.id rfl) fresh
  | reverse award input => exact ⟨effect.awards_kept (different award.id rfl) fresh.1, fresh.2⟩
  | findRules event => trivial
  | offerBalanceThresholds offer => trivial
  | claimDueHeldAwards => trivial
  | findBySource input => trivial
  | manage call => trivial

theorem Spawned.listsAwards {db : RewardDb} {task next : EngineTask}
    (spawned : Spawned db task next) : next.listsAwards = false := by
  cases spawned <;> rfl

theorem Spawned.subject {db : RewardDb} {task next : EngineTask} (spawned : Spawned db task next)
    (other : task.listsAwards = false) : next.subject = none := by
  cases spawned with
  | evaluate event rule | offerBalanceThresholds offer | findRules offer event => rfl
  | grantHeld award | reverse input award => contradiction

theorem Spawned.fresh {intl : Intl} {choice : EngineChoice} {db : RewardDb}
    {task next : EngineTask} (spawned : Spawned db task next) :
    Fresh (engineStep intl db task choice).1 next := by
  cases spawned with
  | evaluate event rule found sameEnterprise =>
      exact ⟨⟨rule.row.isActive, found⟩, sameEnterprise⟩
  | offerBalanceThresholds offer => trivial
  | findRules offer event => trivial
  | grantHeld award found => exact found
  | reverse input award found sameEnterprise => exact ⟨found, sameEnterprise⟩

theorem orderBy_distinct {Row : Type} {table : Table Row} {wanted : Row → Bool}
    (key : Stored Row → Int) :
    ((RewardDb.orderBy key (table.select wanted)).map (·.id)).Nodup := by
  rw [RewardDb.orderBy, ((List.perm_insertionSort _ _).map _).nodup_iff, List.Nodup,
    List.pairwise_map]
  exact table.select_pairwise_ne wanted

theorem subjects_of_listed {wrap : Stored RewardAwardRow → EngineTask}
    (about : ∀ award, (wrap award).subject = some award.id)
    (awards : List (Stored RewardAwardRow)) :
    (awards.map wrap).filterMap EngineTask.subject = awards.map (·.id) := by
  have same : EngineTask.subject ∘ wrap = fun award => some award.id := funext about
  rw [List.filterMap_map, same, List.filterMap_eq_map']

theorem listed_distinct (intl : Intl) (db : RewardDb) {task : EngineTask} (choice : EngineChoice)
    (lists : task.listsAwards = true) :
    ((engineStep intl db task choice).2.filterMap EngineTask.subject).Nodup := by
  cases task with
  | claimDueHeldAwards =>
      rw [engineStep, subjects_of_listed fun _ => rfl, RewardDb.claimDueHeldAwards, List.map_take]
      exact (orderBy_distinct _).sublist (List.take_sublist _ _)
  | findBySource input =>
      rw [engineStep, subjects_of_listed fun _ => rfl, RewardDb.findBySource, List.Nodup,
        List.pairwise_map]
      exact db.awards.select_pairwise_ne _
  | findRules event => contradiction
  | evaluate rule event => contradiction
  | offerBalanceThresholds offer => contradiction
  | grantHeld award => contradiction
  | reverse award input => contradiction
  | manage call => contradiction

/-- Serving a call one task further keeps what its tasks know true. -/
theorem Serving.step {intl : Intl} {db : RewardDb} {task : EngineTask} {rest : List EngineTask}
    (serving : Serving db (task :: rest)) (choice : EngineChoice) :
    Serving (engineStep intl db task choice).1 ((engineStep intl db task choice).2 ++ rest) := by
  have effect := engineStep_effect intl db task choice
  have spawned : ∀ next ∈ (engineStep intl db task choice).2, Spawned db task next :=
    fun next => engineStep_spawned
  refine ⟨fun other member => ?_, ?_, fun other member lists => ?_⟩
  · rcases List.mem_append.mp member with new | old
    · exact (spawned other new).fresh
    · refine (serving.fresh other (List.mem_cons_of_mem task old)).step effect ?_
      intro id names same
      have distinct := serving.distinct
      rw [List.filterMap_cons, same] at distinct
      exact (List.nodup_cons.mp distinct).1 (List.mem_filterMap.mpr ⟨other, old, names⟩)
  · rw [List.filterMap_append]
    cases lists : task.listsAwards with
    | true =>
        have last := serving.alone task List.mem_cons_self lists
        rw [(List.cons.inj last).2, List.filterMap_nil, List.append_nil]
        exact listed_distinct intl db choice lists
    | false =>
        have none : (engineStep intl db task choice).2.filterMap EngineTask.subject = [] := by
          rw [List.filterMap_eq_nil_iff]
          exact fun next new => (spawned next new).subject lists
        rw [none, List.nil_append]
        refine serving.distinct.sublist ?_
        exact List.Sublist.filterMap _ (List.sublist_cons_self task rest)
  · rcases List.mem_append.mp member with new | old
    · rw [(spawned other new).listsAwards] at lists
      contradiction
    · have last := serving.alone other (List.mem_cons_of_mem task old) lists
      rw [(List.cons.inj last).2] at old
      contradiction

theorem Serving.opening (intl : Intl) (db : RewardDb) (call : EngineCall) :
    Serving db ((engine intl).opening call) := by
  cases call <;> exact ⟨by simp [engine, Fresh], List.nodup_nil, by simp [engine]⟩

/-! ### The cap counts exactly the live awards -/

/-- The step hands back the slot of any award it takes from the live ones: an
award reversed, or swept to nothing, has its slot recorded on its row. -/
def HandsBack (intl : Intl) (db : RewardDb) :
    Event EngineTask EngineCall EngineChoice → Prop
  | .ran (.grantHeld award) choice =>
      sweepsToNothing db award choice.factor = true → SlotRecorded intl db award.row
  | .ran (.reverse award input) _ =>
      isReversible db award input = true → SlotRecorded intl db award.row
  | _ => True

instance (intl : Intl) (db : RewardDb) (event : Event EngineTask EngineCall EngineChoice) :
    Decidable (HandsBack intl db event) :=
  match event with
  | .ran (.grantHeld award) choice =>
      inferInstanceAs (Decidable (sweepsToNothing db award choice.factor = true →
        SlotRecorded intl db award.row))
  | .ran (.reverse award input) _ =>
      inferInstanceAs (Decidable (isReversible db award input = true →
        SlotRecorded intl db award.row))
  | .opened _ | .ran (.findRules _) _ | .ran (.evaluate _ _) _
  | .ran (.offerBalanceThresholds _) _ | .ran .claimDueHeldAwards _ | .ran (.findBySource _) _
  | .ran (.manage _) _ => inferInstanceAs (Decidable True)

/-- Over every sequence of calls in which each award given up has its slot on
record, the counters read what the live awards use. -/
theorem caps_count_live_awards (intl : Intl) (businesses : Nat → Business)
    (firstSeenAt : Nat → Nat → Option Int) (programs : Table RewardProgramRow)
    (rules : Table RewardRuleRow) (session : Session RewardDb EngineTask)
    (reached : (engine intl).SessionReaches (HandsBack intl)
      (.launch businesses firstSeenAt programs rules) session) :
    CapsCountLiveAwards intl session.shared := by
  have invariant := (engine intl).session_invariant
    (fun db tasks => RulesKnown db ∧ Serving db tasks ∧ CapsCountLiveAwards intl db)
    ?_ ?_ ?_ reached
  · exact invariant.2.2
  · refine ⟨fun id award found => ?_, ⟨by simp, by simp, by simp⟩, fun key => rfl⟩
    simp [RewardDb.launch] at found
  · rintro db call ⟨known, -, accurate⟩ -
    exact ⟨known, .opening intl db call, accurate⟩
  · rintro db task rest choice ⟨known, serving, accurate⟩ permitted
    have fresh := serving.fresh task List.mem_cons_self
    have effect := engineStep_effect intl db task choice
    refine ⟨known.step effect fun rule event same => ?_, serving.step choice, ?_⟩
    · subst same
      exact fresh
    · show CapsCountLiveAwards intl (engineStep intl db task choice).1
      generalize (engineStep intl db task choice).1 = next at effect
      cases effect with
      | unchanged => exact accurate
      | evaluated rule event _ effect =>
          intro key
          obtain ⟨taken, used, live⟩ := effect.counts fresh.1 key
          rw [used, live, accurate key]
      | swept award _ effect => exact effect.counts fresh permitted accurate
      | reversed award input _ effect => exact effect.counts fresh.1 fresh.2 permitted accurate
      | managed call _ effect =>
          intro key
          rw [liveAwards_grow known effect.businesses effect.rules effect.awards, ← accurate key,
            RewardDb.used, RewardDb.used, effect.counters]

/-! ### A held award taken back -/

/-- Locale data for runs that only cap by lifetime: every instant is one day. -/
def fixedIntl : Intl where
  civilDate := fun _ _ => ⟨2024, 1, 1⟩
  clockParts := fun _ _ => ⟨"Mon", 12, 0⟩
  supportsCurrency := fun code => code == "EUR"
  toUpperCase := fun text => text
  toLowerCase := fun text => text

def openBusiness : Business where
  timezone := some "UTC"
  currencyCode := some "EUR"

def runningProgram : RewardProgramRow where
  enterpriseId := 1
  name := "Comments"
  displayName := none
  status := .active
  startsAt := none
  endsAt := none
  forwardProviderCode := none

/-- Ten points for a comment, once in a lifetime, taken back with the comment. -/
def onceForAComment (holdHours : Nat) : RewardRuleRow where
  enterpriseId := 1
  programId := 0
  version := 1
  supersedesRuleId := none
  triggerKind := .commentOnOwnPost
  triggerConfig := {}
  factorProviderCode := constantOneFactorProvider
  capScope := .lifetime
  capCount := 1
  holdHours := holdHours
  reversalPolicy := .onContentDeleted
  priority := 0
  isActive := true
  benefits := [{ config := .grantPoints 10, awardMode := .fixed, awardCap := none }]
  conditions := []

def launchOnce (holdHours : Nat) : RewardDb :=
  .launch (fun _ => openBusiness) (fun _ _ => none) ⟨[runningProgram]⟩
    ⟨[onceForAComment holdHours]⟩

def commentEvent (sourceRefId : Nat) : RewardTriggerEvent where
  enterpriseId := 1
  customerId := 7
  triggerKind := .commentOnOwnPost
  sourceRefKind := "comment"
  sourceRefId := sourceRefId
  channelId := none
  occurredAtUtc := 0
  content := none
  customerFirstSeenAt := none
  pointsBalance := none

def commentDeleted (sourceRefId : Nat) : ReversalInput where
  enterpriseId := 1
  sourceRefKind := "comment"
  sourceRefId := sourceRefId
  reasonCode := "content_deleted"

def later : EngineChoice where
  now := 1000000000000
  factor := ⟨10000, by decide⟩

def lifetimeSlot : CapKey where
  enterpriseId := 1
  ruleId := 0
  customerId := 7
  periodKey := "LIFETIME"

def commentThenDelete (evaluation : Nat) : List (EngineCall ⊕ EngineChoice) :=
  .inl (.onTriggerEvent (commentEvent 1)) :: List.replicate evaluation (.inr later) ++
    [.inl (.reverseForDeletedContent (commentDeleted 1)), .inr later, .inr later]

/-- A comment granted at once, then deleted: the slot was taken and came back. -/
theorem caps_count_live_awards_comment_deleted :
    ∃ session : Session RewardDb EngineTask,
      session.shared.slotMoves = [.claimed 0, .released 0] ∧ session.tasks.isEmpty = true ∧
      CapsCountLiveAwards fixedIntl session.shared := by
  have runs : ((engine fixedIntl).playSession (fun db event => decide (HandsBack fixedIntl db event))
      ⟨launchOnce 0, []⟩ (commentThenDelete 3)).any (fun session =>
        session.shared.slotMoves == [.claimed 0, .released 0] && session.tasks.isEmpty) = true := by
    decide +kernel
  obtain ⟨session, played, done⟩ := (Option.any_eq_true _ _).mp runs
  simp only [Bool.and_eq_true, beq_iff_eq] at done
  have reached := (engine fixedIntl).playSession_sound (fun _ _ => of_decide_eq_true) played
  exact ⟨session, done.1, done.2, caps_count_live_awards fixedIntl _ _ _ _ session reached⟩

/-- Once an award is held and then reversed, the counter still counts it. -/
theorem held_reversal_keeps_its_slot :
    ¬ ∀ (intl : Intl) (businesses : Nat → Business) (firstSeenAt : Nat → Nat → Option Int)
      (programs : Table RewardProgramRow) (rules : Table RewardRuleRow)
      (session : Session RewardDb EngineTask),
      (engine intl).SessionReaches (fun _ _ => True)
        (.launch businesses firstSeenAt programs rules) session →
      CapsCountLiveAwards intl session.shared := by
  intro claimed
  have leaked : ((engine fixedIntl).playSession (fun _ _ => true) ⟨launchOnce 1, []⟩
      (commentThenDelete 2)).any (fun session =>
        session.shared.used lifetimeSlot == 1 &&
          liveAwards fixedIntl session.shared lifetimeSlot == 0) = true := by
    decide +kernel
  obtain ⟨session, played, counted⟩ := (Option.any_eq_true _ _).mp leaked
  simp only [Bool.and_eq_true, beq_iff_eq] at counted
  have reached := (engine fixedIntl).playSession_sound (fun _ _ _ => trivial) played
  have exact := claimed fixedIntl _ _ _ _ session reached lifetimeSlot
  omega

end UnifiedService.Rewards
