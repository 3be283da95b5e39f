import UnifiedService.Rewards.LedgerProperties
import UnifiedService.Rewards.SupersessionProperties

/-! A reversed award keeps no value, and gives its cap slot back once: what holds
when sweeps and reversals interleave, and where the reads before a reversal go stale. -/

set_option autoImplicit false

namespace UnifiedService.Rewards

open UnifiedService.Library

/-! ### How often a slot moved for an award -/

def RewardDb.claims (db : RewardDb) (awardId : Nat) : Nat :=
  db.slotMoves.count (.claimed awardId)

def RewardDb.releases (db : RewardDb) (awardId : Nat) : Nat :=
  db.slotMoves.count (.released awardId)

def NoMoves (db next : RewardDb) (awardId : Nat) : Prop :=
  next.claims awardId = db.claims awardId ∧ next.releases awardId = db.releases awardId

theorem NoMoves.of_eq {db next : RewardDb} (same : next.slotMoves = db.slotMoves)
    (awardId : Nat) : NoMoves db next awardId := by
  rw [NoMoves, RewardDb.claims, RewardDb.releases, same]
  exact ⟨rfl, rfl⟩

theorem takeSlot_moves (db : RewardDb) (key : CapKey) (counter : CapCounter) (awardId other : Nat) :
    (db.takeSlot key counter awardId).claims other =
        db.claims other + (if other = awardId then 1 else 0) ∧
      (db.takeSlot key counter awardId).releases other = db.releases other := by
  by_cases same : other = awardId
  · subst same
    simp [RewardDb.claims, RewardDb.releases, RewardDb.takeSlot]
  · simp [RewardDb.claims, RewardDb.releases, RewardDb.takeSlot, same, Ne.symm same]

theorem SlotTaken.moves {db claimed : RewardDb} {cap awardId : Nat} {slot : Option CapKey}
    (taken : SlotTaken db cap awardId slot claimed) (other : Nat) :
    claimed.claims other = db.claims other + (if slot.isSome ∧ other = awardId then 1 else 0) ∧
      claimed.releases other = db.releases other := by
  cases taken with
  | uncapped => simp
  | first key unused room => simpa using takeSlot_moves db key { used := 1, cap } awardId other
  | next key counter counted room =>
      simpa using takeSlot_moves db key { counter with used := counter.used + 1 } awardId other

theorem releaseFor_moves (db : RewardDb) (enterpriseId ruleId customerId awardId : Nat)
    (periodKey : Option String) (other : Nat) :
    (releaseFor db enterpriseId ruleId customerId awardId periodKey).claims other =
        db.claims other ∧
      (releaseFor db enterpriseId ruleId customerId awardId periodKey).releases other =
        db.releases other + (if periodKey.isSome ∧ other = awardId then 1 else 0) := by
  cases periodKey with
  | none => simp [releaseFor]
  | some periodKey =>
      by_cases same : other = awardId
      · subst same
        simp [RewardDb.claims, RewardDb.releases, releaseFor, RewardDb.releaseCapSlot]
      · simp [RewardDb.claims, RewardDb.releases, releaseFor, RewardDb.releaseCapSlot, same,
          Ne.symm same]

structure SlotAccount (intl : Intl) (db : RewardDb) (awardId : Nat) (award : RewardAwardRow) :
    Prop where
  uncapped : periodOf intl db award = none → db.claims awardId = 0 ∧ db.releases awardId = 0
  live : (periodOf intl db award).isSome = true → award.isLive = true →
    db.claims awardId = 1 ∧ db.releases awardId = 0
  reversed : (periodOf intl db award).isSome = true → award.status = .reversed →
    db.claims awardId = 1 ∧ db.releases awardId = 1

theorem SlotAccount.kept {intl : Intl} {db next : RewardDb} {awardId : Nat}
    {award later : RewardAwardRow} (account : SlotAccount intl db awardId award)
    (moves : NoMoves db next awardId) (period : periodOf intl next later = periodOf intl db award)
    (live : later.isLive = true → award.isLive = true)
    (reversed : later.status = .reversed → award.status = .reversed) :
    SlotAccount intl next awardId later := by
  obtain ⟨claims, releases⟩ := moves
  refine ⟨?_, ?_, ?_⟩ <;> rw [period, claims, releases]
  · exact account.uncapped
  · exact fun capped isLive => account.live capped (live isLive)
  · exact fun capped isReversed => account.reversed capped (reversed isReversed)

structure SlotsAccounted (intl : Intl) (db : RewardDb) : Prop where
  award : ∀ id award, db.awards.get? id = some award → SlotAccount intl db id award
  unknown : ∀ id, db.awards.nextId ≤ id → db.claims id = 0 ∧ db.releases id = 0

theorem periodOf_congr {intl : Intl} {db next : RewardDb}
    (businesses : next.businesses = db.businesses) (rules : next.rules = db.rules)
    (award : RewardAwardRow) : periodOf intl next award = periodOf intl db award := by
  rw [periodOf, periodOf, businesses, rules]

namespace SlotsAccounted

variable {intl : Intl} {db next : RewardDb}

theorem insert {award : RewardAwardRow} (accounted : SlotsAccounted intl db)
    (businesses : next.businesses = db.businesses) (rules : next.rules = db.rules)
    (awards : next.awards = db.awards.insert award)
    (others : ∀ id, id ≠ db.awards.nextId → NoMoves db next id)
    (new : SlotAccount intl next db.awards.nextId award) : SlotsAccounted intl next := by
  refine ⟨fun id later found => ?_, fun id beyond => ?_⟩
  · rw [awards, Table.get?_insert] at found
    split at found
    · next last =>
        obtain rfl := Option.some.inj found
        exact last ▸ new
    · next different =>
        exact (accounted.award id later found).kept (others id different)
          (periodOf_congr businesses rules later) (fun live => live) fun reversed => reversed
  · rw [awards, Table.nextId_insert] at beyond
    have different : id ≠ db.awards.nextId := by omega
    obtain ⟨claims, releases⟩ := others id different
    rw [claims, releases]
    exact accounted.unknown id (by omega)

theorem update {target : Nat} {award : RewardAwardRow} {change : RewardAwardRow → RewardAwardRow}
    (accounted : SlotsAccounted intl db) (businesses : next.businesses = db.businesses)
    (rules : next.rules = db.rules) (awards : next.awards = db.awards.update target change)
    (found : db.awards.get? target = some award)
    (others : ∀ id, id ≠ target → NoMoves db next id)
    (changed : SlotAccount intl next target (change award)) : SlotsAccounted intl next := by
  refine ⟨fun id later laterFound => ?_, fun id beyond => ?_⟩
  · rw [awards, Table.get?_update] at laterFound
    split at laterFound
    · next same =>
        subst same
        rw [found] at laterFound
        obtain rfl := Option.some.inj laterFound
        exact changed
    · next different =>
        exact (accounted.award id later laterFound).kept (others id (Ne.symm different))
          (periodOf_congr businesses rules later) (fun live => live) fun reversed => reversed
  · rw [awards, Table.nextId_update] at beyond
    have present := Table.get?_lt found
    obtain ⟨claims, releases⟩ := others id (by omega)
    rw [claims, releases]
    exact accounted.unknown id beyond

theorem grow (accounted : SlotsAccounted intl db) (known : RulesKnown db)
    (businesses : next.businesses = db.businesses) (rules : RulesGrow db next)
    (awards : next.awards = db.awards) (slotMoves : next.slotMoves = db.slotMoves) :
    SlotsAccounted intl next := by
  refine ⟨fun id award found => ?_, fun id beyond => ?_⟩
  · rw [awards] at found
    obtain ⟨rule, ruleFound, -⟩ := known id award found
    exact (accounted.award id award found).kept (.of_eq slotMoves id)
      (periodOf_grow ruleFound businesses rules) (fun live => live) fun reversed => reversed
  · rw [awards] at beyond
    obtain ⟨claims, releases⟩ := NoMoves.of_eq slotMoves id
    rw [claims, releases]
    exact accounted.unknown id beyond

end SlotsAccounted

theorem EvaluateEffect.accounts {intl : Intl} {rule : Stored RewardRuleRow}
    {event : RewardTriggerEvent} {factor : FactorResult} {db next : RewardDb}
    (effect : EvaluateEffect intl rule event factor db next) (read : RuleRead db rule)
    (accounted : SlotsAccounted intl db) : SlotsAccounted intl next := by
  obtain ⟨noClaims, noReleases⟩ := accounted.unknown db.awards.nextId (Nat.le_refl _)
  have period : ∀ award, AwardFor rule event award →
      periodOf intl next award = eventPeriod intl db rule.row event := fun award isFor =>
    (periodOf_congr effect.frame.1 effect.frame.2.1 award).trans (periodOf_new read isFor)
  have slot : (eventSlot intl db rule event).isSome = (eventPeriod intl db rule.row event).isSome :=
    Option.isSome_map
  -- A claim that sticks leaves one claim for a capped award and none for another.
  have claimed : ∀ (award : RewardAwardRow) (taken : RewardDb), AwardFor rule event award →
      SlotTaken db rule.row.capCount db.awards.nextId (eventSlot intl db rule event) taken →
      next.slotMoves = taken.slotMoves → award.isLive = true → award.status ≠ .reversed →
      next.awards = db.awards.insert award → SlotsAccounted intl next := by
    intro award taken isFor claims same live notReversed awards
    have moves := claims.moves
    refine accounted.insert effect.frame.1 effect.frame.2.1 awards (fun id different => ?_) ?_
    · obtain ⟨claimsSame, releasesSame⟩ := NoMoves.of_eq same id
      obtain ⟨claimsTaken, releasesTaken⟩ := moves id
      refine ⟨?_, releasesSame.trans releasesTaken⟩
      rw [claimsSame, claimsTaken, if_neg fun both => different both.2, Nat.add_zero]
    · obtain ⟨claimsSame, releasesSame⟩ := NoMoves.of_eq same db.awards.nextId
      obtain ⟨claimsTaken, releasesTaken⟩ := moves db.awards.nextId
      rw [noClaims, Nat.zero_add, slot] at claimsTaken
      rw [noReleases] at releasesTaken
      refine ⟨fun uncapped => ?_, fun capped _ => ?_, fun _ reversed => absurd reversed notReversed⟩
      · rw [period award isFor] at uncapped
        rw [uncapped] at claimsTaken
        exact ⟨claimsSame.trans (by simpa using claimsTaken), releasesSame.trans releasesTaken⟩
      · rw [period award isFor] at capped
        rw [if_pos ⟨capped, rfl⟩] at claimsTaken
        exact ⟨claimsSame.trans claimsTaken, releasesSame.trans releasesTaken⟩
  cases effect with
  | unchanged => exact accounted
  | refused award isFor status fresh =>
      refine accounted.insert rfl rfl rfl (fun id _ => .of_eq rfl id)
        ⟨fun _ => ⟨noClaims, noReleases⟩, fun _ live => ?_, fun _ reversed => ?_⟩
      · rcases status with status | status <;> simp [RewardAwardRow.isLive, status] at live
      · rcases status with status | status <;> rw [status] at reversed <;> contradiction
  | held award taken isFor status unrecorded fresh claims =>
      refine claimed award taken isFor claims rfl (by simp [RewardAwardRow.isLive, status])
        (by simp [status]) ?_
      rw [RewardDb.addAward, claims.frame.1]
  | worthless award taken isFor status recorded fresh claims =>
      have released := releaseFor_moves taken event.enterpriseId rule.id event.customerId
        db.awards.nextId (eventPeriod intl db rule.row event)
      have moves := claims.moves
      have awards : ((releaseFor taken event.enterpriseId rule.id event.customerId
          db.awards.nextId (eventPeriod intl db rule.row event)).addAward award).awards =
            db.awards.insert award := by
        rw [RewardDb.addAward, releaseFor_awards, claims.frame.1]
      refine accounted.insert ?_ ?_ awards (fun id different => ?_) ⟨fun uncapped => ?_, ?_, ?_⟩
      · rw [RewardDb.addAward, releaseFor_businesses, claims.frame.2.2.1]
      · rw [RewardDb.addAward, releaseFor_rules, claims.frame.2.1]
      · refine ⟨(released id).1.trans ((moves id).1.trans ?_),
          (released id).2.trans (Eq.trans ?_ (moves id).2)⟩
        · rw [if_neg fun both => different both.2, Nat.add_zero]
        · rw [if_neg fun both => different both.2, Nat.add_zero]
      · rw [period award isFor] at uncapped
        rw [uncapped, Option.isSome_none] at slot
        refine ⟨(released _).1.trans ((moves _).1.trans ?_),
          (released _).2.trans ?_⟩
        · rw [slot, noClaims]
          rfl
        · rw [(moves _).2, noReleases, uncapped]
          rfl
      · intro _ live
        simp [RewardAwardRow.isLive, status] at live
      · intro _ reversed
        rw [status] at reversed
        contradiction
  | granted award taken held after input basisPoints isFor status recorded fresh claims grants
      value applied =>
      refine claimed award taken isFor claims rfl (by simp [RewardAwardRow.isLive, status])
        (by simp [status]) ?_
      rw [RewardDb.addAward, claims.frame.1]

/-- The sweep hands no slot back: a held award has none on its row. -/
theorem HeldEffect.accounts {intl : Intl} {award : Stored RewardAwardRow} {factor : FactorResult}
    {db next : RewardDb} (effect : HeldEffect intl award factor db next)
    (unrecorded : award.row.periodKey = none) (accounted : SlotsAccounted intl db) :
    SlotsAccounted intl next := by
  obtain ⟨businesses, rules, -⟩ := effect.frame
  cases effect with
  | unchanged => exact accounted
  | worthless row rule reasonCode found sameEnterprise held =>
      have still : NoMoves db { releaseFor db award.row.enterpriseId award.row.ruleId
          award.row.customerId award.id award.row.periodKey with
            awards := db.awards.update award.id fun _ =>
              { row with
                status := .skippedZeroFactor
                reasonCode := some reasonCode
                periodKey := award.row.periodKey.orElse fun _ => row.periodKey } } award.id := by
        rw [unrecorded]
        exact .of_eq rfl award.id
      refine accounted.update businesses rules rfl found (fun id _ => ?_)
        ((accounted.award award.id row found).kept still (periodOf_congr businesses rules _)
          (fun live => ?_) fun reversed => ?_)
      · rw [unrecorded]
        exact .of_eq rfl id
      · simp [RewardAwardRow.isLive] at live
      · contradiction
  | granted row rule basisPoints after found sameEnterprise held applied =>
      refine accounted.update businesses rules rfl found (fun id _ => .of_eq rfl id)
        ((accounted.award award.id row found).kept (.of_eq rfl award.id)
          (periodOf_congr businesses rules _) (fun _ => ?_) fun reversed => ?_)
      · simp [RewardAwardRow.isLive, held]
      · contradiction

/-! ### Reversing what is still as it was read -/

/-- A reversal finds its award as it has to: not granted since it was listed as held,
with its slot on record, and, under a cap, not given up by anyone else meanwhile. -/
def ReversesInTime (intl : Intl) (db : RewardDb) :
    Event EngineTask EngineCall EngineChoice → Prop
  | .ran (.reverse award input) _ =>
      isReversible db award input = true →
        (award.row.status = .held →
          (db.awards.get? award.id).all (fun row => row.status != .granted) = true) ∧
        SlotRecorded intl db award.row ∧
        ((periodOf intl db award.row).isSome = true →
          (db.awards.get? award.id).any (fun row => row.isLive) = true)
  | _ => True

instance (intl : Intl) (db : RewardDb) (event : Event EngineTask EngineCall EngineChoice) :
    Decidable (ReversesInTime intl db event) :=
  match event with
  | .ran (.reverse award input) _ =>
      inferInstanceAs (Decidable (isReversible db award input = true →
        (award.row.status = .held →
          (db.awards.get? award.id).all (fun row => row.status != .granted) = true) ∧
        SlotRecorded intl db award.row ∧
        ((periodOf intl db award.row).isSome = true →
          (db.awards.get? award.id).any (fun row => row.isLive) = true)))
  | .opened _ | .ran (.findRules _) _ | .ran (.evaluate _ _) _
  | .ran (.offerBalanceThresholds _) _ | .ran .claimDueHeldAwards _ | .ran (.grantHeld _) _
  | .ran (.findBySource _) _ | .ran (.manage _) _ => inferInstanceAs (Decidable True)

def ReversalReady (db : RewardDb) : EngineTask → Prop
  | .evaluate rule event => RuleRead db rule ∧ rule.row.enterpriseId = event.enterpriseId
  | .grantHeld award => award.row.periodKey = none
  | .reverse award input =>
      ∃ row, db.awards.get? award.id = some row ∧ Later award.row row ∧
        award.row.enterpriseId = input.enterpriseId
  | .findRules _ | .offerBalanceThresholds _ | .claimDueHeldAwards | .findBySource _
  | .manage _ => True

theorem ReversalReady.ledger {db : RewardDb} {task : EngineTask} (ready : ReversalReady db task) :
    LedgerReady db task := by
  cases task with
  | reverse award input =>
      obtain ⟨row, found, same, sameEnterprise⟩ := ready
      exact ⟨row, found, same.enterpriseId.trans sameEnterprise⟩
  | findRules event | evaluate rule event | offerBalanceThresholds offer | claimDueHeldAwards
  | grantHeld award | findBySource input | manage call => trivial

structure ReversalHolds (intl : Intl) (db : RewardDb) : Prop where
  ledger : LedgerHolds db
  known : RulesKnown db
  unrecorded : HeldUnrecorded db
  slots : SlotsAccounted intl db
  undone : ∀ id award, db.awards.get? id = some award → award.status = .reversed →
    AllReversed db.store db.awardBenefits id

/-- A reversal in time takes a capped award's slot back from exactly one claim. -/
theorem ReverseEffect.accounts {intl : Intl} {award : Stored RewardAwardRow}
    {input : ReversalInput} {choice : EngineChoice} {db next : RewardDb}
    (effect : ReverseEffect award input db next) (ready : ReversalReady db (.reverse award input))
    (inTime : ReversesInTime intl db (.ran (.reverse award input) choice))
    (accounted : SlotsAccounted intl db) : SlotsAccounted intl next := by
  obtain ⟨businesses, rules, -⟩ := effect.frame
  cases effect with
  | unchanged => exact accounted
  | reversed after reversible =>
      obtain ⟨row, found, same, sameEnterprise⟩ := ready
      obtain ⟨-, recorded, stillLive⟩ := inTime reversible
      have account := accounted.award award.id row found
      have period : periodOf intl db award.row = periodOf intl db row := by
        rw [periodOf, periodOf, same.ruleId, same.enterpriseId, same.occurredAtUtc]
      rw [SlotRecorded, period] at recorded
      rw [period, found, Option.any_some] at stillLive
      have moves := releaseFor_moves db input.enterpriseId award.row.ruleId award.row.customerId
        award.id award.row.periodKey
      refine accounted.update businesses rules
        (by simp only [RewardDb.markReversed, RewardDb.updateAward, releaseFor_awards]; rfl) found
        (fun id different => ?_) ?_
      · refine ⟨(moves id).1, (moves id).2.trans ?_⟩
        rw [if_neg fun both => different both.2, Nat.add_zero]
      · rw [if_pos (same.enterpriseId.trans sameEnterprise)]
        have here := @periodOf_congr intl _ _ businesses rules
          { row with status := .reversed, reasonCode := some input.reasonCode }
        refine ⟨fun uncapped => ?_, fun _ live => ?_, fun capped _ => ?_⟩
        · rw [here] at uncapped
          obtain ⟨claims, releases⟩ := account.uncapped uncapped
          refine ⟨(moves award.id).1.trans claims, (moves award.id).2.trans ?_⟩
          rw [releases, recorded.trans uncapped]
          rfl
        · simp [RewardAwardRow.isLive] at live
        · rw [here] at capped
          obtain ⟨claims, releases⟩ := account.live capped (stillLive capped)
          refine ⟨(moves award.id).1.trans claims, (moves award.id).2.trans ?_⟩
          rw [releases, recorded, if_pos ⟨capped, rfl⟩]

theorem ReverseEffect.undoes {intl : Intl} {award : Stored RewardAwardRow}
    {input : ReversalInput} {choice : EngineChoice} {db next : RewardDb} {row later : RewardAwardRow}
    (effect : ReverseEffect award input db next) (ready : ReversalReady db (.reverse award input))
    (inTime : ReversesInTime intl db (.ran (.reverse award input) choice))
    (ledger : LedgerHolds db) (found : db.awards.get? award.id = some row)
    (notYet : row.status ≠ .reversed) (laterFound : next.awards.get? award.id = some later)
    (reversed : later.status = .reversed) :
    AllReversed next.store next.awardBenefits award.id := by
  cases effect with
  | unchanged =>
      obtain rfl := Option.some.inj (found.symm.trans laterFound)
      contradiction
  | reversed after reversible compensated untouched =>
      by_cases granted : award.row.status = .granted
      · exact (BenefitDispatcher.compensateAward_ok ledger.books
          (fun id benefit benefitFound ofAward =>
            reversal_ofEnterprise ledger.paid ready.ledger id benefit benefitFound ofAward)
          (compensated granted)).2.2.2
      · obtain rfl := untouched granted
        have held : award.row.status = .held := by
          simp only [isReversible, Bool.and_eq_true, Bool.or_eq_true, beq_iff_eq] at reversible
          exact reversible.1.resolve_left granted
        have notGranted := (inTime reversible).1 held
        rw [found, Option.all_some, bne_iff_ne] at notGranted
        intro id benefit benefitFound ofAward
        obtain ⟨owner, ownerFound, -, status⟩ := ledger.paid id benefit benefitFound
        rw [ofAward, found] at ownerFound
        obtain rfl := Option.some.inj ownerFound
        exact (status.elim notGranted notYet).elim

theorem StepEffect.reversed_before {intl : Intl} {choice : EngineChoice} {db next : RewardDb}
    {task : EngineTask} (effect : StepEffect intl choice db task next)
    (other : ∀ award input, task ≠ .reverse award input) {id : Nat} {later : RewardAwardRow}
    (found : next.awards.get? id = some later) (reversed : later.status = .reversed) :
    ∃ award, db.awards.get? id = some award ∧ award.status = .reversed := by
  have of_insert : ∀ {award : RewardAwardRow}, next.awards = db.awards.insert award →
      award.status ≠ .reversed → ∃ award, db.awards.get? id = some award ∧
        award.status = .reversed := by
    intro award added notReversed
    rw [added, Table.get?_insert] at found
    split at found
    · obtain rfl := Option.some.inj found
      contradiction
    · exact ⟨later, found, reversed⟩
  have of_update : ∀ {target : Nat} {row : RewardAwardRow},
      next.awards = db.awards.update target (fun _ => row) → row.status ≠ .reversed →
      ∃ award, db.awards.get? id = some award ∧ award.status = .reversed := by
    intro target row updated notReversed
    rw [updated, Table.get?_update] at found
    split at found
    · obtain ⟨_, -, rfl⟩ := Option.map_eq_some_iff.mp found
      contradiction
    · exact ⟨later, found, reversed⟩
  cases effect with
  | unchanged => exact ⟨later, found, reversed⟩
  | evaluated rule event _ effect =>
      cases effect with
      | unchanged => exact ⟨later, found, reversed⟩
      | refused award isFor status fresh =>
          exact of_insert rfl (by rcases status with status | status <;> simp [status])
      | held award claimed isFor status unrecorded fresh taken =>
          exact of_insert (by rw [RewardDb.addAward, taken.frame.1]) (by simp [status])
      | worthless award claimed isFor status recorded fresh taken =>
          exact of_insert (by rw [RewardDb.addAward, releaseFor_awards, taken.frame.1])
            (by simp [status])
      | granted award claimed held after input basisPoints isFor status recorded fresh taken =>
          exact of_insert (by rw [RewardDb.addAward, taken.frame.1]) (by simp [status])
  | swept award _ effect =>
      cases effect with
      | unchanged => exact ⟨later, found, reversed⟩
      | worthless row rule reasonCode => exact of_update rfl (by simp)
      | granted row rule basisPoints after => exact of_update rfl (by simp)
  | reversed award input _ effect => exact absurd rfl (other award input)
  | managed call _ effect => exact ⟨later, effect.awards ▸ found, reversed⟩

theorem ReversalHolds.step {intl : Intl} {choice : EngineChoice} {db next : RewardDb}
    {task : EngineTask} (holds : ReversalHolds intl db) (ready : ReversalReady db task)
    (inTime : ReversesInTime intl db (.ran task choice))
    (effect : StepEffect intl choice db task next) : ReversalHolds intl next := by
  have value := effect.value holds.ledger.books holds.ledger.paid ready.ledger
  refine ⟨holds.ledger.step ready.ledger effect, holds.known.step effect ?_,
    holds.unrecorded.step effect, ?_, fun id later found status => ?_⟩
  · rintro rule event rfl
    exact ready
  · obtain ⟨businesses, grow⟩ := effect.rules
    cases effect with
    | unchanged => exact holds.slots
    | evaluated rule event _ effect => exact effect.accounts ready.1 holds.slots
    | swept award _ effect => exact effect.accounts ready holds.slots
    | reversed award input _ effect => exact effect.accounts ready inTime holds.slots
    | managed call _ effect =>
        exact holds.slots.grow holds.known businesses grow effect.awards effect.slotMoves
  · have kept : ∀ award, db.awards.get? id = some award → award.status = .reversed →
        AllReversed next.store next.awardBenefits id := by
      intro award awardFound reversed
      exact (holds.undone id award awardFound reversed).step value awardFound (by simp [reversed])
    by_cases reverses : ∃ award input, task = .reverse award input
    · obtain ⟨award, input, rfl⟩ := reverses
      by_cases mine : award.id = id
      · subst mine
        have listed := ready
        obtain ⟨row, rowFound, -⟩ := listed
        by_cases notYet : row.status = .reversed
        · exact kept row rowFound notYet
        · cases effect with
          | unchanged =>
              obtain rfl := Option.some.inj (rowFound.symm.trans found)
              contradiction
          | reversed _ _ _ effect =>
              exact effect.undoes ready inTime holds.ledger rowFound notYet found status
      · rcases effect.awards_origin found with ⟨row, rowFound, -⟩ | ⟨-, rule, event, same, -⟩
        · have unchanged := effect.awards_kept
            (fun same => mine (Option.some.inj same)) rowFound
          obtain rfl := Option.some.inj (unchanged.symm.trans found)
          exact kept row rowFound status
        · contradiction
    · obtain ⟨award, awardFound, reversed⟩ := effect.reversed_before
        (fun award input same => reverses ⟨award, input, same⟩) found status
      exact kept award awardFound reversed

theorem ReversalReady.step {intl : Intl} {choice : EngineChoice} {db next : RewardDb}
    {task other : EngineTask} (ready : ReversalReady db other)
    (effect : StepEffect intl choice db task next) : ReversalReady next other := by
  cases other with
  | evaluate rule event => exact ⟨ready.1.grow effect.rules.2, ready.2⟩
  | grantHeld award => exact ready
  | reverse award input =>
      obtain ⟨row, found, same, sameEnterprise⟩ := ready
      obtain ⟨later, laterFound, sameLater⟩ := effect.awards_later found
      exact ⟨later, laterFound, same.trans sameLater, sameEnterprise⟩
  | findRules event => trivial
  | offerBalanceThresholds offer => trivial
  | claimDueHeldAwards => trivial
  | findBySource input => trivial
  | manage call => trivial

theorem ReversalReady.spawned {intl : Intl} {choice : EngineChoice} {db : RewardDb}
    {task next : EngineTask} (unrecorded : HeldUnrecorded db) (spawned : Spawned db task next) :
    ReversalReady (engineStep intl db task choice).1 next := by
  cases spawned with
  | evaluate event rule found sameEnterprise =>
      exact ⟨⟨rule.row.isActive, found⟩, sameEnterprise⟩
  | offerBalanceThresholds offer => trivial
  | findRules offer event => trivial
  | grantHeld award found held => exact unrecorded award.id award.row found held
  | reverse input award found sameEnterprise =>
      exact ⟨award.row, found, .refl award.row, sameEnterprise⟩

/-- A reversed award keeps nothing on any wallet, and gave its slot back once. -/
def ReversedForGood (intl : Intl) (db : RewardDb) : Prop :=
  ∀ id award, db.awards.get? id = some award → award.status = .reversed →
    (∀ walletId, awardNet db.store id walletId = 0) ∧
      db.releases id = if (periodOf intl db award).isSome then 1 else 0

theorem ReversalHolds.reversedForGood {intl : Intl} {db : RewardDb}
    (holds : ReversalHolds intl db) : ReversedForGood intl db := by
  intro id award found reversed
  refine ⟨holds.ledger.books.awardNet_eq_zero (holds.undone id award found reversed), ?_⟩
  have account := holds.slots.award id award found
  cases period : periodOf intl db award with
  | none => exact (account.uncapped period).2
  | some periodKey =>
      have capped : (periodOf intl db award).isSome = true := by rw [period]; rfl
      exact (account.reversed capped reversed).2

/-- However sweeps, reversals and every other call interleave, as long as each
reversal finds its award as it has to, a reversed award stays reversed for good. -/
theorem reversed_award_keeps_no_value (intl : Intl) (businesses : Nat → Business)
    (firstSeenAt : Nat → Nat → Option Int) (programs : Table RewardProgramRow)
    (rules : Table RewardRuleRow) (pool : Pool RewardDb EngineTask)
    (reached : (engine intl).PoolReaches (ReversesInTime intl)
      (.launch businesses firstSeenAt programs rules) pool) :
    ReversedForGood intl pool.shared := by
  have invariant := (engine intl).pool_invariant (ReversalHolds intl) ReversalReady ?_
    (fun db call _ _ task member => ?_) (fun db task choice holds ready inTime => ?_) reached
  · exact invariant.1.reversedForGood
  · refine ⟨.launch _ _ _ _, ?_, ?_, ⟨?_, fun id _ => ⟨rfl, rfl⟩⟩, ?_⟩ <;>
      exact fun id award found => by simp [RewardDb.launch] at found
  · cases call <;> (rw [List.mem_singleton.mp member]; trivial)
  · have effect := engineStep_effect intl db task choice
    exact ⟨holds.step ready inTime effect,
      fun _ member => .spawned holds.unrecorded (engineStep_spawned member),
      fun _ waiting => waiting.step effect⟩

/-- A comment granted at once, and two deletions of it that both list the award
before either runs. -/
def deletedTwiceAtOnce : List (EngineCall ⊕ (Nat × EngineChoice)) :=
  grantComment ++
    [.inl (.reverseForDeletedContent (commentDeleted 1)),
      .inl (.reverseForDeletedContent (commentDeleted 1)),
      .inr (1, later), .inr (2, later), .inr (1, later), .inr (2, later)]

/-- Deleted once: the ten points and the slot come back. -/
theorem reversed_award_keeps_no_value_comment_deleted :
    ∃ pool : Pool RewardDb EngineTask,
      ((pool.shared.awards.get? 0).map (·.status)) = some .reversed ∧
      (∀ walletId, awardNet pool.shared.store 0 walletId = 0) ∧ pool.shared.releases 0 = 1 := by
  have runs : ((engine fixedIntl).playPool
      (fun db event => decide (ReversesInTime fixedIntl db event)) ⟨launchOnce 0, []⟩
      (grantComment ++ [.inl (.reverseForDeletedContent (commentDeleted 1)), .inr (1, later),
        .inr (1, later)])).any (fun pool =>
          (pool.shared.awards.get? 0).any fun award => award.status == .reversed &&
            (periodOf fixedIntl pool.shared award).isSome) = true := by
    decide +kernel
  obtain ⟨pool, played, done⟩ := (Option.any_eq_true _ _).mp runs
  obtain ⟨award, found, status⟩ := (Option.any_eq_true _ _).mp done
  simp only [Bool.and_eq_true, beq_iff_eq] at status
  have reached := (engine fixedIntl).playPool_sound (fun _ _ => of_decide_eq_true) played
  obtain ⟨settled, released⟩ := reversed_award_keeps_no_value fixedIntl _ _ _ _ pool reached 0
    award found status.1
  rw [if_pos status.2] at released
  exact ⟨pool, by rw [found, Option.map_some, status.1], settled, released⟩

/-- Deleted twice at once: both reversals trust the status they read, and the one
slot is handed back twice. -/
theorem stale_reversal_releases_twice :
    ¬ ∀ (intl : Intl) (businesses : Nat → Business) (firstSeenAt : Nat → Nat → Option Int)
      (programs : Table RewardProgramRow) (rules : Table RewardRuleRow)
      (pool : Pool RewardDb EngineTask),
      (engine intl).PoolReaches (fun _ _ => True)
        (.launch businesses firstSeenAt programs rules) pool →
      ReversedForGood intl pool.shared := by
  intro claimed
  have runs : ((engine fixedIntl).playPool (fun _ _ => true) ⟨launchOnce 0, []⟩
      deletedTwiceAtOnce).any (fun pool =>
        ((pool.shared.awards.get? 0).any fun award => award.status == .reversed) &&
          pool.shared.releases 0 == 2) = true := by
    decide +kernel
  obtain ⟨pool, played, done⟩ := (Option.any_eq_true _ _).mp runs
  simp only [Bool.and_eq_true, beq_iff_eq] at done
  obtain ⟨listed, twice⟩ := done
  obtain ⟨award, found, reversed⟩ := (Option.any_eq_true _ _).mp listed
  rw [beq_iff_eq] at reversed
  have reached := (engine fixedIntl).playPool_sound (fun _ _ _ => trivial) played
  have once := (claimed fixedIntl _ _ _ _ pool reached 0 award found reversed).2
  rw [twice] at once
  split at once <;> exact absurd once (by decide)

end UnifiedService.Rewards
