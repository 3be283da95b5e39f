import UnifiedService.Library.Tally
import UnifiedService.Library.Queue
import UnifiedService.Outbound.LeaseProperties

/-! How often an outbound event is handed to a relay worker. A claim spends an attempt, a
park gives one back, and a replay all of them. -/

set_option autoImplicit false

namespace UnifiedService.Outbound

open UnifiedService.Library

/-! ### What is counted -/

def OutboxTask.handsOut (id : Nat) : OutboxTask → Nat
  | .relay (.deliver event) => if event.id == id then 1 else 0
  | .relay _ | .readBack _ | .project _ => 0

def handed (id : Nat) : OutboxState → OutboxParty → OutboxChoice → Nat :=
  outbox.given (OutboxTask.handsOut id)

def OutboxTask.parking : OutboxTask → Option (ClaimedOutboundEvent × Int)
  | .relay (.park event retryAt) | .relay (.markRateLimited event retryAt) =>
      some (event, retryAt)
  | _ => none

def parks (id : Nat) (state : OutboxState) (party : OutboxParty) (choice : OutboxChoice) : Nat :=
  match party, (state.left party).head?.bind OutboxTask.parking with
  | .relay leaseOwner, some (event, retryAt) =>
      if event.id = id ∧
          state.store.markRateLimited event.id leaseOwner retryAt outboundRateLimitMaxWaitMs
            choice.now = (.parked, (outbox.step state party choice).store) then 1
      else 0
  | _, _ => 0

def replays (id : Nat) (state : OutboxState) (party : OutboxParty) (choice : OutboxChoice) : Nat :=
  match party, choice.call with
  | .agent _, .retryModeration input =>
      if state.left party = [] ∧
          state.store.requeueDeadLettered input.enterpriseId id maxModerationReplays choice.now =
            (true, (outbox.step state party choice).store) then 1
      else 0
  | _, _ => 0

/-- The reaper finds no lapsed lease of an event whose attempts are spent. -/
def NoSpentLease (state : OutboxState) (party : OutboxParty) (choice : OutboxChoice) : Prop :=
  party = .reaper → ∀ id event, state.store.events.get? id = some event →
    OutboundDb.leaseExpired choice.now event = true → event.attemptCount < event.maxAttempts

theorem parked_young {id : Nat} {state : OutboxState} {party : OutboxParty}
    {choice : OutboxChoice} (parked : parks id state party choice = 1) :
    ∃ event, state.store.events.get? id = some event ∧
      choice.now - outboundRateLimitMaxWaitMs < event.createdAt := by
  unfold parks at parked
  split at parked
  · split at parked
    · next claimed retryAt _ counted =>
        obtain ⟨rfl, updated⟩ := counted
        obtain ⟨event, found, _, young, _⟩ := OutboundDb.markRateLimited_parked updated
        exact ⟨event, found, of_decide_eq_true young⟩
    · contradiction
  · contradiction

/-! ### The budget of an event -/

/-- How often an event can still be claimed, if nothing pays anything back. -/
def OutboundEventRow.budget (event : OutboundEventRow) : Nat :=
  if event.status.isDue || event.status.isLeased then event.maxAttempts - event.attemptCount
  else 0

def budgetAt (id : Nat) (events : Table OutboundEventRow) : Nat :=
  events.measureAt OutboundEventRow.budget maxSendAttempts id

structure OutboundEventRow.InBudget (event : OutboundEventRow) : Prop where
  whole : event.maxAttempts = maxSendAttempts
  within : event.attemptCount ≤ event.maxAttempts
  due : event.status.isDue = true → event.attemptCount < event.maxAttempts

def EventsInBudget (db : OutboundDb) : Prop :=
  ∀ id event, db.events.get? id = some event → event.InBudget

section Changes

variable {event : OutboundEventRow}

theorem claimed_budget (sound : event.InBudget) (due : event.status.isDue = true)
    (leaseOwner leaseSeconds : Nat) (now : Int) :
    1 + (event.claimed leaseOwner leaseSeconds now).budget ≤ event.budget := by
  have left := sound.due due
  have before : event.budget = event.maxAttempts - event.attemptCount := by
    simp [OutboundEventRow.budget, due]
  have after : (event.claimed leaseOwner leaseSeconds now).budget =
      event.maxAttempts - (event.attemptCount + 1) := rfl
  omega

theorem budget_of_leased (leased : event.status.isLeased = true) :
    event.budget = event.maxAttempts - event.attemptCount := by
  simp [OutboundEventRow.budget, leased]

theorem markedFailed_budget (leased : event.status.isLeased = true) (nextAttemptAt : Option Int)
    (now : Int) : (event.markedFailed nextAttemptAt now).budget ≤ event.budget := by
  rw [budget_of_leased leased]
  unfold OutboundEventRow.budget
  split
  · exact Nat.le_refl _
  · exact Nat.zero_le _

/-- A park gives back the attempt it was about to spend. -/
theorem parked_budget (sound : event.InBudget) (leased : event.status.isLeased = true)
    (retryAt now : Int) : (event.parked retryAt now).budget ≤ event.budget + 1 := by
  have within := sound.within
  have after : (event.parked retryAt now).budget =
      event.maxAttempts - (event.attemptCount - 1) := rfl
  rw [budget_of_leased leased, after]
  omega

theorem reclaimed_budget (leased : event.status.isLeased = true) :
    event.reclaimed.budget = event.budget := by
  rw [budget_of_leased leased]
  rfl

theorem claimed_inBudget (sound : event.InBudget) (due : event.status.isDue = true)
    (leaseOwner leaseSeconds : Nat) (now : Int) :
    (event.claimed leaseOwner leaseSeconds now).InBudget :=
  ⟨sound.whole, sound.due due, fun isDue => absurd isDue Bool.false_ne_true⟩

theorem markedFailed_inBudget (sound : event.InBudget) (nextAttemptAt : Option Int) (now : Int) :
    (event.markedFailed nextAttemptAt now).InBudget := by
  refine ⟨sound.whole, sound.within, fun due => ?_⟩
  by_cases spent : event.maxAttempts ≤ event.attemptCount
  · simp [OutboundEventRow.markedFailed, spent, OutboundEventStatus.isDue] at due
  · exact Nat.lt_of_not_le spent

theorem parked_inBudget (sound : event.InBudget) (retryAt now : Int) :
    (event.parked retryAt now).InBudget := by
  have whole := sound.whole
  have within := sound.within
  refine ⟨whole, (Nat.sub_le _ _).trans within, fun _ => ?_⟩
  change event.attemptCount - 1 < event.maxAttempts
  rw [whole] at within ⊢
  unfold maxSendAttempts at within ⊢
  omega

theorem replayed_inBudget (sound : event.InBudget) (now : Int) :
    (event.replayed now).InBudget := by
  refine ⟨sound.whole, Nat.zero_le _, fun _ => ?_⟩
  change 0 < event.maxAttempts
  rw [sound.whole]
  exact Nat.zero_lt_succ 4

end Changes

/-! ### A step -/

theorem EventsInBudget.of_events {db after : OutboundDb} (sound : EventsInBudget db)
    (same : after.events = db.events) : EventsInBudget after := by
  intro id event found
  rw [same] at found
  exact sound id event found

theorem EventsInBudget.withEvent {db after : OutboundDb} {id : Nat}
    {change : OutboundEventRow → OutboundEventRow} (sound : EventsInBudget db)
    (written : after.events = (db.withEvent id change).events)
    (changed : ∀ event, db.events.get? id = some event → event.InBudget →
      (change event).InBudget) : EventsInBudget after := by
  intro other later found
  rw [written, OutboundDb.get?_withEvent] at found
  split at found
  · next same =>
      subst same
      obtain ⟨event, there, rfl⟩ := Option.map_eq_some_iff.mp found
      exact changed event there (sound id event there)
  · exact sound other later found

theorem EventsInBudget.insert {db after : OutboundDb} {input : EnqueueOutboundInput} {now : Int}
    (sound : EventsInBudget db) (written : after.events = db.events.insert (input.row now)) :
    EventsInBudget after := by
  intro id event found
  rw [written, Table.get?_insert] at found
  split at found
  · obtain rfl := Option.some.inj found
    exact ⟨rfl, Nat.zero_le _, fun _ => Nat.zero_lt_succ 4⟩
  · exact sound id event found

theorem done_inBudget {event later : OutboundEventRow} (sound : event.InBudget)
    (whole : later.maxAttempts = event.maxAttempts)
    (attempts : later.attemptCount = event.attemptCount) (done : later.status.isDue = false) :
    later.InBudget := by
  refine ⟨whole.trans sound.whole, ?_, fun due => absurd (done.symm.trans due) Bool.false_ne_true⟩
  rw [whole, attempts]
  exact sound.within

theorem done_budget {later : OutboundEventRow} (done : later.status.isDue = false)
    (unleased : later.status.isLeased = false) : later.budget = 0 := by
  simp [OutboundEventRow.budget, done, unleased]

theorem budgetAt_withEvent {db after : OutboundDb} {id : Nat}
    {change : OutboundEventRow → OutboundEventRow} (watched credit : Nat)
    (written : after.events = (db.withEvent id change).events)
    (paid : ∀ event, db.events.get? id = some event → id = watched →
      (change event).budget ≤ event.budget + credit) :
    budgetAt watched after.events ≤ budgetAt watched db.events + credit := by
  rw [written]
  exact Table.measureAt_update watched credit paid

theorem markRateLimited_of_young {db : OutboundDb} {id leaseOwner : Nat} {retryAt now : Int}
    {event : OutboundEventRow} (found : db.events.get? id = some event)
    (held : event.heldBy leaseOwner = true)
    (young : event.mayWait outboundRateLimitMaxWaitMs now = true) :
    db.markRateLimited id leaseOwner retryAt outboundRateLimitMaxWaitMs now =
      (.parked, db.withEvent id (·.parked retryAt now)) := by
  simp only [OutboundDb.markRateLimited, found, held, young, if_true]
  rfl

theorem leased_of_heldBy {db : OutboundDb} {id leaseOwner : Nat} {event : OutboundEventRow}
    (leases : LeasesHeld db) (found : db.events.get? id = some event)
    (held : event.heldBy leaseOwner = true) : event.status.isLeased = true := by
  refine leases id event found ?_
  rw [OutboundEventRow.heldBy_owner held]
  rfl

structure BudgetKept (db after : OutboundDb) (id credit : Nat) : Prop where
  sound : EventsInBudget after
  paid : budgetAt id after.events ≤ budgetAt id db.events + credit

theorem BudgetKept.of_events {db after : OutboundDb} {id credit : Nat}
    (sound : EventsInBudget db) (same : after.events = db.events) :
    BudgetKept db after id credit :=
  ⟨sound.of_events same, by rw [same]; exact Nat.le_add_right _ _⟩

theorem BudgetKept.done {db after : OutboundDb} {id other credit : Nat}
    {change : OutboundEventRow → OutboundEventRow} (sound : EventsInBudget db)
    (written : after.events = (db.withEvent other change).events)
    (done : ∀ event, (change event).status.isDue = false ∧
      (change event).status.isLeased = false ∧ (change event).maxAttempts = event.maxAttempts ∧
      (change event).attemptCount = event.attemptCount) : BudgetKept db after id credit := by
  refine ⟨sound.withEvent written fun event _ within => ?_,
    budgetAt_withEvent id credit written fun event _ _ => ?_⟩
  · exact done_inBudget within (done event).2.2.1 (done event).2.2.2 (done event).1
  · rw [done_budget (done event).1 (done event).2.1]
    exact Nat.zero_le _

theorem CallEffect.budget {now : Int} {db after : OutboundDb} {call : AgentCall} {id credit : Nat}
    (effect : CallEffect now db call after) (sound : EventsInBudget db)
    (replayed : ∀ input, call = .retryModeration input →
      db.requeueDeadLettered input.enterpriseId id maxModerationReplays now = (true, after) →
      maxSendAttempts ≤ credit) : BudgetKept db after id credit := by
  have inserted : ∀ input : EnqueueOutboundInput, after.events = db.events.insert (input.row now) →
      BudgetKept db after id credit := by
    intro input written
    have whole : (input.row now).budget ≤ maxSendAttempts := by
      unfold OutboundEventRow.budget
      split
      · exact Nat.le_refl _
      · exact Nat.zero_le _
    refine ⟨sound.insert written, ?_⟩
    rw [written]
    exact (Table.measureAt_insert whole id).trans (Nat.le_add_right _ _)
  cases effect with
  | refused | noted | collided => exact .of_events sound rfl
  | replied => exact inserted _ rfl
  | moderated => exact inserted _ rfl
  | replayed input message commentId dead found enterprise onPlatform newest requeued =>
      refine ⟨sound.withEvent rfl fun event _ within => replayed_inBudget within now,
        budgetAt_withEvent id credit rfl fun event found same => ?_⟩
      subst same
      have whole : (event.replayed now).budget ≤ maxSendAttempts := by
        have max := (sound _ event found).whole
        change event.maxAttempts - 0 ≤ _
        rw [max]
        exact Nat.le_refl _
      exact whole.trans ((replayed input rfl requeued).trans (Nat.le_add_left _ _))

theorem resolved_inBudget {event : OutboundEventRow} (within : event.InBudget)
    (outcome : ReadBackOutcome) (platformEventId : Option String) :
    (event.resolved outcome platformEventId).InBudget := by
  refine ⟨within.whole, within.within, fun due => within.due ?_⟩
  cases outcome with
  | landed => exact absurd due Bool.false_ne_true
  | lost | unknown => exact due

theorem resolved_budget (event : OutboundEventRow) (outcome : ReadBackOutcome)
    (platformEventId : Option String) :
    (event.resolved outcome platformEventId).budget ≤ event.budget := by
  cases outcome with
  | landed => exact Nat.zero_le _
  | lost | unknown => exact Nat.le_refl _

theorem expired_of_taken {db : OutboundDb} {limit : Nat} {now : Int} {skipped : List Nat}
    {id : Nat} {event : OutboundEventRow}
    (taken : (db.expiredIds limit now skipped).contains id = true)
    (found : db.events.get? id = some event) : OutboundDb.leaseExpired now event = true := by
  obtain ⟨stored, member, rfl⟩ := List.mem_map.mp (List.contains_iff_mem.mp taken)
  obtain ⟨there, expired⟩ :=
    Table.mem_select.mp (List.mem_of_mem_filter (List.mem_of_mem_take member))
  rw [found, Option.some.injEq] at there
  exact there ▸ expired

theorem recordedLanded_events (db : OutboundDb) (enterpriseId id : Nat)
    (platformId : Option String) (now : Int) :
    ((db.recordDelivery enterpriseId id platformId .sent now).toOption.getD db).events =
      db.events := by
  rcases db.recordDelivery_cases enterpriseId id platformId .sent now with same | recorded
  · rw [same]
  · rw [OutboundDb.recordDelivery_ok recorded]

theorem insertInbound_events (db : OutboundDb) (message : PlatformMessage) (now : Int) :
    (db.insertInbound message now).2.events = db.events := by
  unfold OutboundDb.insertInbound OutboundDb.insertPlatformMessage
  split <;> rfl

theorem insertRecovered_events (db : OutboundDb) (echo : PlatformMessage) (now : Int) :
    (DirectMessageProjector.insertRecovered echo now db).events = db.events := by
  unfold DirectMessageProjector.insertRecovered OutboundDb.insertRecoveredOutbound
    OutboundDb.insertPlatformMessage DirectMessageProjector.projected
  split <;> rfl

/-- Every step but a poll keeps the budgets, up to what it pays back. -/
theorem OutboxStep.budget {choice : OutboxChoice} {db after : OutboundDb} {party : OutboxParty}
    {task : Option OutboxTask} {next : List OutboxTask}
    (step : OutboxStep choice db party task after next) (sound : EventsInBudget db)
    (leases : LeasesHeld db) (id credit : Nat)
    (working : ∀ leaseOwner, party = .relay leaseOwner → task ≠ none)
    (unspent : party = .reaper → ∀ id event, db.events.get? id = some event →
      OutboundDb.leaseExpired choice.now event = true → event.attemptCount < event.maxAttempts)
    (parked : ∀ leaseOwner current event retryAt, party = .relay leaseOwner →
      task = some current → current.parking = some (event, retryAt) → event.id = id →
      db.markRateLimited event.id leaseOwner retryAt outboundRateLimitMaxWaitMs choice.now =
        (.parked, after) → 1 ≤ credit)
    (replayed : ∀ agent input, party = .agent agent → task = none →
      choice.call = .retryModeration input →
      db.requeueDeadLettered input.enterpriseId id maxModerationReplays choice.now =
        (true, after) → maxSendAttempts ≤ credit) :
    BudgetKept db after id credit := by
  cases step with
  | dropped | delivered | leaseHeld | incomplete | refused | accepted | refusedAfterwards | listed
  | reconciled | unaddressed | readBack | echoed | echoKnown | echoUnknown | echoClaimed
  | echoUnmatched => exact .of_events sound rfl
  | recordedSent | settledMessage =>
      exact .of_events sound (OutboundRelayWorker.recordDelivery_events ..)
  | recordedLanded run send platformEventId =>
      exact .of_events sound (recordedLanded_events ..)
  | commented projector message => exact .of_events sound (insertInbound_events ..)
  | echoInserted projector echo => exact .of_events sound (insertRecovered_events ..)
  | polled leaseOwner => exact absurd rfl (working leaseOwner rfl)
  | parked leaseOwner event retryAt row found held young =>
      refine ⟨sound.withEvent rfl fun event _ within => parked_inBudget within _ _,
        budgetAt_withEvent id credit rfl fun other there same => ?_⟩
      have paid := parked leaseOwner _ event retryAt rfl rfl rfl same
        (markRateLimited_of_young found held young)
      rw [found, Option.some.injEq] at there
      subst there
      have most := parked_budget (sound _ row found) (leased_of_heldBy leases found held) retryAt
        choice.now
      omega
  | throttled leaseOwner event retryAt row found held young =>
      refine ⟨sound.withEvent rfl fun event _ within => parked_inBudget within _ _,
        budgetAt_withEvent id credit rfl fun other there same => ?_⟩
      have paid := parked leaseOwner _ event retryAt rfl rfl rfl same
        (markRateLimited_of_young found held young)
      rw [found, Option.some.injEq] at there
      subst there
      have most := parked_budget (sound _ row found) (leased_of_heldBy leases found held) retryAt
        choice.now
      omega
  | parkedForGood | throttledForGood => exact .done sound rfl fun _ => ⟨rfl, rfl, rfl, rfl⟩
  | markedSent => exact .done sound rfl fun _ => ⟨rfl, rfl, rfl, rfl⟩
  | cancelled leaseOwner event ambiguous row found held =>
      exact .done sound (OutboundRelayWorker.recordDelivery_events ..)
        fun _ => ⟨rfl, rfl, rfl, rfl⟩
  | markedFailed leaseOwner event nextAttemptAt row found held =>
      refine ⟨sound.withEvent rfl fun event _ within => markedFailed_inBudget within _ _,
        budgetAt_withEvent id credit rfl fun other there same => ?_⟩
      rw [found, Option.some.injEq] at there
      subst there
      exact (markedFailed_budget (leased_of_heldBy leases found held) _ _).trans
        (Nat.le_add_right _ _)
  | reclaimed =>
      constructor
      · intro other later found
        rw [OutboundDb.get?_reclaimExpiredLeases] at found
        obtain ⟨event, there, rfl⟩ := Option.map_eq_some_iff.mp found
        have within := sound other event there
        split
        · next taken =>
            exact ⟨within.whole, within.within,
              fun _ => unspent rfl other event there (expired_of_taken taken there)⟩
        · exact within
      · unfold budgetAt Table.measureAt
        rw [OutboundDb.get?_reclaimExpiredLeases]
        cases found : db.events.get? id with
        | none => exact Nat.le_add_right _ _
        | some event =>
            rw [Option.map_some]
            dsimp only
            split
            · next taken =>
                rw [reclaimed_budget (OutboundDb.leased_of_expired taken found)]
                exact Nat.le_add_right _ _
            · exact Nat.le_add_right _ _
  | resolved run send outcome platformEventId row found unresolved =>
      refine ⟨sound.withEvent rfl fun event _ within => resolved_inBudget within _ _,
        budgetAt_withEvent id credit rfl fun event _ _ => ?_⟩
      exact (resolved_budget event outcome platformEventId).trans (Nat.le_add_right _ _)
  | called agent =>
      exact (apply_effect choice.call choice.now db).budget sound fun input asked =>
        replayed agent input rfl rfl asked

/-! ### A run -/

/-- The invariant of a run: leases show in the status, and budgets are kept. -/
structure BudgetStanding (state : OutboxState) : Prop where
  leases : Crew.Standing LeasesHeld LeaseReady state
  budgets : EventsInBudget state.store

def paidBack (id : Nat) (state : OutboxState) (party : OutboxParty) (choice : OutboxChoice) :
    Nat :=
  parks id state party choice + maxSendAttempts * replays id state party choice

theorem sum_handsOut (events : List ClaimedOutboundEvent) (id : Nat) :
    ((events.map fun event => OutboxTask.relay (.deliver event)).map
      (OutboxTask.handsOut id)).sum = (events.map (·.id)).count id := by
  induction events with
  | nil => rfl
  | cons event events ih =>
      simp only [List.map_cons, List.sum_cons, List.count_cons, OutboxTask.handsOut, ih]
      omega

theorem claimDueBatch_budget {db : OutboundDb} (sound : EventsInBudget db)
    (leaseOwner limit leaseSeconds : Nat) (now : Int) (skipped : List Nat) (id : Nat) :
    ((db.claimDueBatch leaseOwner limit leaseSeconds now skipped).1.map (·.id)).count id +
        budgetAt id (db.claimDueBatch leaseOwner limit leaseSeconds now skipped).2.events ≤
      budgetAt id db.events := by
  have ids : ((db.claimDueBatch leaseOwner limit leaseSeconds now skipped).1.map
      (·.id)).count id = ((db.dueRows limit now skipped).map (·.id)).count id := by
    unfold OutboundDb.claimDueBatch
    rw [List.map_map]
    exact ((List.perm_insertionSort workedBefore _).map _).count_eq id
  rw [ids]
  change ((db.events.pick (fun event => event.status.isDue && decide (event.dueAt ≤ now))
      claimedBefore limit skipped).map (·.id)).count id +
    (db.events.updatePicked (db.events.pick _ claimedBefore limit skipped)
      (·.claimed leaseOwner leaseSeconds now)).measureAt _ _ id ≤ _
  refine Table.measureAt_claimed fun event found wanted => ?_
  rw [Bool.and_eq_true] at wanted
  exact claimed_budget (sound id event found) wanted.1 leaseOwner leaseSeconds now

theorem claimDueBatch_inBudget {db : OutboundDb} (sound : EventsInBudget db)
    (leaseOwner limit leaseSeconds : Nat) (now : Int) (skipped : List Nat) :
    EventsInBudget (db.claimDueBatch leaseOwner limit leaseSeconds now skipped).2 := by
  intro id later found
  rw [OutboundDb.get?_claimDueBatch] at found
  obtain ⟨event, there, rfl⟩ := Option.map_eq_some_iff.mp found
  split
  · next taken =>
      exact claimed_inBudget (sound id event there) (OutboundDb.due_of_claimed taken there) _ _ _
  · exact sound id event there

theorem unhanded {state : OutboxState} {party : OutboxParty} {choice : OutboxChoice}
    (working : ∀ leaseOwner, party = .relay leaseOwner → state.left party ≠ []) (id : Nat) :
    handed id state party choice = 0 := by
  unfold handed Crew.given
  split
  · next queued =>
      have others : ∀ (db : OutboundDb) (tasks : List OutboxTask),
          (∀ task ∈ tasks, OutboxTask.handsOut id task = 0) →
          (((db, tasks) : OutboundDb × List OutboxTask).2.map (OutboxTask.handsOut id)).sum = 0 := by
        intro db tasks none_
        rw [List.sum_eq_zero_iff_forall_eq_nat]
        intro count member
        obtain ⟨task, there, rfl⟩ := List.mem_map.mp member
        exact none_ task there
      change ((startOutbox state.store party choice).2.map (OutboxTask.handsOut id)).sum = 0
      unfold startOutbox
      split
      · rfl
      · cases party with
        | relay leaseOwner => exact absurd queued (working leaseOwner rfl)
        | reaper => rfl
        | readBack run =>
            refine others _ _ fun task member => ?_
            obtain ⟨readBack, _, rfl⟩ := List.mem_map.mp member
            rfl
        | agent agent => rfl
        | projector projector =>
            dsimp only
            split
            · rfl
            · rfl
  · rfl

theorem polled_budget {state : OutboxState} {leaseOwner : Nat}
    (sound : EventsInBudget state.store) (queued : state.left (.relay leaseOwner) = [])
    (choice : OutboxChoice) (id : Nat) :
    EventsInBudget (outbox.step state (.relay leaseOwner) choice).store ∧
      handed id state (.relay leaseOwner) choice +
          budgetAt id (outbox.step state (.relay leaseOwner) choice).store.events ≤
        budgetAt id state.store.events := by
  have claimed := claimDueBatch_budget sound leaseOwner choice.batchSize
    choice.leaseSeconds choice.now choice.skipped id
  rw [← sum_handsOut] at claimed
  unfold handed Crew.given
  rw [queued, (outbox.step_start queued choice).1]
  change EventsInBudget (startOutbox state.store (.relay leaseOwner) choice).1 ∧
    ((startOutbox state.store (.relay leaseOwner) choice).2.map (OutboxTask.handsOut id)).sum +
      budgetAt id (startOutbox state.store (.relay leaseOwner) choice).1.events ≤ _
  unfold startOutbox
  split
  · exact ⟨sound, (Nat.zero_add _).le⟩
  · dsimp only
    unfold OutboundRelayWorker.pollOnce
    split
    · exact ⟨sound, (Nat.zero_add _).le⟩
    · refine ⟨claimDueBatch_inBudget sound _ _ _ _ _, ?_⟩
      simp only [List.map_map] at claimed ⊢
      exact claimed

theorem outbox_budget {state : OutboxState} {party : OutboxParty} {choice : OutboxChoice}
    (standing : BudgetStanding state) (permitted : NoSpentLease state party choice) (id : Nat) :
    EventsInBudget (outbox.step state party choice).store ∧
      handed id state party choice + budgetAt id (outbox.step state party choice).store.events ≤
        budgetAt id state.store.events + paidBack id state party choice := by
  by_cases polling : ∃ leaseOwner, party = .relay leaseOwner ∧ state.left party = []
  · obtain ⟨leaseOwner, rfl, queued⟩ := polling
    have polled := polled_budget standing.budgets queued choice id
    exact ⟨polled.1, polled.2.trans (Nat.le_add_right _ _)⟩
  · obtain ⟨next, step, _⟩ := outbox_step state party choice
    have working : ∀ leaseOwner, party = .relay leaseOwner → state.left party ≠ [] :=
      fun leaseOwner relay queued => polling ⟨leaseOwner, relay, queued⟩
    have kept : BudgetKept state.store (outbox.step state party choice).store id
        (paidBack id state party choice) := by
      refine step.budget standing.budgets standing.leases.store id _
        (fun leaseOwner relay head => working leaseOwner relay (List.head?_eq_none_iff.mp head))
        permitted ?_ ?_
      · rintro leaseOwner current event retryAt rfl head parking rfl parked
        have counted : parks event.id state (.relay leaseOwner) choice = 1 := by
          simp [parks, head, parking, parked]
        unfold paidBack
        omega
      · rintro agent input rfl head asked requeued
        have counted : replays id state (.agent agent) choice = 1 := by
          simp [replays, asked, List.head?_eq_none_iff.mp head, requeued]
        unfold paidBack
        rw [counted]
        omega
    refine ⟨kept.sound, ?_⟩
    rw [unhanded working, Nat.zero_add]
    exact kept.paid

theorem budgets_standing {state : OutboxState} {party : OutboxParty} {choice : OutboxChoice}
    (standing : BudgetStanding state) (permitted : NoSpentLease state party choice) :
    BudgetStanding (outbox.step state party choice) :=
  ⟨leases_standing standing.leases party choice, (outbox_budget standing permitted 0).1⟩

theorem budgetStanding_empty : BudgetStanding (Crew.idle .empty) := by
  constructor
  · refine .idle ?_
    intro id event found
    contradiction
  · intro id event found
    contradiction

/-- An event is handed out as often as its budget allows, and once more for each park, and
its whole budget again for each replay. -/
theorem events_budgeted {script : List (OutboxParty × OutboxChoice)}
    (permitted : outbox.Permits NoSpentLease (Crew.idle .empty) script) (id : Nat) :
    outbox.tally (handed id) (Crew.idle .empty) script +
        budgetAt id (outbox.after (Crew.idle .empty) script).store.events ≤
      maxSendAttempts + outbox.tally (parks id) (Crew.idle .empty) script +
        maxSendAttempts * outbox.tally (replays id) (Crew.idle .empty) script := by
  have paid := Crew.tally_le BudgetStanding (fun state => budgetAt id state.store.events)
    (fun _ _ _ => budgets_standing)
    (fun _ _ _ standing allowed => (outbox_budget standing allowed id).2)
    budgetStanding_empty permitted
  unfold paidBack at paid
  rw [Crew.tally_add, Crew.tally_mul] at paid
  have whole : budgetAt id (Crew.idle OutboundDb.empty : OutboxState).store.events =
      maxSendAttempts := rfl
  omega

theorem events_inBudget {script : List (OutboxParty × OutboxChoice)}
    (permitted : outbox.Permits NoSpentLease (Crew.idle .empty) script) :
    EventsInBudget (outbox.after (Crew.idle .empty) script).store :=
  (permitted.reaches.keeps BudgetStanding (fun _ _ _ => budgets_standing)
    budgetStanding_empty).budgets

theorem budget_pos_of_due {db : OutboundDb} (sound : EventsInBudget db) {id : Nat}
    {event : OutboundEventRow} (found : db.events.get? id = some event)
    (due : event.status.isDue = true) : 0 < budgetAt id db.events := by
  have left := (sound id event found).due due
  unfold budgetAt
  rw [Table.measureAt_some found, OutboundEventRow.budget, due, Bool.true_or, if_pos rfl]
  exact Nat.sub_pos_of_lt left

end UnifiedService.Outbound
