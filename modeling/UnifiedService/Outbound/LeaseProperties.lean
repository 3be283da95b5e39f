import UnifiedService.Outbound.LedgerProperties

/-! Leases: who may settle a row of the ledger, and that a settled row stays settled. -/

set_option autoImplicit false

namespace UnifiedService.Outbound

open UnifiedService.Library

def OutboundEventRow.fixed (row : OutboundEventRow) : EnqueueOutboundInput × Int × Nat :=
  (⟨row.enterpriseId, row.channelId, row.platform, row.eventType, row.recipientPlatformId,
    row.dedupKey, row.payload, row.scheduledAt, some row.priority⟩, row.createdAt, row.maxAttempts)

inductive LedgerMove (choice : OutboxChoice) (db after : OutboundDb) (id : Nat)
    (row : OutboundEventRow) : OutboxParty → Option OutboxTask → OutboundEventRow → Prop
  | stays (party : OutboxParty) (task : Option OutboxTask) :
      LedgerMove choice db after id row party task row
  | claimed (leaseOwner : Nat) (due : row.status.isDue = true) :
      LedgerMove choice db after id row (.relay leaseOwner) none
        (row.claimed leaseOwner choice.leaseSeconds choice.now)
  | settled (leaseOwner : Nat) (task : RelayTask) (later : OutboundEventRow)
      (about : task.event.id = id) (held : row.leaseOwner = some leaseOwner)
      (released : later.leaseOwner = none) (same : later.fixed = row.fixed) :
      LedgerMove choice db after id row (.relay leaseOwner) (some (.relay task)) later
  | reclaimed (leased : row.status.isLeased = true) :
      LedgerMove choice db after id row .reaper none row.reclaimed
  | resolved (run : Nat) (send : AmbiguousSend) (outcome : ReadBackOutcome)
      (platformEventId : Option String) (about : send.id = id)
      (unresolved : row.metadata.readBack = none) :
      LedgerMove choice db after id row (.readBack run)
        (some (.readBack (.resolve send outcome platformEventId)))
        (row.resolved outcome platformEventId)
  | replayed (agent : Nat) (input : ModerationInput)
      (asked : choice.call = .retryModeration input) (dead : row.status = .deadLetter)
      (requeued : db.requeueDeadLettered input.enterpriseId id maxModerationReplays choice.now =
        (true, after)) :
      LedgerMove choice db after id row (.agent agent) none (row.replayed choice.now)

theorem OutboundEventRow.heldBy_owner {row : OutboundEventRow} {leaseOwner : Nat}
    (held : row.heldBy leaseOwner = true) : row.leaseOwner = some leaseOwner := by
  simp only [OutboundEventRow.heldBy, Bool.and_eq_true, beq_iff_eq] at held
  exact held.1

theorem held_ledgerMove {choice : OutboxChoice} {db after : OutboundDb} {leaseOwner id : Nat}
    {row settled : OutboundEventRow} (task : RelayTask)
    (change : OutboundEventRow → OutboundEventRow)
    (settledRow : db.events.get? task.event.id = some settled)
    (held : settled.leaseOwner = some leaseOwner)
    (released : (change settled).leaseOwner = none)
    (kept : (change settled).fixed = settled.fixed) (found : db.events.get? id = some row)
    (written : after.events = (db.withEvent task.event.id change).events) :
    ∃ later, after.events.get? id = some later ∧
      LedgerMove choice db after id row (.relay leaseOwner) (some (.relay task)) later := by
  rw [written, OutboundDb.get?_withEvent]
  by_cases same : task.event.id = id
  · subst same
    rw [settledRow, Option.some.injEq] at found
    subst found
    rw [if_pos rfl, settledRow]
    exact ⟨_, rfl, .settled leaseOwner task _ rfl held released kept⟩
  · rw [if_neg same]
    exact ⟨row, found, .stays _ _⟩

theorem CallEffect.ledgerMove {choice : OutboxChoice} {db after : OutboundDb} {agent id : Nat}
    {row : OutboundEventRow} (effect : CallEffect choice.now db choice.call after)
    (found : db.events.get? id = some row) :
    ∃ later, after.events.get? id = some later ∧
      LedgerMove choice db after id row (.agent agent) none later := by
  generalize asked : choice.call = call at effect
  cases effect with
  | refused | noted | collided => exact ⟨row, found, .stays _ _⟩
  | replied | moderated => exact ⟨row, Table.get?_insert_of_some _ found, .stays _ _⟩
  | replayed input message commentId dead there enterprise onPlatform newest requeued =>
      rw [OutboundDb.get?_withEvent]
      by_cases same : dead.id = id
      · subst same
        obtain ⟨deadRow, isDead, _⟩ := OutboundDb.findDeadModerationEvent_some newest
        rw [found, Option.some.injEq] at deadRow
        rw [if_pos rfl, found]
        exact ⟨_, rfl, .replayed agent input asked (deadRow ▸ isDead) requeued⟩
      · rw [if_neg same]
        exact ⟨row, found, .stays _ _⟩

theorem OutboxStep.ledgerMove {choice : OutboxChoice} {db after : OutboundDb}
    {party : OutboxParty} {task : Option OutboxTask} {next : List OutboxTask}
    (step : OutboxStep choice db party task after next) {id : Nat} {row : OutboundEventRow}
    (found : db.events.get? id = some row) :
    ∃ later, after.events.get? id = some later ∧
      LedgerMove choice db after id row party task later := by
  cases step with
  | dropped | delivered | leaseHeld | incomplete | refused | accepted | refusedAfterwards | listed
  | reconciled | unaddressed | readBack | echoed | echoKnown | echoUnknown | echoClaimed
  | echoUnmatched => exact ⟨row, found, .stays _ _⟩
  | recordedSent | settledMessage =>
      rw [OutboundRelayWorker.recordDelivery_events]
      exact ⟨row, found, .stays _ _⟩
  | polled leaseOwner =>
      rw [OutboundDb.get?_claimDueBatch, found, Option.map_some]
      split
      · next taken =>
          exact ⟨_, rfl, .claimed leaseOwner (OutboundDb.due_of_claimed taken found)⟩
      · exact ⟨row, rfl, .stays _ _⟩
  | parked leaseOwner event retryAt settled settledRow held young =>
      exact held_ledgerMove (.park event retryAt) _ settledRow
        (OutboundEventRow.heldBy_owner held) rfl rfl found rfl
  | parkedForGood leaseOwner event retryAt settled settledRow held old =>
      exact held_ledgerMove (.park event retryAt) _ settledRow
        (OutboundEventRow.heldBy_owner held) rfl rfl found rfl
  | markedSent leaseOwner event platformId settled settledRow held =>
      exact held_ledgerMove (.markSent event platformId) _ settledRow held rfl rfl found rfl
  | cancelled leaseOwner event ambiguous settled settledRow held =>
      refine held_ledgerMove (.settleAsFailed event ambiguous) (·.cancelled ambiguous choice.now) settledRow
        (OutboundEventRow.heldBy_owner held) rfl rfl found ?_
      exact OutboundRelayWorker.recordDelivery_events ..
  | markedFailed leaseOwner event nextAttemptAt settled settledRow held =>
      exact held_ledgerMove (.markFailed event nextAttemptAt) _ settledRow
        (OutboundEventRow.heldBy_owner held) rfl rfl found rfl
  | throttled leaseOwner event retryAt settled settledRow held young =>
      exact held_ledgerMove (.markRateLimited event retryAt) _ settledRow
        (OutboundEventRow.heldBy_owner held) rfl rfl found rfl
  | throttledForGood leaseOwner event retryAt settled settledRow held old =>
      exact held_ledgerMove (.markRateLimited event retryAt) _ settledRow
        (OutboundEventRow.heldBy_owner held) rfl rfl found rfl
  | reclaimed =>
      rw [OutboundDb.get?_reclaimExpiredLeases, found, Option.map_some]
      split
      · next taken => exact ⟨_, rfl, .reclaimed (OutboundDb.leased_of_expired taken found)⟩
      · exact ⟨row, rfl, .stays _ _⟩
  | resolved run send outcome platformEventId resolved resolvedRow unresolved =>
      rw [OutboundDb.get?_withEvent]
      by_cases same : send.id = id
      · subst same
        rw [resolvedRow, Option.some.injEq] at found
        subst found
        rw [if_pos rfl, resolvedRow]
        exact ⟨_, rfl, .resolved run send outcome platformEventId rfl unresolved⟩
      · rw [if_neg same]
        exact ⟨row, found, .stays _ _⟩
  | recordedLanded run send platformEventId =>
      refine ⟨row, ?_, .stays _ _⟩
      rcases db.recordDelivery_cases send.enterpriseId send.id platformEventId .sent choice.now
        with same | recorded
      · rwa [same]
      · rwa [OutboundDb.recordDelivery_ok recorded]
  | called agent => exact (apply_effect choice.call choice.now db).ledgerMove found
  | commented projector message =>
      refine ⟨row, ?_, .stays _ _⟩
      unfold OutboundDb.insertInbound OutboundDb.insertPlatformMessage
      split <;> exact found
  | echoInserted projector echo =>
      refine ⟨row, ?_, .stays _ _⟩
      unfold DirectMessageProjector.insertRecovered OutboundDb.insertRecoveredOutbound
        OutboundDb.insertPlatformMessage DirectMessageProjector.projected
      split <;> exact found

theorem OutboxStep.enqueued {choice : OutboxChoice} {db after : OutboundDb}
    {party : OutboxParty} {task : Option OutboxTask} {next : List OutboxTask}
    (step : OutboxStep choice db party task after next) {id : Nat} {later : OutboundEventRow}
    (absent : db.events.get? id = none) (found : after.events.get? id = some later) :
    ∃ input : EnqueueOutboundInput, later = input.row choice.now := by
  have unchanged : after.events.get? id = db.events.get? id →
      ∃ input : EnqueueOutboundInput, later = input.row choice.now := by
    intro same
    rw [same, absent] at found
    contradiction
  have oneRow : ∀ other change, after.events = (db.withEvent other change).events →
      ∃ input : EnqueueOutboundInput, later = input.row choice.now := by
    intro other change written
    rw [written, OutboundDb.get?_withEvent, absent] at found
    split at found <;> simp at found
  cases step with
  | dropped | delivered | leaseHeld | incomplete | refused | accepted | refusedAfterwards | listed
  | reconciled | unaddressed | readBack | echoed | echoKnown | echoUnknown | echoClaimed
  | echoUnmatched => exact unchanged rfl
  | recordedSent | settledMessage =>
      exact unchanged (by rw [OutboundRelayWorker.recordDelivery_events])
  | polled =>
      rw [OutboundDb.get?_claimDueBatch, absent] at found
      contradiction
  | reclaimed =>
      rw [OutboundDb.get?_reclaimExpiredLeases, absent] at found
      contradiction
  | parked | parkedForGood | markedSent | markedFailed | throttled | throttledForGood
  | resolved => exact oneRow _ _ rfl
  | cancelled => exact oneRow _ _ (OutboundRelayWorker.recordDelivery_events ..)
  | recordedLanded run send platformEventId =>
      rcases db.recordDelivery_cases send.enterpriseId send.id platformEventId .sent choice.now
        with same | recorded
      · exact unchanged (by rw [same])
      · exact unchanged (by rw [OutboundDb.recordDelivery_ok recorded])
  | commented =>
      refine unchanged ?_
      unfold OutboundDb.insertInbound OutboundDb.insertPlatformMessage
      split <;> rfl
  | echoInserted =>
      refine unchanged ?_
      unfold DirectMessageProjector.insertRecovered OutboundDb.insertRecoveredOutbound
        OutboundDb.insertPlatformMessage DirectMessageProjector.projected
      split <;> rfl
  | called =>
      have effect := apply_effect choice.call choice.now db
      generalize choice.call = call at effect found
      generalize applied : call.apply choice.now db = written at effect found
      cases effect with
      | refused | noted | collided =>
          rw [absent] at found
          contradiction
      | replied input =>
          rw [Table.get?_insert, absent] at found
          split at found
          · exact ⟨_, (Option.some.inj found).symm⟩
          · contradiction
      | moderated input =>
          rw [Table.get?_insert, absent] at found
          split at found
          · exact ⟨_, (Option.some.inj found).symm⟩
          · contradiction
      | replayed =>
          rw [OutboundDb.get?_withEvent, absent] at found
          split at found <;> simp at found

/-! ### Invariants -/

def LeasesHeld (db : OutboundDb) : Prop :=
  ∀ id row, db.events.get? id = some row → row.leaseOwner.isSome = true →
    row.status.isLeased = true

def OutboundEventRow.readBackOpen (row : OutboundEventRow) : Prop :=
  row.status = .cancelled ∨ row.status = .sent ∧ row.metadata.readBack.isSome = true

/-- A comment with the text of a send, posted close to its attempt, was listed for it. -/
def FoundLanded (db : OutboundDb) (send : AmbiguousSend) (platformEventId : Option String) :
    Prop :=
  ∃ candidates sentText found, (send.id, candidates) ∈ db.platform.listed ∧
    found ∈ candidates ∧
    SendReconciliationService.isMatch sentText send.lastErrorAt found = true ∧
    platformEventId = some found.platformId

structure ReadBackReady (db : OutboundDb) (task : ReadBackTask) : Prop where
  row : ∃ row, db.events.get? task.send.id = some row ∧ row.readBackOpen
  landed : ∀ send platformEventId, task = .resolve send .landed platformEventId →
    FoundLanded db send platformEventId

def LeaseReady (db : OutboundDb) (_ : OutboxParty) : OutboxTask → Prop
  | .readBack task => ReadBackReady db task
  | .relay _ | .project _ => True

structure MoveReady (row : OutboundEventRow) (id : Nat) (task : Option OutboxTask) : Prop where
  leased : row.leaseOwner.isSome = true → row.status.isLeased = true
  opened : ∀ task', task = some (.readBack task') → task'.send.id = id → row.readBackOpen

theorem OutboundEventRow.readBackOpen.unowned {row : OutboundEventRow}
    (isOpen : row.readBackOpen)
    (leased : row.leaseOwner.isSome = true → row.status.isLeased = true) :
    row.leaseOwner = none := by
  cases owner : row.leaseOwner with
  | none => rfl
  | some leaseOwner =>
      have isLeased := leased (by rw [owner]; rfl)
      rcases isOpen with cancelled | ⟨sent, _⟩
      · simp [cancelled, OutboundEventStatus.isLeased] at isLeased
      · simp [sent, OutboundEventStatus.isLeased] at isLeased

section Moves

variable {choice : OutboxChoice} {db after : OutboundDb} {id : Nat}
  {row later : OutboundEventRow} {party : OutboxParty} {task : Option OutboxTask}

theorem LedgerMove.fixed (move : LedgerMove choice db after id row party task later) :
    later.fixed = row.fixed := by
  cases move with
  | settled _ _ _ _ _ _ same => exact same
  | stays | claimed | reclaimed | resolved | replayed => rfl

theorem LedgerMove.sent (move : LedgerMove choice db after id row party task later)
    (leased : row.leaseOwner.isSome = true → row.status.isLeased = true)
    (sent : row.status = .sent) : later.status = .sent := by
  cases move with
  | stays => exact sent
  | claimed _ due => simp [sent, OutboundEventStatus.isDue] at due
  | settled _ _ _ _ held _ _ =>
      have isLeased := leased (by rw [held]; rfl)
      simp [sent, OutboundEventStatus.isLeased] at isLeased
  | reclaimed isLeased => simp [sent, OutboundEventStatus.isLeased] at isLeased
  | resolved => simp [OutboundEventRow.resolved, sent]
  | replayed _ _ _ dead => simp [sent] at dead

theorem LedgerMove.deadLetter (move : LedgerMove choice db after id row party task later)
    (prepared : MoveReady row id task) (dead : row.status = .deadLetter) :
    later.status = .deadLetter ∨ ∃ input, choice.call = .retryModeration input := by
  cases move with
  | stays => exact .inl dead
  | claimed _ due => simp [dead, OutboundEventStatus.isDue] at due
  | settled _ _ _ _ held _ _ =>
      have isLeased := prepared.leased (by rw [held]; rfl)
      simp [dead, OutboundEventStatus.isLeased] at isLeased
  | reclaimed isLeased => simp [dead, OutboundEventStatus.isLeased] at isLeased
  | resolved run send outcome platformEventId about =>
      rcases prepared.opened _ rfl about with cancelled | ⟨sent, _⟩
      · simp [dead] at cancelled
      · simp [dead] at sent
  | replayed _ input asked => exact .inr ⟨input, asked⟩

theorem LedgerMove.leasesHeld (move : LedgerMove choice db after id row party task later)
    (prepared : MoveReady row id task) (owned : later.leaseOwner.isSome = true) :
    later.status.isLeased = true := by
  cases move with
  | stays => exact prepared.leased owned
  | claimed => rfl
  | settled _ _ _ _ _ released _ => simp [released] at owned
  | reclaimed => simp [OutboundEventRow.reclaimed, OutboundEventRow.released] at owned
  | resolved run send outcome platformEventId about unresolved =>
      have unowned := (prepared.opened _ rfl about).unowned prepared.leased
      simp [OutboundEventRow.resolved, unowned] at owned
  | replayed => simp [OutboundEventRow.replayed, OutboundEventRow.released] at owned

/-- A row that nobody holds and that is not due moves only by a read-back or a replay. -/
theorem LedgerMove.readBackOpen (move : LedgerMove choice db after id row party task later)
    (leased : row.leaseOwner.isSome = true → row.status.isLeased = true)
    (isOpen : row.readBackOpen) : later.readBackOpen := by
  have unowned := isOpen.unowned leased
  cases move with
  | stays => exact isOpen
  | claimed _ due =>
      rcases isOpen with cancelled | ⟨sent, _⟩
      · simp [cancelled, OutboundEventStatus.isDue] at due
      · simp [sent, OutboundEventStatus.isDue] at due
  | settled _ _ _ _ held _ _ => simp [unowned] at held
  | reclaimed isLeased =>
      rcases isOpen with cancelled | ⟨sent, _⟩
      · simp [cancelled, OutboundEventStatus.isLeased] at isLeased
      · simp [sent, OutboundEventStatus.isLeased] at isLeased
  | resolved run send outcome platformEventId about unresolved =>
      rcases isOpen with cancelled | ⟨_, read⟩
      · by_cases landed : outcome = .landed
        · exact .inr ⟨by simp [OutboundEventRow.resolved, landed], rfl⟩
        · exact .inl (by simp [OutboundEventRow.resolved, landed, cancelled])
      · simp [unresolved] at read
  | replayed agent input asked dead =>
      rcases isOpen with cancelled | ⟨sent, _⟩
      · simp [cancelled] at dead
      · simp [sent] at dead

end Moves

section Steps

variable {choice : OutboxChoice} {db after : OutboundDb} {party : OutboxParty}
  {task : Option OutboxTask} {next : List OutboxTask}

theorem OutboxStep.listed_kept (step : OutboxStep choice db party task after next) :
    db.platform.listed ⊆ after.platform.listed := by
  intro entry member
  cases step with
  | dropped | polled | delivered | parked | parkedForGood | leaseHeld | incomplete | refused
  | accepted | refusedAfterwards | markedSent | markedFailed | throttled | throttledForGood
  | reclaimed | listed | reconciled | unaddressed | resolved | echoed | echoKnown | echoUnknown
  | echoClaimed | echoUnmatched => exact member
  | readBack => exact List.mem_append_left _ member
  | cancelled | recordedSent | settledMessage =>
      rwa [OutboundRelayWorker.recordDelivery_platform]
  | recordedLanded run send platformEventId =>
      rcases db.recordDelivery_cases send.enterpriseId send.id platformEventId .sent choice.now
        with same | recorded
      · rwa [same]
      · rwa [OutboundDb.recordDelivery_ok recorded]
  | commented =>
      unfold OutboundDb.insertInbound OutboundDb.insertPlatformMessage
      split <;> exact member
  | echoInserted =>
      unfold DirectMessageProjector.insertRecovered OutboundDb.insertRecoveredOutbound
        OutboundDb.insertPlatformMessage DirectMessageProjector.projected
      split <;> exact member
  | called =>
      have effect := apply_effect choice.call choice.now db
      generalize choice.call = call at effect
      generalize call.apply choice.now db = written at effect
      cases effect <;> exact member

theorem LeaseReady.opened (ready : ∀ current, task = some current → LeaseReady db party current)
    {id : Nat} {row : OutboundEventRow} (found : db.events.get? id = some row)
    (held : LeasesHeld db) : MoveReady row id task where
  leased := held id row found
  opened := by
    rintro current rfl rfl
    obtain ⟨stored, there, isOpen⟩ := (ready _ rfl).row
    rw [found, Option.some.injEq] at there
    exact there ▸ isOpen

theorem OutboxStep.leasesHeld (step : OutboxStep choice db party task after next)
    (held : LeasesHeld db)
    (ready : ∀ current, task = some current → LeaseReady db party current) :
    LeasesHeld after := by
  intro id later found owned
  cases before : db.events.get? id with
  | none =>
      obtain ⟨input, rfl⟩ := step.enqueued before found
      simp [EnqueueOutboundInput.row] at owned
  | some row =>
      obtain ⟨moved, there, move⟩ := step.ledgerMove before
      rw [found, Option.some.injEq] at there
      subst there
      exact move.leasesHeld (LeaseReady.opened ready before held) owned

theorem OutboxStep.leaseReady_kept (step : OutboxStep choice db party task after next)
    (held : LeasesHeld db) {other : OutboxParty} {waiting : OutboxTask}
    (ready : LeaseReady db other waiting) : LeaseReady after other waiting := by
  cases waiting with
  | relay | project => trivial
  | readBack waiting =>
      obtain ⟨⟨row, found, isOpen⟩, landed⟩ := ready
      obtain ⟨later, there, move⟩ := step.ledgerMove found
      refine ⟨⟨later, there, move.readBackOpen (held _ _ found) isOpen⟩, fun send id same => ?_⟩
      obtain ⟨candidates, sentText, comment, listed, rest⟩ := landed send id same
      exact ⟨candidates, sentText, comment, step.listed_kept listed, rest⟩

theorem OutboxStep.leaseReady_next (step : OutboxStep choice db party task after next)
    (held : LeasesHeld db)
    (ready : ∀ current, task = some current → LeaseReady db party current) :
    ∀ waiting ∈ next, LeaseReady after party waiting := by
  have row : ∀ current send, task = some (.readBack current) → current.send = send →
      ∃ later, after.events.get? send.id = some later ∧ later.readBackOpen := by
    rintro current send same rfl
    obtain ⟨row, found, isOpen⟩ := (ready _ same).row
    obtain ⟨later, there, move⟩ := step.ledgerMove found
    exact ⟨later, there, move.readBackOpen (held _ _ found) isOpen⟩
  intro waiting member
  cases waiting with
  | relay | project => trivial
  | readBack waiting =>
      cases step with
      | listed run =>
          obtain ⟨entry, listed, same⟩ := List.mem_map.mp member
          obtain ⟨send, ambiguous, rfl⟩ := List.mem_map.mp listed
          obtain rfl := OutboxTask.readBack.inj same
          obtain ⟨row, found, made⟩ := OutboundDb.mem_listAmbiguousAwaitingReadBack ambiguous
          exact ⟨⟨row, found, .inl (OutboundDb.ambiguousSend_some made).1⟩, by simp⟩
      | reconciled run send =>
          obtain rfl := OutboxTask.readBack.inj (List.mem_singleton.mp member)
          rcases SendReconciliationService.reconcileOne_cases send choice.toReadBackChoice with
            unknown | ⟨sentText, _, asks⟩
          · rw [unknown]
            exact ⟨row _ send rfl rfl, by simp⟩
          · rw [asks]
            exact ⟨row _ send rfl rfl, by simp⟩
      | unaddressed run send sentText =>
          obtain rfl := OutboxTask.readBack.inj (List.mem_singleton.mp member)
          exact ⟨row _ send rfl rfl, by simp⟩
      | readBack run send sentText candidates answered =>
          obtain rfl := OutboxTask.readBack.inj (List.mem_singleton.mp member)
          split
          · next found matched =>
              obtain ⟨isCandidate, fits⟩ := SendReconciliationService.findMatch_some matched
              refine ⟨row _ send rfl rfl, fun other id same => ?_⟩
              obtain ⟨rfl, -, rfl⟩ := ReadBackTask.resolve.inj same
              exact ⟨candidates, sentText, found, by simp, isCandidate, fits, rfl⟩
          · exact ⟨row _ send rfl rfl, by simp⟩
      | resolved run send outcome platformEventId stored found unresolved =>
          split at member
          · obtain rfl := OutboxTask.readBack.inj (List.mem_singleton.mp member)
            exact ⟨row _ send rfl rfl, by simp⟩
          · exact absurd member List.not_mem_nil
      | _ => simp at member

end Steps

theorem outbox_step (state : OutboxState) (party : OutboxParty) (choice : OutboxChoice) :
    ∃ next, OutboxStep choice state.store party (state.left party).head?
        (outbox.step state party choice).store next ∧
      (outbox.step state party choice).left party = next ++ (state.left party).tail := by
  cases queued : state.left party with
  | nil =>
      obtain ⟨written, added⟩ := outbox.step_start queued choice
      rw [written, added]
      exact ⟨_, outbox_start choice state.store party, (List.append_nil _).symm⟩
  | cons task rest =>
      obtain ⟨written, added⟩ := outbox.step_run queued choice
      rw [written, added]
      exact ⟨_, outbox_run choice state.store party task, rfl⟩

theorem leases_standing {state : OutboxState}
    (standing : Crew.Standing LeasesHeld LeaseReady state) (party : OutboxParty)
    (choice : OutboxChoice) :
    Crew.Standing LeasesHeld LeaseReady (outbox.step state party choice) := by
  refine standing.step (fun _ => ?_) fun task rest queued ready => ?_
  · have step := outbox_start choice state.store party
    exact ⟨step.leasesHeld standing.store (by simp),
      step.leaseReady_next standing.store (by simp),
      fun other waiting _ => step.leaseReady_kept standing.store⟩
  · have step := outbox_run choice state.store party task
    have prepared : ∀ current, some task = some current →
        LeaseReady state.store party current := by
      rintro current ⟨⟩
      exact ready
    exact ⟨step.leasesHeld standing.store prepared, step.leaseReady_next standing.store prepared,
      fun other waiting => step.leaseReady_kept standing.store⟩

/-! ### Settled rows -/

structure KeepsSettled (before : OutboxState) (party : OutboxParty) (choice : OutboxChoice)
    (id : Nat) (row later : OutboundEventRow) : Prop where
  sent : row.status = .sent → later.status = .sent
  deadLetter : row.status = .deadLetter → later.status ≠ .deadLetter →
    ∃ agent input, party = .agent agent ∧ choice.call = .retryModeration input ∧
      before.left party = [] ∧
      before.store.requeueDeadLettered input.enterpriseId id maxModerationReplays choice.now =
        (true, (outbox.step before party choice).store)
  cancelled : row.status = .cancelled → later.status ≠ .cancelled →
    later.status = .sent ∧ ∃ run send platformEventId rest, party = .readBack run ∧
      before.left party = .readBack (.resolve send .landed platformEventId) :: rest ∧
      send.id = id ∧ FoundLanded before.store send platformEventId
  sending : row.status = .sending → later.status ≠ .sending →
    ∀ leaseOwner, party = .relay leaseOwner → row.leaseOwner = some leaseOwner

theorem keeps_settled {before : OutboxState}
    (standing : Crew.Standing LeasesHeld LeaseReady before) (party : OutboxParty)
    (choice : OutboxChoice) {id : Nat} {row : OutboundEventRow}
    (found : before.store.events.get? id = some row) :
    ∃ later, (outbox.step before party choice).store.events.get? id = some later ∧
      KeepsSettled before party choice id row later := by
  obtain ⟨next, step, _⟩ := outbox_step before party choice
  obtain ⟨later, there, move⟩ := step.ledgerMove found
  refine ⟨later, there, ?_⟩
  have leased := standing.store id row found
  generalize head : (before.left party).head? = task at move
  cases move with
  | stays =>
      exact ⟨fun sent => sent, fun dead left => absurd dead left,
        fun cancelled left => absurd cancelled left, fun sending left => absurd sending left⟩
  | claimed leaseOwner due =>
      constructor <;> intro status <;> simp [status, OutboundEventStatus.isDue] at due
  | settled leaseOwner task later about held released same =>
      have isLeased := leased (by rw [held]; rfl)
      constructor
      · intro sent
        simp [sent, OutboundEventStatus.isLeased] at isLeased
      · intro dead
        simp [dead, OutboundEventStatus.isLeased] at isLeased
      · intro cancelled
        simp [cancelled, OutboundEventStatus.isLeased] at isLeased
      · rintro _ _ other same
        obtain rfl := OutboxParty.relay.inj same
        exact held
  | reclaimed isLeased =>
      constructor
      · intro sent
        simp [sent, OutboundEventStatus.isLeased] at isLeased
      · intro dead
        simp [dead, OutboundEventStatus.isLeased] at isLeased
      · intro cancelled
        simp [cancelled, OutboundEventStatus.isLeased] at isLeased
      · intro _ _ other same
        contradiction
  | resolved run send outcome platformEventId about unresolved =>
      obtain ⟨rest, queued⟩ := List.head?_eq_some_iff.mp head
      have ready : ReadBackReady before.store (.resolve send outcome platformEventId) :=
        standing.tasks (.readBack run) (.readBack (.resolve send outcome platformEventId))
          (by rw [queued]; exact List.mem_cons_self)
      constructor
      · intro sent
        simp [OutboundEventRow.resolved, sent]
      · intro dead
        obtain ⟨stored, sendRow, isOpen⟩ := ready.row
        rw [show (ReadBackTask.resolve send outcome platformEventId).send.id = id from about,
          found, Option.some.injEq] at sendRow
        subst sendRow
        rcases isOpen with cancelled | ⟨sent, _⟩
        · simp [dead] at cancelled
        · simp [dead] at sent
      · intro cancelled left
        have landed : outcome = .landed := by
          by_contra other
          exact left (by simp [OutboundEventRow.resolved, other, cancelled])
        subst landed
        exact ⟨by simp [OutboundEventRow.resolved], run, send, platformEventId, rest, rfl, queued,
          about, ready.landed send platformEventId rfl⟩
      · intro _ _ other same
        contradiction
  | replayed agent input asked dead requeued =>
      constructor
      · intro sent
        simp [dead] at sent
      · intro _ _
        exact ⟨agent, input, rfl, asked, List.head?_eq_none_iff.mp head, requeued⟩
      · intro cancelled
        simp [dead] at cancelled
      · intro sending
        simp [dead] at sending

/-! ### A lease that was lost -/

/-- A worker may have steps to do for a row it does not hold, but none that writes down an
outcome of its own. -/
structure Lost (leaseOwner id : Nat) (state : OutboxState) : Prop where
  unheld : ∀ row, state.store.events.get? id = some row → row.leaseOwner ≠ some leaseOwner
  unsettled : ∀ task, .relay task ∈ state.left (.relay leaseOwner) → task.event.id = id →
    task.isRecord = false

/-- Everybody may step, but this worker does not poll again. -/
def UntilPoll (leaseOwner : Nat) (state : OutboxState) (party : OutboxParty)
    (_ : OutboxChoice) : Prop :=
  party = .relay leaseOwner → state.left party ≠ []

section Steps

variable {choice : OutboxChoice} {db after : OutboundDb} {leaseOwner : Nat} {task : RelayTask}
  {next : List OutboxTask}

theorem OutboxStep.sameEvent
    (step : OutboxStep choice db (.relay leaseOwner) (some (.relay task)) after next) :
    ∀ later, .relay later ∈ next → later.event = task.event := by
  intro later member
  cases step with
  | delivered =>
      obtain rfl := OutboxTask.relay.inj (List.mem_singleton.mp member)
      exact OutboundRelayWorker.deliver_event ..
  | incomplete | refused | refusedAfterwards =>
      obtain rfl := OutboxTask.relay.inj (List.mem_singleton.mp member)
      exact OutboundRelayWorker.handleSendFailure_event ..
  | leaseHeld | accepted | markedSent | throttledForGood =>
      obtain rfl := OutboxTask.relay.inj (List.mem_singleton.mp member)
      rfl
  | markedFailed =>
      split at member
      · obtain rfl := OutboxTask.relay.inj (List.mem_singleton.mp member)
        rfl
      · exact absurd member List.not_mem_nil
  | dropped | parked | parkedForGood | cancelled | throttled | recordedSent | settledMessage =>
      exact absurd member List.not_mem_nil

/-- A worker that does not hold a row changes neither the ledger nor the inbox when it goes
on with it, unless it only writes down an outcome, and has nothing to write down after. -/
theorem OutboxStep.unheld
    (step : OutboxStep choice db (.relay leaseOwner) (some (.relay task)) after next)
    (unheld : ∀ row, db.events.get? task.event.id = some row →
      row.leaseOwner ≠ some leaseOwner)
    (unsettled : task.isRecord = false) :
    after.events = db.events ∧ after.messages = db.messages ∧
      ∀ later, .relay later ∈ next → later.isRecord = false := by
  cases step with
  | parked _ _ _ row found held | parkedForGood _ _ _ row found held
  | cancelled _ _ _ row found held | markedFailed _ _ _ row found held
  | throttled _ _ _ row found held | throttledForGood _ _ _ row found held =>
      exact absurd (OutboundEventRow.heldBy_owner held) (unheld row found)
  | markedSent _ _ _ row found held => exact absurd held (unheld row found)
  | recordedSent | settledMessage => contradiction
  | dropped => exact ⟨rfl, rfl, fun _ member => absurd member List.not_mem_nil⟩
  | delivered | incomplete | refused | refusedAfterwards =>
      refine ⟨rfl, rfl, fun later member => ?_⟩
      obtain rfl := OutboxTask.relay.inj (List.mem_singleton.mp member)
      simp
  | leaseHeld | accepted =>
      refine ⟨rfl, rfl, fun later member => ?_⟩
      obtain rfl := OutboxTask.relay.inj (List.mem_singleton.mp member)
      rfl

end Steps

theorem LedgerMove.unheld {choice : OutboxChoice} {db after : OutboundDb} {id leaseOwner : Nat}
    {row later : OutboundEventRow} {party : OutboxParty} {task : Option OutboxTask}
    (move : LedgerMove choice db after id row party task later)
    (busy : party = .relay leaseOwner → task ≠ none)
    (unheld : row.leaseOwner ≠ some leaseOwner) : later.leaseOwner ≠ some leaseOwner := by
  cases move with
  | stays => exact unheld
  | claimed other due =>
      intro same
      exact busy (congrArg _ (Option.some.inj same)) rfl
  | settled _ _ _ _ _ released _ => simp [released]
  | reclaimed => simp [OutboundEventRow.reclaimed, OutboundEventRow.released]
  | resolved => exact unheld
  | replayed => simp [OutboundEventRow.replayed, OutboundEventRow.released]

/-- A row that a worker does not hold it does not come to hold until it polls. -/
theorem OutboxStep.stays_unheld {choice : OutboxChoice} {db after : OutboundDb}
    {party : OutboxParty} {task : Option OutboxTask} {next : List OutboxTask}
    {leaseOwner id : Nat} (step : OutboxStep choice db party task after next)
    (busy : party = .relay leaseOwner → task ≠ none)
    (unheld : ∀ row, db.events.get? id = some row → row.leaseOwner ≠ some leaseOwner) :
    ∀ later, after.events.get? id = some later → later.leaseOwner ≠ some leaseOwner := by
  intro later found
  cases before : db.events.get? id with
  | none =>
      obtain ⟨input, rfl⟩ := step.enqueued before found
      simp [EnqueueOutboundInput.row]
  | some row =>
      obtain ⟨moved, there, move⟩ := step.ledgerMove before
      rw [found, Option.some.injEq] at there
      subst there
      exact move.unheld busy (unheld row before)

/-- Nobody holds the row of an outcome that a worker goes on to write down. -/
theorem OutboxStep.records_released {choice : OutboxChoice} {db after : OutboundDb}
    {leaseOwner : Nat} {task : Option OutboxTask} {next : List OutboxTask}
    (step : OutboxStep choice db (.relay leaseOwner) task after next) {record : RelayTask}
    (member : .relay record ∈ next) (isRecord : record.isRecord = true) {row : OutboundEventRow}
    (there : after.events.get? record.event.id = some row) : row.leaseOwner = none := by
  -- What is written down comes after an update that ends the lease.
  have ended : ∀ {event : ClaimedOutboundEvent} {held : OutboundEventRow}
      {change : OutboundEventRow → OutboundEventRow}, db.events.get? event.id = some held →
      (change held).leaseOwner = none →
      (db.withEvent event.id change).events.get? event.id = some row → row.leaseOwner = none := by
    intro event held change found released written
    rw [OutboundDb.get?_withEvent, if_pos rfl, found, Option.map_some] at written
    obtain rfl := Option.some.inj written
    exact released
  cases step with
  | polled =>
      obtain ⟨event, -, same⟩ := List.mem_map.mp member
      obtain rfl := OutboxTask.relay.inj same
      contradiction
  | delivered | incomplete | refused | refusedAfterwards =>
      obtain rfl := OutboxTask.relay.inj (List.mem_singleton.mp member)
      simp at isRecord
  | leaseHeld | accepted =>
      obtain rfl := OutboxTask.relay.inj (List.mem_singleton.mp member)
      contradiction
  | markedSent _ event _ _ found held =>
      obtain rfl := OutboxTask.relay.inj (List.mem_singleton.mp member)
      exact ended found rfl there
  | throttledForGood _ event _ _ found held =>
      obtain rfl := OutboxTask.relay.inj (List.mem_singleton.mp member)
      exact ended found rfl there
  | markedFailed _ event _ _ found held =>
      split at member
      · obtain rfl := OutboxTask.relay.inj (List.mem_singleton.mp member)
        exact ended found rfl there
      · exact absurd member List.not_mem_nil
  | dropped | parked | parkedForGood | cancelled | throttled | recordedSent | settledMessage =>
      exact absurd member List.not_mem_nil

/-- A worker that has only an outcome left to write for a row does not hold it. -/
def RecordsUnheld (state : OutboxState) : Prop :=
  ∀ leaseOwner task, .relay task ∈ state.left (.relay leaseOwner) → task.isRecord = true →
    ∀ row, state.store.events.get? task.event.id = some row → row.leaseOwner ≠ some leaseOwner

theorem RecordsUnheld.step {state : OutboxState} (records : RecordsUnheld state)
    (party : OutboxParty) (choice : OutboxChoice) :
    RecordsUnheld (outbox.step state party choice) := by
  intro leaseOwner task member isRecord
  obtain ⟨next, step, left⟩ := outbox_step state party choice
  by_cases same : party = .relay leaseOwner
  · subst same
    rw [left] at member
    rcases List.mem_append.mp member with new | behind
    · intro later found
      rw [step.records_released new isRecord found]
      exact (Option.some_ne_none _).symm
    · refine step.stays_unheld (fun _ nothing => ?_)
        (records leaseOwner task (List.mem_of_mem_tail behind) isRecord)
      rw [List.head?_eq_none_iff.mp nothing] at behind
      exact absurd behind List.not_mem_nil
  · rw [Crew.left_step_of_ne _ _ _ (Ne.symm same)] at member
    exact step.stays_unheld (fun mine => absurd mine same)
      (records leaseOwner task member isRecord)

/-- A worker whose lease another takes has lost it. -/
theorem lost_of_taken {state : OutboxState} {party : OutboxParty} {choice : OutboxChoice}
    {leaseOwner id : Nat} {row : OutboundEventRow} (records : RecordsUnheld state)
    (found : state.store.events.get? id = some row) (held : row.leaseOwner = some leaseOwner)
    (other : party ≠ .relay leaseOwner)
    (taken : ∀ later, (outbox.step state party choice).store.events.get? id = some later →
      later.leaseOwner ≠ some leaseOwner) : Lost leaseOwner id (outbox.step state party choice) := by
  refine ⟨taken, fun task member about => ?_⟩
  rw [Crew.left_step_of_ne _ _ _ (Ne.symm other)] at member
  cases isRecord : task.isRecord with
  | false => rfl
  | true => exact absurd held (records leaseOwner task member isRecord row (about ▸ found))

/-- A lease once lost stays lost until the worker polls again. -/
theorem Lost.step {leaseOwner id : Nat} {state : OutboxState} {party : OutboxParty}
    {choice : OutboxChoice} (lost : Lost leaseOwner id state)
    (permitted : UntilPoll leaseOwner state party choice) :
    Lost leaseOwner id (outbox.step state party choice) := by
  obtain ⟨next, step, left⟩ := outbox_step state party choice
  constructor
  · exact step.stays_unheld
      (fun same nothing => permitted same (List.head?_eq_none_iff.mp nothing)) lost.unheld
  · intro task member about
    by_cases same : party = .relay leaseOwner
    · subst same
      rw [left] at member
      cases queued : state.left (.relay leaseOwner) with
      | nil => exact absurd queued (permitted rfl)
      | cons current rest =>
          rw [queued] at member step
          rcases List.mem_append.mp member with new | behind
          · generalize (outbox.step state (.relay leaseOwner) choice).store = after at step
            cases current with
            | readBack | project =>
                cases step
                exact absurd new List.not_mem_nil
            | relay current =>
                have sameEvent := step.sameEvent task new
                rw [sameEvent] at about
                have here : .relay current ∈ state.left (.relay leaseOwner) := by
                  rw [queued]
                  exact List.mem_cons_self
                exact (step.unheld (by rw [about]; exact lost.unheld)
                  (lost.unsettled current here about)).2.2 task new
          · refine lost.unsettled task ?_ about
            rw [queued]
            exact List.mem_cons_of_mem _ behind
    · rw [Crew.left_step_of_ne _ _ _ (Ne.symm same)] at member
      exact lost.unsettled task member about

/-- A settled row stays settled, only the holder of a lease settles, and a worker whose lease
another has taken changes neither the row nor the message it stands for. -/
theorem settled_stays_settled {start before : OutboxState} (idle : ∃ db, start = Crew.idle db)
    (held : LeasesHeld start.store)
    (reached : outbox.Reaches (fun _ _ _ => True) start before) :
    (∀ party choice id row, before.store.events.get? id = some row →
      ∃ later, (outbox.step before party choice).store.events.get? id = some later ∧
        KeepsSettled before party choice id row later) ∧
    (∀ leaseOwner id row party choice, before.store.events.get? id = some row →
      row.leaseOwner = some leaseOwner → party ≠ .relay leaseOwner →
      (∀ later, (outbox.step before party choice).store.events.get? id = some later →
        later.leaseOwner ≠ some leaseOwner) →
      Lost leaseOwner id (outbox.step before party choice)) ∧
    ∀ leaseOwner id, Lost leaseOwner id before →
      ∀ later, outbox.Reaches (UntilPoll leaseOwner) before later →
        ∀ task rest, later.left (.relay leaseOwner) = .relay task :: rest →
          task.event.id = id → ∀ choice,
            (outbox.step later (.relay leaseOwner) choice).store.events = later.store.events ∧
              (outbox.step later (.relay leaseOwner) choice).store.messages =
                later.store.messages := by
  obtain ⟨db, rfl⟩ := idle
  have standing : Crew.Standing LeasesHeld LeaseReady before :=
    Crew.Reaches.keeps _ (fun _ party choice standing _ => leases_standing standing party choice)
      (Crew.Standing.idle held) reached
  have records : RecordsUnheld before :=
    Crew.Reaches.keeps _ (fun _ party choice records _ => records.step party choice)
      (fun _ _ member => absurd member List.not_mem_nil) reached
  refine ⟨fun party choice id row found => keeps_settled standing party choice found,
    fun leaseOwner id row party choice found held other => lost_of_taken records found held other,
    ?_⟩
  intro leaseOwner id lost later run task rest queued about choice
  have still : Lost leaseOwner id later :=
    Crew.Reaches.keeps _ (fun _ _ _ lost permitted => lost.step permitted) lost run
  obtain ⟨next, step, _⟩ := outbox_step later (.relay leaseOwner) choice
  rw [queued] at step
  have unchanged := step.unheld (by rw [about]; exact still.unheld)
    (still.unsettled task (by rw [queued]; exact List.mem_cons_self) about)
  exact ⟨unchanged.1, unchanged.2.1⟩

/-! ### A concrete shop -/

def openChannel : ChannelSendContext where
  platform := .facebook
  platformChannelId := "page"
  parentPlatformChannelId := none
  isManaged := true
  reauthRequired := false
  effectiveAccessToken := some "token"

def firstChat : Conversation where
  id := 0
  channelId := 0
  platform := .facebook
  conversationKind := .directMessage
  recipientPlatformId := "customer"
  mentionMediaId := none
  mentionCommentId := none
  postId := none

def chatReply (body key : String) : ReplyInput where
  enterpriseId := 0
  conversation := firstChat
  body := body
  idempotencyKey := key
  internalNote := false
  replyToPlatformMessageId := none

def calmly (now : Int) : OutboxChoice where
  now := now
  skipped := []
  batchSize := 20
  leaseSeconds := 120
  appPressure := 0
  channel := some openChannel
  ownPressure := 0
  parentPressure := 0
  decrypts := true
  answer := .accepted (some "mid")
  jitter := 0
  listing := none
  call := .reply (chatReply "hello" "first")
  event := .echo ⟨0, 0, "mid", some "hello"⟩
  fails := false

/-- A worker claims a reply and stalls, the reaper takes the row back, and a second
worker claims it. -/
def reclaimedLease : List (OutboxParty × OutboxChoice) :=
  [(.agent 0, calmly 0), (.relay 7, calmly 1), (.reaper, calmly 200000),
    (.relay 8, calmly 200001)]

def worksOn (id : Nat) : List OutboxTask → Bool
  | [.relay task] => task.event.id == id && !task.isRecord
  | _ => false

theorem settled_stays_settled_reclaimed :
    ∃ state row task, state.store.events.get? 0 = some row ∧ row.leaseOwner = some 8 ∧
      state.left (.relay 7) = [.relay task] ∧ task.event.id = 0 ∧
      ∀ choice, (outbox.step state (.relay 7) choice).store.events = state.store.events ∧
        (outbox.step state (.relay 7) choice).store.messages = state.store.messages := by
  have runs : (outbox.play (fun _ _ _ => true) (Crew.idle .empty) reclaimedLease).any
      (fun state => ((state.store.events.get? 0).any fun row => row.leaseOwner == some 8) &&
        worksOn 0 (state.left (.relay 7))) = true := by
    decide +kernel
  obtain ⟨state, played, done⟩ := (Option.any_eq_true _ _).mp runs
  rw [Bool.and_eq_true] at done
  obtain ⟨row, found, owner⟩ := (Option.any_eq_true _ _).mp done.1
  rw [beq_iff_eq] at owner
  obtain ⟨-, handling⟩ := done
  unfold worksOn at handling
  split at handling
  · next task queued =>
      rw [Bool.and_eq_true, beq_iff_eq, Bool.not_eq_true'] at handling
      have reached : outbox.Reaches (fun _ _ _ => True) (Crew.idle .empty) state :=
        outbox.play_sound (fun _ _ _ _ => trivial) played
      have lost : Lost 7 0 state := by
        constructor
        · intro stored there
          rw [found, Option.some.injEq] at there
          subst there
          simp [owner]
        · intro other member about
          rw [queued, List.mem_singleton] at member
          obtain rfl := OutboxTask.relay.inj member
          exact handling.2
      exact ⟨state, row, task, found, owner, queued, handling.1, fun choice =>
        (settled_stays_settled ⟨_, rfl⟩ (by intro id row found; contradiction) reached).2.2
          7 0 lost state .refl task [] queued handling.1 choice⟩
  · exact absurd handling Bool.false_ne_true

end UnifiedService.Outbound
