import UnifiedService.Outbound.LedgerProperties

/-! What a step can do to one message of the inbox, and where a new one comes from. -/

set_option autoImplicit false

namespace UnifiedService.Outbound

open UnifiedService.Library

structure WriteBack where
  enterpriseId : Option Nat
  eventId : Nat
  platformId : Option String
  status : MessageStatus
  deriving DecidableEq, Repr

def WriteBack.reaches (write : WriteBack) (message : MessageRow) : Prop :=
  write.enterpriseId = some message.enterpriseId ∧ message.outboundEventId = some write.eventId

def OutboxTask.writes : OutboxTask → Option WriteBack
  | .relay (.recordSent event platformId) => some ⟨event.enterpriseId, event.id, platformId, .sent⟩
  | .relay (.settleMessage event) => some ⟨event.enterpriseId, event.id, none, .failed⟩
  | .relay (.settleAsFailed event _) => some ⟨event.enterpriseId, event.id, none, .failed⟩
  | .readBack (.recordLanded send platformEventId) =>
      some ⟨some send.enterpriseId, send.id, platformEventId, .sent⟩
  | .relay (.deliver _) | .relay (.park _ _) | .relay (.checkLease _ _) | .relay (.send _ _)
  | .relay (.markSent _ _) | .relay (.markFailed _ _) | .relay (.markRateLimited _ _)
  | .readBack (.reconcileOne _) | .readBack (.readBack _ _) | .readBack (.resolve _ _ _)
  | .project _ => none

def CancelsHeld (db : OutboundDb) (party : OutboxParty) (task : OutboxTask) : Prop :=
  ∀ event ambiguous, task = .relay (.settleAsFailed event ambiguous) →
    ∃ leaseOwner row, party = .relay leaseOwner ∧ db.events.get? event.id = some row ∧
      row.heldBy leaseOwner = true

inductive MessageMove (choice : OutboxChoice) (db : OutboundDb) (id : Nat) (row : MessageRow) :
    OutboxParty → Option OutboxTask → MessageRow → Prop
  | stays (party : OutboxParty) (task : Option OutboxTask) :
      MessageMove choice db id row party task row
  | written (party : OutboxParty) (task : OutboxTask) (write : WriteBack)
      (writes : task.writes = some write) (target : write.reaches row)
      (held : CancelsHeld db party task) :
      MessageMove choice db id row party (some task)
        (row.delivered write.platformId write.status choice.now)
  | stamped (projector : Nat) (echo : PlatformMessage)
      (pending : db.pendingOutbound echo choice.skipped = some ⟨id, row⟩)
      (free : db.platformIdTaken echo.enterpriseId echo.platformMessageId = false) :
      MessageMove choice db id row (.projector projector) (some (.project (.claimPending echo)))
        (row.stamped echo.platformMessageId choice.now)
  | moderated (agent : Nat) (input : ModerationInput) (action : ModerationAction)
      (asked : choice.call = .moderateComment input action) (about : input.messageId = id)
      (changes : row.changedBy action = true) :
      MessageMove choice db id row (.agent agent) none (row.moderated action choice.now)

inductive MessageSource (choice : OutboxChoice) (db : OutboundDb) : OutboxParty → MessageRow → Prop
  | noted (agent : Nat) (input : ReplyInput) (asked : choice.call = .reply input)
      (note : input.internalNote = true) :
      MessageSource choice db (.agent agent)
        ((⟨input.enterpriseId, input.conversation.id, input.body, input.idempotencyKey, true⟩ :
          InsertOutboundMessageInput).row choice.now)
  | replied (agent : Nat) (input : ReplyInput) (asked : choice.call = .reply input)
      (event : Option Nat) :
      MessageSource choice db (.agent agent)
        { (⟨input.enterpriseId, input.conversation.id, input.body, input.idempotencyKey, false⟩ :
            InsertOutboundMessageInput).row choice.now with
          outboundEventId := event }
  | received (projector : Nat) (message : PlatformMessage) (direction : MessageDirection)
      (free : db.platformIdTaken message.enterpriseId message.platformMessageId = false) :
      MessageSource choice db (.projector projector) (message.row direction choice.now)

theorem written_messageMove {choice : OutboxChoice} {db : OutboundDb} {written : Table MessageRow}
    {party : OutboxParty} {task : OutboxTask} {write : WriteBack} {id : Nat} {row : MessageRow}
    (enterpriseId : Nat) (writes : task.writes = some write)
    (enterprise : write.enterpriseId = some enterpriseId) (held : CancelsHeld db party task)
    (recorded : written = db.messages.updateWhere (fun _ message =>
      message.sentBy enterpriseId write.eventId)
        (·.delivered write.platformId write.status choice.now))
    (found : db.messages.get? id = some row) :
    ∃ later, written.get? id = some later ∧ MessageMove choice db id row party (some task) later := by
  subst recorded
  rw [Table.get?_updateWhere, found, Option.map_some]
  split
  · next target =>
      simp only [MessageRow.sentBy, Bool.and_eq_true, beq_iff_eq] at target
      exact ⟨_, rfl, .written party task write writes
        ⟨enterprise.trans (congrArg some target.1.symm), target.2⟩ held⟩
  · exact ⟨row, rfl, .stays _ _⟩

theorem OutboundDb.pendingOutbound_some {db : OutboundDb} {echo : PlatformMessage}
    {skipped : List Nat} {stored : Stored MessageRow}
    (pending : db.pendingOutbound echo skipped = some stored) :
    db.messages.get? stored.id = some stored.row ∧ stored.row.awaitsEcho echo = true :=
  Table.mem_select.mp (List.mem_of_mem_filter (List.mem_of_mem_head? pending))

theorem relay_messageMove {choice : OutboxChoice} {db written : OutboundDb} {party : OutboxParty}
    {task : OutboxTask} {platformId : Option String} {status : MessageStatus} {id : Nat}
    {row : MessageRow} (event : ClaimedOutboundEvent)
    (writes : task.writes = some ⟨event.enterpriseId, event.id, platformId, status⟩)
    (held : CancelsHeld db party task) (same : written.messages = db.messages)
    (found : db.messages.get? id = some row) :
    ∃ later, (OutboundRelayWorker.recordDelivery event platformId status choice.now
        written).messages.get? id = some later ∧
      MessageMove choice db id row party (some task) later := by
  rcases OutboundRelayWorker.recordDelivery_cases event platformId status choice.now written with
    unchanged | ⟨enterpriseId, enterprise, recorded⟩
  · rw [unchanged, same]
    exact ⟨row, found, .stays _ _⟩
  · refine written_messageMove enterpriseId writes enterprise held ?_ found
    have result := OutboundDb.recordDelivery_ok recorded
    rw [← same]
    exact congrArg OutboundDb.messages result

theorem CallEffect.messageMove {choice : OutboxChoice} {db after : OutboundDb} {agent id : Nat}
    {row : MessageRow} (effect : CallEffect choice.now db choice.call after)
    (found : db.messages.get? id = some row) :
    ∃ later, after.messages.get? id = some later ∧
      MessageMove choice db id row (.agent agent) none later := by
  generalize asked : choice.call = call at effect
  cases effect with
  | refused | replayed => exact ⟨row, found, .stays _ _⟩
  | noted | collided | replied => exact ⟨row, Table.get?_insert_of_some _ found, .stays _ _⟩
  | moderated input action message commentId there enterprise onPlatform present changes =>
      rw [Table.get?_update]
      by_cases same : input.messageId = id
      · subst same
        rw [there, Option.some.injEq] at found
        subst found
        rw [if_pos rfl, there]
        exact ⟨_, rfl, .moderated agent input action asked rfl changes⟩
      · rw [if_neg same]
        exact ⟨row, found, .stays _ _⟩

section Steps

variable {choice : OutboxChoice} {db after : OutboundDb} {party : OutboxParty}
  {task : Option OutboxTask} {next : List OutboxTask}

theorem OutboxStep.messageMove (step : OutboxStep choice db party task after next) {id : Nat}
    {row : MessageRow} (found : db.messages.get? id = some row) :
    ∃ later, after.messages.get? id = some later ∧
      MessageMove choice db id row party task later := by
  cases step with
  | dropped | polled | delivered | parked | parkedForGood | leaseHeld | incomplete | refused
  | accepted | refusedAfterwards | markedSent | markedFailed | throttled | throttledForGood
  | reclaimed | listed | reconciled | unaddressed | readBack | resolved | echoed | echoKnown
  | echoUnknown | echoUnmatched => exact ⟨row, found, .stays _ _⟩
  | cancelled leaseOwner event ambiguous stored there holds =>
      refine relay_messageMove event rfl ?_ rfl found
      rintro other _ same
      obtain ⟨rfl, _⟩ := RelayTask.settleAsFailed.inj (OutboxTask.relay.inj same)
      exact ⟨leaseOwner, stored, rfl, there, holds⟩
  | recordedSent | settledMessage =>
      refine relay_messageMove _ rfl ?_ rfl found
      intro _ _ same
      cases same
  | recordedLanded run send platformEventId =>
      rcases db.recordDelivery_cases send.enterpriseId send.id platformEventId .sent choice.now
        with same | recorded
      · rw [same]
        exact ⟨row, found, .stays _ _⟩
      · refine written_messageMove send.enterpriseId rfl rfl ?_
          (congrArg OutboundDb.messages (OutboundDb.recordDelivery_ok recorded)) found
        intro _ _ same
        cases same
  | called agent => exact (apply_effect choice.call choice.now db).messageMove found
  | commented projector message told =>
      unfold OutboundDb.insertInbound OutboundDb.insertPlatformMessage
      split
      · exact ⟨row, found, .stays _ _⟩
      · exact ⟨row, Table.get?_insert_of_some _ found, .stays _ _⟩
  | echoInserted projector echo =>
      unfold DirectMessageProjector.insertRecovered OutboundDb.insertRecoveredOutbound
        OutboundDb.insertPlatformMessage DirectMessageProjector.projected
      split
      · exact ⟨row, found, .stays _ _⟩
      · exact ⟨row, Table.get?_insert_of_some _ found, .stays _ _⟩
  | echoClaimed projector echo stored pending free =>
      unfold DirectMessageProjector.projected
      rw [Table.get?_update]
      by_cases same : stored.id = id
      · subst same
        obtain ⟨there, _⟩ := OutboundDb.pendingOutbound_some pending
        rw [there, Option.some.injEq] at found
        subst found
        rw [if_pos rfl, there]
        exact ⟨_, rfl, .stamped projector echo pending free⟩
      · rw [if_neg same]
        exact ⟨row, found, .stays _ _⟩

theorem inserted_row {messages : Table MessageRow} {row later : MessageRow} {id : Nat}
    (absent : messages.get? id = none) (found : (messages.insert row).get? id = some later) :
    later = row := by
  rw [Table.get?_insert, absent] at found
  split at found
  · exact (Option.some.inj found).symm
  · contradiction

theorem OutboxStep.messageSource (step : OutboxStep choice db party task after next) {id : Nat}
    {later : MessageRow} (absent : db.messages.get? id = none)
    (found : after.messages.get? id = some later) : MessageSource choice db party later := by
  have unchanged : after.messages.get? id = db.messages.get? id →
      MessageSource choice db party later := by
    intro same
    rw [same, absent] at found
    contradiction
  have rewritten : ∀ wanted change, after.messages = db.messages.updateWhere wanted change →
      MessageSource choice db party later := by
    intro wanted change written
    rw [written, Table.get?_updateWhere, absent] at found
    contradiction
  have recorded : ∀ event platformId status written, written.messages = db.messages →
      after = OutboundRelayWorker.recordDelivery event platformId status choice.now written →
      MessageSource choice db party later := by
    rintro event platformId status written same rfl
    rcases OutboundRelayWorker.recordDelivery_cases event platformId status choice.now written with
      kept | ⟨enterpriseId, _, result⟩
    · exact unchanged (by rw [kept, same])
    · have whole := congrArg OutboundDb.messages (OutboundDb.recordDelivery_ok result)
      rw [same] at whole
      exact rewritten _ _ whole
  cases step with
  | dropped | polled | delivered | parked | parkedForGood | leaseHeld | incomplete | refused
  | accepted | refusedAfterwards | markedSent | markedFailed | throttled | throttledForGood
  | reclaimed | listed | reconciled | unaddressed | readBack | resolved | echoed | echoKnown
  | echoUnknown | echoUnmatched => exact unchanged rfl
  | cancelled _ event ambiguous =>
      exact recorded _ _ _ (db.withEvent event.id (·.cancelled ambiguous choice.now)) rfl rfl
  | recordedSent | settledMessage => exact recorded _ _ _ _ rfl rfl
  | recordedLanded run send platformEventId =>
      rcases db.recordDelivery_cases send.enterpriseId send.id platformEventId .sent choice.now
        with same | result
      · exact unchanged (by rw [same])
      · exact rewritten _ _ (congrArg OutboundDb.messages (OutboundDb.recordDelivery_ok result))
  | echoClaimed =>
      unfold DirectMessageProjector.projected at found
      rw [Table.get?_update, absent] at found
      split at found <;> contradiction
  | commented projector message told =>
      unfold OutboundDb.insertInbound OutboundDb.insertPlatformMessage at found unchanged
      split at found
      · rw [absent] at found
        contradiction
      · next free =>
          rw [inserted_row absent found]
          exact .received projector message .inbound (by simpa using free)
  | echoInserted projector echo =>
      unfold DirectMessageProjector.insertRecovered OutboundDb.insertRecoveredOutbound
        OutboundDb.insertPlatformMessage DirectMessageProjector.projected at found
      split at found
      · rw [absent] at found
        contradiction
      · next free =>
          rw [inserted_row absent found]
          exact .received projector echo .outbound (by simpa using free)
  | called agent =>
      have effect := apply_effect choice.call choice.now db
      generalize asked : choice.call = call at effect found
      generalize call.apply choice.now db = written at effect found
      cases effect with
      | refused =>
          rw [absent] at found
          contradiction
      | replayed =>
          rw [OutboundDb.withEvent_messages, absent] at found
          contradiction
      | moderated =>
          rw [Table.get?_update, absent] at found
          split at found <;> contradiction
      | noted input note =>
          rw [inserted_row absent found]
          exact .noted agent input asked note
      | collided input =>
          rw [inserted_row absent found]
          exact .replied agent input asked none
      | replied input =>
          rw [inserted_row absent found]
          exact .replied agent input asked _

end Steps

end UnifiedService.Outbound
