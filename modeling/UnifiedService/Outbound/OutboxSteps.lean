import UnifiedService.Outbound.Outbox

/-! Everything a step of the outbox can do, with the guard it passed. -/

set_option autoImplicit false

namespace UnifiedService.Outbound

open UnifiedService.Library

namespace OutboundDb

def withEvent (db : OutboundDb) (id : Nat) (change : OutboundEventRow → OutboundEventRow) :
    OutboundDb :=
  { db with events := db.events.update id change }

theorem updateEvent_true {db after : OutboundDb} {id : Nat} {applies : OutboundEventRow → Bool}
    {change : OutboundEventRow → OutboundEventRow}
    (updated : db.updateEvent id applies change = (true, after)) :
    ∃ row, db.events.get? id = some row ∧ applies row = true ∧ after = db.withEvent id change := by
  unfold updateEvent at updated
  split at updated
  · next found =>
      obtain ⟨row, stored, applied⟩ := Option.any_eq_true _ _ |>.mp found
      simp only [Prod.mk.injEq, true_and] at updated
      exact ⟨row, stored, applied, updated.symm⟩
  · simp at updated

theorem markRateLimited_parked {db after : OutboundDb} {id leaseOwner : Nat}
    {retryAt maxWaitMs now : Int}
    (updated : db.markRateLimited id leaseOwner retryAt maxWaitMs now = (.parked, after)) :
    ∃ row, db.events.get? id = some row ∧ row.heldBy leaseOwner = true ∧
      row.mayWait maxWaitMs now = true ∧ after = db.withEvent id (·.parked retryAt now) := by
  unfold markRateLimited at updated
  split at updated
  · simp at updated
  · next row found =>
      split at updated
      · next held =>
          split at updated
          · next young =>
              simp only [Prod.mk.injEq, true_and] at updated
              exact ⟨row, found, held, young, updated.symm⟩
          · simp at updated
      · simp at updated

theorem markRateLimited_notApplied {db after : OutboundDb} {id leaseOwner : Nat}
    {retryAt maxWaitMs now : Int}
    (updated : db.markRateLimited id leaseOwner retryAt maxWaitMs now = (.notApplied, after)) :
    after = db := by
  unfold markRateLimited at updated
  split at updated
  · exact (congrArg Prod.snd updated).symm
  · split at updated
    · split at updated <;> simp at updated
    · exact (congrArg Prod.snd updated).symm

theorem markRateLimited_deadLettered {db after : OutboundDb} {id leaseOwner : Nat}
    {retryAt maxWaitMs now : Int}
    (updated : db.markRateLimited id leaseOwner retryAt maxWaitMs now = (.deadLettered, after)) :
    ∃ row, db.events.get? id = some row ∧ row.heldBy leaseOwner = true ∧
      row.mayWait maxWaitMs now = false ∧ after = db.withEvent id (·.deadLettered now) := by
  unfold markRateLimited at updated
  split at updated
  · simp at updated
  · next row found =>
      split at updated
      · next held =>
          split at updated
          · simp at updated
          · next old =>
              simp only [Prod.mk.injEq, true_and] at updated
              exact ⟨row, found, held, by simpa using old, updated.symm⟩
      · simp at updated

end OutboundDb

inductive OutboxStep (choice : OutboxChoice) (db : OutboundDb) :
    OutboxParty → Option OutboxTask → OutboundDb → List OutboxTask → Prop
  | dropped (party : OutboxParty) (task : Option OutboxTask) : OutboxStep choice db party task db []
  | polled (leaseOwner : Nat) :
      OutboxStep choice db (.relay leaseOwner) none
        (db.claimDueBatch leaseOwner choice.batchSize choice.leaseSeconds choice.now
          choice.skipped).2
        ((db.claimDueBatch leaseOwner choice.batchSize choice.leaseSeconds choice.now
          choice.skipped).1.map fun event => .relay (.deliver event))
  | delivered (leaseOwner : Nat) (event : ClaimedOutboundEvent) :
      OutboxStep choice db (.relay leaseOwner) (some (.relay (.deliver event))) db
        [.relay (OutboundRelayWorker.deliver event choice.toRelayChoice)]
  | parked (leaseOwner : Nat) (event : ClaimedOutboundEvent) (retryAt : Int)
      (row : OutboundEventRow) (found : db.events.get? event.id = some row)
      (held : row.heldBy leaseOwner = true)
      (young : row.mayWait outboundRateLimitMaxWaitMs choice.now = true) :
      OutboxStep choice db (.relay leaseOwner) (some (.relay (.park event retryAt)))
        (db.withEvent event.id (·.parked retryAt choice.now)) []
  | parkedForGood (leaseOwner : Nat) (event : ClaimedOutboundEvent) (retryAt : Int)
      (row : OutboundEventRow) (found : db.events.get? event.id = some row)
      (held : row.heldBy leaseOwner = true)
      (old : row.mayWait outboundRateLimitMaxWaitMs choice.now = false) :
      OutboxStep choice db (.relay leaseOwner) (some (.relay (.park event retryAt)))
        (db.withEvent event.id (·.deadLettered choice.now)) []
  | leaseHeld (leaseOwner : Nat) (event : ClaimedOutboundEvent) (channel : ChannelSendContext)
      (holds : db.stillHoldsLease event.id leaseOwner choice.now = true) :
      OutboxStep choice db (.relay leaseOwner) (some (.relay (.checkLease event channel))) db
        [.relay (.send event channel)]
  | incomplete (leaseOwner : Nat) (event : ClaimedOutboundEvent) (channel : ChannelSendContext)
      (missing : OutboundRelayWorker.graphCall event channel = none) :
      OutboxStep choice db (.relay leaseOwner) (some (.relay (.send event channel))) db
        [.relay (OutboundRelayWorker.handleSendFailure event choice.toRelayChoice .other)]
  | refused (leaseOwner : Nat) (event : ClaimedOutboundEvent) (channel : ChannelSendContext)
      (call : GraphCall) (built : OutboundRelayWorker.graphCall event channel = some call)
      (error : SendError) (answered : choice.answer = .failed error) :
      OutboxStep choice db (.relay leaseOwner) (some (.relay (.send event channel))) db
        [.relay (OutboundRelayWorker.handleSendFailure event choice.toRelayChoice error)]
  | accepted (leaseOwner : Nat) (event : ClaimedOutboundEvent) (channel : ChannelSendContext)
      (call : GraphCall) (built : OutboundRelayWorker.graphCall event channel = some call)
      (platformId : Option String) (answered : choice.answer = .accepted platformId) :
      OutboxStep choice db (.relay leaseOwner) (some (.relay (.send event channel)))
        { db with platform := db.platform.carryOut ⟨event.id, call, platformId⟩ }
        [.relay (.markSent event (OutboundRelayWorker.returnedId event platformId))]
  | refusedAfterwards (leaseOwner : Nat) (event : ClaimedOutboundEvent)
      (channel : ChannelSendContext) (call : GraphCall)
      (built : OutboundRelayWorker.graphCall event channel = some call) (error : SendError)
      (platformId : Option String) (answered : choice.answer = .failedAfterwards error platformId) :
      OutboxStep choice db (.relay leaseOwner) (some (.relay (.send event channel)))
        { db with platform := db.platform.carryOut ⟨event.id, call, platformId⟩ }
        [.relay (OutboundRelayWorker.handleSendFailure event choice.toRelayChoice error)]
  | markedSent (leaseOwner : Nat) (event : ClaimedOutboundEvent) (platformId : Option String)
      (row : OutboundEventRow) (found : db.events.get? event.id = some row)
      (held : row.leaseOwner = some leaseOwner) :
      OutboxStep choice db (.relay leaseOwner) (some (.relay (.markSent event platformId)))
        (db.withEvent event.id (·.markedSent platformId))
        [.relay (.recordSent event platformId)]
  | cancelled (leaseOwner : Nat) (event : ClaimedOutboundEvent) (ambiguous : Bool)
      (row : OutboundEventRow) (found : db.events.get? event.id = some row)
      (held : row.heldBy leaseOwner = true) :
      OutboxStep choice db (.relay leaseOwner) (some (.relay (.settleAsFailed event ambiguous)))
        (OutboundRelayWorker.recordDelivery event none .failed choice.now
          (db.withEvent event.id (·.cancelled ambiguous choice.now))) []
  | markedFailed (leaseOwner : Nat) (event : ClaimedOutboundEvent) (nextAttemptAt : Option Int)
      (row : OutboundEventRow) (found : db.events.get? event.id = some row)
      (held : row.heldBy leaseOwner = true) :
      OutboxStep choice db (.relay leaseOwner) (some (.relay (.markFailed event nextAttemptAt)))
        (db.withEvent event.id (·.markedFailed nextAttemptAt choice.now))
        (if nextAttemptAt.isNone then [.relay (.settleMessage event)] else [])
  | throttled (leaseOwner : Nat) (event : ClaimedOutboundEvent) (retryAt : Int)
      (row : OutboundEventRow) (found : db.events.get? event.id = some row)
      (held : row.heldBy leaseOwner = true)
      (young : row.mayWait outboundRateLimitMaxWaitMs choice.now = true) :
      OutboxStep choice db (.relay leaseOwner) (some (.relay (.markRateLimited event retryAt)))
        (db.withEvent event.id (·.parked retryAt choice.now)) []
  | throttledForGood (leaseOwner : Nat) (event : ClaimedOutboundEvent) (retryAt : Int)
      (row : OutboundEventRow) (found : db.events.get? event.id = some row)
      (held : row.heldBy leaseOwner = true)
      (old : row.mayWait outboundRateLimitMaxWaitMs choice.now = false) :
      OutboxStep choice db (.relay leaseOwner) (some (.relay (.markRateLimited event retryAt)))
        (db.withEvent event.id (·.deadLettered choice.now)) [.relay (.settleMessage event)]
  | recordedSent (leaseOwner : Nat) (event : ClaimedOutboundEvent) (platformId : Option String) :
      OutboxStep choice db (.relay leaseOwner) (some (.relay (.recordSent event platformId)))
        (OutboundRelayWorker.recordDelivery event platformId .sent choice.now db) []
  | settledMessage (leaseOwner : Nat) (event : ClaimedOutboundEvent) :
      OutboxStep choice db (.relay leaseOwner) (some (.relay (.settleMessage event)))
        (OutboundRelayWorker.recordDelivery event none .failed choice.now db) []
  | reclaimed :
      OutboxStep choice db .reaper none
        (db.reclaimExpiredLeases leaseReaperBatch choice.now choice.skipped) []
  | listed (run : Nat) :
      OutboxStep choice db (.readBack run) none db
        ((SendReconciliationService.reconcileAll choice.toReadBackChoice db).map .readBack)
  | reconciled (run : Nat) (send : AmbiguousSend) :
      OutboxStep choice db (.readBack run) (some (.readBack (.reconcileOne send))) db
        [.readBack (SendReconciliationService.reconcileOne send choice.toReadBackChoice)]
  | unaddressed (run : Nat) (send : AmbiguousSend) (sentText : String) :
      OutboxStep choice db (.readBack run) (some (.readBack (.readBack send sentText))) db
        [.readBack (.resolve send .unknown none)]
  | readBack (run : Nat) (send : AmbiguousSend) (sentText : String)
      (candidates : List ResolvedMentionReply) (answered : choice.listing = some candidates) :
      OutboxStep choice db (.readBack run) (some (.readBack (.readBack send sentText)))
        { db with
          platform :=
            { db.platform with listed := db.platform.listed ++ [(send.id, candidates)] } }
        [.readBack
          (match SendReconciliationService.findMatch candidates sentText send.lastErrorAt with
            | some found => .resolve send .landed (some found.platformId)
            | none => .resolve send .lost none)]
  | resolved (run : Nat) (send : AmbiguousSend) (outcome : ReadBackOutcome)
      (platformEventId : Option String) (row : OutboundEventRow)
      (found : db.events.get? send.id = some row) (unresolved : row.metadata.readBack = none) :
      OutboxStep choice db (.readBack run)
        (some (.readBack (.resolve send outcome platformEventId)))
        (db.withEvent send.id (·.resolved outcome platformEventId))
        (if outcome = .landed then [.readBack (.recordLanded send platformEventId)] else [])
  | recordedLanded (run : Nat) (send : AmbiguousSend) (platformEventId : Option String) :
      OutboxStep choice db (.readBack run)
        (some (.readBack (.recordLanded send platformEventId)))
        ((db.recordDelivery send.enterpriseId send.id platformEventId .sent
          choice.now).toOption.getD db) []
  | called (agent : Nat) :
      OutboxStep choice db (.agent agent) none (choice.call.apply choice.now db) []
  | echoed (projector : Nat) (echo : PlatformMessage) (told : choice.event = .echo echo) :
      OutboxStep choice db (.projector projector) none db [.project (.findRecorded echo)]
  | commented (projector : Nat) (message : PlatformMessage)
      (told : choice.event = .comment message) :
      OutboxStep choice db (.projector projector) none (db.insertInbound message choice.now).2 []
  | echoKnown (projector : Nat) (echo : PlatformMessage)
      (known : (db.findIdByPlatformMessageId echo.enterpriseId echo.platformMessageId).isSome) :
      OutboxStep choice db (.projector projector) (some (.project (.findRecorded echo)))
        (DirectMessageProjector.projected db echo) []
  | echoUnknown (projector : Nat) (echo : PlatformMessage) :
      OutboxStep choice db (.projector projector) (some (.project (.findRecorded echo))) db
        [.project (.claimPending echo)]
  | echoClaimed (projector : Nat) (echo : PlatformMessage) (stored : Stored MessageRow)
      (pending : db.pendingOutbound echo choice.skipped = some stored)
      (free : db.platformIdTaken echo.enterpriseId echo.platformMessageId = false) :
      OutboxStep choice db (.projector projector) (some (.project (.claimPending echo)))
        (DirectMessageProjector.projected
          { db with
            messages :=
              db.messages.update stored.id (·.stamped echo.platformMessageId choice.now) } echo) []
  | echoUnmatched (projector : Nat) (echo : PlatformMessage)
      (unmatched : db.pendingOutbound echo choice.skipped = none) :
      OutboxStep choice db (.projector projector) (some (.project (.claimPending echo))) db
        [.project (.insertRecovered echo)]
  | echoInserted (projector : Nat) (echo : PlatformMessage) :
      OutboxStep choice db (.projector projector) (some (.project (.insertRecovered echo)))
        (DirectMessageProjector.insertRecovered echo choice.now db) []

theorem outbox_start (choice : OutboxChoice) (db : OutboundDb) (party : OutboxParty) :
    OutboxStep choice db party none (outbox.start db party choice).1
      (outbox.start db party choice).2 := by
  show OutboxStep choice db party none (startOutbox db party choice).1
    (startOutbox db party choice).2
  unfold startOutbox
  split
  · exact .dropped party none
  · cases party with
    | relay leaseOwner =>
        simp only [OutboundRelayWorker.pollOnce]
        split
        · exact .dropped _ none
        · rw [List.map_map]
          exact .polled leaseOwner
    | reaper => exact .reclaimed
    | readBack run => exact .listed run
    | agent agent => exact .called agent
    | projector projector =>
        dsimp only
        split
        · next message told => exact .echoed projector message told
        · next message told => exact .commented projector message told

theorem relay_park (leaseOwner : Nat) (choice : OutboxChoice) (db : OutboundDb)
    (event : ClaimedOutboundEvent) (retryAt : Int) :
    OutboxStep choice db (.relay leaseOwner) (some (.relay (.park event retryAt)))
      (OutboundRelayWorker.park leaseOwner event retryAt choice.now db) [] := by
  unfold OutboundRelayWorker.park
  cases result : db.markRateLimited event.id leaseOwner retryAt outboundRateLimitMaxWaitMs
      choice.now with
  | mk outcome after =>
      cases outcome with
      | parked =>
          obtain ⟨row, found, held, young, rfl⟩ := OutboundDb.markRateLimited_parked result
          exact .parked leaseOwner event retryAt row found held young
      | deadLettered =>
          obtain ⟨row, found, held, old, rfl⟩ := OutboundDb.markRateLimited_deadLettered result
          exact .parkedForGood leaseOwner event retryAt row found held old
      | notApplied =>
          rw [OutboundDb.markRateLimited_notApplied result]
          exact .dropped _ _

theorem relay_markRateLimited (leaseOwner : Nat) (choice : OutboxChoice) (db : OutboundDb)
    (event : ClaimedOutboundEvent) (retryAt : Int) :
    OutboxStep choice db (.relay leaseOwner) (some (.relay (.markRateLimited event retryAt)))
      (OutboundRelayWorker.markRateLimited leaseOwner event retryAt choice.now db).1
      ((OutboundRelayWorker.markRateLimited leaseOwner event retryAt choice.now db).2.map
        .relay) := by
  unfold OutboundRelayWorker.markRateLimited
  split
  · next after result =>
      obtain ⟨row, found, held, old, rfl⟩ := OutboundDb.markRateLimited_deadLettered result
      exact .throttledForGood leaseOwner event retryAt row found held old
  · next after result =>
      obtain ⟨row, found, held, young, rfl⟩ := OutboundDb.markRateLimited_parked result
      exact .throttled leaseOwner event retryAt row found held young
  · exact .dropped _ _

theorem relay_send (leaseOwner : Nat) (choice : OutboxChoice) (db : OutboundDb)
    (event : ClaimedOutboundEvent) (channel : ChannelSendContext) :
    OutboxStep choice db (.relay leaseOwner) (some (.relay (.send event channel)))
      (OutboundRelayWorker.send event channel choice.toRelayChoice db).1
      ((OutboundRelayWorker.send event channel choice.toRelayChoice db).2.map .relay) := by
  unfold OutboundRelayWorker.send
  cases built : OutboundRelayWorker.graphCall event channel with
  | none => exact .incomplete leaseOwner event channel built
  | some call =>
      cases answered : choice.answer with
      | accepted platformId =>
          exact .accepted leaseOwner event channel call built platformId answered
      | failed error => exact .refused leaseOwner event channel call built error answered
      | failedAfterwards error platformId =>
          exact .refusedAfterwards leaseOwner event channel call built error platformId answered

theorem relay_settleAsFailed (leaseOwner : Nat) (choice : OutboxChoice) (db : OutboundDb)
    (event : ClaimedOutboundEvent) (ambiguous : Bool) :
    OutboxStep choice db (.relay leaseOwner) (some (.relay (.settleAsFailed event ambiguous)))
      (OutboundRelayWorker.settleAsFailed leaseOwner event ambiguous choice.now db) [] := by
  unfold OutboundRelayWorker.settleAsFailed
  split
  · exact .dropped _ _
  · next after result =>
      have updated : db.updateEvent event.id (·.heldBy leaseOwner)
          (·.cancelled ambiguous choice.now) = (true, after) := by
        cases ambiguous <;> exact result
      obtain ⟨row, found, held, rfl⟩ := OutboundDb.updateEvent_true updated
      exact .cancelled leaseOwner event ambiguous row found held

theorem relay_run (leaseOwner : Nat) (choice : OutboxChoice) (db : OutboundDb)
    (task : RelayTask) :
    OutboxStep choice db (.relay leaseOwner) (some (.relay task))
      (OutboundRelayWorker.run leaseOwner choice.toRelayChoice db task).1
      ((OutboundRelayWorker.run leaseOwner choice.toRelayChoice db task).2.map .relay) := by
  cases task with
  | deliver event => exact .delivered leaseOwner event
  | park event retryAt => exact relay_park leaseOwner choice db event retryAt
  | checkLease event channel =>
      simp only [OutboundRelayWorker.run]
      split
      · next holds => exact .leaseHeld leaseOwner event channel holds
      · exact .dropped _ _
  | send event channel => exact relay_send leaseOwner choice db event channel
  | markSent event platformId =>
      simp only [OutboundRelayWorker.run, OutboundRelayWorker.markSent]
      split
      · exact .dropped _ _
      · next after result =>
          obtain ⟨row, found, held, rfl⟩ := OutboundDb.updateEvent_true result
          exact .markedSent leaseOwner event platformId row found (by simpa using held)
  | recordSent event platformId => exact .recordedSent leaseOwner event platformId
  | settleAsFailed event ambiguous =>
      exact relay_settleAsFailed leaseOwner choice db event ambiguous
  | markFailed event nextAttemptAt =>
      simp only [OutboundRelayWorker.run, OutboundRelayWorker.markFailed]
      split
      · exact .dropped _ _
      · next after result =>
          obtain ⟨row, found, held, rfl⟩ := OutboundDb.updateEvent_true result
          rw [apply_ite (List.map OutboxTask.relay)]
          exact .markedFailed leaseOwner event nextAttemptAt row found held
  | markRateLimited event retryAt =>
      exact relay_markRateLimited leaseOwner choice db event retryAt
  | settleMessage event => exact .settledMessage leaseOwner event

theorem readBack_run (run : Nat) (choice : OutboxChoice) (db : OutboundDb)
    (task : ReadBackTask) :
    OutboxStep choice db (.readBack run) (some (.readBack task))
      (SendReconciliationService.run choice.toReadBackChoice db task).1
      ((SendReconciliationService.run choice.toReadBackChoice db task).2.map .readBack) := by
  cases task with
  | reconcileOne send => exact .reconciled run send
  | readBack send sentText =>
      simp only [SendReconciliationService.run, SendReconciliationService.readBack]
      split
      · exact .unaddressed run send sentText
      · split
        · exact .dropped _ _
        · next candidates answered =>
            exact .readBack run send sentText candidates answered
  | resolve send outcome platformEventId =>
      simp only [SendReconciliationService.run, SendReconciliationService.resolve]
      split
      · exact .dropped _ _
      · next after result =>
          obtain ⟨row, found, unresolved, rfl⟩ := OutboundDb.updateEvent_true result
          rw [apply_ite (List.map OutboxTask.readBack)]
          exact .resolved run send outcome platformEventId row found (by simpa using unresolved)
  | recordLanded send platformEventId => exact .recordedLanded run send platformEventId

theorem project_run (projector : Nat) (choice : OutboxChoice) (db : OutboundDb)
    (task : ProjectionTask) :
    OutboxStep choice db (.projector projector) (some (.project task))
      (DirectMessageProjector.run choice db task).1
      ((DirectMessageProjector.run choice db task).2.map .project) := by
  cases task with
  | findRecorded echo =>
      simp only [DirectMessageProjector.run, DirectMessageProjector.findRecorded]
      split
      · next known => exact .echoKnown projector echo known
      · exact .echoUnknown projector echo
  | claimPending echo =>
      simp only [DirectMessageProjector.run, DirectMessageProjector.claimPending,
        OutboundDb.claimPendingOutbound]
      cases pending : db.pendingOutbound echo choice.skipped with
      | none => exact .echoUnmatched projector echo pending
      | some stored =>
          cases taken : db.platformIdTaken echo.enterpriseId echo.platformMessageId with
          | true => exact .dropped _ _
          | false => exact .echoClaimed projector echo stored pending taken
  | insertRecovered echo => exact .echoInserted projector echo

theorem outbox_run (choice : OutboxChoice) (db : OutboundDb) (party : OutboxParty)
    (task : OutboxTask) :
    OutboxStep choice db party (some task) (outbox.run db party task choice).1
      (outbox.run db party task choice).2 := by
  show OutboxStep choice db party (some task) (runOutbox db party task choice).1
    (runOutbox db party task choice).2
  unfold runOutbox
  split
  · exact .dropped party _
  · split
    · exact relay_run _ choice db _
    · exact readBack_run _ choice db _
    · exact project_run _ choice db _
    · exact .dropped party _

end UnifiedService.Outbound
