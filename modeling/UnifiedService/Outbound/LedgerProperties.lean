import UnifiedService.Outbound.OutboxSteps

/-! What the statements leave of the ledger, the moves a step can make with one of its
rows, and the frames: which steps leave the ledger alone. -/

set_option autoImplicit false

namespace UnifiedService.Outbound

open UnifiedService.Library

namespace OutboundDb

@[simp] theorem withEvent_messages (db : OutboundDb) (id : Nat)
    (change : OutboundEventRow → OutboundEventRow) :
    (db.withEvent id change).messages = db.messages := rfl

@[simp] theorem withEvent_platform (db : OutboundDb) (id : Nat)
    (change : OutboundEventRow → OutboundEventRow) :
    (db.withEvent id change).platform = db.platform := rfl

theorem get?_withEvent (db : OutboundDb) (id : Nat)
    (change : OutboundEventRow → OutboundEventRow) (other : Nat) :
    (db.withEvent id change).events.get? other =
      if id = other then (db.events.get? other).map change else db.events.get? other :=
  Table.get?_update db.events id change other

theorem mem_dueRows {db : OutboundDb} {limit : Nat} {now : Int} {skipped : List Nat}
    {stored : Stored OutboundEventRow} (due : stored ∈ db.dueRows limit now skipped) :
    db.events.get? stored.id = some stored.row ∧ stored.row.status.isDue = true := by
  have listed := (List.perm_insertionSort _ _).mem_iff.mp (List.mem_of_mem_take due)
  obtain ⟨found, wanted⟩ := Table.mem_select.mp (List.mem_of_mem_filter listed)
  rw [Bool.and_eq_true] at wanted
  exact ⟨found, wanted.1⟩

def claimedIds (db : OutboundDb) (limit : Nat) (now : Int) (skipped : List Nat) : List Nat :=
  (db.dueRows limit now skipped).map (·.id)

theorem get?_claimDueBatch (db : OutboundDb) (leaseOwner limit leaseSeconds : Nat) (now : Int)
    (skipped : List Nat) (id : Nat) :
    (db.claimDueBatch leaseOwner limit leaseSeconds now skipped).2.events.get? id =
      (db.events.get? id).map fun row =>
        if (db.claimedIds limit now skipped).contains id then
          row.claimed leaseOwner leaseSeconds now
        else row :=
  Table.get?_updateWhere db.events _ _ id

theorem due_of_claimed {db : OutboundDb} {limit : Nat} {now : Int} {skipped : List Nat}
    {id : Nat} {row : OutboundEventRow}
    (claimed : (db.claimedIds limit now skipped).contains id = true)
    (found : db.events.get? id = some row) : row.status.isDue = true := by
  obtain ⟨stored, due, rfl⟩ := List.mem_map.mp (List.contains_iff_mem.mp claimed)
  obtain ⟨there, isDue⟩ := mem_dueRows due
  rw [found, Option.some.injEq] at there
  exact there ▸ isDue

def expiredIds (db : OutboundDb) (limit : Nat) (now : Int) (skipped : List Nat) : List Nat :=
  (((db.events.select (leaseExpired now)).filter fun stored =>
    !skipped.contains stored.id).take limit).map (·.id)

theorem get?_reclaimExpiredLeases (db : OutboundDb) (limit : Nat) (now : Int)
    (skipped : List Nat) (id : Nat) :
    (db.reclaimExpiredLeases limit now skipped).events.get? id =
      (db.events.get? id).map fun row =>
        if (db.expiredIds limit now skipped).contains id then row.reclaimed else row :=
  Table.get?_updateWhere db.events _ _ id

theorem leased_of_expired {db : OutboundDb} {limit : Nat} {now : Int} {skipped : List Nat}
    {id : Nat} {row : OutboundEventRow}
    (expired : (db.expiredIds limit now skipped).contains id = true)
    (found : db.events.get? id = some row) : row.status.isLeased = true := by
  obtain ⟨stored, taken, rfl⟩ := List.mem_map.mp (List.contains_iff_mem.mp expired)
  obtain ⟨there, leased⟩ :=
    Table.mem_select.mp (List.mem_of_mem_filter (List.mem_of_mem_take taken))
  rw [found, Option.some.injEq] at there
  subst there
  obtain ⟨expiresAt, _, either⟩ := Option.any_eq_true _ _ |>.mp leased
  rw [Bool.or_eq_true, Bool.and_eq_true, Bool.and_eq_true] at either
  rcases either with ⟨status, _⟩ | ⟨status, _⟩
  · rw [eq_of_beq status]
    rfl
  · rw [eq_of_beq status]
    rfl

theorem mem_listAmbiguousAwaitingReadBack {db : OutboundDb} {limit : Nat}
    {settledBeforeMs now : Int} {skipped : List Nat} {send : AmbiguousSend}
    (listed : send ∈ db.listAmbiguousAwaitingReadBack limit settledBeforeMs now skipped) :
    ∃ row, db.events.get? send.id = some row ∧
      ambiguousSend settledBeforeMs now ⟨send.id, row⟩ = some send := by
  have mapped := (List.perm_insertionSort _ _).mem_iff.mp (List.mem_of_mem_take listed)
  obtain ⟨stored, selected, made⟩ := List.mem_filterMap.mp mapped
  obtain ⟨found, _⟩ := Table.mem_select.mp (List.mem_of_mem_filter selected)
  have same : send.id = stored.id := by
    unfold ambiguousSend at made
    split at made
    · split at made
      · obtain rfl := Option.some.inj made
        rfl
      · contradiction
    · contradiction
  rw [same]
  exact ⟨stored.row, found, made⟩

theorem ambiguousSend_some {settledBeforeMs now : Int} {stored : Stored OutboundEventRow}
    {send : AmbiguousSend} (made : ambiguousSend settledBeforeMs now stored = some send) :
    stored.row.status = .cancelled ∧ stored.row.metadata.readBack = none ∧
      stored.row.enterpriseId = some send.enterpriseId ∧
      stored.row.lastErrorAt = some send.lastErrorAt ∧ stored.row.payload = send.payload := by
  unfold ambiguousSend at made
  split at made
  · next enterpriseId channelId lastErrorAt enterprise channel erred =>
      split at made
      · next guard =>
          obtain rfl := Option.some.inj made
          exact ⟨guard.1, guard.2.2.2.2.1, enterprise, erred, rfl⟩
      · contradiction
  · contradiction

theorem enqueue_cases {db after : OutboundDb} {input : EnqueueOutboundInput} {now : Int}
    {id : Option Nat} (enqueued : db.enqueue input now = (id, after)) :
    id = none ∧ after = db ∧
        (∃ other row, db.events.get? other = some row ∧
          row.enterpriseId = input.enterpriseId ∧ row.dedupKey = input.dedupKey) ∨
      id = some db.events.nextId ∧
        after = { db with events := db.events.insert (input.row now) } ∧
        ∀ other row, db.events.get? other = some row → row.enterpriseId = input.enterpriseId →
          row.dedupKey ≠ input.dedupKey := by
  unfold enqueue at enqueued
  split at enqueued
  · next taken =>
      obtain ⟨row, stored, same⟩ := List.any_eq_true.mp taken
      obtain ⟨other, found⟩ := Table.mem_rows_iff.mp stored
      rw [Bool.and_eq_true] at same
      simp only [Prod.mk.injEq] at enqueued
      exact .inl ⟨enqueued.1.symm, enqueued.2.symm, other, row, found, eq_of_beq same.1,
        eq_of_beq same.2⟩
  · next free =>
      simp only [Prod.mk.injEq] at enqueued
      refine .inr ⟨enqueued.1.symm, enqueued.2.symm, fun other row found enterprise key => ?_⟩
      refine free (List.any_eq_true.mpr ⟨row, Table.mem_rows_iff.mpr ⟨other, found⟩, ?_⟩)
      rw [enterprise, key, beq_self_eq_true, beq_self_eq_true, Bool.and_self]

/-! ### Write-backs -/

theorem recordDelivery_ok {db after : OutboundDb} {enterpriseId outboundEventId : Nat}
    {platformMessageId : Option String} {status : MessageStatus} {now : Int}
    (recorded : db.recordDelivery enterpriseId outboundEventId platformMessageId status now =
      .ok after) :
    after = { db with
      messages := db.messages.updateWhere (fun _ message =>
        message.sentBy enterpriseId outboundEventId)
          (·.delivered platformMessageId status now) } := by
  unfold recordDelivery at recorded
  dsimp only at recorded
  split at recorded
  · contradiction
  · exact (Except.ok.inj recorded).symm

theorem recordDelivery_cases (db : OutboundDb) (enterpriseId outboundEventId : Nat)
    (platformMessageId : Option String) (status : MessageStatus) (now : Int) :
    (db.recordDelivery enterpriseId outboundEventId platformMessageId status
        now).toOption.getD db = db ∨
      db.recordDelivery enterpriseId outboundEventId platformMessageId status now =
        .ok ((db.recordDelivery enterpriseId outboundEventId platformMessageId status
          now).toOption.getD db) := by
  cases db.recordDelivery enterpriseId outboundEventId platformMessageId status now with
  | error error => exact .inl rfl
  | ok after => exact .inr rfl

end OutboundDb

namespace OutboundRelayWorker

theorem recordDelivery_cases (event : ClaimedOutboundEvent) (platformId : Option String)
    (status : MessageStatus) (now : Int) (db : OutboundDb) :
    recordDelivery event platformId status now db = db ∨
      ∃ enterpriseId, event.enterpriseId = some enterpriseId ∧
        db.recordDelivery enterpriseId event.id platformId status now =
          .ok (recordDelivery event platformId status now db) := by
  unfold recordDelivery
  cases event.enterpriseId with
  | none => exact .inl rfl
  | some enterpriseId =>
      rcases db.recordDelivery_cases enterpriseId event.id platformId status now with
        same | recorded
      · exact .inl same
      · exact .inr ⟨enterpriseId, rfl, recorded⟩

/-! ### Who an event's next step is about -/

@[simp] theorem deliver_event (event : ClaimedOutboundEvent) (choice : RelayChoice) :
    (deliver event choice).event = event := by
  unfold deliver
  split
  · split_ifs <;> rfl
  · rfl

@[simp] theorem handleSendFailure_event (event : ClaimedOutboundEvent) (choice : RelayChoice)
    (error : SendError) : (handleSendFailure event choice error).event = event := by
  cases error with
  | other => rfl
  | graph error =>
      unfold handleSendFailure
      dsimp only
      split_ifs <;> rfl

/-- Neither the checks before a send nor its failure write to the message at once. -/
@[simp] theorem deliver_isRecord (event : ClaimedOutboundEvent) (choice : RelayChoice) :
    (deliver event choice).isRecord = false := by
  unfold deliver
  split
  · split_ifs <;> rfl
  · rfl

@[simp] theorem handleSendFailure_isRecord (event : ClaimedOutboundEvent) (choice : RelayChoice)
    (error : SendError) : (handleSendFailure event choice error).isRecord = false := by
  cases error with
  | other => rfl
  | graph error =>
      unfold handleSendFailure
      dsimp only
      split_ifs <;> rfl

@[simp] theorem recordDelivery_events (event : ClaimedOutboundEvent) (platformId : Option String)
    (status : MessageStatus) (now : Int) (db : OutboundDb) :
    (recordDelivery event platformId status now db).events = db.events := by
  rcases recordDelivery_cases event platformId status now db with same | ⟨_, _, recorded⟩
  · rw [same]
  · rw [OutboundDb.recordDelivery_ok recorded]

@[simp] theorem recordDelivery_platform (event : ClaimedOutboundEvent)
    (platformId : Option String) (status : MessageStatus) (now : Int) (db : OutboundDb) :
    (recordDelivery event platformId status now db).platform = db.platform := by
  rcases recordDelivery_cases event platformId status now db with same | ⟨_, _, recorded⟩
  · rw [same]
  · rw [OutboundDb.recordDelivery_ok recorded]

end OutboundRelayWorker

theorem SendReconciliationService.reconcileOne_cases (send : AmbiguousSend)
    (choice : ReadBackChoice) :
    reconcileOne send choice = .resolve send .unknown none ∨
      ∃ sentText, send.payload.message = some sentText ∧
        reconcileOne send choice = .readBack send sentText := by
  unfold reconcileOne
  split_ifs
  · exact .inl rfl
  · exact .inl rfl
  · exact .inl rfl
  · cases message : send.payload.message with
    | none => exact .inl rfl
    | some sentText => exact .inr ⟨sentText, rfl, rfl⟩

theorem SendReconciliationService.findMatch_some {candidates : List ResolvedMentionReply}
    {sentText : String} {attemptedAt : Int} {found : ResolvedMentionReply}
    (matched : findMatch candidates sentText attemptedAt = some found) :
    found ∈ candidates ∧ isMatch sentText attemptedAt found = true :=
  ⟨List.mem_of_find?_eq_some matched, List.find?_some matched⟩

/-! ### What an agent's request comes to -/

def MessageRow.changedBy (message : MessageRow) : ModerationAction → Bool
  | .hide => !message.isHiddenOnPlatform
  | .unhide => message.isHiddenOnPlatform
  | .delete => message.platformDeletedAt.isNone

inductive CallEffect (now : Int) (db : OutboundDb) : AgentCall → OutboundDb → Prop
  | refused (call : AgentCall) : CallEffect now db call db
  | noted (input : ReplyInput) (note : input.internalNote = true) :
      CallEffect now db (.reply input)
        { db with
          messages := db.messages.insert
            ((⟨input.enterpriseId, input.conversation.id, input.body, input.idempotencyKey, true⟩ :
              InsertOutboundMessageInput).row now) }
  | collided (input : ReplyInput) (eventType : OutboundEventType) (payload : OutboundPayload)
      (sends : replyEventTypeFor input.conversation.conversationKind = some eventType)
      (taken : ∃ id row, db.events.get? id = some row ∧
        row.enterpriseId = some input.enterpriseId ∧
        row.dedupKey =
          (InboxService.replyEvent input eventType payload db.messages.nextId).dedupKey) :
      CallEffect now db (.reply input)
        { db with
          messages := db.messages.insert
            ((⟨input.enterpriseId, input.conversation.id, input.body, input.idempotencyKey, false⟩ :
              InsertOutboundMessageInput).row now) }
  | replied (input : ReplyInput) (eventType : OutboundEventType) (payload : OutboundPayload)
      (sends : replyEventTypeFor input.conversation.conversationKind = some eventType)
      (built : InboxService.replyPayload input eventType = .ok payload)
      (fresh : ∀ id row, db.events.get? id = some row →
        row.enterpriseId = some input.enterpriseId → row.dedupKey ≠
          (InboxService.replyEvent input eventType payload db.messages.nextId).dedupKey) :
      CallEffect now db (.reply input)
        { db with
          messages := db.messages.insert
            { (⟨input.enterpriseId, input.conversation.id, input.body, input.idempotencyKey,
                false⟩ : InsertOutboundMessageInput).row now with
              outboundEventId := some db.events.nextId }
          events := db.events.insert
            ((InboxService.replyEvent input eventType payload db.messages.nextId).row now) }
  | moderated (input : ModerationInput) (action : ModerationAction) (message : MessageRow)
      (commentId : String) (found : db.messages.get? input.messageId = some message)
      (enterprise : message.enterpriseId = input.enterpriseId)
      (onPlatform : message.platformMessageId = some commentId)
      (present : message.platformDeletedAt = none)
      (changes : message.changedBy action = true)
      (fresh : ∀ id row, db.events.get? id = some row →
        row.enterpriseId = some input.enterpriseId → row.dedupKey ≠
          InboxService.moderationKey input.conversation.platform action
            (message.target input.messageId)) :
      CallEffect now db (.moderateComment input action)
        { db with
          messages := db.messages.update input.messageId (·.moderated action now)
          events := db.events.insert
            ((InboxService.moderationEvent input action (message.target input.messageId)
              commentId).row now) }
  | replayed (input : ModerationInput) (message : MessageRow) (commentId : String)
      (dead : Stored OutboundEventRow)
      (found : db.messages.get? input.messageId = some message)
      (enterprise : message.enterpriseId = input.enterpriseId)
      (onPlatform : message.platformMessageId = some commentId)
      (newest : db.findDeadModerationEvent input.enterpriseId commentId = some dead)
      (requeued : db.requeueDeadLettered input.enterpriseId dead.id maxModerationReplays now =
        (true, db.withEvent dead.id (·.replayed now))) :
      CallEffect now db (.retryModeration input) (db.withEvent dead.id (·.replayed now))

theorem OutboundDb.linkOutboundEvent_inserted (messages : Table MessageRow)
    (events : Table OutboundEventRow) (platform : PlatformRecord)
    (input : InsertOutboundMessageInput) (outboundEventId : Nat) (now : Int) :
    OutboundDb.linkOutboundEvent ⟨messages.insert (input.row now), events, platform⟩
        input.enterpriseId messages.nextId outboundEventId now =
      ⟨messages.insert { input.row now with outboundEventId := some outboundEventId },
        events, platform⟩ := by
  rw [OutboundDb.linkOutboundEvent, Table.updateWhere_id, Table.update_insert_nextId, if_pos]
  · rfl
  · exact beq_self_eq_true _

theorem reply_effect {input : ReplyInput} {now : Int} {db after : OutboundDb}
    (accepted : InboxService.reply input now db = .ok after) :
    CallEffect now db (.reply input) after := by
  unfold InboxService.reply at accepted
  obtain ⟨⟨messageId, inserted⟩, stored, accepted⟩ := bind_eq_ok.mp accepted
  unfold OutboundDb.insertOutbound at stored
  split at stored
  · contradiction
  · obtain ⟨rfl, rfl⟩ := Prod.mk.inj (Except.ok.inj stored)
    dsimp only at accepted
    split at accepted
    · next note =>
        obtain rfl := Except.ok.inj accepted
        rw [note]
        exact .noted input note
    · next public_ =>
        rw [Bool.not_eq_true] at public_
        split at accepted
        · contradiction
        · next eventType sends =>
            obtain ⟨payload, built, accepted⟩ := bind_eq_ok.mp accepted
            split at accepted
            · next same result =>
                obtain rfl := Except.ok.inj accepted
                rcases OutboundDb.enqueue_cases result with ⟨_, rfl, taken⟩ | ⟨impossible, _, _⟩
                · rw [public_]
                  exact .collided input eventType payload sends taken
                · contradiction
            · next eventId queued result =>
                obtain rfl := Except.ok.inj accepted
                rcases OutboundDb.enqueue_cases result with ⟨impossible, _, _⟩ | ⟨same, rfl, fresh⟩
                · contradiction
                · obtain rfl := Option.some.inj same
                  rw [public_]
                  have linked : CallEffect now db (.reply input) _ :=
                    .replied input eventType payload sends built fresh
                  rwa [OutboundDb.linkOutboundEvent_inserted]

theorem OutboundDb.lockModerationTarget_some {db : OutboundDb}
    {enterpriseId conversationId messageId : Nat} {target : ModerationTarget}
    (locked : db.lockModerationTarget enterpriseId conversationId messageId = some target) :
    ∃ message, db.messages.get? messageId = some message ∧
      message.enterpriseId = enterpriseId ∧ target = message.target messageId := by
  obtain ⟨message, kept, rfl⟩ := Option.map_eq_some_iff.mp locked
  obtain ⟨found, same⟩ := Option.filter_eq_some_iff.mp kept
  rw [Bool.and_eq_true] at same
  exact ⟨message, found, eq_of_beq same.1, rfl⟩

theorem truthy_some {text : Option String} {value : String} (given : truthy text = some value) :
    text = some value :=
  (Option.filter_eq_some_iff.mp given).1

theorem InboxService.decideModeration_ok {message : MessageRow} {id : Nat}
    {action : ModerationAction} {commentId : String}
    (decided : InboxService.decideModeration (message.target id) action = .ok commentId) :
    message.platformMessageId = some commentId ∧ message.platformDeletedAt = none ∧
      message.changedBy action = true := by
  unfold InboxService.decideModeration at decided
  split at decided
  · contradiction
  · next named =>
      split at decided
      · contradiction
      · next present =>
          split at decided
          · contradiction
          · next differs =>
              obtain rfl := Except.ok.inj decided
              have there : message.platformDeletedAt = none := by
                simpa [MessageRow.target] using present
              refine ⟨truthy_some named, there, ?_⟩
              simp only [MessageRow.target] at differs
              cases action with
              | hide => simpa [MessageRow.changedBy] using differs
              | unhide => simpa [MessageRow.changedBy] using differs
              | delete => simp [MessageRow.changedBy, there]

theorem moderateComment_effect {input : ModerationInput} {action : ModerationAction} {now : Int}
    {db after : OutboundDb}
    (accepted : InboxService.moderateComment input action now db = .ok after) :
    CallEffect now db (.moderateComment input action) after := by
  unfold InboxService.moderateComment at accepted
  obtain ⟨_, _, accepted⟩ := bind_eq_ok.mp accepted
  split at accepted
  · contradiction
  · next target locked =>
      obtain ⟨message, found, enterprise, rfl⟩ := OutboundDb.lockModerationTarget_some locked
      obtain ⟨commentId, decided, accepted⟩ := bind_eq_ok.mp accepted
      obtain ⟨onPlatform, present, changes⟩ := InboxService.decideModeration_ok decided
      split at accepted
      · contradiction
      · next eventId queued result =>
          obtain rfl := Except.ok.inj accepted
          rcases OutboundDb.enqueue_cases result with ⟨impossible, _, _⟩ | ⟨_, rfl, fresh⟩
          · contradiction
          · exact .moderated input action message commentId found enterprise onPlatform present
              changes fresh

theorem OutboundDb.requeueDeadLettered_true {db after : OutboundDb}
    {enterpriseId id maxReplays : Nat} {now : Int}
    (requeued : db.requeueDeadLettered enterpriseId id maxReplays now = (true, after)) :
    ∃ row, db.events.get? id = some row ∧ row.status = .deadLetter ∧
      row.metadata.replays < maxReplays ∧ after = db.withEvent id (·.replayed now) := by
  obtain ⟨row, found, applies, rfl⟩ := updateEvent_true requeued
  simp only [Bool.and_eq_true, decide_eq_true_eq, beq_iff_eq] at applies
  exact ⟨row, found, applies.1.2, applies.2, rfl⟩

theorem retryModeration_effect {input : ModerationInput} {now : Int} {db after : OutboundDb}
    (accepted : InboxService.retryModeration input now db = .ok after) :
    CallEffect now db (.retryModeration input) after := by
  unfold InboxService.retryModeration at accepted
  split at accepted
  · contradiction
  · next target locked =>
      obtain ⟨message, found, enterprise, rfl⟩ := OutboundDb.lockModerationTarget_some locked
      split at accepted
      · contradiction
      · next commentId named =>
          split at accepted
          · contradiction
          · next dead newest =>
              generalize (!(if dead.row.eventType = .commentDelete then input.mayDelete
                else input.mayHide)) = denied at accepted
              cases denied with
              | true => contradiction
              | false =>
                  rw [if_neg Bool.false_ne_true] at accepted
                  split at accepted
                  · contradiction
                  · next requeued result =>
                      obtain rfl := Except.ok.inj accepted
                      obtain ⟨row, there, _, _, rfl⟩ := OutboundDb.requeueDeadLettered_true result
                      exact .replayed input message commentId dead found enterprise
                        (truthy_some named) newest result

theorem apply_effect (call : AgentCall) (now : Int) (db : OutboundDb) :
    CallEffect now db call (call.apply now db) := by
  cases call with
  | reply input =>
      cases result : InboxService.reply input now db with
      | error error =>
          rw [AgentCall.apply, result]
          exact .refused _
      | ok after =>
          rw [AgentCall.apply, result]
          exact reply_effect result
  | moderateComment input action =>
      cases result : InboxService.moderateComment input action now db with
      | error error =>
          rw [AgentCall.apply, result]
          exact .refused _
      | ok after =>
          rw [AgentCall.apply, result]
          exact moderateComment_effect result
  | retryModeration input =>
      cases result : InboxService.retryModeration input now db with
      | error error =>
          rw [AgentCall.apply, result]
          exact .refused _
      | ok after =>
          rw [AgentCall.apply, result]
          exact retryModeration_effect result

theorem OutboundDb.findDeadModerationEvent_some {db : OutboundDb} {enterpriseId : Nat}
    {commentId : String} {dead : Stored OutboundEventRow}
    (newest : db.findDeadModerationEvent enterpriseId commentId = some dead) :
    db.events.get? dead.id = some dead.row ∧ dead.row.status = .deadLetter ∧
      dead.row.payload.commentId = some commentId ∧
      (dead.row.eventType = .commentHide ∨ dead.row.eventType = .commentDelete) := by
  obtain ⟨found, wanted⟩ := Table.mem_select.mp (List.mem_of_getLast? newest)
  simp only [isDeadModeration, Bool.and_eq_true, Bool.or_eq_true, beq_iff_eq] at wanted
  exact ⟨found, wanted.1.1.2, wanted.2, wanted.1.2⟩

end UnifiedService.Outbound
