import UnifiedService.Outbound.MessageProperties
import UnifiedService.Threads.Replies

/-! Replies that interleave do what replies in one go would have done, and a key gets one
message. -/

set_option autoImplicit false

namespace UnifiedService.Threads

open UnifiedService.Library
open UnifiedService.Outbound

/-! ### Keys -/

theorem keyTaken_eq_false {db : OutboundDb} {key : Nat × String} :
    keyTaken db key = false ↔
      ∀ id row, db.messages.get? id = some row → row.enterpriseId = key.1 →
        row.idempotencyKey ≠ some key.2 := by
  unfold keyTaken
  rw [List.any_eq_false]
  constructor
  · intro none_ id row found enterprise named
    refine none_ row (Table.mem_rows_iff.mpr ⟨id, found⟩) ?_
    simp [enterprise, named]
  · intro free row member
    obtain ⟨id, found⟩ := Table.mem_rows_iff.mp member
    have apart := free id row found
    simpa using apart

def KeysUnique (db : OutboundDb) : Prop :=
  ∀ id other row another key, db.messages.get? id = some row →
    db.messages.get? other = some another → row.enterpriseId = another.enterpriseId →
    row.idempotencyKey = some key → another.idempotencyKey = some key → id = other

structure SameMessage (row later : MessageRow) : Prop where
  enterpriseId : later.enterpriseId = row.enterpriseId
  conversationId : later.conversationId = row.conversationId
  body : later.body = row.body
  idempotencyKey : later.idempotencyKey = row.idempotencyKey
  isInternalNote : later.isInternalNote = row.isInternalNote

theorem SameMessage.refl (row : MessageRow) : SameMessage row row := ⟨rfl, rfl, rfl, rfl, rfl⟩

structure SparesKeys (before after : OutboundDb) : Prop where
  stays : Table.Kept SameMessage before.messages after.messages
  keyless : ∀ id later, before.messages.get? id = none → after.messages.get? id = some later →
    later.idempotencyKey = none

section Spares

variable {before after : OutboundDb}

theorem SparesKeys.refl (db : OutboundDb) : SparesKeys db db where
  stays := Table.Kept.refl SameMessage.refl _
  keyless := by
    intro id later absent found
    rw [absent] at found
    contradiction

theorem SparesKeys.origin (spares : SparesKeys before after) {id : Nat} {later : MessageRow}
    {key : String} (found : after.messages.get? id = some later)
    (named : later.idempotencyKey = some key) :
    ∃ row, before.messages.get? id = some row ∧ SameMessage row later := by
  cases there : before.messages.get? id with
  | none =>
      rw [spares.keyless id later there found] at named
      contradiction
  | some row =>
      obtain ⟨again, same, kept⟩ := spares.stays id row there
      obtain rfl := Option.some.inj (same.symm.trans found)
      exact ⟨row, rfl, kept⟩

theorem SparesKeys.free (spares : SparesKeys before after) {key : Nat × String}
    (free : keyTaken before key = false) : keyTaken after key = false := by
  rw [keyTaken_eq_false] at free ⊢
  intro id later found enterprise named
  obtain ⟨row, there, same⟩ := spares.origin found named
  exact free id row there (same.enterpriseId.symm.trans enterprise)
    (same.idempotencyKey.symm.trans named)

theorem SparesKeys.unique (spares : SparesKeys before after) (unique : KeysUnique before) :
    KeysUnique after := by
  intro id other row another key found there enterprise named also
  obtain ⟨old, first, same⟩ := spares.origin found named
  obtain ⟨older, second, alike⟩ := spares.origin there also
  exact unique id other old older key first second
    (same.enterpriseId.symm.trans (enterprise.trans alike.enterpriseId))
    (same.idempotencyKey.symm.trans named) (alike.idempotencyKey.symm.trans also)

end Spares

/-! ### What everybody else does -/

theorem MessageMove.same {choice : OutboxChoice} {db : OutboundDb} {id : Nat}
    {row later : MessageRow} {party : OutboxParty} {task : Option OutboxTask}
    (move : MessageMove choice db id row party task later) : SameMessage row later := by
  cases move with
  | stays | written | stamped | moderated => exact ⟨rfl, rfl, rfl, rfl, rfl⟩

/-- No party of the outbox touches a key, replies in one go apart. -/
theorem OutboxStep.sparesKeys {choice : OutboxChoice} {db after : OutboundDb}
    {party : OutboxParty} {task : Option OutboxTask} {next : List OutboxTask}
    (step : OutboxStep choice db party task after next)
    (other : repliesAtOnce party choice.call = false) : SparesKeys db after where
  stays := by
    intro id row found
    obtain ⟨later, there, move⟩ := step.messageMove found
    exact ⟨later, there, MessageMove.same move⟩
  keyless := by
    intro id later absent found
    cases step.messageSource absent found with
    | received => rfl
    | noted agent input asked note | replied agent input asked event =>
        rw [asked] at other
        contradiction

theorem outbox_sparesKeys (state : OutboxState) (party : OutboxParty) (choice : OutboxChoice)
    (other : repliesAtOnce party choice.call = false) :
    SparesKeys state.store (outbox.step state party choice).store := by
  cases queued : state.left party with
  | nil =>
      rw [(outbox.step_start queued choice).1]
      exact OutboxStep.sparesKeys (outbox_start choice state.store party) other
  | cons task rest =>
      rw [(outbox.step_run queued choice).1]
      exact OutboxStep.sparesKeys (outbox_run choice state.store party task) other

theorem outbox_agents {state : OutboxState} (idle : ∀ agent, state.left (.agent agent) = [])
    (party : OutboxParty) (choice : OutboxChoice) (agent : Nat) :
    (outbox.step state party choice).left (.agent agent) = [] := by
  by_cases same : OutboxParty.agent agent = party
  · subst same
    rw [(outbox.step_start (idle agent) choice).2]
    show (startOutbox state.store (.agent agent) choice).2 = []
    unfold startOutbox
    split <;> rfl
  · rw [Crew.left_step_of_ne _ _ _ same]
    exact idle agent

theorem after_outbound (operation : Operation) (request : Request) (db : InboxDb) (refId : String)
    (elsewhere : operation.asksOutbox = false) :
    (operation.after request db refId).outbound = db.outbound := by
  unfold Operation.after
  split
  · next answer next done =>
      cases operation with
      | reply | moderateComment | retryModeration => contradiction
      | readThread =>
          obtain ⟨conversation, _, done⟩ := bind_eq_ok.mp done
          cases done
          rfl
      | requestResync =>
          change requestResync request db refId = .ok (answer, next) at done
          unfold requestResync at done
          split at done
          · contradiction
          · split at done
            · contradiction
            · split at done
              · contradiction
              · cases done
                rfl
      | refreshAttachments =>
          obtain ⟨conversation, _, done⟩ := bind_eq_ok.mp done
          change (if _ then _ else _) = _ at done
          split at done
          · cases done
            rfl
          · split at done
            · cases done
              rfl
            · split at done
              · cases done
                rfl
              · split at done <;> cases done <;> rfl
      | assign employeeRefId =>
          obtain ⟨employeeId, _, done⟩ := bind_eq_ok.mp done
          obtain ⟨conversation, _, done⟩ := bind_eq_ok.mp done
          split at done <;> cases done <;> rfl
      | setStatus status =>
          obtain ⟨conversation, _, done⟩ := bind_eq_ok.mp done
          split at done <;> cases done <;> rfl
      | markRead =>
          obtain ⟨conversation, _, done⟩ := bind_eq_ok.mp done
          cases done
          rfl
  · rfl

/-! ### The write of a reply -/

theorem writeReply_messages (db : OutboundDb) (reply : CheckedReply) (begun : Int)
    (event : Option ReplyEvent) :
    ∃ eventId, (writeReply db reply begun event).messages = db.messages.insert
      { (⟨reply.input.enterpriseId, reply.input.conversation.id, reply.input.body,
          reply.input.idempotencyKey, reply.input.internalNote⟩ :
            InsertOutboundMessageInput).row begun with outboundEventId := eventId } := by
  unfold writeReply
  cases event with
  | none => exact ⟨none, rfl⟩
  | some event =>
      obtain ⟨eventType, payload⟩ := event
      dsimp only
      split
      · next queued result =>
          rcases OutboundDb.enqueue_cases result with ⟨_, rfl, _⟩ | ⟨impossible, _, _⟩
          · exact ⟨none, rfl⟩
          · contradiction
      · next eventId queued result =>
          rcases OutboundDb.enqueue_cases result with ⟨impossible, _, _⟩ | ⟨_, rfl, _⟩
          · contradiction
          · refine ⟨some eventId, ?_⟩
            dsimp only
            have linked := OutboundDb.linkOutboundEvent_inserted db.messages
              (db.events.insert ((InboxService.replyEvent reply.input eventType payload
                db.messages.nextId).row begun)) db.platform
              ⟨reply.input.enterpriseId, reply.input.conversation.id, reply.input.body,
                reply.input.idempotencyKey, reply.input.internalNote⟩ eventId begun
            exact congrArg OutboundDb.messages linked

/-- With its key still free, what the transaction of a reply wrote is the reply in one go. -/
theorem writeReply_eq {db : OutboundDb} {reply : CheckedReply} {begun : Int}
    {event : Option ReplyEvent} (built : replyEventOf reply = .ok event)
    (free : keyTaken db reply.call.key = false) :
    InboxService.reply reply.input begun db = .ok (writeReply db reply begun event) := by
  have inserted : db.insertOutbound ⟨reply.input.enterpriseId, reply.input.conversation.id,
      reply.input.body, reply.input.idempotencyKey, reply.input.internalNote⟩ begun =
      .ok (db.messages.nextId, { db with
        messages := db.messages.insert ((⟨reply.input.enterpriseId, reply.input.conversation.id,
          reply.input.body, reply.input.idempotencyKey, reply.input.internalNote⟩ :
            InsertOutboundMessageInput).row begun) }) := by
    unfold OutboundDb.insertOutbound
    rw [if_neg]
    exact Bool.eq_false_iff.mp free
  unfold InboxService.reply
  rw [inserted]
  unfold replyEventOf at built
  cases note : reply.call.input.internalNote with
  | true =>
      rw [note, if_pos rfl] at built
      obtain rfl := Except.ok.inj built
      have same : reply.input.internalNote = true := note
      change (if reply.input.internalNote = true then _ else _) = _
      rw [if_pos same]
      rfl
  | false =>
      rw [note, if_neg Bool.false_ne_true] at built
      have same : ¬reply.input.internalNote = true := by
        rw [Bool.not_eq_true]
        exact note
      change (if reply.input.internalNote = true then _ else _) = _
      rw [if_neg same]
      have kind : replyEventTypeFor reply.input.conversation.conversationKind =
          replyEventTypeFor reply.conversation.conversationKind := rfl
      rw [kind]
      cases sends : replyEventTypeFor reply.conversation.conversationKind with
      | none =>
          rw [sends] at built
          contradiction
      | some eventType =>
          rw [sends] at built
          dsimp only at built ⊢
          cases made : InboxService.replyPayload reply.input eventType with
          | error error =>
              rw [made] at built
              contradiction
          | ok payload =>
              rw [made] at built
              obtain rfl := Except.ok.inj built
              unfold writeReply
              dsimp only [bind, Except.bind]
              cases queued : OutboundDb.enqueue { db with
                  messages := db.messages.insert ((⟨reply.input.enterpriseId,
                    reply.input.conversation.id, reply.input.body, reply.input.idempotencyKey,
                    reply.input.internalNote⟩ : InsertOutboundMessageInput).row begun) }
                (InboxService.replyEvent reply.input eventType payload db.messages.nextId) begun with
              | mk eventId after =>
                  cases eventId with
                  | none => rfl
                  | some eventId => rfl

/-! ### What a statement does -/

/-- From its insert to its commit the transaction holds the entry of its key, which is free. -/
def ReplyReady (store : ReplyStore) (step : ReplyStep) (locks : List ReplyLock) : Prop :=
  match step with
  | .enqueue reply _ =>
      .entry reply.call.key ∈ locks ∧ keyTaken store.inbox.outbound reply.call.key = false
  | .recordMessage reply _ event | .commit reply _ event _ =>
      .entry reply.call.key ∈ locks ∧ keyTaken store.inbox.outbound reply.call.key = false ∧
        replyEventOf reply = .ok event
  | .requireConversation _ | .findByIdempotencyKey _ _ | .findSendContext _ _
  | .findReplyTarget _ _ | .insertOutbound _ => True

inductive Committed (store : ReplyStore) (locks : List ReplyLock) : ReplyStore → Prop
  | again (call : ReplyCall) (conversation : ConversationRow) (existing : Stored MessageRow)
      (found : store.inbox.findByIdempotencyKey call.enterpriseId call.input.idempotencyKey =
        some existing)
      (thread : existing.row.conversationId = conversation.id.value)
      (note : existing.row.isInternalNote = call.input.internalNote) :
      Committed store locks (store.answerAgain call conversation existing)
  | fresh (reply : CheckedReply) (begun : Int) (event : Option ReplyEvent)
      (occurredAt : Listing.Timestamp) (held : .entry reply.call.key ∈ locks)
      (free : keyTaken store.inbox.outbound reply.call.key = false)
      (built : replyEventOf reply = .ok event) :
      Committed store locks (store.commitReply reply begun event occurredAt)

section Statements

variable {store after : ReplyStore} {step next : ReplyStep} {locks : List ReplyLock}
  {now : Listing.Timestamp}

theorem statement_continues (ready : ReplyReady store step locks)
    (result : step.statement store now = .continues next) :
    ReplyReady store next (locks ++ step.takes) := by
  cases step with
  | requireConversation call =>
      simp only [ReplyStep.statement] at result
      split at result
      · contradiction
      · split at result
        · contradiction
        · split at result
          · contradiction
          · cases result
            trivial
  | findByIdempotencyKey call conversation =>
      simp only [ReplyStep.statement] at result
      split at result
      · split at result <;> contradiction
      · split at result <;> cases result <;> trivial
  | findSendContext call conversation =>
      simp only [ReplyStep.statement] at result
      split at result
      · contradiction
      · cases result
        trivial
  | findReplyTarget call conversation =>
      simp only [ReplyStep.statement] at result
      split at result
      · contradiction
      · cases result
        trivial
  | insertOutbound reply =>
      simp only [ReplyStep.statement] at result
      split at result
      · contradiction
      · next free =>
          cases result
          exact ⟨List.mem_append_right _ (List.mem_singleton_self _), Bool.eq_false_iff.mpr free⟩
  | enqueue reply begun =>
      simp only [ReplyStep.statement] at result
      split at result
      · contradiction
      · next event built =>
          cases result
          exact ⟨List.mem_append_left _ ready.1, ready.2, built⟩
  | recordMessage reply begun event =>
      cases result
      exact ⟨List.mem_append_left _ ready.1, ready.2⟩
  | commit reply begun event occurredAt => contradiction

theorem statement_commits (ready : ReplyReady store step locks)
    (result : step.statement store now = .commits after) : Committed store locks after := by
  cases step with
  | requireConversation call =>
      simp only [ReplyStep.statement] at result
      split at result
      · contradiction
      · split at result
        · contradiction
        · split at result <;> contradiction
  | findByIdempotencyKey call conversation =>
      simp only [ReplyStep.statement] at result
      split at result
      · next existing found =>
          split at result
          · contradiction
          · next same =>
              cases result
              rw [not_or, not_not, not_not] at same
              exact .again call conversation existing found same.1 same.2
      · split at result <;> contradiction
  | findSendContext call conversation =>
      simp only [ReplyStep.statement] at result
      split at result <;> contradiction
  | findReplyTarget call conversation =>
      simp only [ReplyStep.statement] at result
      split at result <;> contradiction
  | insertOutbound reply =>
      simp only [ReplyStep.statement] at result
      split at result <;> contradiction
  | enqueue reply begun =>
      simp only [ReplyStep.statement] at result
      split at result <;> contradiction
  | recordMessage reply begun event => contradiction
  | commit reply begun event occurredAt =>
      cases result
      exact .fresh reply begun event occurredAt ready.1 ready.2.1 ready.2.2

theorem ReplyReady.mono (ready : ReplyReady store step locks)
    (free : ∀ key, .entry key ∈ locks → keyTaken store.inbox.outbound key = false →
      keyTaken after.inbox.outbound key = false) : ReplyReady after step locks := by
  cases step with
  | enqueue reply begun => exact ⟨ready.1, free _ ready.1 ready.2⟩
  | recordMessage reply begun event | commit reply begun event occurredAt =>
      exact ⟨ready.1, free _ ready.1 ready.2.1, ready.2.2⟩
  | requireConversation | findByIdempotencyKey | findSendContext | findReplyTarget
  | insertOutbound => trivial

theorem writeReply_free {db : OutboundDb} {reply : CheckedReply} {begun : Int}
    {event : Option ReplyEvent} {key : Nat × String} (other : key ≠ reply.call.key)
    (free : keyTaken db key = false) : keyTaken (writeReply db reply begun event) key = false := by
  rw [keyTaken_eq_false] at free ⊢
  intro id row found enterprise named
  obtain ⟨eventId, written⟩ := writeReply_messages db reply begun event
  rw [written, Table.get?_insert] at found
  split at found
  · obtain rfl := Option.some.inj found
    exact other (Prod.ext enterprise.symm (Option.some.inj named).symm)
  · exact free id row found enterprise named

theorem Committed.free {otherLocks : List ReplyLock} (committed : Committed store locks after)
    (apart : locks.Disjoint otherLocks) {key : Nat × String} (held : .entry key ∈ otherLocks)
    (free : keyTaken store.inbox.outbound key = false) :
    keyTaken after.inbox.outbound key = false := by
  cases committed with
  | again => exact free
  | fresh reply begun event occurredAt mine =>
      refine writeReply_free ?_ free
      rintro rfl
      exact apart mine held

end Statements

/-! ### Invariants of the store -/

structure ReplyInvariant (holds : ReplyStore → Prop) : Prop where
  committed : ∀ {store locks after}, holds store → Committed store locks after → holds after
  spared : ∀ {store : ReplyStore} {inbox : InboxDb}, holds store →
    SparesKeys store.inbox.outbound inbox.outbound → holds { store with inbox := inbox }

section Invariants

variable {holds : ReplyStore → Prop} {desk : Desk}

theorem ReplyInvariant.advance (invariant : ReplyInvariant holds)
    {server : Server ReplyStore ReplyStep ReplyLock} (keeps : Server.Keeps holds ReplyReady server)
    (id : Nat) (now : Listing.Timestamp) :
    Server.Keeps holds ReplyReady (server.advance replyProgram id now) := by
  refine keeps.advance_of ?_ ?_
  · intro running next found result
    exact statement_continues (keeps.transactions id running found) result
  · intro running after found result
    have committed := statement_commits (keeps.transactions id running found) result
    refine ⟨invariant.committed keeps.store committed, ?_⟩
    intro other waiting different there apart
    refine (keeps.transactions other waiting there).mono fun key held free => ?_
    exact committed.free (List.disjoint_append_left.mp apart).1 held free

theorem ReplyInvariant.withInbox (invariant : ReplyInvariant holds)
    (keeps : Server.Keeps holds ReplyReady desk.server) {inbox : InboxDb}
    (spares : SparesKeys desk.inbox.outbound inbox.outbound) :
    Server.Keeps holds ReplyReady (desk.withInbox inbox).server :=
  keeps.restore (invariant.spared keeps.store spares) fun _ _ ready =>
    ready.mono fun _ _ free => spares.free free

theorem ReplyInvariant.turn (invariant : ReplyInvariant holds)
    (keeps : Server.Keeps holds ReplyReady desk.server) (turn : DeskTurn) :
    Server.Keeps holds ReplyReady (desk.turn turn).server := by
  cases turn with
  | calls call => exact keeps.begin trivial
  | advances id now => exact invariant.advance keeps id now
  | outbox party choice =>
      rw [Desk.turn]
      split
      · exact keeps
      · next other =>
          refine invariant.withInbox keeps ?_
          exact outbox_sparesKeys desk.outboxState party choice (Bool.eq_false_iff.mpr other)
  | operates operation request refId =>
      rw [Desk.turn]
      split
      · exact keeps
      · next other =>
          refine invariant.withInbox keeps ?_
          rw [after_outbound operation request desk.inbox refId (Bool.eq_false_iff.mpr other)]
          exact SparesKeys.refl _

theorem ReplyInvariant.run (invariant : ReplyInvariant holds)
    (keeps : Server.Keeps holds ReplyReady desk.server) (script : List DeskTurn) :
    Server.Keeps holds ReplyReady (desk.run script).server := by
  induction script generalizing desk with
  | nil => exact keeps
  | cons turn script ih => exact ih (invariant.turn keeps turn)

end Invariants

/-! ### The outbox sees replies in one go -/

def replyChoice (input : ReplyInput) (now : Int) : OutboxChoice where
  now := now
  skipped := []
  batchSize := 0
  leaseSeconds := 0
  appPressure := 0
  channel := none
  ownPressure := 0
  parentPressure := 0
  decrypts := false
  answer := .accepted none
  jitter := 0
  listing := none
  call := .reply input
  event := .echo ⟨0, 0, "", none⟩
  fails := false

def repliedIn (turn : OutboxParty × OutboxChoice) : Option ReplyInput :=
  match turn.1, turn.2.call with
  | .agent _, .reply input => some input
  | .agent _, .moderateComment _ _ | .agent _, .retryModeration _ => none
  | .relay _, _ | .reaper, _ | .readBack _, _ | .projector _, _ => none

theorem repliedIn_eq_none {party : OutboxParty} {choice : OutboxChoice}
    (other : repliesAtOnce party choice.call = false) : repliedIn (party, choice) = none := by
  unfold repliedIn
  cases party with
  | relay | reaper | readBack | projector => rfl
  | agent agent =>
      dsimp only
      cases asked : choice.call with
      | reply input =>
          rw [asked] at other
          contradiction
      | moderateComment | retryModeration => rfl

/-- Some run of the outbox comes to what the desk comes to, and its replies are the answers that
queued a message, one for one and in their order. -/
def Mirrored (inbox : InboxDb) (desk : Desk) : Prop :=
  ∃ steps, outbox.play (fun _ _ _ => true) (Crew.idle inbox.outbound) steps =
      some desk.outboxState ∧
    steps.filterMap repliedIn = desk.answers.filterMap (·.queued)

section Mirrored

variable {inbox : InboxDb} {desk after : Desk}

theorem Mirrored.same (mirrored : Mirrored inbox desk)
    (state : after.outboxState = desk.outboxState)
    (answers : after.answers.filterMap (·.queued) = desk.answers.filterMap (·.queued)) :
    Mirrored inbox after := by
  obtain ⟨steps, played, replies⟩ := mirrored
  exact ⟨steps, state ▸ played, answers ▸ replies⟩

theorem Mirrored.step (mirrored : Mirrored inbox desk) (party : OutboxParty)
    (choice : OutboxChoice)
    (state : after.outboxState = outbox.step desk.outboxState party choice)
    (answers : after.answers.filterMap (·.queued) =
      desk.answers.filterMap (·.queued) ++ [(party, choice)].filterMap repliedIn) :
    Mirrored inbox after := by
  obtain ⟨steps, played, replies⟩ := mirrored
  refine ⟨steps ++ [(party, choice)], ?_, ?_⟩
  · rw [Crew.play_append, played, state]
    rfl
  · rw [List.filterMap_append, replies, answers]

end Mirrored

theorem commitReply_step {store : ReplyStore} {reply : CheckedReply} {begun : Int}
    {event : Option ReplyEvent} (occurredAt : Listing.Timestamp)
    {left : OutboxParty → List OutboxTask} (idle : left (.agent 0) = [])
    (free : keyTaken store.inbox.outbound reply.call.key = false)
    (built : replyEventOf reply = .ok event) :
    (⟨(store.commitReply reply begun event occurredAt).inbox.outbound, left⟩ : OutboxState) =
      outbox.step ⟨store.inbox.outbound, left⟩ (.agent 0) (replyChoice reply.input begun) := by
  have started : outbox.advance ⟨store.inbox.outbound, left⟩ (.agent 0)
      (replyChoice reply.input begun) =
      (writeReply store.inbox.outbound reply begun event, []) := by
    rw [outbox.advance_start idle]
    show ((AgentCall.reply reply.input).apply begun store.inbox.outbound, []) = _
    rw [AgentCall.apply, writeReply_eq built free]
    rfl
  unfold Crew.step
  rw [started]
  dsimp only
  rw [← idle, Function.update_eq_self]
  rfl

structure DeskStanding (inbox : InboxDb) (desk : Desk) : Prop where
  keeps : Server.Keeps (fun _ => True) ReplyReady desk.server
  agents : ∀ agent, desk.left (.agent agent) = []
  mirrored : Mirrored inbox desk

theorem trivially_invariant : ReplyInvariant fun _ => True := ⟨fun _ _ => trivial, fun _ _ => trivial⟩

section Standing

variable {inbox : InboxDb} {desk : Desk}

theorem DeskStanding.advance (standing : DeskStanding inbox desk) (id : Nat)
    (now : Listing.Timestamp) : DeskStanding inbox (desk.turn (.advances id now)) where
  keeps := trivially_invariant.turn standing.keeps _
  agents := standing.agents
  mirrored := by
    rcases desk.server.advance_store replyProgram id now with same | ⟨running, found, result⟩
    · refine standing.mirrored.same ?_ ?_
      · show (⟨(desk.server.advance replyProgram id now).store.inbox.outbound, desk.left⟩ :
          OutboxState) = _
        rw [same]
        rfl
      · show (desk.server.advance replyProgram id now).store.answers.filterMap _ = _
        rw [same]
        rfl
    · have committed := statement_commits (standing.keeps.transactions id running found) result
      have settled : ∀ store, Committed desk.server.store running.locks store →
          (desk.server.advance replyProgram id now).store = store →
          Mirrored inbox (desk.turn (.advances id now)) := by
        intro store committed written
        have state : (desk.turn (.advances id now)).outboxState =
            ⟨store.inbox.outbound, desk.left⟩ := by
          rw [← written]
          rfl
        have answers : (desk.turn (.advances id now)).answers = store.answers := by
          rw [← written]
          rfl
        cases committed with
        | again call conversation existing =>
            refine standing.mirrored.same state ?_
            rw [answers]
            show List.filterMap _ (desk.server.store.answers ++ [_]) = _
            rw [List.filterMap_append]
            exact List.append_nil _
        | fresh reply begun event occurredAt held free built =>
            refine standing.mirrored.step (.agent 0) (replyChoice reply.input begun) ?_ ?_
            · rw [state]
              exact commitReply_step occurredAt (standing.agents 0) free built
            · rw [answers]
              exact List.filterMap_append ..
      exact settled _ committed rfl

theorem DeskStanding.turn (standing : DeskStanding inbox desk) (turn : DeskTurn) :
    DeskStanding inbox (desk.turn turn) := by
  cases turn with
  | calls call =>
      exact ⟨trivially_invariant.turn standing.keeps _, standing.agents,
        standing.mirrored.same rfl rfl⟩
  | advances id now => exact standing.advance id now
  | outbox party choice =>
      refine ⟨trivially_invariant.turn standing.keeps _, ?_, ?_⟩
      · rw [Desk.turn]
        split
        · exact standing.agents
        · exact outbox_agents standing.agents party choice
      · rw [Desk.turn]
        split
        · exact standing.mirrored
        · next other =>
            refine standing.mirrored.step party choice rfl ?_
            rw [List.filterMap_cons, repliedIn_eq_none (Bool.eq_false_iff.mpr other)]
            exact (List.append_nil _).symm
  | operates operation request refId =>
      refine ⟨trivially_invariant.turn standing.keeps _, ?_, ?_⟩
      · rw [Desk.turn]
        split <;> exact standing.agents
      · rw [Desk.turn]
        split
        · exact standing.mirrored
        · next other =>
            refine standing.mirrored.same ?_ rfl
            show (⟨(operation.after request desk.inbox refId).outbound, desk.left⟩ :
              OutboxState) = _
            rw [after_outbound operation request desk.inbox refId (Bool.eq_false_iff.mpr other)]
            rfl

theorem DeskStanding.run (standing : DeskStanding inbox desk) (script : List DeskTurn) :
    DeskStanding inbox (desk.run script) := by
  induction script generalizing desk with
  | nil => exact standing
  | cons turn script ih => exact ih (standing.turn turn)

end Standing

theorem deskStanding_idle (inbox : InboxDb) : DeskStanding inbox (.idle inbox) where
  keeps := .idle trivial
  agents _ := rfl
  mirrored := ⟨[], rfl, rfl⟩

/-- However calls of `reply` interleave, statement by statement, with each other and with all
the rest, the outbox comes to what it comes to when each reply that is queued is made in one
go. -/
theorem replies_made_in_one_go (inbox : InboxDb) (script : List DeskTurn) :
    ∃ steps, outbox.play (fun _ _ _ => true) (Crew.idle inbox.outbound) steps =
        some ((Desk.idle inbox).run script).outboxState ∧
      steps.filterMap repliedIn = ((Desk.idle inbox).run script).answers.filterMap (·.queued) :=
  ((deskStanding_idle inbox).run script).mirrored

/-! ### One message for a key -/

/-- The message an answer names is what was asked for, as far as a retry must agree on it. -/
structure ReplyAnswer.Names (answer : ReplyAnswer) (row : MessageRow) : Prop where
  enterpriseId : row.enterpriseId = answer.enterpriseId
  idempotencyKey : row.idempotencyKey = some answer.input.idempotencyKey
  conversationId : row.conversationId = answer.conversationId
  isInternalNote : row.isInternalNote = answer.input.internalNote
  body : answer.queued.isSome = true → row.body = some answer.input.body

theorem ReplyAnswer.Names.same {answer : ReplyAnswer} {row later : MessageRow}
    (names : answer.Names row) (same : SameMessage row later) : answer.Names later where
  enterpriseId := same.enterpriseId.trans names.enterpriseId
  idempotencyKey := same.idempotencyKey.trans names.idempotencyKey
  conversationId := same.conversationId.trans names.conversationId
  isInternalNote := same.isInternalNote.trans names.isInternalNote
  body queued := same.body.trans (names.body queued)

structure AnswersSound (store : ReplyStore) : Prop where
  unique : KeysUnique store.inbox.outbound
  named : ∀ answer ∈ store.answers, ∃ row,
    store.inbox.outbound.messages.get? answer.messageId = some row ∧ answer.Names row
  once : store.answers.Pairwise fun one other =>
    one.queued.isSome = true → other.queued.isSome = true → one.messageId < other.messageId

section Sound

variable {store : ReplyStore} {inbox : InboxDb}

theorem AnswersSound.spared (sound : AnswersSound store)
    (spares : SparesKeys store.inbox.outbound inbox.outbound) :
    AnswersSound { store with inbox := inbox } where
  unique := spares.unique sound.unique
  named := by
    intro answer member
    obtain ⟨row, found, names⟩ := sound.named answer member
    obtain ⟨later, there, same⟩ := spares.stays _ row found
    exact ⟨later, there, names.same same⟩
  once := sound.once

theorem findByIdempotencyKey_some {db : InboxDb} {enterpriseId : Nat} {key : String}
    {existing : Stored MessageRow}
    (found : db.findByIdempotencyKey enterpriseId key = some existing) :
    db.outbound.messages.get? existing.id = some existing.row ∧
      existing.row.enterpriseId = enterpriseId ∧ existing.row.idempotencyKey = some key := by
  obtain ⟨there, wanted⟩ := Table.find?_some found
  rw [Bool.and_eq_true, beq_iff_eq, beq_iff_eq] at wanted
  exact ⟨there, wanted⟩

theorem AnswersSound.again (sound : AnswersSound store) {call : ReplyCall}
    {conversation : ConversationRow} {existing : Stored MessageRow}
    (found : store.inbox.findByIdempotencyKey call.enterpriseId call.input.idempotencyKey =
      some existing)
    (thread : existing.row.conversationId = conversation.id.value)
    (note : existing.row.isInternalNote = call.input.internalNote) :
    AnswersSound (store.answerAgain call conversation existing) where
  unique := sound.unique
  named := by
    intro answer member
    rcases List.mem_append.mp member with old | new
    · exact sound.named answer old
    · cases List.mem_singleton.mp new
      obtain ⟨there, enterprise, named⟩ := findByIdempotencyKey_some found
      refine ⟨existing.row, there, enterprise, named, thread, note, ?_⟩
      intro impossible
      contradiction
  once := by
    refine List.pairwise_append.mpr ⟨sound.once, List.pairwise_singleton _ _, ?_⟩
    intro one _ other member _ impossible
    cases List.mem_singleton.mp member
    contradiction

theorem AnswersSound.fresh (sound : AnswersSound store) {reply : CheckedReply} (begun : Int)
    (event : Option ReplyEvent) (occurredAt : Listing.Timestamp)
    (free : keyTaken store.inbox.outbound reply.call.key = false) :
    AnswersSound (store.commitReply reply begun event occurredAt) := by
  obtain ⟨eventId, written⟩ := writeReply_messages store.inbox.outbound reply begun event
  rw [keyTaken_eq_false] at free
  have messages : (store.commitReply reply begun event occurredAt).inbox.outbound.messages =
      _ := written
  constructor
  · intro id other row another key found there enterprise named also
    rw [messages, Table.get?_insert] at found there
    split at found
    · next first =>
        split at there
        · next second => exact first.trans second.symm
        · obtain rfl := Option.some.inj found
          exact absurd (also.trans named.symm) (free other another there enterprise.symm)
    · split at there
      · obtain rfl := Option.some.inj there
        exact absurd (named.trans also.symm) (free id row found enterprise)
      · exact sound.unique id other row another key found there enterprise named also
  · intro answer member
    rw [messages]
    rcases List.mem_append.mp member with old | new
    · obtain ⟨row, found, names⟩ := sound.named answer old
      exact ⟨row, Table.get?_insert_of_some _ found, names⟩
    · cases List.mem_singleton.mp new
      refine ⟨_, (Table.get?_insert ..).trans (if_pos rfl), ?_⟩
      exact ⟨rfl, rfl, rfl, rfl, fun _ => rfl⟩
  · refine List.pairwise_append.mpr ⟨sound.once, List.pairwise_singleton _ _, ?_⟩
    intro one listed other member _ _
    cases List.mem_singleton.mp member
    obtain ⟨row, found, _⟩ := sound.named one listed
    exact Table.get?_lt found

theorem answersSound_invariant : ReplyInvariant AnswersSound where
  committed := by
    intro store locks after sound committed
    cases committed with
    | again call conversation existing found thread note => exact sound.again found thread note
    | fresh reply begun event occurredAt held free built =>
        exact sound.fresh begun event occurredAt free
  spared sound spares := sound.spared spares

end Sound

def ReplyAnswer.SameKey (one other : ReplyAnswer) : Prop :=
  one.enterpriseId = other.enterpriseId ∧ one.input.idempotencyKey = other.input.idempotencyKey

/-- However calls interleave, each that is answered is told of a message that is there, under its
key, on the thread it asked about and a note if it asked for one; all that are answered under one
key are told of one message, and at most one of them has queued it. -/
theorem one_message_for_a_key (inbox : InboxDb) (indexed : KeysUnique inbox.outbound)
    (script : List DeskTurn) :
    KeysUnique ((Desk.idle inbox).run script).inbox.outbound ∧
      (∀ answer ∈ ((Desk.idle inbox).run script).answers, ∃ row,
        ((Desk.idle inbox).run script).inbox.outbound.messages.get? answer.messageId = some row ∧
          answer.Names row) ∧
      ((Desk.idle inbox).run script).answers.Pairwise fun one other => one.SameKey other →
        one.messageId = other.messageId ∧ one.conversationId = other.conversationId ∧
          one.input.internalNote = other.input.internalNote ∧
          ¬(one.queued.isSome = true ∧ other.queued.isSome = true) := by
  have keeps := @ReplyInvariant.run _ (.idle inbox) answersSound_invariant
    (.idle ⟨indexed, fun _ impossible => absurd impossible List.not_mem_nil, .nil⟩) script
  refine ⟨keeps.store.unique, keeps.store.named, ?_⟩
  refine List.Pairwise.imp_of_mem ?_ keeps.store.once
  intro one other listed also ordered same
  obtain ⟨row, found, names⟩ := keeps.store.named one listed
  obtain ⟨another, there, alike⟩ := keeps.store.named other also
  have message := keeps.store.unique _ _ row another _ found there
    (names.enterpriseId.trans (same.1.trans alike.enterpriseId.symm)) names.idempotencyKey
    (alike.idempotencyKey.trans (congrArg some same.2.symm))
  rw [message, there] at found
  obtain rfl := Option.some.inj found
  refine ⟨message, names.conversationId.symm.trans alike.conversationId,
    names.isInternalNote.symm.trans alike.isInternalNote, ?_⟩
  intro both
  exact absurd message (Nat.ne_of_lt (ordered both.1 both.2))

section Example

def openThread : ConversationRow where
  id := .first
  enterpriseId := 1
  isDeleted := false
  status := .open_
  assignedToEmployeeId := none
  conversationKind := .directMessage
  lastMessageAt := none
  refId := "c1"
  channelId := 1
  customerIdentifierId := none
  platform := .instagram
  platformThreadId := "dm:p1"
  subject := none
  postId := none
  contextMetadata := ⟨none, none, none, false, []⟩
  unreadCount := 1
  messageCount := 1
  lastInboundAt := some 0
  firstRespondedAt := none

def oneThread : InboxDb where
  conversations := [openThread]
  outbound := .empty
  readMessages := []
  attachments := []
  jobs := .empty
  identifiers := []
  employees := []
  channels := [⟨1, 1, false, false, true, false, true⟩]

def helloCall : ReplyCall where
  request :=
    { enterpriseId := 1
      employeeId := some 1
      permissions := ["conversations.reply"]
      now := .epoch
      freshLinks := fun _ => none
      page := fun rows => ⟨rows, none, false⟩ }
  refId := "c1"
  input := ⟨"hello", "k1", false, none⟩

/-- Two calls under one key find nothing there, the second waits for the first to commit and
fails, and a third is told of the message. -/
def racingReplies : List DeskTurn :=
  [.calls helloCall, .calls helloCall] ++
    [0, 1, 0, 1, 0, 1, 0, 1, 0, 1, 0, 0, 0, 1].map (DeskTurn.advances · .epoch) ++
    [.calls helloCall] ++ [2, 2].map (DeskTurn.advances · .epoch)

theorem one_message_for_a_key_raced :
    ((Desk.idle oneThread).run racingReplies).answers.map
        (fun answer => (answer.messageId, answer.queued.isSome)) = [(0, true), (0, false)] ∧
      KeysUnique ((Desk.idle oneThread).run racingReplies).inbox.outbound := by
  refine ⟨by decide +kernel, (one_message_for_a_key oneThread ?_ racingReplies).1⟩
  intro id other row another key impossible
  contradiction

end Example

end UnifiedService.Threads
