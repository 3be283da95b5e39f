import UnifiedService.Library.ReadCommitted
import UnifiedService.Outbound.Outbox
import UnifiedService.Threads.Service

/-! The replies of agents statement by statement, among everybody else who works on the outbox.
What a reply reads before its transaction it reads a statement at a time, and what it read may
be out of date when it writes. -/

set_option autoImplicit false

namespace UnifiedService.Threads

open UnifiedService.Library
open UnifiedService.Outbound

structure ReplyCall where
  request : Request
  refId : String
  input : ReplyRequest

namespace ReplyCall

def enterpriseId (call : ReplyCall) : Nat := call.request.enterpriseId

/-- The columns of `messages_idempotency_uniq`. -/
def key (call : ReplyCall) : Nat × String := (call.enterpriseId, call.input.idempotencyKey)

end ReplyCall

/-- What the transaction of a reply locks: the entry it puts into the index of the keys, and the
conversation it counts its message on. -/
inductive ReplyLock where
  | entry (key : Nat × String)
  | conversation (id : Listing.SafeId)
  deriving DecidableEq, Repr

structure CheckedReply where
  call : ReplyCall
  conversation : ConversationRow
  replyTo : Option String

def CheckedReply.input (reply : CheckedReply) : ReplyInput :=
  ⟨reply.call.enterpriseId, outboxConversation reply.conversation, reply.call.input.body,
    reply.call.input.idempotencyKey, reply.call.input.internalNote, reply.replyTo⟩

abbrev ReplyEvent := OutboundEventType × OutboundPayload

/-- The statement a call is at. Its transaction begins with the insert, and `begun` is the
`now()` of it. -/
inductive ReplyStep where
  | requireConversation (call : ReplyCall)
  | findByIdempotencyKey (call : ReplyCall) (conversation : ConversationRow)
  | findSendContext (call : ReplyCall) (conversation : ConversationRow)
  | findReplyTarget (call : ReplyCall) (conversation : ConversationRow)
  | insertOutbound (reply : CheckedReply)
  | enqueue (reply : CheckedReply) (begun : Int)
  | recordMessage (reply : CheckedReply) (begun : Int) (event : Option ReplyEvent)
  | commit (reply : CheckedReply) (begun : Int) (event : Option ReplyEvent)
      (occurredAt : Listing.Timestamp)

/-- What a caller was told: the message of its reply, which its own call has queued or which was
there under the key. -/
structure ReplyAnswer where
  enterpriseId : Nat
  conversationId : Nat
  input : ReplyRequest
  messageId : Nat
  status : MessageStatus
  queued : Option ReplyInput
  deriving DecidableEq, Repr

structure ReplyStore where
  inbox : InboxDb
  answers : List ReplyAnswer
  deriving DecidableEq, Repr

def keyTaken (db : OutboundDb) (key : Nat × String) : Bool :=
  db.messages.rows.any fun message =>
    message.enterpriseId == key.1 && message.idempotencyKey == some key.2

def writeReply (db : OutboundDb) (reply : CheckedReply) (begun : Int)
    (event : Option ReplyEvent) : OutboundDb :=
  let messageId := db.messages.nextId
  let inserted := { db with
    messages := db.messages.insert ((⟨reply.input.enterpriseId, reply.input.conversation.id,
      reply.input.body, reply.input.idempotencyKey, reply.input.internalNote⟩ :
        InsertOutboundMessageInput).row begun) }
  match event with
  | none => inserted
  | some (eventType, payload) =>
      match inserted.enqueue (InboxService.replyEvent reply.input eventType payload messageId)
          begun with
      | (none, db) => db
      | (some eventId, db) =>
          db.linkOutboundEvent reply.input.enterpriseId messageId eventId begun

namespace ReplyStore

def answerAgain (store : ReplyStore) (call : ReplyCall) (conversation : ConversationRow)
    (existing : Stored MessageRow) : ReplyStore :=
  { store with
    answers := store.answers ++ [⟨call.enterpriseId, conversation.id.value, call.input,
      existing.id, existing.row.status, none⟩] }

def commitReply (store : ReplyStore) (reply : CheckedReply) (begun : Int)
    (event : Option ReplyEvent) (occurredAt : Listing.Timestamp) : ReplyStore where
  inbox :=
    { store.inbox with outbound := writeReply store.inbox.outbound reply begun event }.recordOutbound
      reply.call.enterpriseId reply.conversation.id occurredAt
  answers := store.answers ++ [⟨reply.call.enterpriseId, reply.conversation.id.value,
    reply.call.input, store.inbox.outbound.messages.nextId,
    if reply.call.input.internalNote then .delivered else .pending, some reply.input⟩]

end ReplyStore

def replyEventOf (reply : CheckedReply) : Except OutboundError (Option ReplyEvent) :=
  if reply.call.input.internalNote then .ok none
  else
    match replyEventTypeFor reply.conversation.conversationKind with
    | none => .error .replyNotSupported
    | some eventType =>
        (InboxService.replyPayload reply.input eventType).map fun payload =>
          some (eventType, payload)

namespace ReplyStep

/-- An insert waits for whoever puts the same entry in, and an update for whoever writes the
same row. -/
def takes : ReplyStep → List ReplyLock
  | .insertOutbound reply => [.entry reply.call.key]
  | .recordMessage reply _ _ => [.conversation reply.conversation.id]
  | .requireConversation _ | .findByIdempotencyKey _ _ | .findSendContext _ _
  | .findReplyTarget _ _ | .enqueue _ _ | .commit _ _ _ _ => []

def statement (store : ReplyStore) (now : Listing.Timestamp) :
    ReplyStep → Outcome ReplyStore ReplyStep
  | .requireConversation call =>
      if call.request.employeeId.isNone then .throws
      else
        match Threads.requireConversation call.request store.inbox call.refId .reply with
        | .error _ => .throws
        | .ok conversation =>
            if (closedToReplies conversation.status && !call.input.internalNote) = true ∨
                conversation.status = .archived then .throws
            else .continues (.findByIdempotencyKey call conversation)
  | .findByIdempotencyKey call conversation =>
      match store.inbox.findByIdempotencyKey call.enterpriseId call.input.idempotencyKey with
      | some existing =>
          if existing.row.conversationId ≠ conversation.id.value ∨
              existing.row.isInternalNote ≠ call.input.internalNote then .throws
          else .commits (store.answerAgain call conversation existing)
      | none =>
          if call.input.internalNote then .continues (.findReplyTarget call conversation)
          else .continues (.findSendContext call conversation)
  | .findSendContext call conversation =>
      match mayReply { call.request with now := now } store.inbox conversation with
      | .error _ => .throws
      | .ok () => .continues (.findReplyTarget call conversation)
  | .findReplyTarget call conversation =>
      match replyTarget call.request store.inbox conversation call.input.replyToMessageRefId with
      | .error _ => .throws
      | .ok replyTo => .continues (.insertOutbound ⟨call, conversation, replyTo⟩)
  | .insertOutbound reply =>
      if keyTaken store.inbox.outbound reply.call.key then .throws
      else .continues (.enqueue reply now.date.getTime)
  | .enqueue reply begun =>
      match replyEventOf reply with
      | .error _ => .throws
      | .ok event => .continues (.recordMessage reply begun event)
  | .recordMessage reply begun event => .continues (.commit reply begun event now)
  | .commit reply begun event occurredAt =>
      .commits (store.commitReply reply begun event occurredAt)

end ReplyStep

def replyProgram : TransactionProgram ReplyStore ReplyStep ReplyLock Listing.Timestamp where
  waits _ step _ := step.takes
  takes _ step _ := step.takes
  statement store step now := step.statement store now
  takes_waits _ _ _ := List.Subset.refl _

/-! ### Everybody at once -/

structure Desk where
  server : Server ReplyStore ReplyStep ReplyLock
  left : OutboxParty → List OutboxTask

/-- Something happens: an agent calls `reply`, a call runs its next statement, a party of the
outbox does its next thing, or an agent does something else with a conversation. -/
inductive DeskTurn where
  | calls (call : ReplyCall)
  | advances (id : Nat) (now : Listing.Timestamp)
  | outbox (party : OutboxParty) (choice : OutboxChoice)
  | operates (operation : Operation) (request : Request) (refId : String)

def repliesAtOnce : OutboxParty → AgentCall → Bool
  | .agent _, .reply _ => true
  | .agent _, .moderateComment _ _ | .agent _, .retryModeration _ => false
  | .relay _, _ | .reaper, _ | .readBack _, _ | .projector _, _ => false

def Operation.asksOutbox : Operation → Bool
  | .reply _ | .moderateComment _ _ | .retryModeration _ => true
  | .readThread | .requestResync | .refreshAttachments | .assign _ | .setStatus _ | .markRead =>
      false

namespace Desk

def idle (inbox : InboxDb) : Desk := ⟨.idle ⟨inbox, []⟩, fun _ => []⟩

def inbox (desk : Desk) : InboxDb := desk.server.store.inbox

def answers (desk : Desk) : List ReplyAnswer := desk.server.store.answers

def outboxState (desk : Desk) : OutboxState := ⟨desk.inbox.outbound, desk.left⟩

def withInbox (desk : Desk) (inbox : InboxDb) : Desk :=
  { desk with server := { desk.server with store := { desk.server.store with inbox := inbox } } }

def turn (desk : Desk) : DeskTurn → Desk
  | .calls call => { desk with server := desk.server.begin (.requireConversation call) }
  | .advances id now => { desk with server := desk.server.advance replyProgram id now }
  | .outbox party choice =>
      if repliesAtOnce party choice.call then desk
      else
        let state := Outbound.outbox.step desk.outboxState party choice
        { desk.withInbox { desk.inbox with outbound := state.store } with left := state.left }
  | .operates operation request refId =>
      if operation.asksOutbox then desk
      else desk.withInbox (operation.after request desk.inbox refId)

def run (desk : Desk) (script : List DeskTurn) : Desk := script.foldl turn desk

end Desk

end UnifiedService.Threads
