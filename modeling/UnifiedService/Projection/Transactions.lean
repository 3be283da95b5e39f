import UnifiedService.Library.ReadCommitted
import UnifiedService.Projection.MarkProperties
import UnifiedService.Projection.Agents

/-! The transactions of the inbox, statement by statement. A transaction keeps what its
statements found; what it writes is published at its commit, as it was decided under the
locks it still holds. -/

set_option autoImplicit false

namespace UnifiedService.Projection

open UnifiedService.Library
open UnifiedService.Outbound (Platform MessageStatus truthy)
open UnifiedService.Inbound (ProjectionContext)

/-! ### What is stored -/

inductive Delivery where
  | incoming (incoming : Incoming)
  | echoed (echoed : Echoed)
  deriving DecidableEq, Repr

namespace Delivery

def enterpriseId : Delivery → Nat
  | incoming message => message.enterpriseId
  | echoed message => message.enterpriseId

def channelId : Delivery → Nat
  | incoming message => message.channelId
  | echoed message => message.channelId

def mid : Delivery → String
  | incoming message => message.mid
  | echoed message => message.mid

def isIncoming : Delivery → Bool
  | incoming _ => true
  | echoed _ => false

def customer : Delivery → CreateCustomerInput
  | incoming message => message.customer
  | echoed message => message.customer

def thread : Delivery → CustomerResolution → UpsertConversationInput
  | incoming message => message.thread
  | echoed message => message.thread

def handle : Delivery → Option String
  | incoming message =>
      if message.platform = .instagram then truthy message.username else none
  | echoed _ => none

def handleKey (delivery : Delivery) (username : String) : Nat × IdentifierKind × String :=
  (delivery.enterpriseId, .instagramUsername, username)

def nameless : Delivery → Option Incoming
  | incoming message => if message.nameless then some message else none
  | echoed _ => none

def occurredAt : Delivery → Int → Int
  | incoming message => message.occurredAt
  | echoed message => message.occurredAt

def row (delivery : Delivery) (customerId conversationId : Nat) (parentMessageId : Option Nat)
    (now : Int) : MessageRow :=
  match delivery with
  | incoming message => message.row customerId conversationId parentMessageId now
  | echoed message => message.row customerId conversationId now

def count (delivery : Delivery) (customerId : Nat) (conversation : UpsertConversationResult)
    (now : Int) (inbox : Inbox) : Inbox :=
  match delivery with
  | incoming message => message.count customerId conversation now inbox
  | echoed message => inbox.recordMessage conversation.id false (message.occurredAt now)

end Delivery

def Arrival.delivery (normalizeText : String → String) (arrival : Arrival) : Option Delivery :=
  match arrival.event.about, arrival.event.body with
  | .message mid, some message =>
      if message.isEcho then
        (DirectMessageProjectorService.echoed arrival.context arrival.event message mid).map
          .echoed
      else
        (truthy (arrival.event.sender.bind EventSender.id)).map fun senderId =>
          .incoming (DirectMessageProjectorService.incoming normalizeText arrival.context
            arrival.event message mid senderId)
  | _, _ => none

/-! ### Locks -/

/-- What a transaction locks: a row, or the entry of a unique index it adds. -/
inductive InboxLock where
  | identifier (key : Nat × IdentifierKind × String)
  | customer (id : Nat)
  | thread (key : Nat × String)
  | platformMessage (enterpriseId : Nat) (platformMessageId : String)
  | message (id : Nat)
  | idempotencyKey (enterpriseId : Nat) (key : String)
  | engagement (key : Nat × Nat × Nat)
  | job (slot : Sync.SyncSlot)
  deriving DecidableEq, Repr

/-- What the environment decides at a statement: the rows other sessions hold, which a claim
skips, and whether the transaction is given up. -/
structure InboxChoice where
  skipped : List Nat
  fails : Bool
  deriving DecidableEq, Repr

/-! ### A projection -/

inductive Entry (Found : Type) where
  | found (found : Found)
  | added
  deriving DecidableEq, Repr

inductive Written where
  | inserted
  | stamped (id : Nat)
  deriving DecidableEq, Repr

inductive DeliveryStep where
  | find | backfillName | create | reread | resync | link | join | open_ | look | claim | insert
  | adopt | record | touch | engage | commit
  deriving DecidableEq, Repr

structure DeliveryState where
  delivery : Delivery
  /-- `now()`, the start of the transaction. -/
  now : Int
  step : DeliveryStep
  customer : Option (Entry CustomerResolution)
  linked : Bool
  conversation : Option (Entry Nat)
  parentMessageId : Option Nat
  written : Option Written
  adopted : List Nat
  deriving DecidableEq, Repr

def DeliveryState.opening (delivery : Delivery) (now : Int) : DeliveryState where
  delivery := delivery
  now := now
  step := .find
  customer := none
  linked := false
  conversation := none
  parentMessageId := none
  written := none
  adopted := []

namespace Inbox

def publishCustomer (input : CreateCustomerInput) (now : Int) (inbox : Inbox) :
    Entry CustomerResolution → CustomerResolution × Inbox
  | .found existing =>
      (existing,
        { inbox with
          customers := inbox.customers.update existing.customerId (·.named input.displayName) })
  | .added =>
      (⟨inbox.customers.nextId, inbox.identifiers.nextId, true⟩,
        { inbox with
          customers := inbox.customers.insert (input.row now)
          identifiers := inbox.identifiers.insert (input.identifier inbox.customers.nextId) })

def publishThread (input : UpsertConversationInput) (inbox : Inbox) :
    Entry Nat → UpsertConversationResult × Inbox
  | .found id =>
      (⟨id, false⟩, { inbox with conversations := inbox.conversations.update id (·.joined input) })
  | .added =>
      (⟨inbox.conversations.nextId, true⟩,
        { inbox with
          conversations := inbox.conversations.insert input.row
          customers := inbox.customers.update input.customerId fun customer =>
            { customer with conversationCount := customer.conversationCount + 1 } })

def publishAdoption (adopted : List Nat) (parentId : Nat) (inbox : Inbox) : Inbox :=
  { inbox with
    messages := inbox.messages.updateWhere (fun id _ => adopted.contains id && id != parentId)
      ({ · with parentMessageId := some parentId }) }

def orphans (enterpriseId : Nat) (parentPlatformMessageId : String) (inbox : Inbox) : List Nat :=
  (inbox.messages.select (·.awaitsParent enterpriseId parentPlatformMessageId)).map (·.id)

def unclaimed (enterpriseId conversationId : Nat) (body : Option String) (skipped : List Nat)
    (inbox : Inbox) : Option (Stored MessageRow) :=
  (inbox.messages.select (·.awaitsEcho enterpriseId conversationId body)).find? fun stored =>
    !skipped.contains stored.id

end Inbox

namespace DeliveryState

variable (state : DeliveryState)

def publishEntry (customer : Entry CustomerResolution) (conversation : Entry Nat)
    (inbox : Inbox) : CustomerResolution × UpsertConversationResult × Inbox :=
  let (resolved, inbox) := inbox.publishCustomer state.delivery.customer state.now customer
  let inbox :=
    match resolved.created, state.delivery.nameless with
    | true, some incoming =>
        { inbox with
          jobs := (Sync.SyncJobRepository.enqueueIfAbsent incoming.resync state.now inbox.jobs).2 }
    | _, _ => inbox
  let inbox :=
    match state.linked, state.delivery.handle with
    | true, some username =>
        { inbox with
          identifiers := inbox.identifiers.insert
            ⟨state.delivery.enterpriseId, resolved.customerId, .instagramUsername, username,
              false⟩ }
    | _, _ => inbox
  let (joined, inbox) := inbox.publishThread (state.delivery.thread resolved) conversation
  (resolved, joined, inbox)

def publish (customer : Entry CustomerResolution) (conversation : Entry Nat) (inbox : Inbox) :
    Inbox :=
  let (resolved, joined, inbox) := state.publishEntry customer conversation inbox
  match state.written with
  | none => inbox
  | some (.stamped id) =>
      { inbox with
        messages := inbox.messages.update id (·.stamped state.delivery.mid state.now) }
        |>.publishAdoption state.adopted id
  | some .inserted =>
      let row := state.delivery.row resolved.customerId joined.id state.parentMessageId state.now
      let stored := { inbox with messages := inbox.messages.insert row }
      state.delivery.count resolved.customerId joined state.now
        (stored.publishAdoption state.adopted inbox.messages.nextId)

def customerLock : List InboxLock :=
  match state.customer with
  | some (.found existing) => [.customer existing.customerId]
  | some .added | none => []

def engagementLock : List InboxLock :=
  match state.customer with
  | some (.found existing) =>
      [.engagement (state.delivery.enterpriseId, existing.customerId, state.delivery.channelId)]
  | some .added | none => []

def threadKey : Nat × String := (state.delivery.thread ⟨0, 0, false⟩).thread

def claimed (choice : InboxChoice) (inbox : Inbox) : Option (Stored MessageRow) :=
  match state.delivery, state.conversation with
  | .echoed echoed, some (.found conversationId) =>
      inbox.unclaimed echoed.enterpriseId conversationId echoed.text choice.skipped
  | _, _ => none

def platformLock : InboxLock :=
  .platformMessage state.delivery.enterpriseId state.delivery.mid

def takes (choice : InboxChoice) (inbox : Inbox) : List InboxLock :=
  match state.step with
  | .backfillName => if state.delivery.customer.displayName.isSome then state.customerLock else []
  | .create =>
      if (inbox.findByIdentifier state.delivery.customer.key).isSome then []
      else [.identifier state.delivery.customer.key]
  | .resync =>
      (state.delivery.nameless.map fun incoming => InboxLock.job incoming.resync.slot).toList
  | .link =>
      match state.delivery.handle with
      | some username =>
          if (inbox.findByIdentifier (state.delivery.handleKey username)).isSome then []
          else [.identifier (state.delivery.handleKey username)]
      | none => []
  | .join => [.thread state.threadKey]
  | .open_ | .touch => state.customerLock
  | .claim =>
      match state.claimed choice inbox with
      | some stored => [.message stored.id, state.platformLock]
      | none => []
  | .insert =>
      if (inbox.findIdByPlatformMessageId state.delivery.enterpriseId
          state.delivery.mid).isSome then []
      else [state.platformLock]
  | .adopt =>
      (inbox.orphans state.delivery.enterpriseId state.delivery.mid).map InboxLock.message
  | .engage => state.engagementLock
  | .find | .reread | .look | .record | .commit => []

/-- What a statement waits for: also an entry that turns out to be there already. -/
def waits (choice : InboxChoice) (inbox : Inbox) : List InboxLock :=
  state.takes choice inbox ++
    match state.step with
    | .create => [.identifier state.delivery.customer.key]
    | .link =>
        (state.delivery.handle.map fun username =>
          InboxLock.identifier (state.delivery.handleKey username)).toList
    | .insert => [state.platformLock]
    | _ => []

def statement (choice : InboxChoice) (inbox : Inbox) : Outcome Inbox DeliveryState :=
  match state.step with
  | .find =>
      match inbox.findByIdentifier state.delivery.customer.key with
      | some existing =>
          .continues { state with customer := some (.found existing), step := .backfillName }
      | none => .continues { state with step := .create }
  | .backfillName => .continues { state with step := .link }
  | .create =>
      match inbox.findByIdentifier state.delivery.customer.key with
      -- Somebody else was first: the customer just written is removed again.
      | some _ => .continues { state with step := .reread }
      | none => .continues { state with customer := some .added, step := .resync }
  | .reread =>
      match inbox.findByIdentifier state.delivery.customer.key with
      | some winner => .continues { state with customer := some (.found winner), step := .link }
      | none => .throws
  | .resync => .continues { state with step := .link }
  | .link =>
      match state.delivery.handle with
      | none => .continues { state with step := .join }
      | some username =>
          match inbox.findByIdentifier (state.delivery.handleKey username) with
          | some _ => .continues { state with step := .join }
          | none => .continues { state with linked := true, step := .join }
  | .join =>
      match inbox.conversations.find? (·.thread == state.threadKey) with
      | some stored =>
          .continues { state with conversation := some (.found stored.id), step := .look }
      | none => .continues { state with conversation := some .added, step := .open_ }
  | .open_ => .continues { state with step := .look }
  | .look =>
      match state.delivery with
      | .incoming incoming =>
          .continues { state with parentMessageId := incoming.parent inbox, step := .insert }
      | .echoed echoed =>
          match inbox.findIdByPlatformMessageId echoed.enterpriseId echoed.mid with
          | some _ => .continues { state with step := .commit }
          | none => .continues { state with step := .claim }
  | .claim =>
      match state.claimed choice inbox with
      | none => .continues { state with step := .insert }
      | some stored =>
          -- The id may have come with a write-back meanwhile, on another row.
          if (inbox.findIdByPlatformMessageId state.delivery.enterpriseId
              state.delivery.mid).isSome then .throws
          else .continues { state with written := some (.stamped stored.id), step := .adopt }
  | .insert =>
      match inbox.findIdByPlatformMessageId state.delivery.enterpriseId state.delivery.mid with
      | some _ => .continues { state with step := .commit }
      | none => .continues { state with written := some .inserted, step := .adopt }
  | .adopt =>
      .continues
        { state with
          adopted := inbox.orphans state.delivery.enterpriseId state.delivery.mid
          step := if state.written = some .inserted then .record else .commit }
  | .record => .continues { state with step := if state.delivery.isIncoming then .touch else .commit }
  | .touch => .continues { state with step := .engage }
  | .engage => .continues { state with step := .commit }
  | .commit =>
      match state.customer, state.conversation with
      | some customer, some conversation => .commits (state.publish customer conversation inbox)
      | _, _ => .throws

end DeliveryState

/-! ### The other transactions -/

inductive ReplyStep where
  | insert | record | engage | commit
  deriving DecidableEq, Repr

/-- A transaction of the inbox. The two statements of `markRead` commit one by one, and the
delivery write-back is one statement. A call that dies between the two is one whose second
statement fails. -/
inductive InboxTransaction where
  | deliver (state : DeliveryState)
  | reply (input : ReplyInput) (now : Int) (step : ReplyStep)
  | clearBadge (conversationId : Nat)
  | markRowsRead (conversationId : Nat)
  | recordDelivery (messageId : Nat) (platformMessageId : Option String) (status : MessageStatus)
      (now : Int)
  deriving DecidableEq, Repr

/-- The inbox, the threads of the `markRead`s at work that have cleared the badge and not yet
the rows, and the projections that committed. -/
structure InboxStore where
  inbox : Inbox
  marking : List Nat
  delivered : List Delivery
  deriving DecidableEq, Repr

namespace InboxStore

def empty : InboxStore := ⟨.empty, [], []⟩

def threadLock (store : InboxStore) (conversationId : Nat) : List InboxLock :=
  ((store.inbox.conversations.get? conversationId).map fun conversation =>
    InboxLock.thread conversation.thread).toList

def isUsed (store : InboxStore) (enterpriseId : Nat) (key : String) : Bool :=
  (store.inbox.messages.find? fun message =>
    message.enterpriseId == enterpriseId && message.idempotencyKey == some key).isSome

end InboxStore

namespace InboxTransaction

def isOpening : InboxTransaction → Bool
  | deliver state => state == .opening state.delivery state.now
  | reply _ _ step => step == .insert
  | clearBadge _ | markRowsRead _ | recordDelivery _ _ _ _ => true

def takes (store : InboxStore) (choice : InboxChoice) : InboxTransaction → List InboxLock
  | deliver state => state.takes choice store.inbox
  | reply input _ step =>
      match store.inbox.conversations.get? input.conversationId with
      | none => []
      | some conversation =>
          match step with
          | .insert => [.idempotencyKey conversation.enterpriseId input.idempotencyKey]
          | .record => [.thread conversation.thread]
          | .engage => [.engagement (input.engagement conversation).key]
          | .commit => []
  | clearBadge conversationId => store.threadLock conversationId
  | markRowsRead conversationId =>
      (store.inbox.messages.select fun message =>
        message.conversationId == conversationId && message.direction == .inbound &&
          !message.isRead).map fun stored => .message stored.id
  | recordDelivery messageId platformMessageId _ _ =>
      .message messageId ::
        match store.inbox.messages.get? messageId, platformMessageId with
        | some message, some platformMessageId =>
            [.platformMessage message.enterpriseId platformMessageId]
        | _, _ => []

def waits (store : InboxStore) (choice : InboxChoice) : InboxTransaction → List InboxLock
  | deliver state => state.waits choice store.inbox
  | other => other.takes store choice

/-- A reply whose key was used already fails at its first statement. -/
def statement (store : InboxStore) (choice : InboxChoice) :
    InboxTransaction → Outcome InboxStore InboxTransaction
  | deliver state =>
      match state.statement choice store.inbox with
      | .continues next => .continues (.deliver next)
      | .commits inbox =>
          .commits { store with inbox, delivered := store.delivered ++ [state.delivery] }
      | .throws => .throws
  | reply input now step =>
      match store.inbox.conversations.get? input.conversationId with
      | none => .throws
      | some conversation =>
          match step with
          | .insert =>
              if store.isUsed conversation.enterpriseId input.idempotencyKey then .throws
              else .continues (.reply input now .record)
          | .record => .continues (.reply input now .engage)
          | .engage => .continues (.reply input now .commit)
          | .commit => .commits { store with inbox := store.inbox.reply input now }
  | clearBadge conversationId =>
      if (store.inbox.conversations.get? conversationId).isSome then
        .commits
          { store with
            inbox := store.inbox.clearBadge conversationId
            marking := conversationId :: store.marking }
      else .throws
  | markRowsRead conversationId =>
      -- The second statement of a call runs after its first.
      if store.marking.contains conversationId then
        .commits
          { store with
            inbox := store.inbox.markRowsRead conversationId
            marking := store.marking.erase conversationId }
      else .throws
  | recordDelivery messageId platformMessageId status now =>
      .commits
        { store with
          inbox := store.inbox.recordDelivery messageId platformMessageId status now }

/-- What a statement that fails leaves. With the second statement of a `markRead` the call
ends, and what its first one wrote stays. -/
def failure (store : InboxStore) : InboxTransaction → Outcome InboxStore InboxTransaction
  | markRowsRead conversationId =>
      if store.marking.contains conversationId then
        .commits { store with marking := store.marking.erase conversationId }
      else .throws
  | deliver _ | reply _ _ _ | clearBadge _ | recordDelivery _ _ _ _ => .throws

end InboxTransaction

def inboxTransactions : TransactionProgram InboxStore InboxTransaction InboxLock InboxChoice where
  waits store state choice := if choice.fails then [] else state.waits store choice
  takes store state choice := if choice.fails then [] else state.takes store choice
  statement store state choice :=
    if choice.fails then state.failure store else state.statement store choice
  takes_waits := by
    intro store state choice
    split
    · exact List.Subset.refl _
    · cases state with
      | deliver state => exact List.subset_append_left _ _
      | reply _ _ _ => exact List.Subset.refl _
      | clearBadge _ => exact List.Subset.refl _
      | markRowsRead _ => exact List.Subset.refl _
      | recordDelivery _ _ _ _ => exact List.Subset.refl _

abbrev InboxServer := Server InboxStore InboxTransaction InboxLock

abbrev InboxTurn := Server.Turn InboxTransaction InboxChoice

end UnifiedService.Projection
