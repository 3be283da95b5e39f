import UnifiedService.Projection.Vocabulary
import UnifiedService.Sync.Jobs

/-! The tables of the inbox, and the statements the projectors and the agents make on them.
Soft deletion is left out: nothing sets it on these tables. -/

set_option autoImplicit false

namespace UnifiedService.Projection

open UnifiedService.Library
open UnifiedService.Outbound (Platform ConversationKind MessageDirection MessageStatus)

/-! ### Rows -/

structure CustomerRow where
  enterpriseId : Nat
  displayName : Option String
  firstSource : CustomerFirstSource
  firstChannelId : Nat
  lastChannelId : Nat
  conversationCount : Nat
  firstSeenAt : Int
  lastSeenAt : Int
  deriving DecidableEq, Repr

structure IdentifierRow where
  enterpriseId : Nat
  customerId : Nat
  identifierKind : IdentifierKind
  identifierValue : String
  isPrimary : Bool
  deriving DecidableEq, Repr

structure EngagementRow where
  enterpriseId : Nat
  customerId : Nat
  channelId : Nat
  platform : Platform
  inboundMessageCount : Nat
  outboundMessageCount : Nat
  conversationCount : Nat
  lastConversationId : Option Nat
  lastEngagedAt : Int
  deriving DecidableEq, Repr

structure ConversationRow where
  enterpriseId : Nat
  channelId : Nat
  customerId : Nat
  customerIdentifierId : Nat
  postId : Option Nat
  platform : Platform
  conversationKind : ConversationKind
  platformThreadId : String
  subject : Option String
  status : ConversationStatus
  messageCount : Nat
  unreadCount : Nat
  lastMessageAt : Option Int
  lastInboundAt : Option Int
  firstRespondedAt : Option Int
  deriving DecidableEq, Repr

structure Reaction where
  emoji : Option String
  name : Option String
  at_ : Int
  deriving DecidableEq, Repr

structure MessageMetadata where
  replyToPlatformMessageId : Option String
  replyToStoryId : Option String
  quickReplyPayload : Option String
  postbackPayload : Option String
  isPostback : Bool
  isStoryMention : Bool
  referral : Bool
  contentUnavailable : Bool
  recoveredFromPlatform : Bool
  reaction : Option Reaction
  seenAt : Option Int
  deriving DecidableEq, Repr

def MessageMetadata.empty : MessageMetadata :=
  ⟨none, none, none, none, false, false, false, false, false, none, none⟩

structure MessageRow where
  enterpriseId : Nat
  conversationId : Nat
  direction : MessageDirection
  customerId : Nat
  inboundEventId : Option Nat
  platformMessageId : Option String
  messageKind : MessageKind
  body : Option String
  platformSentAt : Option Int
  parentMessageId : Option Nat
  status : MessageStatus
  attachments : List (Option String)
  metadata : MessageMetadata
  isRead : Bool
  isInternalNote : Bool
  idempotencyKey : Option String
  isHiddenOnPlatform : Bool
  platformDeletedAt : Option Int
  createdAt : Int
  /-- The instant its thread was told it happened at. -/
  occurredAt : Int
  deriving DecidableEq, Repr

structure PostRow where
  enterpriseId : Nat
  channelId : Nat
  platform : Platform
  platformPostId : String
  postKind : String
  caption : Option String
  permalinkUrl : Option String
  publishedAt : Option Int
  commentCount : Nat
  likeCount : Nat
  shareCount : Nat
  status : PostStatus
  deriving DecidableEq, Repr

structure Inbox where
  customers : Table CustomerRow
  identifiers : Table IdentifierRow
  engagements : Table EngagementRow
  conversations : Table ConversationRow
  messages : Table MessageRow
  posts : Table PostRow
  jobs : Table Sync.SyncJobRow
  deriving DecidableEq, Repr

def Inbox.empty : Inbox := ⟨.empty, .empty, .empty, .empty, .empty, .empty, .empty⟩

/-! ### Customers -/

structure CreateCustomerInput where
  enterpriseId : Nat
  identifierKind : IdentifierKind
  identifierValue : String
  displayName : Option String
  firstSource : CustomerFirstSource
  firstChannelId : Nat
  deriving DecidableEq, Repr

structure CustomerResolution where
  customerId : Nat
  identifierId : Nat
  created : Bool
  deriving DecidableEq, Repr

/-- The columns of `customer_identifiers_value_uniq`. -/
def IdentifierRow.key (identifier : IdentifierRow) : Nat × IdentifierKind × String :=
  (identifier.enterpriseId, identifier.identifierKind, identifier.identifierValue)

def CreateCustomerInput.key (input : CreateCustomerInput) : Nat × IdentifierKind × String :=
  (input.enterpriseId, input.identifierKind, input.identifierValue)

/-- A name is filled in once it is known, and never replaced. -/
def CustomerRow.named (customer : CustomerRow) (displayName : Option String) : CustomerRow :=
  { customer with displayName := customer.displayName.orElse fun _ => displayName }

def CreateCustomerInput.row (input : CreateCustomerInput) (now : Int) : CustomerRow where
  enterpriseId := input.enterpriseId
  displayName := input.displayName
  firstSource := input.firstSource
  firstChannelId := input.firstChannelId
  lastChannelId := input.firstChannelId
  conversationCount := 0
  firstSeenAt := now
  lastSeenAt := now

def CreateCustomerInput.identifier (input : CreateCustomerInput) (customerId : Nat) :
    IdentifierRow where
  enterpriseId := input.enterpriseId
  customerId := customerId
  identifierKind := input.identifierKind
  identifierValue := input.identifierValue
  isPrimary := true

namespace Inbox

def findByIdentifier (key : Nat × IdentifierKind × String) (inbox : Inbox) :
    Option CustomerResolution :=
  (inbox.identifiers.find? (·.key == key)).map fun stored =>
    ⟨stored.row.customerId, stored.id, false⟩

/-- Without anybody in between, the identifier is found or it is free. -/
def resolveOrCreate (input : CreateCustomerInput) (now : Int) (inbox : Inbox) :
    CustomerResolution × Inbox :=
  match inbox.findByIdentifier input.key with
  | some existing =>
      (existing,
        { inbox with
          customers := inbox.customers.update existing.customerId (·.named input.displayName) })
  | none =>
      (⟨inbox.customers.nextId, inbox.identifiers.nextId, true⟩,
        { inbox with
          customers := inbox.customers.insert (input.row now)
          identifiers := inbox.identifiers.insert (input.identifier inbox.customers.nextId) })

/-- A second identifier of a customer. One that is taken stays where it is. -/
def linkIdentifier (enterpriseId customerId : Nat) (kind : IdentifierKind) (value : String)
    (inbox : Inbox) : Inbox :=
  match inbox.findByIdentifier (enterpriseId, kind, value) with
  | some _ => inbox
  | none =>
      { inbox with
        identifiers := inbox.identifiers.insert ⟨enterpriseId, customerId, kind, value, false⟩ }

def touchLastSeen (customerId channelId : Nat) (now : Int) (inbox : Inbox) : Inbox :=
  { inbox with
    customers := inbox.customers.update customerId fun customer =>
      { customer with lastSeenAt := now, lastChannelId := channelId } }

end Inbox

structure EngagementInput where
  enterpriseId : Nat
  customerId : Nat
  channelId : Nat
  platform : Platform
  inbound : Bool
  conversationId : Nat
  conversationCreated : Bool
  deriving DecidableEq, Repr

/-- The columns of `customer_engagements_uniq`. -/
def EngagementRow.key (engagement : EngagementRow) : Nat × Nat × Nat :=
  (engagement.enterpriseId, engagement.customerId, engagement.channelId)

def EngagementInput.key (input : EngagementInput) : Nat × Nat × Nat :=
  (input.enterpriseId, input.customerId, input.channelId)

def EngagementRow.engaged (engagement : EngagementRow) (input : EngagementInput) (now : Int) :
    EngagementRow :=
  { engagement with
    lastEngagedAt := now
    inboundMessageCount := engagement.inboundMessageCount + input.inbound.toNat
    outboundMessageCount := engagement.outboundMessageCount + (!input.inbound).toNat
    conversationCount := engagement.conversationCount + input.conversationCreated.toNat
    lastConversationId := some input.conversationId }

def EngagementInput.row (input : EngagementInput) (now : Int) : EngagementRow where
  enterpriseId := input.enterpriseId
  customerId := input.customerId
  channelId := input.channelId
  platform := input.platform
  inboundMessageCount := input.inbound.toNat
  outboundMessageCount := (!input.inbound).toNat
  conversationCount := input.conversationCreated.toNat
  lastConversationId := some input.conversationId
  lastEngagedAt := now

def Inbox.recordEngagement (input : EngagementInput) (now : Int) (inbox : Inbox) : Inbox :=
  match inbox.engagements.find? (·.key == input.key) with
  | some stored =>
      { inbox with engagements := inbox.engagements.update stored.id (·.engaged input now) }
  | none => { inbox with engagements := inbox.engagements.insert (input.row now) }

/-! ### Conversations -/

structure UpsertConversationInput where
  enterpriseId : Nat
  channelId : Nat
  customerId : Nat
  customerIdentifierId : Nat
  postId : Option Nat
  platform : Platform
  conversationKind : ConversationKind
  platformThreadId : String
  subject : Option String
  deriving DecidableEq, Repr

structure UpsertConversationResult where
  id : Nat
  created : Bool
  deriving DecidableEq, Repr

/-- The columns of `conversations_thread_uniq`. -/
def ConversationRow.thread (conversation : ConversationRow) : Nat × String :=
  (conversation.channelId, conversation.platformThreadId)

def UpsertConversationInput.thread (input : UpsertConversationInput) : Nat × String :=
  (input.channelId, input.platformThreadId)

def UpsertConversationInput.row (input : UpsertConversationInput) : ConversationRow where
  enterpriseId := input.enterpriseId
  channelId := input.channelId
  customerId := input.customerId
  customerIdentifierId := input.customerIdentifierId
  postId := input.postId
  platform := input.platform
  conversationKind := input.conversationKind
  platformThreadId := input.platformThreadId
  subject := input.subject
  status := .open_
  messageCount := 0
  unreadCount := 0
  lastMessageAt := none
  lastInboundAt := none
  firstRespondedAt := none

def ConversationRow.joined (conversation : ConversationRow) (input : UpsertConversationInput) :
    ConversationRow :=
  { conversation with
    status := if conversation.status.isDone then .open_ else conversation.status
    subject := input.subject.orElse fun _ => conversation.subject
    postId := input.postId.orElse fun _ => conversation.postId }

/-- `GREATEST(COALESCE(stored, occurred), occurred)`. -/
def latest (stored : Option Int) (occurredAt : Int) : Option Int :=
  some (max (stored.getD occurredAt) occurredAt)

def ConversationRow.recorded (conversation : ConversationRow) (inbound : Bool)
    (occurredAt : Int) : ConversationRow :=
  { conversation with
    messageCount := conversation.messageCount + 1
    unreadCount := conversation.unreadCount + inbound.toNat
    lastMessageAt := latest conversation.lastMessageAt occurredAt
    lastInboundAt :=
      if inbound then latest conversation.lastInboundAt occurredAt
      else conversation.lastInboundAt
    firstRespondedAt :=
      if inbound then conversation.firstRespondedAt
      else conversation.firstRespondedAt.orElse fun _ => some occurredAt }

namespace Inbox

def upsert (input : UpsertConversationInput) (inbox : Inbox) :
    UpsertConversationResult × Inbox :=
  match inbox.conversations.find? (·.thread == input.thread) with
  | some stored =>
      (⟨stored.id, false⟩,
        { inbox with conversations := inbox.conversations.update stored.id (·.joined input) })
  | none =>
      (⟨inbox.conversations.nextId, true⟩,
        { inbox with
          conversations := inbox.conversations.insert input.row
          customers := inbox.customers.update input.customerId fun customer =>
            { customer with conversationCount := customer.conversationCount + 1 } })

def recordMessage (conversationId : Nat) (inbound : Bool) (occurredAt : Int) (inbox : Inbox) :
    Inbox :=
  { inbox with
    conversations :=
      inbox.conversations.update conversationId (·.recorded inbound occurredAt) }

def setStatus (conversationId : Nat) (status : ConversationStatus) (inbox : Inbox) : Inbox :=
  { inbox with
    conversations := inbox.conversations.update conversationId ({ · with status := status }) }

/-- The first statement of `markRead`. -/
def clearBadge (conversationId : Nat) (inbox : Inbox) : Inbox :=
  { inbox with
    conversations := inbox.conversations.update conversationId ({ · with unreadCount := 0 }) }

/-- The second statement of `markRead`. -/
def markRowsRead (conversationId : Nat) (inbox : Inbox) : Inbox :=
  { inbox with
    messages := inbox.messages.updateWhere
      (fun _ message => message.conversationId == conversationId && message.direction == .inbound)
      ({ · with isRead := true }) }

end Inbox

/-! ### Messages -/

def MessageRow.isPlatform (enterpriseId : Nat) (platformMessageId : String)
    (message : MessageRow) : Bool :=
  message.enterpriseId == enterpriseId && message.platformMessageId == some platformMessageId

def MessageRow.awaitsParent (enterpriseId : Nat) (parentPlatformMessageId : String)
    (message : MessageRow) : Bool :=
  message.enterpriseId == enterpriseId && message.parentMessageId.isNone &&
    message.metadata.replyToPlatformMessageId == some parentPlatformMessageId

def MessageRow.awaitsEcho (enterpriseId conversationId : Nat) (body : Option String)
    (message : MessageRow) : Bool :=
  message.enterpriseId == enterpriseId && message.conversationId == conversationId &&
    message.direction == .outbound && message.platformMessageId.isNone &&
    !message.isInternalNote && message.body.getD "" == body.getD ""

/-- A row an echo was matched to. The status only ever goes up. -/
def MessageRow.stamped (platformMessageId : String) (now : Int) (message : MessageRow) :
    MessageRow :=
  { message with
    platformMessageId := some platformMessageId
    status :=
      if message.status = .sent ∨ message.status = .delivered then message.status else .sent
    platformSentAt := message.platformSentAt.orElse fun _ => some now }

/-- `COALESCE(platform_sent_at, created_at)`. -/
def MessageRow.shownAt (message : MessageRow) : Int :=
  message.platformSentAt.getD message.createdAt

def MessageRow.reacted (reaction : Option Reaction) (message : MessageRow) : MessageRow :=
  { message with metadata := { message.metadata with reaction := reaction } }

def MessageRow.deletedAt (deletedAt : Int) (message : MessageRow) : MessageRow :=
  { message with platformDeletedAt := message.platformDeletedAt.orElse fun _ => some deletedAt }

def MessageRow.seen (seenAt : Int) (message : MessageRow) : MessageRow :=
  { message with metadata := { message.metadata with seenAt := some seenAt } }

def MessageRow.moderated (action : CommentAction) (text : Option String) (now : Int)
    (message : MessageRow) : MessageRow :=
  { message with
    body := if action = .edited then text.orElse fun _ => message.body else message.body
    isHiddenOnPlatform :=
      match action with
      | .hidden => true
      | .unhidden => false
      | .edited | .removed => message.isHiddenOnPlatform
    platformDeletedAt :=
      if action = .removed then message.platformDeletedAt.orElse fun _ => some now
      else message.platformDeletedAt }

namespace Inbox

def findIdByPlatformMessageId (enterpriseId : Nat) (platformMessageId : String)
    (inbox : Inbox) : Option Nat :=
  (inbox.messages.find? (·.isPlatform enterpriseId platformMessageId)).map (·.id)

/-- `ON CONFLICT DO NOTHING` on the platform's id. A message without one never conflicts. -/
def insertMessage (message : MessageRow) (inbox : Inbox) : Option Nat × Inbox :=
  if message.platformMessageId.any fun platformMessageId =>
      (inbox.findIdByPlatformMessageId message.enterpriseId platformMessageId).isSome then
    (none, inbox)
  else
    (some inbox.messages.nextId, { inbox with messages := inbox.messages.insert message })

/-- The replies stored before the message they answer now point at it. -/
def adoptOrphanReplies (enterpriseId parentId : Nat) (parentPlatformMessageId : String)
    (inbox : Inbox) : Inbox :=
  { inbox with
    messages := inbox.messages.updateWhere
      (fun id message => message.awaitsParent enterpriseId parentPlatformMessageId &&
        id != parentId)
      ({ · with parentMessageId := some parentId }) }

/-- The oldest row with the echo's body that has no id of the platform yet. -/
def claimPendingOutbound (enterpriseId conversationId : Nat) (body : Option String)
    (platformMessageId : String) (now : Int) (inbox : Inbox) : Option Nat × Inbox :=
  match inbox.messages.find? (·.awaitsEcho enterpriseId conversationId body) with
  | none => (none, inbox)
  | some stored =>
      (some stored.id,
        { inbox with
          messages := inbox.messages.update stored.id (·.stamped platformMessageId now) })

def applyReaction (enterpriseId : Nat) (platformMessageId : String) (reaction : Option Reaction)
    (inbox : Inbox) : Inbox :=
  { inbox with
    messages := inbox.messages.updateWhere
      (fun _ message => message.isPlatform enterpriseId platformMessageId) (·.reacted reaction) }

def markDeletedOnPlatform (enterpriseId : Nat) (platformMessageId : String) (deletedAt : Int)
    (inbox : Inbox) : Inbox :=
  { inbox with
    messages := inbox.messages.updateWhere
      (fun _ message => message.isPlatform enterpriseId platformMessageId)
      (·.deletedAt deletedAt) }

/-- Whether a receipt for one message covers another: one of ours in the same thread, not
later, and not seen before. -/
def coveredBy (target message : MessageRow) : Bool :=
  message.enterpriseId == target.enterpriseId &&
    message.conversationId == target.conversationId && message.direction == .outbound &&
    message.metadata.seenAt.isNone && decide (message.shownAt ≤ target.shownAt)

def markSeenByCustomer (enterpriseId : Nat) (platformMessageId : String) (seenAt : Int)
    (inbox : Inbox) : Inbox :=
  match inbox.messages.find? (·.isPlatform enterpriseId platformMessageId) with
  | none => inbox
  | some target =>
      { inbox with
        messages := inbox.messages.updateWhere (fun _ message => coveredBy target.row message)
          (·.seen seenAt) }

def applyPlatformModeration (enterpriseId : Nat) (moderation : CommentModeration) (now : Int)
    (inbox : Inbox) : Bool × Inbox :=
  ((inbox.findIdByPlatformMessageId enterpriseId moderation.commentId).isSome,
    { inbox with
      messages := inbox.messages.updateWhere
        (fun _ message => message.isPlatform enterpriseId moderation.commentId)
        (·.moderated moderation.action moderation.text now) })

end Inbox

/-! ### Posts -/

def Inbox.findIdByPlatformPostId (enterpriseId channelId : Nat) (platformPostId : String)
    (inbox : Inbox) : Option Nat :=
  (inbox.posts.find? fun post => post.enterpriseId == enterpriseId &&
    post.channelId == channelId && post.platformPostId == platformPostId).map (·.id)

/-- A refresh keeps what it does not bring, and no count goes down. The status stays. -/
def PostRow.refreshed (post later : PostRow) : PostRow :=
  { post with
    postKind := later.postKind
    caption := later.caption.orElse fun _ => post.caption
    permalinkUrl := later.permalinkUrl.orElse fun _ => post.permalinkUrl
    publishedAt := later.publishedAt.orElse fun _ => post.publishedAt
    commentCount := max later.commentCount post.commentCount
    likeCount := max later.likeCount post.likeCount
    shareCount := max later.shareCount post.shareCount }

def Inbox.upsertPost (post : PostRow) (inbox : Inbox) : Inbox :=
  match inbox.posts.find? fun other => other.channelId == post.channelId &&
      other.platformPostId == post.platformPostId with
  | some stored => { inbox with posts := inbox.posts.update stored.id (·.refreshed post) }
  | none => { inbox with posts := inbox.posts.insert post }

end UnifiedService.Projection
