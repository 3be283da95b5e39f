import UnifiedService.Projection.Database

/-! The projector of direct messages: a message or an echo is stored in one transaction,
reactions, receipts and unsends change the message they name. -/

set_option autoImplicit false

namespace UnifiedService.Projection

open UnifiedService.Library
open UnifiedService.Outbound (Platform truthy)
open UnifiedService.Inbound (ProjectionContext ProjectionOutcome ProjectedTriggerFacts
  RewardTriggerKind)

/-- The event was understood, and there is nothing to show for it. -/
def skipped : ProjectionOutcome := ⟨false, none, none⟩

/-! ### What an event says -/

/-- A tap is a message with the words of the button. -/
def postbackAsMessage (postback : Option EventPostback) : Option EventMessage :=
  postback.bind fun postback =>
    (truthy postback.mid).map fun mid =>
      { mid := some mid
        text := truthy postback.title
        isEcho := false
        isDeleted := false
        media := ⟨[], .text, false, false⟩
        replyToMid := none
        replyToStoryId := none
        quickReplyPayload := none }

def MessagingEvent.body (event : MessagingEvent) : Option EventMessage :=
  event.message.orElse fun _ => postbackAsMessage event.postback

/-- A recovered message without content, or one whose attachments are empty boxes. -/
def contentUnavailable (message : EventMessage) (event : MessagingEvent) : Bool :=
  (truthy message.text).isNone &&
    ((event.recovered && message.media.attachments.isEmpty) || message.media.unreadable)

def buildPlatformFacts (message : EventMessage) (event : MessagingEvent) : MessageMetadata where
  replyToPlatformMessageId := truthy message.replyToMid
  replyToStoryId := truthy message.replyToStoryId
  quickReplyPayload := truthy message.quickReplyPayload
  postbackPayload := event.postback.bind fun postback => truthy postback.payload
  isPostback := (event.postback.bind fun postback => truthy postback.mid).isSome
  isStoryMention := message.media.isStoryMention
  referral := event.referral
  contentUnavailable := contentUnavailable message event
  recoveredFromPlatform := false
  reaction := none
  seenAt := none

def resolveDirectMessageTrigger (platformFacts : MessageMetadata) : RewardTriggerKind :=
  if platformFacts.isStoryMention then .storyMention
  else if platformFacts.replyToStoryId.isSome then .storyReply
  else if platformFacts.referral then .referralEntry
  else if platformFacts.isPostback || platformFacts.postbackPayload.isSome ||
      platformFacts.quickReplyPayload.isSome then .postbackTapped
  else .directMessageInbound

/-! ### A customer's message -/

structure Incoming where
  enterpriseId : Nat
  channelId : Nat
  platform : Platform
  inboundEventId : Nat
  senderId : String
  displayName : Option String
  username : Option String
  nameless : Bool
  mid : String
  text : Option String
  media : NormalizedMedia
  metadata : MessageMetadata
  timestamp : Option Int
  deriving DecidableEq, Repr

namespace Incoming

variable (incoming : Incoming)

def customer : CreateCustomerInput where
  enterpriseId := incoming.enterpriseId
  identifierKind := platformIdentifierKind incoming.platform
  identifierValue := incoming.senderId
  displayName := incoming.displayName
  firstSource := if incoming.platform = .instagram then .instagramDm else .facebookDm
  firstChannelId := incoming.channelId

def thread (customer : CustomerResolution) : UpsertConversationInput where
  enterpriseId := incoming.enterpriseId
  channelId := incoming.channelId
  customerId := customer.customerId
  customerIdentifierId := customer.identifierId
  postId := none
  platform := incoming.platform
  conversationKind := .directMessage
  platformThreadId := composeThreadKey .directMessage incoming.senderId
  subject := none

def occurredAt (now : Int) : Int := incoming.timestamp.getD now

def row (customerId conversationId : Nat) (parentMessageId : Option Nat) (now : Int) :
    MessageRow where
  enterpriseId := incoming.enterpriseId
  conversationId := conversationId
  direction := .inbound
  customerId := customerId
  inboundEventId := some incoming.inboundEventId
  platformMessageId := some incoming.mid
  messageKind := incoming.media.messageKind
  body := incoming.text
  platformSentAt := incoming.timestamp
  parentMessageId := parentMessageId
  status := .delivered
  attachments := incoming.media.attachments
  metadata := incoming.metadata
  isRead := false
  isInternalNote := false
  idempotencyKey := none
  isHiddenOnPlatform := false
  platformDeletedAt := none
  createdAt := now
  occurredAt := incoming.occurredAt now

def engagement (customerId : Nat) (conversation : UpsertConversationResult) : EngagementInput where
  enterpriseId := incoming.enterpriseId
  customerId := customerId
  channelId := incoming.channelId
  platform := incoming.platform
  inbound := true
  conversationId := conversation.id
  conversationCreated := conversation.created

def trigger (customerId messageId : Nat) (now : Int) : ProjectedTriggerFacts where
  enterpriseId := incoming.enterpriseId
  customerId := customerId
  channelId := incoming.channelId
  sourceRefId := messageId
  occurredAtUtc := incoming.occurredAt now
  content := incoming.text
  triggerKind := resolveDirectMessageTrigger incoming.metadata

def resync : Sync.EnqueueSyncInput where
  enterpriseId := incoming.enterpriseId
  channelId := incoming.channelId
  jobKind := .resyncConversation
  triggerKind := .scheduled
  targetPlatformId := some incoming.senderId

/-- Who wrote it. A new customer without a name is looked up later. -/
def resolve (now : Int) (inbox : Inbox) : CustomerResolution × Inbox :=
  let (customer, inbox) := inbox.resolveOrCreate incoming.customer now
  let inbox :=
    if customer.created && incoming.nameless then
      { inbox with
        jobs := (Sync.SyncJobRepository.enqueueIfAbsent incoming.resync now inbox.jobs).2 }
    else inbox
  match incoming.platform, truthy incoming.username with
  | .instagram, some username =>
      (customer,
        inbox.linkIdentifier incoming.enterpriseId customer.customerId .instagramUsername username)
  | _, _ => (customer, inbox)

def parent (inbox : Inbox) : Option Nat :=
  incoming.metadata.replyToPlatformMessageId.bind
    (inbox.findIdByPlatformMessageId incoming.enterpriseId)

def count (customerId : Nat) (conversation : UpsertConversationResult) (now : Int)
    (inbox : Inbox) : Inbox :=
  let inbox := inbox.recordMessage conversation.id true (incoming.occurredAt now)
  let inbox := inbox.touchLastSeen customerId incoming.channelId now
  inbox.recordEngagement (incoming.engagement customerId conversation) now

def project (now : Int) (inbox : Inbox) : Inbox × ProjectionOutcome :=
  let (customer, inbox) := incoming.resolve now inbox
  let (conversation, inbox) := inbox.upsert (incoming.thread customer)
  let parentMessageId := incoming.parent inbox
  match inbox.insertMessage
    (incoming.row customer.customerId conversation.id parentMessageId now) with
  | (none, inbox) => (inbox, skipped)
  | (some id, inbox) =>
      let inbox := inbox.adoptOrphanReplies incoming.enterpriseId id incoming.mid
      (incoming.count customer.customerId conversation now inbox,
        ⟨true, some (incoming.trigger customer.customerId id now), none⟩)

end Incoming

/-! ### A message of our own -/

structure Echoed where
  enterpriseId : Nat
  channelId : Nat
  platform : Platform
  inboundEventId : Nat
  customerScopedId : String
  mid : String
  text : Option String
  media : NormalizedMedia
  timestamp : Option Int
  deriving DecidableEq, Repr

namespace Echoed

variable (echoed : Echoed)

def customer : CreateCustomerInput where
  enterpriseId := echoed.enterpriseId
  identifierKind := platformIdentifierKind echoed.platform
  identifierValue := echoed.customerScopedId
  displayName := none
  firstSource := if echoed.platform = .instagram then .instagramDm else .facebookDm
  firstChannelId := echoed.channelId

def thread (customer : CustomerResolution) : UpsertConversationInput where
  enterpriseId := echoed.enterpriseId
  channelId := echoed.channelId
  customerId := customer.customerId
  customerIdentifierId := customer.identifierId
  postId := none
  platform := echoed.platform
  conversationKind := .directMessage
  platformThreadId := composeThreadKey .directMessage echoed.customerScopedId
  subject := none

def occurredAt (now : Int) : Int := echoed.timestamp.getD now

/-- Whether our own message was an answer is not recorded. -/
def row (customerId conversationId : Nat) (now : Int) : MessageRow where
  enterpriseId := echoed.enterpriseId
  conversationId := conversationId
  direction := .outbound
  customerId := customerId
  inboundEventId := some echoed.inboundEventId
  platformMessageId := some echoed.mid
  messageKind := echoed.media.messageKind
  body := echoed.text
  platformSentAt := echoed.timestamp
  parentMessageId := none
  status := .delivered
  attachments := echoed.media.attachments
  metadata := { MessageMetadata.empty with recoveredFromPlatform := true }
  isRead := true
  isInternalNote := false
  idempotencyKey := none
  isHiddenOnPlatform := false
  platformDeletedAt := none
  createdAt := now
  occurredAt := echoed.occurredAt now

/-- The transaction of an echo. One that is recorded already is left, one that a pending
reply waits for is stamped on it. -/
def project (now : Int) (inbox : Inbox) : Inbox × ProjectionOutcome :=
  let (customer, inbox) := inbox.resolveOrCreate echoed.customer now
  let (conversation, inbox) := inbox.upsert (echoed.thread customer)
  match inbox.findIdByPlatformMessageId echoed.enterpriseId echoed.mid with
  | some _ => (inbox, skipped)
  | none =>
      match inbox.claimPendingOutbound echoed.enterpriseId conversation.id echoed.text echoed.mid
        now with
      | (some claimed, inbox) =>
          (inbox.adoptOrphanReplies echoed.enterpriseId claimed echoed.mid, skipped)
      | (none, inbox) =>
          match inbox.insertMessage (echoed.row customer.customerId conversation.id now) with
          | (none, inbox) => (inbox, skipped)
          | (some id, inbox) =>
              let inbox := inbox.adoptOrphanReplies echoed.enterpriseId id echoed.mid
              (inbox.recordMessage conversation.id false (echoed.occurredAt now),
                ⟨true, none, none⟩)

end Echoed

/-! ### The dispatch -/

namespace DirectMessageProjectorService

section Project

variable (normalizeText : String → String)

/-- Text that may be absent. What normalizes to nothing is absent too. -/
def normalizeOptionalText (value : Option String) : Option String :=
  (value.map normalizeText).filter (· ≠ "")

def incoming (context : ProjectionContext) (event : MessagingEvent) (message : EventMessage)
    (mid senderId : String) : Incoming where
  enterpriseId := context.enterpriseId
  channelId := context.channelId
  platform := context.platform
  inboundEventId := context.inboundEventId
  senderId := senderId
  displayName := normalizeOptionalText normalizeText (event.sender.bind EventSender.name)
  username := event.sender.bind EventSender.username
  nameless :=
    (truthy (event.sender.bind EventSender.name)).isNone &&
      (truthy (event.sender.bind EventSender.username)).isNone
  mid := mid
  text := message.text
  media := message.media
  metadata := buildPlatformFacts message event
  timestamp := event.timestamp

/-- An echo without a customer on the other side belongs to no thread. -/
def echoed (context : ProjectionContext) (event : MessagingEvent) (message : EventMessage)
    (mid : String) : Option Echoed :=
  (truthy event.recipientId).bind fun customerScopedId =>
    if some customerScopedId = event.sender.bind EventSender.id then none
    else
      some
        { enterpriseId := context.enterpriseId
          channelId := context.channelId
          platform := context.platform
          inboundEventId := context.inboundEventId
          customerScopedId := customerScopedId
          mid := mid
          text := message.text
          media := message.media
          timestamp := event.timestamp }

def handleReaction (context : ProjectionContext) (event : MessagingEvent)
    (reaction : EventReaction) (mid : String) (now : Int) (inbox : Inbox) : Inbox :=
  inbox.applyReaction context.enterpriseId mid
    (if reaction.unreact then none
      else some ⟨reaction.emoji, reaction.reaction, event.timestamp.getD now⟩)

/-- An edit of a message we do not hold waits one pass, and then has the thread re-read. -/
def handleMessageEdit (context : ProjectionContext) (event : MessagingEvent) (mid : String)
    (now : Int) (inbox : Inbox) : Inbox × Option ProjectionOutcome :=
  if (inbox.findIdByPlatformMessageId context.enterpriseId mid).isSome then (inbox, some skipped)
  else
    match truthy (event.sender.bind EventSender.id) with
    | none => (inbox, some skipped)
    | some senderId =>
        if context.attemptCount ≤ orphanEditGraceAttempts then (inbox, none)
        else
          let resync : Sync.EnqueueSyncInput :=
            ⟨context.enterpriseId, context.channelId, .resyncConversation, .scheduled,
              some senderId⟩
          ({ inbox with jobs := (Sync.SyncJobRepository.enqueueIfAbsent resync now inbox.jobs).2 },
            some skipped)

def projectMessage (context : ProjectionContext) (event : MessagingEvent) (message : EventMessage)
    (mid : String) (now : Int) (inbox : Inbox) : Inbox × ProjectionOutcome :=
  if message.isEcho then
    match echoed context event message mid with
    | none => (inbox, skipped)
    | some echoed => echoed.project now inbox
  else
    match truthy (event.sender.bind EventSender.id) with
    | none => (inbox, skipped)
    | some senderId => (incoming normalizeText context event message mid senderId).project now inbox

/-- Three kinds of event are about a message instead of being one. -/
def project (context : ProjectionContext) (event : MessagingEvent) (now : Int) (inbox : Inbox) :
    Inbox × Option ProjectionOutcome :=
  match truthy event.messageEditMid with
  | some mid => handleMessageEdit context event mid now inbox
  | none =>
      match event.reaction, truthy (event.reaction.bind EventReaction.mid) with
      | some reaction, some mid =>
          (handleReaction context event reaction mid now inbox, some skipped)
      | _, _ =>
          match truthy event.readMid with
          | some mid =>
              (inbox.markSeenByCustomer context.enterpriseId mid (event.timestamp.getD now),
                some skipped)
          | none =>
              match event.body, truthy (event.body.bind EventMessage.mid) with
              | some message, some mid =>
                  if message.isDeleted then
                    (inbox.markDeletedOnPlatform context.enterpriseId mid
                        (event.timestamp.getD now),
                      some skipped)
                  else
                    let (inbox, outcome) :=
                      projectMessage normalizeText context event message mid now inbox
                    (inbox, some outcome)
              | _, _ => (inbox, some skipped)

end Project

end DirectMessageProjectorService

end UnifiedService.Projection
