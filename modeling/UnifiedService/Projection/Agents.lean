import UnifiedService.Projection.Comments
import UnifiedService.Outbound.Messages

/-! What else is written to the inbox: the replies and notes of the agents, what they set and
read, the delivery write-back, and what is learned of a customer. -/

set_option autoImplicit false

namespace UnifiedService.Projection

open UnifiedService.Library
open UnifiedService.Outbound (Platform MessageStatus ModerationAction)
open UnifiedService.Inbound (ProjectionContext InboundEventType)

structure ReplyInput where
  conversationId : Nat
  body : String
  idempotencyKey : String
  parentMessageId : Option Nat
  internalNote : Bool
  deriving DecidableEq, Repr

/-- A note is delivered the moment it is stored. -/
def ReplyInput.row (input : ReplyInput) (conversation : ConversationRow) (now : Int) :
    MessageRow where
  enterpriseId := conversation.enterpriseId
  conversationId := input.conversationId
  direction := .outbound
  customerId := conversation.customerId
  inboundEventId := none
  platformMessageId := none
  messageKind := .text
  body := some input.body
  platformSentAt := none
  parentMessageId := input.parentMessageId
  status := if input.internalNote then .delivered else .pending
  attachments := []
  metadata := .empty
  isRead := true
  isInternalNote := input.internalNote
  idempotencyKey := some input.idempotencyKey
  isHiddenOnPlatform := false
  platformDeletedAt := none
  createdAt := now
  occurredAt := now

def ReplyInput.engagement (input : ReplyInput) (conversation : ConversationRow) :
    EngagementInput where
  enterpriseId := conversation.enterpriseId
  customerId := conversation.customerId
  channelId := conversation.channelId
  platform := conversation.platform
  inbound := false
  conversationId := input.conversationId
  conversationCreated := false

/-- The status a write-back leaves, and the id it brings if it brings one. -/
def MessageRow.delivered (platformMessageId : Option String) (status : MessageStatus) (now : Int)
    (message : MessageRow) : MessageRow :=
  { message with
    platformMessageId := platformMessageId.orElse fun _ => message.platformMessageId
    status := status
    platformSentAt := if status = .sent then some now else message.platformSentAt }

def MessageRow.ownModerated (action : ModerationAction) (now : Int) (message : MessageRow) :
    MessageRow :=
  { message with
    isHiddenOnPlatform :=
      match action with
      | .hide => true
      | .unhide => false
      | .delete => message.isHiddenOnPlatform
    platformDeletedAt :=
      if action = .delete then message.platformDeletedAt.orElse fun _ => some now
      else message.platformDeletedAt }

namespace Inbox

/-- The transaction of a reply or a note. A key that is used already rolls it back. -/
def reply (input : ReplyInput) (now : Int) (inbox : Inbox) : Inbox :=
  match inbox.conversations.get? input.conversationId with
  | none => inbox
  | some conversation =>
      if (inbox.messages.find? fun message =>
          message.enterpriseId == conversation.enterpriseId &&
            message.idempotencyKey == some input.idempotencyKey).isSome then inbox
      else
        let inbox :=
          { inbox with messages := inbox.messages.insert (input.row conversation now) }
        let inbox := inbox.recordMessage input.conversationId false now
        inbox.recordEngagement (input.engagement conversation) now

/-- An id that another message carries already fails the statement. -/
def recordDelivery (messageId : Nat) (platformMessageId : Option String) (status : MessageStatus)
    (now : Int) (inbox : Inbox) : Inbox :=
  match inbox.messages.get? messageId with
  | none => inbox
  | some message =>
      if platformMessageId.any fun platformMessageId =>
          (inbox.findIdByPlatformMessageId message.enterpriseId platformMessageId).any
            (· != messageId) then inbox
      else
        { inbox with
          messages := inbox.messages.update messageId (·.delivered platformMessageId status now) }

def applyOwnModeration (messageId : Nat) (action : ModerationAction) (now : Int) (inbox : Inbox) :
    Inbox :=
  { inbox with messages := inbox.messages.update messageId (·.ownModerated action now) }

/-- The platform's own answer to who this is replaces what is there, where it gives one. -/
def applyPlatformProfile (customerId : Nat) (displayName : Option String) (inbox : Inbox) : Inbox :=
  { inbox with
    customers := inbox.customers.update customerId fun customer =>
      { customer with displayName := displayName.orElse fun _ => customer.displayName } }

def nameByIdentifier (key : Nat × IdentifierKind × String) (displayName : String)
    (inbox : Inbox) : Inbox :=
  { inbox with
    customers := inbox.customers.updateWhere
      (fun id _ => (inbox.identifiers.find? fun identifier =>
        identifier.key == key && identifier.customerId == id).isSome)
      (·.named (some displayName)) }

end Inbox

/-! ### Calls -/

/-- A call that writes to the inbox. Each is one transaction, but for the two statements of
`markRead`. -/
inductive InboxCall where
  | project (eventType : InboundEventType) (context : ProjectionContext)
      (payload : InboundPayload) (now : Int) (oracle : ProjectionOracle)
  | reply (input : ReplyInput) (now : Int)
  | setStatus (conversationId : Nat) (status : ConversationStatus)
  | clearBadge (conversationId : Nat)
  | markRowsRead (conversationId : Nat)
  | recordDelivery (messageId : Nat) (platformMessageId : Option String) (status : MessageStatus)
      (now : Int)
  | moderate (messageId : Nat) (action : ModerationAction) (now : Int)
  | applyPlatformProfile (customerId : Nat) (displayName : Option String)
  | nameByIdentifier (key : Nat × IdentifierKind × String) (displayName : String)
  | linkIdentifier (enterpriseId customerId : Nat) (username : String)
  deriving DecidableEq, Repr

namespace InboxCall

def apply (normalizeText : String → String) (inbox : Inbox) : InboxCall → Inbox
  | project eventType context payload now oracle =>
      (projectors normalizeText eventType context payload now oracle inbox).1
  | reply input now => inbox.reply input now
  | setStatus conversationId status => inbox.setStatus conversationId status
  | clearBadge conversationId => inbox.clearBadge conversationId
  | markRowsRead conversationId => inbox.markRowsRead conversationId
  | recordDelivery messageId platformMessageId status now =>
      inbox.recordDelivery messageId platformMessageId status now
  | moderate messageId action now => inbox.applyOwnModeration messageId action now
  | applyPlatformProfile customerId displayName =>
      inbox.applyPlatformProfile customerId displayName
  | nameByIdentifier key displayName => inbox.nameByIdentifier key displayName
  | linkIdentifier enterpriseId customerId username =>
      inbox.linkIdentifier enterpriseId customerId .instagramUsername username

def applyAll (normalizeText : String → String) (calls : List InboxCall) : Inbox :=
  calls.foldl (apply normalizeText) .empty

end InboxCall

end UnifiedService.Projection
