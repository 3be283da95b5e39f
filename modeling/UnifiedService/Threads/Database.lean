import UnifiedService.Listing.Queries
import UnifiedService.Outbound.Inbox
import UnifiedService.Sync.Jobs

/-! The tables that the inbox service reads and writes, and its queries for a thread. -/

set_option autoImplicit false

namespace UnifiedService.Threads

open UnifiedService.Library
open UnifiedService.Outbound

/-- The parts of `context_metadata` that are read. -/
structure ContextMetadata where
  mentionedMediaId : Option String
  mentionedCommentId : Option String
  mentionParentId : Option String
  isTagged : Bool
  threadCommentIds : List String
  deriving DecidableEq, Repr

structure ConversationRow extends Listing.ConversationRow where
  refId : String
  channelId : Nat
  customerIdentifierId : Option Nat
  platform : Platform
  platformThreadId : String
  subject : Option String
  postId : Option Nat
  contextMetadata : ContextMetadata
  unreadCount : Nat
  messageCount : Nat
  lastInboundAt : Option Int
  firstRespondedAt : Option Int
  deriving DecidableEq, Repr

structure CustomerIdentifierRow where
  id : Nat
  enterpriseId : Nat
  identifierValue : String
  isDeleted : Bool
  deriving DecidableEq, Repr

structure EmployeeRow where
  refId : String
  employeeId : Nat
  enterpriseId : Nat
  isActive : Bool
  isDeleted : Bool
  deriving DecidableEq, Repr

structure ChannelRow where
  id : Nat
  enterpriseId : Nat
  isDisconnected : Bool
  isDeleted : Bool
  hasToken : Bool
  reauthRequired : Bool
  isManaged : Bool
  deriving DecidableEq, Repr

structure AttachmentRow where
  id : Nat
  enterpriseId : Nat
  messageId : Nat
  sourceUrl : Option String
  sortOrder : Nat
  mimeType : Option String
  stableUrl : Bool
  isDeleted : Bool
  deriving DecidableEq, Repr

structure InboxDb where
  conversations : List ConversationRow
  outbound : OutboundDb
  readMessages : List Nat
  attachments : List AttachmentRow
  jobs : Table Sync.SyncJobRow
  identifiers : List CustomerIdentifierRow
  employees : List EmployeeRow
  channels : List ChannelRow
  deriving DecidableEq, Repr

namespace InboxDb

structure WellFormed (db : InboxDb) : Prop where
  ids : (db.conversations.map (·.id)).Nodup
  refIds : (db.conversations.map (·.refId)).Nodup

def findByRefId (db : InboxDb) (enterpriseId : Nat) (refId : String) : Option ConversationRow :=
  db.conversations.find? fun row =>
    row.enterpriseId == enterpriseId && row.refId == refId && !row.isDeleted

structure ResyncTarget where
  channelId : Nat
  conversationKind : ConversationKind
  targetPlatformId : Option String
  deriving DecidableEq, Repr

def identifierOf (db : InboxDb) (row : ConversationRow) : Option String :=
  row.customerIdentifierId.bind fun id =>
    (db.identifiers.find? fun identifier => identifier.id == id &&
      identifier.enterpriseId == row.enterpriseId && !identifier.isDeleted).map (·.identifierValue)

def findResyncTarget (db : InboxDb) (enterpriseId : Nat) (refId : String) : Option ResyncTarget :=
  (db.conversations.find? fun row =>
    row.enterpriseId == enterpriseId && row.refId == refId && !row.isDeleted).map fun row =>
      ⟨row.channelId, row.conversationKind, db.identifierOf row⟩

def findMentionByCommentId (db : InboxDb) (enterpriseId : Nat) (commentId : String) :
    Option (String × Option String) :=
  (db.conversations.find? fun row => row.enterpriseId == enterpriseId &&
    row.conversationKind == .mention && row.contextMetadata.mentionedCommentId == some commentId &&
    !row.isDeleted).map fun row => (row.refId, row.subject)

def findSendContext (db : InboxDb) (enterpriseId channelId : Nat) : Option ChannelRow :=
  db.channels.find? fun channel => channel.enterpriseId == enterpriseId &&
    channel.id == channelId && !channel.isDeleted && !channel.isDisconnected

def findEmployee (db : InboxDb) (enterpriseId : Nat) (refId : String) : Option EmployeeRow :=
  db.employees.find? fun employee => employee.enterpriseId == enterpriseId &&
    employee.refId == refId && !employee.isDeleted && employee.isActive

def updateConversation (db : InboxDb) (enterpriseId : Nat) (id : Listing.SafeId)
    (change : ConversationRow → ConversationRow) : InboxDb :=
  { db with
    conversations := db.conversations.map fun row =>
      if row.id = id ∧ row.enterpriseId = enterpriseId then change row else row }

def assign (db : InboxDb) (enterpriseId : Nat) (id : Listing.SafeId) (employeeId : Option Nat) :
    InboxDb :=
  db.updateConversation enterpriseId id fun row =>
    if row.isDeleted then row else { row with assignedToEmployeeId := employeeId }

def setStatus (db : InboxDb) (enterpriseId : Nat) (id : Listing.SafeId)
    (status : Projection.ConversationStatus) : InboxDb :=
  db.updateConversation enterpriseId id fun row =>
    if row.isDeleted then row else { row with status := status }

def greatest (one other : Listing.Timestamp) : Listing.Timestamp :=
  if one.date.getTime < other.date.getTime then other else one

def recordOutbound (db : InboxDb) (enterpriseId : Nat) (id : Listing.SafeId)
    (now : Listing.Timestamp) : InboxDb :=
  db.updateConversation enterpriseId id fun row =>
    { row with
      messageCount := row.messageCount + 1
      lastMessageAt := some (greatest (row.lastMessageAt.getD now) now)
      firstRespondedAt := row.firstRespondedAt.or (some now.date.getTime) }

def messagesOf (db : InboxDb) (enterpriseId conversationId : Nat) : List (Stored MessageRow) :=
  db.outbound.messages.select fun message =>
    message.enterpriseId == enterpriseId && message.conversationId == conversationId

def markRead (db : InboxDb) (enterpriseId : Nat) (id : Listing.SafeId) : InboxDb :=
  let db := db.updateConversation enterpriseId id fun row => { row with unreadCount := 0 }
  { db with
    readMessages := db.readMessages ++ (((db.messagesOf enterpriseId id.value).filter fun stored =>
      stored.row.direction == .inbound && !db.readMessages.contains stored.id).map (·.id)) }

def findByIdempotencyKey (db : InboxDb) (enterpriseId : Nat) (idempotencyKey : String) :
    Option (Stored MessageRow) :=
  db.outbound.messages.find? fun message =>
    message.enterpriseId == enterpriseId && message.idempotencyKey == some idempotencyKey

def findReplyTarget (db : InboxDb) (enterpriseId conversationId messageId : Nat) :
    Option MessageRow :=
  (db.outbound.messages.get? messageId).filter fun message =>
    message.enterpriseId == enterpriseId && message.conversationId == conversationId

/-- Who wrote the comments we hold, of those named: the business or somebody else. -/
def findKnownAuthors (db : InboxDb) (enterpriseId : Nat) (commentIds : List String) :
    List (String × MessageDirection) :=
  (db.outbound.messages.select fun message => message.enterpriseId == enterpriseId).filterMap
    fun stored => (stored.row.platformMessageId.filter fun id => commentIds.contains id).map
      (·, stored.row.direction)

def listAttachments (db : InboxDb) (enterpriseId : Nat) (messageIds : List Nat) :
    List AttachmentRow :=
  db.attachments.filter fun attachment => attachment.enterpriseId == enterpriseId &&
    messageIds.contains attachment.messageId && !attachment.isDeleted

structure Refreshable where
  id : Nat
  platformMessageId : String
  sortOrder : Nat
  sourceUrl : String
  deriving DecidableEq, Repr

def listRefreshable (db : InboxDb) (enterpriseId conversationId : Nat) : List Refreshable :=
  (db.attachments.filterMap fun attachment => do
    let sourceUrl ← attachment.sourceUrl
    let message ← db.outbound.messages.get? attachment.messageId
    let platformMessageId ← message.platformMessageId
    if attachment.enterpriseId = enterpriseId ∧ message.enterpriseId = enterpriseId ∧
        message.conversationId = conversationId ∧ attachment.stableUrl = false then
      some ⟨attachment.id, platformMessageId, attachment.sortOrder, sourceUrl⟩
    else none).insertionSort fun one other => one.sortOrder ≤ other.sortOrder

structure LinkUpdate where
  id : Nat
  sourceUrl : String
  mimeType : Option String
  deriving DecidableEq, Repr

def refreshSourceUrls (db : InboxDb) (enterpriseId : Nat) (updates : List LinkUpdate) : InboxDb :=
  { db with
    attachments := db.attachments.map fun attachment =>
      match updates.find? fun update =>
          update.id == attachment.id && attachment.enterpriseId == enterpriseId with
      | some update =>
          { attachment with
            sourceUrl := some update.sourceUrl
            mimeType := update.mimeType.or attachment.mimeType }
      | none => attachment }

end InboxDb

end UnifiedService.Threads
