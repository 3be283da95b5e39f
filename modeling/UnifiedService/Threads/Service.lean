import UnifiedService.Threads.Database
import UnifiedService.Threads.Permissions

/-! The operations of the inbox service on a conversation, each by its reference. What is asked
of the platform is given with the request, as is what a page of messages holds. -/

set_option autoImplicit false

namespace UnifiedService.Threads

open UnifiedService.Library
open UnifiedService.Outbound

inductive ThreadError where
  | conversationNotFound
  | conversationResyncUnsupported
  | authNoActiveEmployment
  | conversationClosed
  | idempotencyKeyReused
  | channelNotFound
  | channelReauthRequired
  | channelNotManaged
  | messagingWindowClosed (reason : String)
  | messageNotFound
  | replyNotSupported
  | employeeNotFound
  | moderation (refusal : ModerationRefusal)
  | outbound (error : OutboundError)
  deriving DecidableEq, Repr

structure ThreadView where
  conversation : ConversationRow
  messages : Page (Stored MessageRow) String
  attachments : List AttachmentRow
  knownAuthors : List (String × MessageDirection)
  failedModerationCommentIds : List String
  parentMention : Option (String × Option String)
  deriving DecidableEq, Repr

inductive Answer where
  | thread (view : ThreadView)
  | queued (queued : Bool)
  | refreshed (refreshed beyondReach : Nat)
  | replied (messageRefId : Nat) (status : MessageStatus)
  | moderated (messageRefId : Nat)
  | done
  deriving DecidableEq, Repr

structure FreshLink where
  url : String
  mimeType : Option String
  deriving DecidableEq, Repr

/-- Who asks, when, and what the platform answers meanwhile. -/
structure Request where
  enterpriseId : Nat
  employeeId : Option Nat
  permissions : List String
  now : Listing.Timestamp
  freshLinks : ConversationRow → Option (String → Option (List FreshLink))
  page : List (Stored MessageRow) → Page (Stored MessageRow) String

def Request.time (request : Request) : Int := request.now.date.getTime

def Request.holds (request : Request) (permission : Permission) : Bool :=
  Threads.holds request.permissions permission

/-- A conversation that the actor may not see is not found. -/
def requireConversation (request : Request) (db : InboxDb) (refId : String)
    (action : ConversationAction) : Except ThreadError ConversationRow :=
  match db.findByRefId request.enterpriseId refId with
  | none => .error .conversationNotFound
  | some conversation =>
      if request.holds (permissionFor conversation.conversationKind action) then .ok conversation
      else .error .conversationNotFound

def resyncableKinds : List ConversationKind := [.directMessage]

def requestResync (request : Request) (db : InboxDb) (refId : String) :
    Except ThreadError (Answer × InboxDb) :=
  match db.findResyncTarget request.enterpriseId refId with
  | none => .error .conversationNotFound
  | some target =>
      if !resyncableKinds.contains target.conversationKind then
        .error .conversationResyncUnsupported
      else
        match truthy target.targetPlatformId with
        | none => .error .conversationResyncUnsupported
        | some platformId =>
            let (queued, jobs) := Sync.SyncJobRepository.enqueueIfAbsent
              ⟨request.enterpriseId, target.channelId, .resyncConversation, .manual,
                some platformId⟩ request.time db.jobs
            .ok (.queued queued, { db with jobs := jobs })

def viewThread (request : Request) (db : InboxDb) (conversation : ConversationRow) : ThreadView :=
  let page := request.page (db.messagesOf request.enterpriseId conversation.id.value)
  { conversation := conversation
    messages := page
    attachments := db.listAttachments request.enterpriseId (page.items.map (·.id))
    knownAuthors :=
      db.findKnownAuthors request.enterpriseId conversation.contextMetadata.threadCommentIds
    failedModerationCommentIds :=
      if conversation.conversationKind = .commentThread then
        db.outbound.findFailedModerationCommentIds request.enterpriseId
          (page.items.filterMap (·.row.platformMessageId))
      else []
    parentMention := conversation.contextMetadata.mentionParentId.bind
      (db.findMentionByCommentId request.enterpriseId) }

def readThread (request : Request) (db : InboxDb) (refId : String) :
    Except ThreadError (Answer × InboxDb) := do
  let conversation ← requireConversation request db refId .view
  return (.thread (viewThread request db conversation), db)

/-- The updates that bring fresh links to a message, or none if they do not match its
attachments one by one. -/
def linkUpdates (rows : List InboxDb.Refreshable) (links : List FreshLink) :
    Option (List InboxDb.LinkUpdate) :=
  if links.length = rows.length then
    some ((rows.zip links).filterMap fun entry =>
      if entry.2.url = entry.1.sourceUrl ∧ (truthy entry.2.mimeType).isNone then none
      else some ⟨entry.1.id, entry.2.url, truthy entry.2.mimeType⟩)
  else none

def stripThreadPrefix (platformThreadId : String) : String :=
  match platformThreadId.toList.dropWhile (· != ':') with
  | [] => platformThreadId
  | _ :: rest => String.ofList rest

/-- `platformThreadId.replace(/^dm:/, '')`. -/
def participantOf (platformThreadId : String) : String :=
  match platformThreadId.toList with
  | 'd' :: 'm' :: ':' :: rest => String.ofList rest
  | _ => platformThreadId

/-- Replaces the links of a thread that have expired, as far as the platform still gives
them. -/
def refreshAttachments (request : Request) (db : InboxDb) (refId : String) :
    Except ThreadError (Answer × InboxDb) := do
  let conversation ← requireConversation request db refId .view
  let stored := db.listRefreshable request.enterpriseId conversation.id.value
  if stored = [] then return (.refreshed 0 0, db)
  match db.findSendContext request.enterpriseId conversation.channelId with
  | none => return (.refreshed 0 stored.length, db)
  | some channel =>
      if !channel.hasToken || channel.reauthRequired || participantOf conversation.platformThreadId = ""
      then return (.refreshed 0 stored.length, db)
      match request.freshLinks conversation with
      | none => return (.refreshed 0 stored.length, db)
      | some fresh =>
          let groups := (stored.map (·.platformMessageId)).dedup.map fun message =>
            (stored.filter (·.platformMessageId == message), fresh message)
          let settled := groups.map fun group =>
            (group.1, group.2.bind (linkUpdates group.1))
          let updates := settled.flatMap fun group => group.2.getD []
          let beyondReach := (settled.map fun group =>
            if group.2.isSome then 0 else group.1.length).sum
          return (.refreshed updates.length beyondReach,
            db.refreshSourceUrls request.enterpriseId updates)

def messagingWindowMs : Int := 24 * 60 * 60 * 1000

def closedToReplies (status : Projection.ConversationStatus) : Bool := status.isDone

def replyRefusal (conversation : ConversationRow) (now : Int) : Option String :=
  if (replyEventTypeFor conversation.conversationKind).isNone then
    some "The platform does not accept replies to this kind of item. You can still add an internal note."
  else if conversation.conversationKind = .mention ∧ conversation.contextMetadata.isTagged = true then
    some ("Instagram does not allow replying to a post you were tagged in — only to one that " ++
      "@mentions you in its caption or in a comment. You can still add an internal note.")
  else if conversation.conversationKind ≠ .directMessage then none
  else
    match conversation.lastInboundAt with
    | none =>
        some ("This person has not messaged yet, and a business cannot open a message thread. " ++
          "Wait for them to write first.")
    | some lastInboundAt =>
        if messagingWindowMs < now - lastInboundAt then
          some ("The platform only accepts a reply within 24 hours of the customer's last message, " ++
            "and theirs was " ++ toString ((now - lastInboundAt) / 3600000) ++
            " hours ago. You can still add an internal note.")
        else none

structure ReplyRequest where
  body : String
  idempotencyKey : String
  internalNote : Bool
  replyToMessageRefId : Option Nat
  deriving DecidableEq, Repr

def outboxConversation (row : ConversationRow) : Outbound.Conversation where
  id := row.id.value
  channelId := row.channelId
  platform := row.platform
  conversationKind := row.conversationKind
  recipientPlatformId := stripThreadPrefix row.platformThreadId
  mentionMediaId := truthy row.contextMetadata.mentionedMediaId
  mentionCommentId := truthy row.contextMetadata.mentionedCommentId
  postId := row.postId

def mayReply (request : Request) (db : InboxDb) (conversation : ConversationRow) :
    Except ThreadError Unit :=
  match db.findSendContext request.enterpriseId conversation.channelId with
  | none => .error .channelNotFound
  | some channel =>
      if channel.reauthRequired then .error .channelReauthRequired
      else if !channel.isManaged then .error .channelNotManaged
      else
        match replyRefusal conversation request.time with
        | some reason => .error (.messagingWindowClosed reason)
        | none => .ok ()

def replyTarget (request : Request) (db : InboxDb) (conversation : ConversationRow) :
    Option Nat → Except ThreadError (Option String)
  | none => .ok none
  | some messageId =>
      match db.findReplyTarget request.enterpriseId conversation.id.value messageId with
      | none => .error .messageNotFound
      | some message =>
          if (truthy message.platformMessageId).isNone || message.platformDeletedAt.isSome then
            .error .replyNotSupported
          else .ok message.platformMessageId

/-- Queues a reply. One that was queued under the same key already is answered again. -/
def reply (request : Request) (db : InboxDb) (refId : String) (input : ReplyRequest) :
    Except ThreadError (Answer × InboxDb) := do
  if request.employeeId.isNone then throw .authNoActiveEmployment
  let conversation ← requireConversation request db refId .reply
  if closedToReplies conversation.status && !input.internalNote then throw .conversationClosed
  if conversation.status = .archived then throw .conversationClosed
  match db.findByIdempotencyKey request.enterpriseId input.idempotencyKey with
  | some existing =>
      if existing.row.conversationId ≠ conversation.id.value ∨
          existing.row.isInternalNote ≠ input.internalNote then
        throw .idempotencyKeyReused
      return (.replied existing.id existing.row.status, db)
  | none =>
      if !input.internalNote then mayReply request db conversation
      let replyTo ← replyTarget request db conversation input.replyToMessageRefId
      let outbound ← (InboxService.reply
        ⟨request.enterpriseId, outboxConversation conversation, input.body, input.idempotencyKey,
          input.internalNote, replyTo⟩ request.time db.outbound).mapError .outbound
      return (.replied db.outbound.messages.nextId
          (if input.internalNote then .delivered else .pending),
        { db with outbound := outbound }.recordOutbound request.enterpriseId conversation.id
          request.now)

def moderationInput (request : Request) (conversation : ConversationRow) (messageId : Nat) :
    ModerationInput where
  enterpriseId := request.enterpriseId
  conversation := outboxConversation conversation
  messageId := messageId
  mayHide := request.holds .commentsHide
  mayDelete := request.holds .commentsDelete

def moderateComment (request : Request) (db : InboxDb) (refId : String) (messageId : Nat)
    (action : ModerationAction) : Except ThreadError (Answer × InboxDb) := do
  let conversation ← requireConversation request db refId .manage
  let outbound ← (InboxService.moderateComment (moderationInput request conversation messageId)
    action request.time db.outbound).mapError .moderation
  return (.moderated messageId, { db with outbound := outbound })

def retryModeration (request : Request) (db : InboxDb) (refId : String) (messageId : Nat) :
    Except ThreadError (Answer × InboxDb) := do
  let conversation ← requireConversation request db refId .manage
  let outbound ← (InboxService.retryModeration (moderationInput request conversation messageId)
    request.time db.outbound).mapError .moderation
  return (.moderated messageId, { db with outbound := outbound })

def assignee (request : Request) (db : InboxDb) : Option String → Except ThreadError (Option Nat)
  | none => .ok none
  | some refId =>
      match db.findEmployee request.enterpriseId refId with
      | none => .error .employeeNotFound
      | some employee => .ok (some employee.employeeId)

def assign (request : Request) (db : InboxDb) (refId : String) (employeeRefId : Option String) :
    Except ThreadError (Answer × InboxDb) := do
  let employeeId ← assignee request db employeeRefId
  let conversation ← requireConversation request db refId .assign
  if conversation.assignedToEmployeeId = employeeId then return (.done, db)
  return (.done, db.assign request.enterpriseId conversation.id employeeId)

def setStatus (request : Request) (db : InboxDb) (refId : String)
    (status : Projection.ConversationStatus) : Except ThreadError (Answer × InboxDb) := do
  let conversation ← requireConversation request db refId .manage
  if conversation.status = status then return (.done, db)
  return (.done, db.setStatus request.enterpriseId conversation.id status)

def markRead (request : Request) (db : InboxDb) (refId : String) :
    Except ThreadError (Answer × InboxDb) := do
  let conversation ← requireConversation request db refId .view
  return (.done, db.markRead request.enterpriseId conversation.id)

def listInbox (runtime : Listing.Runtime) (request : Request) (db : InboxDb)
    (options : Listing.InboxOptions) (cursor : Option String) :
    Except Listing.ListingError (Page Listing.ConversationRow String) :=
  Listing.listInbox runtime (db.conversations.map (·.toConversationRow)) request.permissions
    request.enterpriseId options cursor

inductive Operation where
  | readThread
  | requestResync
  | refreshAttachments
  | reply (input : ReplyRequest)
  | moderateComment (messageId : Nat) (action : ModerationAction)
  | retryModeration (messageId : Nat)
  | assign (employeeRefId : Option String)
  | setStatus (status : Projection.ConversationStatus)
  | markRead
  deriving DecidableEq, Repr

namespace Operation

/-- The right an operation takes: its route is open to who has it on any kind of thread. -/
def action : Operation → ConversationAction
  | .readThread | .refreshAttachments | .markRead => .view
  | .reply _ => .reply
  | .assign _ => .assign
  | .requestResync | .moderateComment _ _ | .retryModeration _ | .setStatus _ => .manage

def run (request : Request) (db : InboxDb) (refId : String) :
    Operation → Except ThreadError (Answer × InboxDb)
  | .readThread => Threads.readThread request db refId
  | .requestResync => Threads.requestResync request db refId
  | .refreshAttachments => Threads.refreshAttachments request db refId
  | .reply input => Threads.reply request db refId input
  | .moderateComment messageId action => Threads.moderateComment request db refId messageId action
  | .retryModeration messageId => Threads.retryModeration request db refId messageId
  | .assign employeeRefId => Threads.assign request db refId employeeRefId
  | .setStatus status => Threads.setStatus request db refId status
  | .markRead => Threads.markRead request db refId

def answer (operation : Operation) (request : Request) (db : InboxDb) (refId : String) :
    Except ThreadError Answer :=
  (operation.run request db refId).map (·.1)

/-- The tables afterwards: an operation that fails leaves them as they were. -/
def after (operation : Operation) (request : Request) (db : InboxDb) (refId : String) : InboxDb :=
  match operation.run request db refId with
  | .ok (_, next) => next
  | .error _ => db

end Operation

end UnifiedService.Threads
