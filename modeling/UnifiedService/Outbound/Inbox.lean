import UnifiedService.Library.Instant
import UnifiedService.Outbound.Ledger
import UnifiedService.Outbound.Messages

/-! What an agent asks of the inbox: to reply, to moderate a comment, and to send a dead
moderation again. Each is one transaction. -/

set_option autoImplicit false

namespace UnifiedService.Outbound

open UnifiedService.Library

structure Conversation where
  id : Nat
  channelId : Nat
  platform : Platform
  conversationKind : ConversationKind
  recipientPlatformId : String
  mentionMediaId : Option String
  mentionCommentId : Option String
  postId : Option Nat
  deriving DecidableEq, Repr

structure ReplyInput where
  enterpriseId : Nat
  conversation : Conversation
  body : String
  idempotencyKey : String
  internalNote : Bool
  replyToPlatformMessageId : Option String
  deriving DecidableEq, Repr

structure ModerationInput where
  enterpriseId : Nat
  conversation : Conversation
  messageId : Nat
  mayHide : Bool
  mayDelete : Bool
  deriving DecidableEq, Repr

inductive ModerationRefusal where
  | permissionDenied
  | notAComment
  | notOwnPost
  | messageNotFound
  | notOnPlatform
  | alreadyGone
  | alreadyInState
  | alreadyInFlight
  | nothingFailed
  | replayedTooOften
  deriving DecidableEq, Repr

namespace InboxService

def replyPayload (input : ReplyInput) :
    OutboundEventType → Except OutboundError OutboundPayload
  | .mentionReply =>
      match input.conversation.mentionMediaId with
      | none => .error .replyNotSupported
      | some mediaId =>
          .ok ⟨input.conversation.mentionCommentId, some mediaId, some input.body, none, none⟩
  | .commentReply =>
      .ok ⟨some input.conversation.recipientPlatformId, none, some input.body, none, none⟩
  | .directMessage | .commentHide | .commentDelete | .postPublish | .verificationSend =>
      .ok ⟨none, none, some input.body, truthy input.replyToPlatformMessageId, none⟩

def replyEvent (input : ReplyInput) (eventType : OutboundEventType) (payload : OutboundPayload)
    (messageId : Nat) : EnqueueOutboundInput where
  enterpriseId := some input.enterpriseId
  channelId := some input.conversation.channelId
  platform := input.conversation.platform
  eventType := eventType
  recipientPlatformId := some input.conversation.recipientPlatformId
  dedupKey := outboundDedupKey input.conversation.platform eventType "messages" messageId
  payload := payload
  scheduledAt := none
  priority := none

/-- The message and the event that announces it commit together. -/
def reply (input : ReplyInput) (now : Int) (db : OutboundDb) : Except OutboundError OutboundDb := do
  let (messageId, db) ← db.insertOutbound
    ⟨input.enterpriseId, input.conversation.id, input.body, input.idempotencyKey,
      input.internalNote⟩ now
  if input.internalNote then .ok db
  else
    match replyEventTypeFor input.conversation.conversationKind with
    | none => .error .replyNotSupported
    | some eventType => do
        let payload ← replyPayload input eventType
        match db.enqueue (replyEvent input eventType payload messageId) now with
        | (none, db) => .ok db
        | (some eventId, db) => .ok (db.linkOutboundEvent input.enterpriseId messageId eventId now)

def mayModerate (input : ModerationInput) (action : ModerationAction) :
    Except ModerationRefusal Unit :=
  if !(if action = .delete then input.mayDelete else input.mayHide) then .error .permissionDenied
  else if input.conversation.conversationKind ≠ .commentThread then .error .notAComment
  else if input.conversation.postId.isNone then .error .notOwnPost
  else .ok ()

/-- What the locked row allows, and the platform's id of the comment if it does. -/
def decideModeration (target : ModerationTarget) (action : ModerationAction) :
    Except ModerationRefusal String :=
  match truthy target.platformMessageId with
  | none => .error .notOnPlatform
  | some commentId =>
      if target.deletedOnPlatform then .error .alreadyGone
      else if action = .hide ∧ target.isHiddenOnPlatform = true ∨
          action = .unhide ∧ target.isHiddenOnPlatform = false then
        .error .alreadyInState
      else .ok commentId

/-- The state of the row is part of the key, so that a repeat is no duplicate. -/
def moderationKey (platform : Platform) (action : ModerationAction)
    (target : ModerationTarget) : String :=
  outboundDedupKey platform action.eventType
    ("messages:" ++ action.text ++ ":" ++ toIsoString target.updatedAt) target.id

def moderationEvent (input : ModerationInput) (action : ModerationAction)
    (target : ModerationTarget) (commentId : String) : EnqueueOutboundInput where
  enterpriseId := some input.enterpriseId
  channelId := some input.conversation.channelId
  platform := input.conversation.platform
  eventType := action.eventType
  recipientPlatformId := target.platformMessageId
  dedupKey := moderationKey input.conversation.platform action target
  payload :=
    ⟨some commentId, none, none, none, if action = .delete then none else some (action == .hide)⟩
  scheduledAt := none
  priority := none

/-- The row is read, decided on and written while it is held. -/
def moderateComment (input : ModerationInput) (action : ModerationAction) (now : Int)
    (db : OutboundDb) : Except ModerationRefusal OutboundDb := do
  mayModerate input action
  match db.lockModerationTarget input.enterpriseId input.conversation.id input.messageId with
  | none => .error .messageNotFound
  | some target => do
      let commentId ← decideModeration target action
      match db.enqueue (moderationEvent input action target commentId) now with
      | (none, _) => .error .alreadyInFlight
      | (some _, db) => .ok (db.applyOwnModeration target.id action now)

/-- Replays the newest dead hide or delete of a comment, by the permission of the
original action. -/
def retryModeration (input : ModerationInput) (now : Int) (db : OutboundDb) :
    Except ModerationRefusal OutboundDb :=
  match db.lockModerationTarget input.enterpriseId input.conversation.id input.messageId with
  | none => .error .messageNotFound
  | some target =>
      match truthy target.platformMessageId with
      | none => .error .notOnPlatform
      | some commentId =>
          match db.findDeadModerationEvent input.enterpriseId commentId with
          | none => .error .nothingFailed
          | some dead =>
              if !(if dead.row.eventType = .commentDelete then input.mayDelete
                  else input.mayHide) then
                .error .permissionDenied
              else
                match db.requeueDeadLettered input.enterpriseId dead.id maxModerationReplays
                    now with
                | (false, _) => .error .replayedTooOften
                | (true, db) => .ok db

end InboxService

end UnifiedService.Outbound
