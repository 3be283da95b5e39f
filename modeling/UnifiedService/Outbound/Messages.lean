import UnifiedService.Outbound.Database

/-! The statements on the messages of the inbox: an agent's own message and its delivery,
the echo of a send, a recovered message, and moderation. Every change stamps
`updated_at`. -/

set_option autoImplicit false

namespace UnifiedService.Outbound

open UnifiedService.Library

structure InsertOutboundMessageInput where
  enterpriseId : Nat
  conversationId : Nat
  body : String
  idempotencyKey : String
  isInternalNote : Bool
  deriving DecidableEq, Repr

structure PlatformMessage where
  enterpriseId : Nat
  conversationId : Nat
  platformMessageId : String
  body : Option String
  deriving DecidableEq, Repr

structure ModerationTarget where
  id : Nat
  platformMessageId : Option String
  isHiddenOnPlatform : Bool
  deletedOnPlatform : Bool
  updatedAt : Int
  deriving DecidableEq, Repr

def InsertOutboundMessageInput.row (input : InsertOutboundMessageInput) (now : Int) :
    MessageRow where
  enterpriseId := input.enterpriseId
  conversationId := input.conversationId
  direction := .outbound
  body := some input.body
  status := if input.isInternalNote then .delivered else .pending
  idempotencyKey := some input.idempotencyKey
  isInternalNote := input.isInternalNote
  platformMessageId := none
  outboundEventId := none
  isHiddenOnPlatform := false
  platformDeletedAt := none
  deletedByBusiness := false
  updatedAt := now

def PlatformMessage.row (message : PlatformMessage) (direction : MessageDirection) (now : Int) :
    MessageRow where
  enterpriseId := message.enterpriseId
  conversationId := message.conversationId
  direction := direction
  body := message.body
  status := .delivered
  idempotencyKey := none
  isInternalNote := false
  platformMessageId := some message.platformMessageId
  outboundEventId := none
  isHiddenOnPlatform := false
  platformDeletedAt := none
  deletedByBusiness := false
  updatedAt := now

def MessageRow.sentBy (message : MessageRow) (enterpriseId outboundEventId : Nat) : Bool :=
  message.enterpriseId == enterpriseId && message.outboundEventId == some outboundEventId

/-- Whether an echo may be of this row: the body is all the two have in common. -/
def MessageRow.awaitsEcho (row : MessageRow) (echo : PlatformMessage) : Bool :=
  row.enterpriseId == echo.enterpriseId && row.conversationId == echo.conversationId &&
    row.direction == .outbound && row.platformMessageId.isNone && !row.isInternalNote &&
    row.body.getD "" == echo.body.getD ""

/-- The status a write-back leaves, and the id it brings if it brings one. -/
def MessageRow.delivered (message : MessageRow) (platformMessageId : Option String)
    (status : MessageStatus) (now : Int) : MessageRow :=
  { message with
    platformMessageId := platformMessageId.orElse fun _ => message.platformMessageId
    status := status
    updatedAt := now }

/-- A row an echo was matched to. The status only ever goes up. -/
def MessageRow.stamped (row : MessageRow) (platformMessageId : String) (now : Int) : MessageRow :=
  { row with
    platformMessageId := some platformMessageId
    status := if row.status = .sent ∨ row.status = .delivered then row.status else .sent
    updatedAt := now }

def MessageRow.target (message : MessageRow) (id : Nat) : ModerationTarget where
  id := id
  platformMessageId := message.platformMessageId
  isHiddenOnPlatform := message.isHiddenOnPlatform
  deletedOnPlatform := message.platformDeletedAt.isSome
  updatedAt := message.updatedAt

def MessageRow.moderated (message : MessageRow) (action : ModerationAction) (now : Int) :
    MessageRow :=
  { message with
    isHiddenOnPlatform :=
      match action with
      | .hide => true
      | .unhide => false
      | .delete => message.isHiddenOnPlatform
    platformDeletedAt :=
      if action = .delete then message.platformDeletedAt.orElse fun _ => some now
      else message.platformDeletedAt
    deletedByBusiness := message.deletedByBusiness || action == .delete
    updatedAt := now }

namespace OutboundDb

/-- Whether `messages_platform_uniq` already holds an id of the platform. -/
def platformIdTaken (db : OutboundDb) (enterpriseId : Nat) (platformMessageId : String) : Bool :=
  db.messages.rows.any fun message =>
    message.enterpriseId == enterpriseId && message.platformMessageId == some platformMessageId

def insertOutbound (db : OutboundDb) (input : InsertOutboundMessageInput) (now : Int) :
    Except OutboundError (Nat × OutboundDb) :=
  if db.messages.rows.any fun message =>
      message.enterpriseId == input.enterpriseId &&
        message.idempotencyKey == some input.idempotencyKey then
    .error .duplicateMessage
  else
    .ok (db.messages.nextId, { db with messages := db.messages.insert (input.row now) })

def linkOutboundEvent (db : OutboundDb) (enterpriseId messageId outboundEventId : Nat)
    (now : Int) : OutboundDb :=
  { db with
    messages := db.messages.updateWhere
      (fun id message => id == messageId && message.enterpriseId == enterpriseId)
      fun message => { message with outboundEventId := some outboundEventId, updatedAt := now } }

/-- The delivery write-back, keyed on the ledger row. An id another message carries
already fails the statement. -/
def recordDelivery (db : OutboundDb) (enterpriseId outboundEventId : Nat)
    (platformMessageId : Option String) (status : MessageStatus) (now : Int) :
    Except OutboundError OutboundDb :=
  let written := db.messages.updateWhere (fun _ message =>
    message.sentBy enterpriseId outboundEventId) (·.delivered platformMessageId status now)
  if platformMessageId.any fun platformMessageId =>
      decide (1 < written.count fun message =>
        message.enterpriseId == enterpriseId &&
          message.platformMessageId == some platformMessageId) then
    .error (.uniqueViolation "messages_platform_uniq")
  else .ok { db with messages := written }

def findIdByPlatformMessageId (db : OutboundDb) (enterpriseId : Nat)
    (platformMessageId : String) : Option Nat :=
  (db.messages.find? fun message =>
    message.enterpriseId == enterpriseId &&
      message.platformMessageId == some platformMessageId).map (·.id)

/-- The oldest row without an id that an echo fits. Rows another transaction holds are
skipped. -/
def pendingOutbound (db : OutboundDb) (echo : PlatformMessage) (skipped : List Nat) :
    Option (Stored MessageRow) :=
  ((db.messages.select (·.awaitsEcho echo)).filter fun stored =>
    !skipped.contains stored.id).head?

def claimPendingOutbound (db : OutboundDb) (echo : PlatformMessage) (skipped : List Nat)
    (now : Int) : Except OutboundError (Option Nat × OutboundDb) :=
  match db.pendingOutbound echo skipped with
  | none => .ok (none, db)
  | some stored =>
      if db.platformIdTaken echo.enterpriseId echo.platformMessageId then
        .error (.uniqueViolation "messages_platform_uniq")
      else
        .ok (some stored.id,
          { db with
            messages := db.messages.update stored.id (·.stamped echo.platformMessageId now) })

def insertPlatformMessage (db : OutboundDb) (message : PlatformMessage)
    (direction : MessageDirection) (now : Int) : Option Nat × OutboundDb :=
  if db.platformIdTaken message.enterpriseId message.platformMessageId then (none, db)
  else
    (some db.messages.nextId,
      { db with messages := db.messages.insert (message.row direction now) })

def insertRecoveredOutbound (db : OutboundDb) (message : PlatformMessage) (now : Int) :
    Option Nat × OutboundDb :=
  db.insertPlatformMessage message .outbound now

def insertInbound (db : OutboundDb) (message : PlatformMessage) (now : Int) :
    Option Nat × OutboundDb :=
  db.insertPlatformMessage message .inbound now

def lockModerationTarget (db : OutboundDb) (enterpriseId conversationId messageId : Nat) :
    Option ModerationTarget :=
  ((db.messages.get? messageId).filter fun message =>
    message.enterpriseId == enterpriseId && message.conversationId == conversationId).map
      (·.target messageId)

def applyOwnModeration (db : OutboundDb) (messageId : Nat) (action : ModerationAction)
    (now : Int) : OutboundDb :=
  { db with messages := db.messages.update messageId (·.moderated action now) }

end OutboundDb

end UnifiedService.Outbound
