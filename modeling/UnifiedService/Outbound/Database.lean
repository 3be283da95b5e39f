import UnifiedService.Library.Table
import UnifiedService.Library.Transaction
import UnifiedService.Outbound.Vocabulary

/-! The tables of the outbox: the ledger of outbound events and the messages of the inbox.
Beside them stands what happened on the platform, which no statement reads. -/

set_option autoImplicit false

namespace UnifiedService.Outbound

open UnifiedService.Library

structure OutboundPayload where
  commentId : Option String
  mediaId : Option String
  message : Option String
  replyToPlatformMessageId : Option String
  hidden : Option Bool
  deriving DecidableEq, Repr

structure OutboundMetadata where
  ambiguous : Bool
  readBack : Option ReadBackOutcome
  replays : Nat
  deriving DecidableEq, Repr

structure OutboundEventRow where
  enterpriseId : Option Nat
  channelId : Option Nat
  platform : Platform
  eventType : OutboundEventType
  recipientPlatformId : Option String
  dedupKey : String
  payload : OutboundPayload
  priority : Nat
  status : OutboundEventStatus
  scheduledAt : Option Int
  nextAttemptAt : Option Int
  createdAt : Int
  attemptCount : Nat
  maxAttempts : Nat
  leaseOwner : Option Nat
  leaseExpiresAt : Option Int
  platformEventId : Option String
  lastErrorAt : Option Int
  metadata : OutboundMetadata
  deriving DecidableEq, Repr

structure MessageRow where
  enterpriseId : Nat
  conversationId : Nat
  direction : MessageDirection
  body : Option String
  status : MessageStatus
  idempotencyKey : Option String
  isInternalNote : Bool
  platformMessageId : Option String
  outboundEventId : Option Nat
  isHiddenOnPlatform : Bool
  platformDeletedAt : Option Int
  deletedByBusiness : Bool
  updatedAt : Int
  deriving DecidableEq, Repr

inductive GraphCall where
  | replyToComment (commentId message : String) (platform : Platform)
  | replyToMention (userId mediaId : String) (commentId : Option String) (message : String)
  | sendDirectMessage (target recipientPlatformId message : String)
      (replyToPlatformMessageId : Option String)
  | hideComment (commentId : String) (hidden : Bool) (platform : Platform)
  | deleteComment (commentId : String)
  deriving DecidableEq, Repr

structure CarriedOut where
  eventId : Nat
  call : GraphCall
  platformId : Option String
  deriving DecidableEq, Repr

/-- `ResolvedMentionReply`: a comment as a platform's list returns it. The timestamp is the
instant `Date.parse` reads from it, if any. -/
structure ResolvedMentionReply where
  platformId : String
  text : Option String
  timestamp : Option Int
  deriving DecidableEq, Repr

/-- What happened on the platform: the calls carried out, oldest first, the lists it
answered a read-back with, and the own messages it echoed that have been projected. -/
structure PlatformRecord where
  carriedOut : List CarriedOut
  listed : List (Nat × List ResolvedMentionReply)
  echoed : List String
  deriving DecidableEq, Repr

structure OutboundDb where
  messages : Table MessageRow
  events : Table OutboundEventRow
  platform : PlatformRecord
  deriving DecidableEq, Repr

def OutboundDb.empty : OutboundDb := ⟨.empty, .empty, ⟨[], [], []⟩⟩

inductive OutboundError where
  | uniqueViolation (index : String)
  | duplicateMessage
  | replyNotSupported
  deriving DecidableEq, Repr

/-! ### The state of a comment on the platform -/

def GraphCall.setsHidden (commentId : String) : GraphCall → Option Bool
  | .hideComment named hidden _ => if named = commentId then some hidden else none
  | .replyToComment _ _ _ | .replyToMention _ _ _ _ | .sendDirectMessage _ _ _ _
  | .deleteComment _ => none

def GraphCall.deletes (commentId : String) : GraphCall → Bool
  | .deleteComment named => named == commentId
  | .replyToComment _ _ _ | .replyToMention _ _ _ _ | .sendDirectMessage _ _ _ _
  | .hideComment _ _ _ => false

namespace PlatformRecord

/-- The last call about its visibility decides. A comment is born visible. -/
def hidden (record : PlatformRecord) (commentId : String) : Bool :=
  (record.carriedOut.filterMap fun done => done.call.setsHidden commentId).getLast?.getD false

def deleted (record : PlatformRecord) (commentId : String) : Bool :=
  record.carriedOut.any fun done => done.call.deletes commentId

def carryOut (record : PlatformRecord) (done : CarriedOut) : PlatformRecord :=
  { record with carriedOut := record.carriedOut ++ [done] }

end PlatformRecord

namespace OutboundDb

def updateEvent (db : OutboundDb) (id : Nat) (applies : OutboundEventRow → Bool)
    (change : OutboundEventRow → OutboundEventRow) : Bool × OutboundDb :=
  if (db.events.get? id).any applies then (true, { db with events := db.events.update id change })
  else (false, db)

end OutboundDb

end UnifiedService.Outbound
