import Mathlib.Data.List.Sort
import UnifiedService.Outbound.Database

/-! The statements of the outbound ledger: enqueueing, claiming with a lease, the guarded
updates that settle a row, read-back, replay and the reaper. -/

set_option autoImplicit false

namespace UnifiedService.Outbound

open UnifiedService.Library

structure EnqueueOutboundInput where
  enterpriseId : Option Nat
  channelId : Option Nat
  platform : Platform
  eventType : OutboundEventType
  recipientPlatformId : Option String
  dedupKey : String
  payload : OutboundPayload
  scheduledAt : Option Int
  priority : Option Nat
  deriving DecidableEq, Repr

structure ClaimedOutboundEvent where
  id : Nat
  enterpriseId : Option Nat
  channelId : Option Nat
  eventType : OutboundEventType
  recipientPlatformId : Option String
  payload : OutboundPayload
  attemptCount : Nat
  maxAttempts : Nat
  deriving DecidableEq, Repr

structure AmbiguousSend where
  id : Nat
  enterpriseId : Nat
  channelId : Nat
  eventType : OutboundEventType
  payload : OutboundPayload
  lastErrorAt : Int
  deriving DecidableEq, Repr

inductive RateLimitOutcome where
  | parked | deadLettered | notApplied
  deriving DecidableEq, Repr

/-- `COALESCE(next_attempt_at, scheduled_at, created_at)`. -/
def OutboundEventRow.dueAt (event : OutboundEventRow) : Int :=
  (event.nextAttemptAt.orElse fun _ => event.scheduledAt).getD event.createdAt

def EnqueueOutboundInput.row (input : EnqueueOutboundInput) (now : Int) : OutboundEventRow where
  enterpriseId := input.enterpriseId
  channelId := input.channelId
  platform := input.platform
  eventType := input.eventType
  recipientPlatformId := input.recipientPlatformId
  dedupKey := input.dedupKey
  payload := input.payload
  priority := input.priority.getD normalPriority
  status := if input.scheduledAt.isSome then .scheduled else .pending
  scheduledAt := input.scheduledAt
  nextAttemptAt := some (input.scheduledAt.getD now)
  createdAt := now
  attemptCount := 0
  maxAttempts := maxSendAttempts
  leaseOwner := none
  leaseExpiresAt := none
  platformEventId := none
  lastErrorAt := none
  metadata := ⟨false, none, 0⟩

def OutboundEventRow.heldBy (event : OutboundEventRow) (leaseOwner : Nat) : Bool :=
  event.leaseOwner == some leaseOwner && event.status != .sent

/-! ### What the updates set -/

namespace OutboundEventRow

def released (event : OutboundEventRow) : OutboundEventRow :=
  { event with leaseOwner := none, leaseExpiresAt := none }

def claimed (event : OutboundEventRow) (leaseOwner leaseSeconds : Nat) (now : Int) :
    OutboundEventRow :=
  { event with
    status := .sending
    leaseOwner := some leaseOwner
    leaseExpiresAt := some (now + leaseSeconds * 1000)
    attemptCount := event.attemptCount + 1 }

def markedSent (event : OutboundEventRow) (platformEventId : Option String) : OutboundEventRow :=
  { event.released with status := .sent, platformEventId := platformEventId }

/-- Without a next attempt, or with the budget spent, the row is dead-lettered. -/
def markedFailed (event : OutboundEventRow) (nextAttemptAt : Option Int) (now : Int) :
    OutboundEventRow :=
  { event.released with
    status :=
      if nextAttemptAt.isNone ∨ event.maxAttempts ≤ event.attemptCount then .deadLetter
      else .failed
    lastErrorAt := some now
    nextAttemptAt := nextAttemptAt }

/-- Parked without spending the attempt. -/
def parked (event : OutboundEventRow) (retryAt now : Int) : OutboundEventRow :=
  { event.released with
    status := .pending
    attemptCount := event.attemptCount - 1
    nextAttemptAt := some retryAt
    lastErrorAt := some now }

def deadLettered (event : OutboundEventRow) (now : Int) : OutboundEventRow :=
  { event.released with status := .deadLetter, nextAttemptAt := none, lastErrorAt := some now }

def cancelled (event : OutboundEventRow) (ambiguous : Bool) (now : Int) : OutboundEventRow :=
  { event.released with
    status := .cancelled
    lastErrorAt := some now
    metadata := { event.metadata with ambiguous := event.metadata.ambiguous || ambiguous } }

/-- A send that landed is promoted to sent. -/
def resolved (event : OutboundEventRow) (outcome : ReadBackOutcome)
    (platformEventId : Option String) : OutboundEventRow :=
  { event with
    metadata := { event.metadata with readBack := some outcome }
    status := if outcome = .landed then .sent else event.status
    platformEventId := platformEventId.orElse fun _ => event.platformEventId }

def replayed (event : OutboundEventRow) (now : Int) : OutboundEventRow :=
  { event.released with
    status := .pending
    attemptCount := 0
    nextAttemptAt := some now
    metadata := { event.metadata with replays := event.metadata.replays + 1 } }

def reclaimed (event : OutboundEventRow) : OutboundEventRow :=
  { event.released with status := .pending }

end OutboundEventRow

/-! ### The statements -/

def OutboundEventRow.mayWait (event : OutboundEventRow) (maxWaitMs now : Int) : Bool :=
  decide (now - maxWaitMs < event.createdAt)

/-- The order of a claim: priority, then due time, then age. -/
def claimedBefore (first second : Stored OutboundEventRow) : Prop :=
  first.row.priority < second.row.priority ∨
    (first.row.priority = second.row.priority ∧
      (first.row.dueAt < second.row.dueAt ∨
        (first.row.dueAt = second.row.dueAt ∧ first.id ≤ second.id)))

instance : DecidableRel claimedBefore := fun first second =>
  inferInstanceAs (Decidable (first.row.priority < second.row.priority ∨
    (first.row.priority = second.row.priority ∧
      (first.row.dueAt < second.row.dueAt ∨
        (first.row.dueAt = second.row.dueAt ∧ first.id ≤ second.id)))))

def workedBefore (first second : Stored OutboundEventRow) : Prop :=
  first.row.priority < second.row.priority ∨
    (first.row.priority = second.row.priority ∧ first.id ≤ second.id)

instance : DecidableRel workedBefore := fun first second =>
  inferInstanceAs (Decidable (first.row.priority < second.row.priority ∨
    (first.row.priority = second.row.priority ∧ first.id ≤ second.id)))

/-- What a claim returns of a row it took. The attempt it starts is counted. -/
def claimOf (stored : Stored OutboundEventRow) : ClaimedOutboundEvent where
  id := stored.id
  enterpriseId := stored.row.enterpriseId
  channelId := stored.row.channelId
  eventType := stored.row.eventType
  recipientPlatformId := stored.row.recipientPlatformId
  payload := stored.row.payload
  attemptCount := stored.row.attemptCount + 1
  maxAttempts := stored.row.maxAttempts

namespace OutboundDb

/-- A key that is taken already inserts nothing. -/
def enqueue (db : OutboundDb) (input : EnqueueOutboundInput) (now : Int) :
    Option Nat × OutboundDb :=
  if db.events.rows.any fun event =>
      event.enterpriseId == input.enterpriseId && event.dedupKey == input.dedupKey then
    (none, db)
  else (some db.events.nextId, { db with events := db.events.insert (input.row now) })

/-- The due rows a claim takes. Rows another transaction holds are skipped. -/
def dueRows (db : OutboundDb) (limit : Nat) (now : Int) (skipped : List Nat) :
    List (Stored OutboundEventRow) :=
  (((db.events.select fun event => event.status.isDue && decide (event.dueAt ≤ now)).filter
    fun stored => !skipped.contains stored.id).insertionSort claimedBefore).take limit

def claimDueBatch (db : OutboundDb) (leaseOwner limit leaseSeconds : Nat) (now : Int)
    (skipped : List Nat) : List ClaimedOutboundEvent × OutboundDb :=
  let due := db.dueRows limit now skipped
  let ids := due.map (·.id)
  ((due.insertionSort workedBefore).map claimOf,
    { db with
      events := db.events.updateWhere (fun id _ => ids.contains id)
        (·.claimed leaseOwner leaseSeconds now) })

def markSent (db : OutboundDb) (id leaseOwner : Nat) (platformEventId : Option String) :
    Bool × OutboundDb :=
  db.updateEvent id (·.leaseOwner == some leaseOwner) (·.markedSent platformEventId)

def stillHoldsLease (db : OutboundDb) (id leaseOwner : Nat) (now : Int) : Bool :=
  (db.events.get? id).any fun event =>
    event.leaseOwner == some leaseOwner && event.leaseExpiresAt.any (decide <| now < ·)

/-- Never over a row that is settled, nor for a worker that no longer owns it. -/
def markFailed (db : OutboundDb) (id leaseOwner : Nat) (nextAttemptAt : Option Int) (now : Int) :
    Bool × OutboundDb :=
  db.updateEvent id (·.heldBy leaseOwner) (·.markedFailed nextAttemptAt now)

/-- Parks a throttled row and refunds its attempt, or dead-letters it for its age. -/
def markRateLimited (db : OutboundDb) (id leaseOwner : Nat) (retryAt : Int) (maxWaitMs now : Int) :
    RateLimitOutcome × OutboundDb :=
  match db.events.get? id with
  | none => (.notApplied, db)
  | some event =>
      if event.heldBy leaseOwner then
        if event.mayWait maxWaitMs now then
          (.parked, { db with events := db.events.update id (·.parked retryAt now) })
        else (.deadLettered, { db with events := db.events.update id (·.deadLettered now) })
      else (.notApplied, db)

def cancel (db : OutboundDb) (id leaseOwner : Nat) (now : Int) : Bool × OutboundDb :=
  db.updateEvent id (·.heldBy leaseOwner) (·.cancelled false now)

/-- A cancellation that records that the send may have landed. -/
def cancelAmbiguous (db : OutboundDb) (id leaseOwner : Nat) (now : Int) : Bool × OutboundDb :=
  db.updateEvent id (·.heldBy leaseOwner) (·.cancelled true now)

/-- An ambiguous reply on Instagram, settled long enough ago and not read back yet. -/
def ambiguousSend (settledBeforeMs now : Int) (stored : Stored OutboundEventRow) :
    Option AmbiguousSend :=
  match stored.row.enterpriseId, stored.row.channelId, stored.row.lastErrorAt with
  | some enterpriseId, some channelId, some lastErrorAt =>
      if stored.row.status = .cancelled ∧ stored.row.platform = .instagram ∧
          (stored.row.eventType = .commentReply ∨ stored.row.eventType = .mentionReply) ∧
          stored.row.metadata.ambiguous = true ∧ stored.row.metadata.readBack = none ∧
          lastErrorAt < now - settledBeforeMs then
        some
          { id := stored.id
            enterpriseId := enterpriseId
            channelId := channelId
            eventType := stored.row.eventType
            payload := stored.row.payload
            lastErrorAt := lastErrorAt }
      else none
  | _, _, _ => none

/-- Oldest first. The query runs on its own, so its locks end with it. -/
def listAmbiguousAwaitingReadBack (db : OutboundDb) (limit : Nat) (settledBeforeMs now : Int)
    (skipped : List Nat) : List AmbiguousSend :=
  ((((db.events.select fun _ => true).filter fun stored => !skipped.contains stored.id).filterMap
    (ambiguousSend settledBeforeMs now)).insertionSort
      fun first second => first.lastErrorAt ≤ second.lastErrorAt).take limit

/-- Applies to a row once. -/
def markReadBackResolved (db : OutboundDb) (id : Nat) (outcome : ReadBackOutcome)
    (platformEventId : Option String) : Bool × OutboundDb :=
  db.updateEvent id (·.metadata.readBack.isNone) (·.resolved outcome platformEventId)

def isDeadModeration (enterpriseId : Nat) (commentId : String) (event : OutboundEventRow) : Bool :=
  event.enterpriseId == some enterpriseId && event.status == .deadLetter &&
    (event.eventType == .commentHide || event.eventType == .commentDelete) &&
    event.payload.commentId == some commentId

def findDeadModerationEvent (db : OutboundDb) (enterpriseId : Nat) (commentId : String) :
    Option (Stored OutboundEventRow) :=
  (db.events.select (isDeadModeration enterpriseId commentId)).getLast?

def findFailedModerationCommentIds (db : OutboundDb) (enterpriseId : Nat)
    (commentIds : List String) : List String :=
  commentIds.filter fun commentId => db.events.rows.any (isDeadModeration enterpriseId commentId)

def requeueDeadLettered (db : OutboundDb) (enterpriseId id maxReplays : Nat) (now : Int) :
    Bool × OutboundDb :=
  db.updateEvent id
    (fun event => event.enterpriseId == some enterpriseId && event.status == .deadLetter &&
      decide (event.metadata.replays < maxReplays))
    (·.replayed now)

/-- Whether the reaper may take a row back. A row being sent is given a grace period. -/
def leaseExpired (now : Int) (event : OutboundEventRow) : Bool :=
  event.leaseExpiresAt.any fun expiresAt =>
    (event.status == .leased && decide (expiresAt < now)) ||
      (event.status == .sending && decide (expiresAt < now - sendingReapGraceMs))

def reclaimExpiredLeases (db : OutboundDb) (limit : Nat) (now : Int) (skipped : List Nat) :
    OutboundDb :=
  let ids := (((db.events.select (leaseExpired now)).filter fun stored =>
    !skipped.contains stored.id).take limit).map (·.id)
  { db with
    events := db.events.updateWhere (fun id _ => ids.contains id) (·.reclaimed) }

end OutboundDb

end UnifiedService.Outbound
