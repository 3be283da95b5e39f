import UnifiedService.Library.Queue
import UnifiedService.Outbound.Vocabulary

/-! The inbound ledger: one row for each thing a platform tells of, and the statements that
insert, claim, settle and reclaim it. What a row carries is left open. -/

set_option autoImplicit false

namespace UnifiedService.Inbound

open UnifiedService.Library
open UnifiedService.Outbound (Platform normalPriority)

inductive InboundEventStatus where
  | pending | leased | processing | processed | failed | deadLetter | skipped
  deriving DecidableEq, Repr

inductive InboundEventType where
  | comment | directMessage | mention | postUpdate | storyReply | permissionChange
  deriving DecidableEq, Repr

def inboundMaxAttempts : Nat := 3

def InboundEventStatus.isClaimable : InboundEventStatus → Bool
  | .pending | .failed => true
  | .leased | .processing | .processed | .deadLetter | .skipped => false

def InboundEventStatus.isLeased : InboundEventStatus → Bool
  | .leased | .processing => true
  | .pending | .failed | .processed | .deadLetter | .skipped => false

structure InboundEventRow (Payload : Type) where
  enterpriseId : Option Nat
  channelId : Option Nat
  platform : Platform
  eventType : InboundEventType
  dedupKey : String
  payload : Payload
  priority : Nat
  status : InboundEventStatus
  attemptCount : Nat
  maxAttempts : Nat
  nextAttemptAt : Option Int
  leaseOwner : Option Nat
  leaseExpiresAt : Option Int
  createdAt : Int
  deriving DecidableEq, Repr

structure InboundEventInput (Payload : Type) where
  enterpriseId : Option Nat
  channelId : Option Nat
  platform : Platform
  eventType : InboundEventType
  dedupKey : String
  payload : Payload
  priority : Option Nat
  deriving DecidableEq, Repr

structure ClaimedInboundEvent (Payload : Type) where
  id : Nat
  eventType : InboundEventType
  payload : Payload
  attemptCount : Nat
  priority : Nat
  deriving DecidableEq, Repr

variable {Payload : Type}

def InboundEventInput.row (input : InboundEventInput Payload) (now : Int) :
    InboundEventRow Payload where
  enterpriseId := input.enterpriseId
  channelId := input.channelId
  platform := input.platform
  eventType := input.eventType
  dedupKey := input.dedupKey
  payload := input.payload
  priority := input.priority.getD normalPriority
  status := .pending
  attemptCount := 0
  maxAttempts := inboundMaxAttempts
  nextAttemptAt := some now
  leaseOwner := none
  leaseExpiresAt := none
  createdAt := now

namespace InboundEventRow

/-- `COALESCE(next_attempt_at, created_at)`. -/
def dueAt (event : InboundEventRow Payload) : Int := event.nextAttemptAt.getD event.createdAt

/-- `(COALESCE(enterprise_id, 0), dedup_key)`. -/
def uniqueKey (event : InboundEventRow Payload) : Nat × String :=
  (event.enterpriseId.getD 0, event.dedupKey)

def released (event : InboundEventRow Payload) : InboundEventRow Payload :=
  { event with leaseOwner := none, leaseExpiresAt := none }

def claimed (event : InboundEventRow Payload) (leaseOwner leaseSeconds : Nat) (now : Int) :
    InboundEventRow Payload :=
  { event with
    status := .processing
    leaseOwner := some leaseOwner
    leaseExpiresAt := some (now + leaseSeconds * 1000)
    attemptCount := event.attemptCount + 1 }

def settled (event : InboundEventRow Payload) (status : InboundEventStatus) :
    InboundEventRow Payload :=
  { event.released with status := status }

/-- With the budget spent the row is dead-lettered. -/
def markedFailed (event : InboundEventRow Payload) (nextAttemptAt : Int) :
    InboundEventRow Payload :=
  { event.released with
    status := if event.maxAttempts ≤ event.attemptCount then .deadLetter else .failed
    nextAttemptAt := some nextAttemptAt }

/-- A row that took too many workers down with it is dead-lettered. -/
def reclaimed (event : InboundEventRow Payload) : InboundEventRow Payload :=
  { event.released with
    status := if event.maxAttempts ≤ event.attemptCount then .deadLetter else .pending }

/-- A settled row that an operator puts back by hand, with a fresh budget. -/
def replayed (event : InboundEventRow Payload) (now : Int) : InboundEventRow Payload :=
  { event.released with status := .pending, attemptCount := 0, nextAttemptAt := some now }

end InboundEventRow

def claimedBefore (first second : Stored (InboundEventRow Payload)) : Prop :=
  first.row.priority < second.row.priority ∨
    (first.row.priority = second.row.priority ∧
      (first.row.dueAt < second.row.dueAt ∨
        (first.row.dueAt = second.row.dueAt ∧ first.id ≤ second.id)))

instance : DecidableRel (@claimedBefore Payload) := fun first second =>
  inferInstanceAs (Decidable (first.row.priority < second.row.priority ∨
    (first.row.priority = second.row.priority ∧
      (first.row.dueAt < second.row.dueAt ∨
        (first.row.dueAt = second.row.dueAt ∧ first.id ≤ second.id)))))

def workedBefore (first second : Stored (InboundEventRow Payload)) : Prop :=
  first.row.priority < second.row.priority ∨
    (first.row.priority = second.row.priority ∧ first.id ≤ second.id)

instance : DecidableRel (@workedBefore Payload) := fun first second =>
  inferInstanceAs (Decidable (first.row.priority < second.row.priority ∨
    (first.row.priority = second.row.priority ∧ first.id ≤ second.id)))

/-- Any order will do for taking leases back. -/
def storedBefore (first second : Stored (InboundEventRow Payload)) : Prop := first.id ≤ second.id

instance : DecidableRel (@storedBefore Payload) := fun first second =>
  inferInstanceAs (Decidable (first.id ≤ second.id))

/-- What a claim returns of a row it took. The attempt it starts is counted. -/
def claimOf (stored : Stored (InboundEventRow Payload)) : ClaimedInboundEvent Payload where
  id := stored.id
  eventType := stored.row.eventType
  payload := stored.row.payload
  attemptCount := stored.row.attemptCount + 1
  priority := stored.row.priority

namespace InboundEventRepository

/-- A key that is taken already is a duplicate, and inserts nothing. -/
def insertIgnoringDuplicate (input : InboundEventInput Payload) (now : Int)
    (events : Table (InboundEventRow Payload)) : Option Nat × Table (InboundEventRow Payload) :=
  if events.rows.any fun event => event.uniqueKey == (input.row now).uniqueKey then (none, events)
  else (some events.nextId, events.insert (input.row now))

/-- The due rows a claim takes. Rows another transaction holds are skipped. -/
def dueRows (limit : Nat) (now : Int) (skipped : List Nat)
    (events : Table (InboundEventRow Payload)) : List (Stored (InboundEventRow Payload)) :=
  events.pick (fun event => event.status.isClaimable && decide (event.dueAt ≤ now))
    claimedBefore limit skipped

def claimBatch (leaseOwner limit leaseSeconds : Nat) (now : Int) (skipped : List Nat)
    (events : Table (InboundEventRow Payload)) :
    List (ClaimedInboundEvent Payload) × Table (InboundEventRow Payload) :=
  let due := dueRows limit now skipped events
  ((due.insertionSort workedBefore).map claimOf,
    events.updatePicked due (·.claimed leaseOwner leaseSeconds now))

def heldBy (leaseOwner : Nat) (event : InboundEventRow Payload) : Bool :=
  event.leaseOwner == some leaseOwner

def markProcessed (id leaseOwner : Nat) (events : Table (InboundEventRow Payload)) :
    Bool × Table (InboundEventRow Payload) :=
  events.updateIf id (heldBy leaseOwner) (·.settled .processed)

def markSkipped (id leaseOwner : Nat) (events : Table (InboundEventRow Payload)) :
    Bool × Table (InboundEventRow Payload) :=
  events.updateIf id (heldBy leaseOwner) (·.settled .skipped)

def markFailed (id leaseOwner : Nat) (nextAttemptAt : Int)
    (events : Table (InboundEventRow Payload)) : Bool × Table (InboundEventRow Payload) :=
  events.updateIf id (fun event => heldBy leaseOwner event && event.status != .processed)
    (·.markedFailed nextAttemptAt)

def leaseExpired (now : Int) (event : InboundEventRow Payload) : Bool :=
  event.status.isLeased && event.leaseExpiresAt.any (decide <| · < now)

def reclaimExpiredLeases (limit : Nat) (now : Int) (skipped : List Nat)
    (events : Table (InboundEventRow Payload)) : Table (InboundEventRow Payload) :=
  events.updatePicked (events.pick (leaseExpired now) storedBefore limit skipped) (·.reclaimed)

/-- A hand at the table: only what is settled is put back. -/
def replay (id : Nat) (now : Int) (events : Table (InboundEventRow Payload)) :
    Bool × Table (InboundEventRow Payload) :=
  events.updateIf id
    (fun event => event.status == .processed || event.status == .skipped ||
      event.status == .deadLetter)
    (·.replayed now)

end InboundEventRepository

end UnifiedService.Inbound
