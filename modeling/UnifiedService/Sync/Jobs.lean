import UnifiedService.Library.Queue

/-! The sync-job ledger: one row per walk of a channel's history, and the statements that
enqueue, claim, settle and reclaim it. -/

set_option autoImplicit false

namespace UnifiedService.Sync

open UnifiedService.Library

inductive SyncJobKind where
  | backfillPosts | backfillComments | backfillConversations | backfillMentions
  | resyncConversation | refreshProfile | refreshPostMetrics
  deriving DecidableEq, Repr

inductive SyncTriggerKind where
  | initialConnect | scheduled | manual | reconnect
  deriving DecidableEq, Repr

inductive SyncJobStatus where
  | pending | running | paused | rateLimited | completed | failed | deadLetter | cancelled
  deriving DecidableEq, Repr

/-- `CLAIMABLE_SYNC_JOB_STATUSES`. -/
def SyncJobStatus.isClaimable : SyncJobStatus → Bool
  | .pending | .failed | .rateLimited => true
  | .running | .paused | .completed | .deadLetter | .cancelled => false

/-- `LIVE_SYNC_JOB_STATUSES`, the predicate of the live index. -/
def SyncJobStatus.isLive : SyncJobStatus → Bool
  | .pending | .running | .paused | .rateLimited => true
  | .completed | .failed | .deadLetter | .cancelled => false

structure SyncJobRow where
  enterpriseId : Nat
  channelId : Nat
  jobKind : SyncJobKind
  triggerKind : SyncTriggerKind
  status : SyncJobStatus
  /-- One person's thread, or the whole channel. -/
  targetPlatformId : Option String
  pageCursor : Option String
  syncedItemCount : Nat
  leaseOwner : Option Nat
  leaseExpiresAt : Option Int
  rateLimitedUntil : Option Int
  attemptCount : Nat
  nextAttemptAt : Option Int
  isDeleted : Bool
  createdAt : Int
  deriving DecidableEq, Repr

structure EnqueueSyncInput where
  enterpriseId : Nat
  channelId : Nat
  jobKind : SyncJobKind
  triggerKind : SyncTriggerKind
  targetPlatformId : Option String
  deriving DecidableEq, Repr

structure ClaimedSyncJob where
  id : Nat
  enterpriseId : Nat
  channelId : Nat
  jobKind : SyncJobKind
  targetPlatformId : Option String
  pageCursor : Option String
  attemptCount : Nat
  deriving DecidableEq, Repr

inductive SyncError where
  | syncAlreadyRunning
  deriving DecidableEq, Repr

/-- `(channel_id, job_kind, COALESCE(target_platform_id, ''))`. -/
abbrev SyncSlot := Nat × SyncJobKind × String

def SyncJobRow.slot (job : SyncJobRow) : SyncSlot :=
  (job.channelId, job.jobKind, job.targetPlatformId.getD "")

def EnqueueSyncInput.slot (input : EnqueueSyncInput) : SyncSlot :=
  (input.channelId, input.jobKind, input.targetPlatformId.getD "")

def SyncJobRow.isLive (job : SyncJobRow) : Bool := !job.isDeleted && job.status.isLive

/-- `COALESCE(next_attempt_at, rate_limited_until, created_at)`. -/
def SyncJobRow.dueAt (job : SyncJobRow) : Int :=
  (job.nextAttemptAt.orElse fun _ => job.rateLimitedUntil).getD job.createdAt

def EnqueueSyncInput.row (input : EnqueueSyncInput) (now : Int) : SyncJobRow where
  enterpriseId := input.enterpriseId
  channelId := input.channelId
  jobKind := input.jobKind
  triggerKind := input.triggerKind
  status := .pending
  targetPlatformId := input.targetPlatformId
  pageCursor := none
  syncedItemCount := 0
  leaseOwner := none
  leaseExpiresAt := none
  rateLimitedUntil := none
  attemptCount := 0
  nextAttemptAt := some now
  isDeleted := false
  createdAt := now

/-! ### What the updates set -/

namespace SyncJobRow

def revived (job : SyncJobRow) (triggerKind : SyncTriggerKind) (now : Int) : SyncJobRow :=
  { job with
    status := .pending
    triggerKind := triggerKind
    nextAttemptAt := some now
    attemptCount := 0 }

def claimed (job : SyncJobRow) (leaseOwner leaseSeconds : Nat) (now : Int) : SyncJobRow :=
  { job with
    status := .running
    leaseOwner := some leaseOwner
    leaseExpiresAt := some (now + leaseSeconds * 1000)
    attemptCount := job.attemptCount + 1 }

def extended (job : SyncJobRow) (leaseSeconds : Nat) (now : Int) : SyncJobRow :=
  { job with leaseExpiresAt := some (now + leaseSeconds * 1000) }

/-- A saved page is not a failure, so the count of consecutive failures starts again. -/
def advanced (job : SyncJobRow) (pageCursor : Option String) (itemsAdded leaseSeconds : Nat)
    (now : Int) : SyncJobRow :=
  { job.extended leaseSeconds now with
    pageCursor := pageCursor
    syncedItemCount := job.syncedItemCount + itemsAdded
    attemptCount := 0 }

def released (job : SyncJobRow) : SyncJobRow :=
  { job with leaseOwner := none, leaseExpiresAt := none }

def completed (job : SyncJobRow) (itemsAdded : Nat) : SyncJobRow :=
  { job.released with
    status := .completed
    syncedItemCount := job.syncedItemCount + itemsAdded
    nextAttemptAt := none }

def markedFailed (job : SyncJobRow) (nextAttemptAt : Option Int) : SyncJobRow :=
  { job.released with
    status := if nextAttemptAt.isNone then .deadLetter else .failed
    nextAttemptAt := nextAttemptAt }

def markedRateLimited (job : SyncJobRow) (until_ : Int) : SyncJobRow :=
  { job.released with
    status := .rateLimited
    rateLimitedUntil := some until_
    nextAttemptAt := none }

def markedPaused (job : SyncJobRow) : SyncJobRow :=
  { job.released with status := .paused, nextAttemptAt := none }

def reclaimed (job : SyncJobRow) (now : Int) : SyncJobRow :=
  { job.released with status := .pending, nextAttemptAt := some now }

end SyncJobRow

def claimedBefore (first second : Stored SyncJobRow) : Prop :=
  first.row.dueAt < second.row.dueAt ∨
    (first.row.dueAt = second.row.dueAt ∧ first.id ≤ second.id)

instance : DecidableRel claimedBefore := fun first second =>
  inferInstanceAs (Decidable (first.row.dueAt < second.row.dueAt ∨
    (first.row.dueAt = second.row.dueAt ∧ first.id ≤ second.id)))

def expiredBefore (first second : Stored SyncJobRow) : Prop :=
  first.row.leaseExpiresAt.getD 0 ≤ second.row.leaseExpiresAt.getD 0

instance : DecidableRel expiredBefore := fun first second =>
  inferInstanceAs (Decidable (first.row.leaseExpiresAt.getD 0 ≤ second.row.leaseExpiresAt.getD 0))

/-- What a claim returns of a row it took. The attempt it starts is counted. -/
def claimOf (stored : Stored SyncJobRow) : ClaimedSyncJob where
  id := stored.id
  enterpriseId := stored.row.enterpriseId
  channelId := stored.row.channelId
  jobKind := stored.row.jobKind
  targetPlatformId := stored.row.targetPlatformId
  pageCursor := stored.row.pageCursor
  attemptCount := stored.row.attemptCount + 1

/-- `sync_jobs_live_uniq`: no two live jobs share a slot. -/
def liveUniq (jobs : Table SyncJobRow) : Bool :=
  decide ((jobs.rows.filter (·.isLive)).map (·.slot)).Nodup

/-! ### The statements -/

namespace SyncJobRepository

/-- A live job of the slot stands in the way, unless it is paused: then it is revived. -/
def enqueueIfAbsent (input : EnqueueSyncInput) (now : Int) (jobs : Table SyncJobRow) :
    Bool × Table SyncJobRow :=
  match jobs.find? fun job => job.isLive && job.slot == input.slot with
  | none => (true, jobs.insert (input.row now))
  | some stored =>
      jobs.updateIf stored.id (·.status == .paused) (·.revived input.triggerKind now)

/-- The due rows a claim takes. Rows another transaction holds are skipped. -/
def dueRows (limit : Nat) (now : Int) (skipped : List Nat) (jobs : Table SyncJobRow) :
    List (Stored SyncJobRow) :=
  jobs.pick (fun job => !job.isDeleted && job.status.isClaimable && decide (job.dueAt ≤ now))
    claimedBefore limit skipped

/-- One statement: a row that may not enter the live index fails the whole batch. -/
def claimBatch (leaseOwner limit leaseSeconds : Nat) (now : Int) (skipped : List Nat)
    (jobs : Table SyncJobRow) :
    Except SyncError (List ClaimedSyncJob × Table SyncJobRow) :=
  let due := dueRows limit now skipped jobs
  let claimed := jobs.updatePicked due (·.claimed leaseOwner leaseSeconds now)
  if liveUniq claimed then .ok (due.map claimOf, claimed) else .error .syncAlreadyRunning

def heldBy (leaseOwner : Nat) (job : SyncJobRow) : Bool := job.leaseOwner == some leaseOwner

def runningUnder (leaseOwner : Nat) (job : SyncJobRow) : Bool :=
  heldBy leaseOwner job && job.status == .running

def extendLease (id leaseOwner leaseSeconds : Nat) (now : Int) (jobs : Table SyncJobRow) :
    Bool × Table SyncJobRow :=
  jobs.updateIf id (fun job => runningUnder leaseOwner job && !job.isDeleted)
    (·.extended leaseSeconds now)

def saveProgress (id leaseOwner : Nat) (pageCursor : Option String)
    (itemsAdded leaseSeconds : Nat) (now : Int) (jobs : Table SyncJobRow) :
    Bool × Table SyncJobRow :=
  jobs.updateIf id (runningUnder leaseOwner) (·.advanced pageCursor itemsAdded leaseSeconds now)

def markCompleted (id leaseOwner itemsAdded : Nat) (jobs : Table SyncJobRow) :
    Table SyncJobRow :=
  (jobs.updateIf id (heldBy leaseOwner) (·.completed itemsAdded)).2

/-- Without a next attempt the row is dead-lettered. -/
def markFailed (id leaseOwner : Nat) (nextAttemptAt : Option Int) (jobs : Table SyncJobRow) :
    Table SyncJobRow :=
  (jobs.updateIf id (heldBy leaseOwner) (·.markedFailed nextAttemptAt)).2

def markRateLimited (id leaseOwner : Nat) (until_ : Int) (jobs : Table SyncJobRow) :
    Table SyncJobRow :=
  (jobs.updateIf id (heldBy leaseOwner) (·.markedRateLimited until_)).2

def markPaused (id leaseOwner : Nat) (jobs : Table SyncJobRow) : Table SyncJobRow :=
  (jobs.updateIf id (heldBy leaseOwner) (·.markedPaused)).2

def leaseExpired (now : Int) (job : SyncJobRow) : Bool :=
  job.status == .running && job.leaseExpiresAt.any (decide <| · < now)

def reclaimExpiredLeases (limit : Nat) (now : Int) (skipped : List Nat)
    (jobs : Table SyncJobRow) : Table SyncJobRow :=
  jobs.updatePicked (jobs.pick (leaseExpired now) expiredBefore limit skipped) (·.reclaimed now)

end SyncJobRepository

/-! ### The ledger under any sequence of statements -/

/-- A statement of some worker, reconnect, sweep or reaper. -/
inductive SyncCall where
  | enqueueIfAbsent (input : EnqueueSyncInput)
  | claimBatch (leaseOwner limit leaseSeconds : Nat) (skipped : List Nat)
  | extendLease (id leaseOwner leaseSeconds : Nat)
  | saveProgress (id leaseOwner : Nat) (pageCursor : Option String)
      (itemsAdded leaseSeconds : Nat)
  | markCompleted (id leaseOwner itemsAdded : Nat)
  | markFailed (id leaseOwner : Nat) (nextAttemptAt : Option Int)
  | markRateLimited (id leaseOwner : Nat) (until_ : Int)
  | markPaused (id leaseOwner : Nat)
  | reclaimExpiredLeases (limit : Nat) (skipped : List Nat)
  deriving DecidableEq, Repr

/-- What a statement leaves, or the index it violates. -/
def SyncCall.apply (now : Int) (jobs : Table SyncJobRow) :
    SyncCall → Except SyncError (Table SyncJobRow)
  | .enqueueIfAbsent input => .ok (SyncJobRepository.enqueueIfAbsent input now jobs).2
  | .claimBatch leaseOwner limit leaseSeconds skipped =>
      (SyncJobRepository.claimBatch leaseOwner limit leaseSeconds now skipped jobs).map (·.2)
  | .extendLease id leaseOwner leaseSeconds =>
      .ok (SyncJobRepository.extendLease id leaseOwner leaseSeconds now jobs).2
  | .saveProgress id leaseOwner pageCursor itemsAdded leaseSeconds =>
      .ok (SyncJobRepository.saveProgress id leaseOwner pageCursor itemsAdded leaseSeconds now
        jobs).2
  | .markCompleted id leaseOwner itemsAdded =>
      .ok (SyncJobRepository.markCompleted id leaseOwner itemsAdded jobs)
  | .markFailed id leaseOwner nextAttemptAt =>
      .ok (SyncJobRepository.markFailed id leaseOwner nextAttemptAt jobs)
  | .markRateLimited id leaseOwner until_ =>
      .ok (SyncJobRepository.markRateLimited id leaseOwner until_ jobs)
  | .markPaused id leaseOwner => .ok (SyncJobRepository.markPaused id leaseOwner jobs)
  | .reclaimExpiredLeases limit skipped =>
      .ok (SyncJobRepository.reclaimExpiredLeases limit now skipped jobs)

def SyncCall.after (jobs : Table SyncJobRow) (turn : Int × SyncCall) : Table SyncJobRow :=
  (turn.2.apply turn.1 jobs).toOption.getD jobs

def jobsAfter (turns : List (Int × SyncCall)) : Table SyncJobRow :=
  turns.foldl SyncCall.after .empty

end UnifiedService.Sync
