import UnifiedService.Library.Tally
import UnifiedService.Outbound.Vocabulary
import UnifiedService.Sync.Jobs

/-! The backfill workers, the lease reaper and whoever asks for a walk, each doing one
statement after another over the sync-job ledger. What a page of the walk brings is left
to the platform. -/

set_option autoImplicit false

namespace UnifiedService.Sync

open UnifiedService.Library
open UnifiedService.Outbound (Platform SendError mapGraphError scheduleRetry truthy
  metaUsageSoftLimitPct leaseReaperBatch)

def syncMaxAttempts : Nat := 5
def syncMaxPagesPerRun : Nat := 5
def syncRateLimitParkMs : Int := 15 * 60 * 1000

structure ChannelBackfillContext where
  platform : Platform
  parentPlatformChannelId : Option String
  effectiveAccessToken : Option String
  reauthRequired : Bool
  deriving DecidableEq, Repr

inductive SliceAnswer where
  | page (itemsAdded : Nat) (nextCursor : Option String) (finished : Bool)
  | failed (error : SendError)
  deriving DecidableEq, Repr

structure BackfillChoice where
  now : Int
  jitter : Nat
  pressure : Nat
  batchSize : Nat
  leaseSeconds : Nat
  skipped : List Nat
  channel : Option ChannelBackfillContext
  decrypts : Bool
  slice : SliceAnswer
  input : EnqueueSyncInput
  fails : Bool
  deriving DecidableEq, Repr

inductive BackfillStep where
  | next
  | runJob (job : ClaimedSyncJob)
  | refreshProfile (job : ClaimedSyncJob)
  | page (job : ClaimedSyncJob) (cursor : Option String) (pages : Nat)
  | saveProgress (job : ClaimedSyncJob) (cursor : Option String) (itemsAdded pages : Nat)
  | markCompleted (job : ClaimedSyncJob) (itemsAdded : Nat)
  | markFailed (job : ClaimedSyncJob) (nextAttemptAt : Option Int)
  | markRateLimited (job : ClaimedSyncJob) (until_ : Int)
  | markPaused (job : ClaimedSyncJob)
  deriving DecidableEq, Repr

structure BackfillTask where
  step : BackfillStep
  rest : List ClaimedSyncJob
  deriving DecidableEq, Repr

inductive SyncParty where
  | worker (leaseOwner : Nat)
  | reaper
  | requester (id : Nat)
  deriving DecidableEq, Repr

def BackfillStep.job : BackfillStep → Option ClaimedSyncJob
  | .next => none
  | .runJob job | .refreshProfile job | .page job _ _ | .saveProgress job _ _ _
  | .markCompleted job _ | .markFailed job _ | .markRateLimited job _ | .markPaused job =>
      some job

def BackfillTask.jobs (task : BackfillTask) : List ClaimedSyncJob :=
  task.step.job.toList ++ task.rest

namespace BackfillWorker

def retryOrDie (job : ClaimedSyncJob) (choice : BackfillChoice) : BackfillStep :=
  .markFailed job (scheduleRetry job.attemptCount syncMaxAttempts choice.now choice.jitter)

/-- What a failure means for the job: a rate limit parks it, a missing permission pauses it. -/
def handleFailure (job : ClaimedSyncJob) (choice : BackfillChoice) : SendError → BackfillStep
  | .other => retryOrDie job choice
  | .graph error =>
      let mapped := mapGraphError error
      if mapped.code = .upstreamRateLimited then
        .markRateLimited job (choice.now + syncRateLimitParkMs)
      else if mapped.requiresReauth then .markPaused job
      else if mapped.code = .permissionDenied then .markPaused job
      else if mapped.retryable then retryOrDie job choice
      else .markFailed job none

/-- The checks before a walk. Each refusal pauses the job. -/
def runJob (job : ClaimedSyncJob) (choice : BackfillChoice) : BackfillStep :=
  match choice.channel with
  | none => .markPaused job
  | some channel =>
      if channel.reauthRequired then .markPaused job
      else if (truthy channel.effectiveAccessToken).isNone then .markPaused job
      else if channel.platform = .instagram ∧ (truthy channel.parentPlatformChannelId).isNone then
        .markPaused job
      else if !choice.decrypts then .markPaused job
      else if job.jobKind = .refreshProfile then .refreshProfile job
      else .page job job.pageCursor 0

def page (job : ClaimedSyncJob) (pages : Nat) (choice : BackfillChoice) : BackfillStep :=
  match choice.slice with
  | .failed error => handleFailure job choice error
  | .page itemsAdded _ true => .markCompleted job itemsAdded
  | .page itemsAdded nextCursor false => .saveProgress job nextCursor itemsAdded pages

/-- A refresh is one call, and settles at once. -/
def refreshProfile (job : ClaimedSyncJob) (choice : BackfillChoice) : BackfillStep :=
  match choice.slice with
  | .failed error => handleFailure job choice error
  | .page _ _ _ => .markCompleted job 1

/-- A statement that fails outside the walk ends the poll. -/
def runStep (leaseOwner : Nat) (choice : BackfillChoice) (jobs : Table SyncJobRow)
    (rest : List ClaimedSyncJob) :
    BackfillStep → Table SyncJobRow × List BackfillTask
  | .next =>
      match rest with
      | [] => (jobs, [])
      | job :: rest =>
          if choice.fails then (jobs, [])
          else
            match SyncJobRepository.extendLease job.id leaseOwner choice.leaseSeconds choice.now
              jobs with
            | (true, jobs) => (jobs, [⟨.runJob job, rest⟩])
            | (false, jobs) => (jobs, [⟨.next, rest⟩])
  | .runJob job => (jobs, if choice.fails then [] else [⟨runJob job choice, rest⟩])
  | .refreshProfile job => (jobs, [⟨refreshProfile job choice, rest⟩])
  | .page job _ pages => (jobs, [⟨page job pages choice, rest⟩])
  | .saveProgress job cursor itemsAdded pages =>
      if choice.fails then (jobs, [⟨retryOrDie job choice, rest⟩])
      else
        match SyncJobRepository.saveProgress job.id leaseOwner cursor itemsAdded
          choice.leaseSeconds choice.now jobs with
        | (true, jobs) =>
            (jobs,
              [⟨if pages + 1 < syncMaxPagesPerRun then .page job cursor (pages + 1) else .next,
                rest⟩])
        | (false, jobs) => (jobs, [⟨.next, rest⟩])
  | .markCompleted job itemsAdded =>
      if choice.fails then (jobs, [⟨retryOrDie job choice, rest⟩])
      else (SyncJobRepository.markCompleted job.id leaseOwner itemsAdded jobs, [⟨.next, rest⟩])
  | .markFailed job nextAttemptAt =>
      if choice.fails then (jobs, [])
      else (SyncJobRepository.markFailed job.id leaseOwner nextAttemptAt jobs, [⟨.next, rest⟩])
  | .markRateLimited job until_ =>
      if choice.fails then (jobs, [])
      else (SyncJobRepository.markRateLimited job.id leaseOwner until_ jobs, [⟨.next, rest⟩])
  | .markPaused job =>
      if choice.fails then (jobs, [])
      else (SyncJobRepository.markPaused job.id leaseOwner jobs, [⟨.next, rest⟩])

/-- A claim that fails ends the poll. -/
def pollOnce (leaseOwner : Nat) (choice : BackfillChoice) (jobs : Table SyncJobRow) :
    Table SyncJobRow × List BackfillTask :=
  if metaUsageSoftLimitPct ≤ choice.pressure ∨ choice.fails then (jobs, [])
  else
    match SyncJobRepository.claimBatch leaseOwner choice.batchSize choice.leaseSeconds choice.now
      choice.skipped jobs with
    | .error _ => (jobs, [])
    | .ok (claimed, jobs) => (jobs, [⟨.next, claimed⟩])

end BackfillWorker

def startBackfill (jobs : Table SyncJobRow) (party : SyncParty) (choice : BackfillChoice) :
    Table SyncJobRow × List BackfillTask :=
  match party with
  | .worker leaseOwner => BackfillWorker.pollOnce leaseOwner choice jobs
  | .reaper =>
      (if choice.fails then jobs
        else SyncJobRepository.reclaimExpiredLeases leaseReaperBatch choice.now choice.skipped jobs,
        [])
  | .requester _ =>
      (if choice.fails then jobs
        else (SyncJobRepository.enqueueIfAbsent choice.input choice.now jobs).2, [])

def runBackfill (jobs : Table SyncJobRow) (party : SyncParty) (task : BackfillTask)
    (choice : BackfillChoice) : Table SyncJobRow × List BackfillTask :=
  match party with
  | .worker leaseOwner => BackfillWorker.runStep leaseOwner choice jobs task.rest task.step
  | .reaper | .requester _ => (jobs, [])

def backfill : Crew (Table SyncJobRow) SyncParty BackfillTask BackfillChoice where
  start := startBackfill
  run := runBackfill

abbrev BackfillState := CrewState (Table SyncJobRow) SyncParty BackfillTask

end UnifiedService.Sync
