import UnifiedService.Inbound.BudgetProperties
import UnifiedService.Sync.BudgetProperties

/-! Who writes a row of the inbound ledger or of the sync-job ledger, with projectors, backfill
workers and reapers interleaved in any way: the holder of its lease, until it is settled. -/

set_option autoImplicit false

namespace UnifiedService

open UnifiedService.Library

/-! ### Inbound events -/

namespace Inbound

variable {Inbox Payload Oracle : Type}

inductive EventMove (choice : IntakeChoice Payload Oracle) (party : IntakeParty)
    (left : List (ProjectorTask Payload)) (event : InboundEventRow Payload) :
    InboundEventRow Payload → Prop
  | stays : EventMove choice party left event event
  | claimed (leaseOwner : Nat) (polls : party = .worker leaseOwner) (idle : left = [])
      (claimable : event.status.isClaimable = true) :
      EventMove choice party left event
        (event.claimed leaseOwner choice.leaseSeconds choice.now)
  | settled (leaseOwner : Nat) (later : InboundEventRow Payload)
      (works : party = .worker leaseOwner) (busy : left ≠ [])
      (held : event.leaseOwner = some leaseOwner) :
      EventMove choice party left event later
  | reclaimed (sweeps : party = .reaper)
      (expired : InboundEventRepository.leaseExpired choice.now event = true) :
      EventMove choice party left event event.reclaimed
  | replayed (byHand : party = .operator) :
      EventMove choice party left event (event.replayed choice.now)

theorem heldBy_move {choice : IntakeChoice Payload Oracle} {leaseOwner : Nat}
    {left : List (ProjectorTask Payload)} (busy : left ≠ [])
    {events : Table (InboundEventRow Payload)} {id : Nat}
    {applies : InboundEventRow Payload → Bool}
    {change : InboundEventRow Payload → InboundEventRow Payload}
    (held : ∀ event, applies event = true →
      InboundEventRepository.heldBy leaseOwner event = true) :
    Table.Kept (EventMove choice (.worker leaseOwner) left) events
      (events.updateIf id applies change).2 := by
  intro other event found
  rw [Table.get?_updateIf, found]
  split
  · cases applied : applies event with
    | true =>
        have owned : event.leaseOwner = some leaseOwner := by
          simpa [InboundEventRepository.heldBy] using held event applied
        exact ⟨change event, by simp [applied], .settled leaseOwner _ rfl busy owned⟩
    | false => exact ⟨event, by simp [applied], .stays⟩
  · exact ⟨event, rfl, .stays⟩

theorem LedgerEffect.moves {choice : IntakeChoice Payload Oracle}
    {events after : Table (InboundEventRow Payload)} {party : IntakeParty}
    {tasks left : List (ProjectorTask Payload)}
    (effect : LedgerEffect choice events party after tasks)
    (busy : ∀ leaseOwner, party = .worker leaseOwner → left ≠ []) :
    Table.Kept (EventMove choice party left) events after := by
  cases effect with
  | untouched => exact .refl (fun _ => .stays) events
  | settled leaseOwner id status tasks done =>
      exact heldBy_move (busy leaseOwner rfl) fun _ applied => applied
  | failed leaseOwner id nextAttemptAt =>
      refine heldBy_move (busy leaseOwner rfl) fun event applied => ?_
      rw [Bool.and_eq_true] at applied
      exact applied.1
  | reclaimed =>
      intro id event found
      unfold InboundEventRepository.reclaimExpiredLeases
      rw [Table.get?_updatePicked, found, Option.map_some]
      split
      · next picked =>
          exact ⟨_, rfl, .reclaimed rfl (Table.wanted_of_picked picked found)⟩
      · exact ⟨event, rfl, .stays⟩
  | inserted id =>
      intro id event found
      rcases insertIgnoringDuplicate_cases choice.input choice.now events with same | inserted
      · rw [same]
        exact ⟨event, found, .stays⟩
      · rw [inserted]
        exact ⟨event, Table.get?_insert_of_some _ found, .stays⟩
  | replayed =>
      intro id event found
      unfold InboundEventRepository.replay
      rw [Table.get?_updateIf, found]
      split
      · rw [Option.map_some]
        split
        · exact ⟨_, rfl, .replayed rfl⟩
        · exact ⟨event, rfl, .stays⟩
      · exact ⟨event, rfl, .stays⟩

theorem pollOnce_moves (leaseOwner : Nat) (choice : IntakeChoice Payload Oracle)
    (current : Intake Inbox Payload) :
    Table.Kept (EventMove choice (.worker leaseOwner) []) current.events
      (InboundProjectorWorker.pollOnce leaseOwner choice current).1.events := by
  intro id event found
  unfold InboundProjectorWorker.pollOnce
  split
  · exact ⟨event, found, .stays⟩
  · simp only [InboundEventRepository.claimBatch]
    rw [Table.get?_updatePicked, found, Option.map_some]
    split
    · next picked =>
        have wanted := Table.wanted_of_picked picked found
        rw [Bool.and_eq_true] at wanted
        exact ⟨_, rfl, .claimed leaseOwner rfl rfl wanted.1⟩
    · exact ⟨event, rfl, .stays⟩

theorem intake_moves (projectors : Projector Inbox Payload Oracle)
    (state : IntakeState Inbox Payload) (party : IntakeParty)
    (choice : IntakeChoice Payload Oracle) :
    Table.Kept (EventMove choice party (state.left party)) state.store.events
      ((intake projectors).step state party choice).store.events := by
  cases queued : state.left party with
  | nil =>
      rw [((intake projectors).step_start queued choice).1]
      by_cases working : ∃ leaseOwner, party = .worker leaseOwner
      · obtain ⟨leaseOwner, rfl⟩ := working
        exact pollOnce_moves leaseOwner choice state.store
      · have idle : ∀ leaseOwner, party ≠ .worker leaseOwner :=
          fun leaseOwner same => working ⟨leaseOwner, same⟩
        exact (startIntake_ledger idle choice state.store).1.moves
          fun leaseOwner same => absurd same (idle leaseOwner)
  | cons task rest =>
      rw [((intake projectors).step_run queued choice).1]
      cases party with
      | worker leaseOwner =>
          exact (runStep_ledger projectors leaseOwner choice state.store task.rest
            task.step).moves fun _ _ => List.cons_ne_nil _ _
      | reaper | ingest | operator => exact .refl (fun _ => .stays) _

def InboundEventStatus.isFinal : InboundEventStatus → Bool
  | .processed | .skipped | .deadLetter => true
  | .pending | .leased | .processing | .failed => false

/-- What a step may do to an event: one that is done keeps its status, and only a claim of one
that waits, the holder of its lease, or the reaper of a lapsed lease writes it. -/
structure EventKept (choice : IntakeChoice Payload Oracle) (party : IntakeParty)
    (left : List (ProjectorTask Payload)) (event later : InboundEventRow Payload) : Prop where
  final : event.status.isFinal = true → later.status = event.status
  written : later ≠ event →
    (∃ leaseOwner, party = .worker leaseOwner ∧ left = [] ∧ event.status.isClaimable = true ∧
      later = event.claimed leaseOwner choice.leaseSeconds choice.now) ∨
    (∃ leaseOwner, party = .worker leaseOwner ∧ left ≠ [] ∧
      event.leaseOwner = some leaseOwner) ∨
    (party = .reaper ∧ InboundEventRepository.leaseExpired choice.now event = true ∧
      later = event.reclaimed)

theorem EventMove.kept {choice : IntakeChoice Payload Oracle} {party : IntakeParty}
    {left : List (ProjectorTask Payload)} {event later : InboundEventRow Payload}
    (move : EventMove choice party left event later) (unforced : party ≠ .operator)
    (leased : event.leaseOwner.isSome = true → event.status.isLeased = true) :
    EventKept choice party left event later := by
  cases move with
  | stays => exact ⟨fun _ => rfl, fun changed => absurd rfl changed⟩
  | claimed leaseOwner polls idle claimable =>
      refine ⟨fun final => ?_, fun _ => .inl ⟨leaseOwner, polls, idle, claimable, rfl⟩⟩
      cases status : event.status <;>
        simp [status, InboundEventStatus.isFinal, InboundEventStatus.isClaimable]
          at final claimable
  | settled leaseOwner later works busy held =>
      refine ⟨fun final => ?_, fun _ => .inr (.inl ⟨leaseOwner, works, busy, held⟩)⟩
      have isLeased := leased (by rw [held]; rfl)
      cases status : event.status <;>
        simp [status, InboundEventStatus.isFinal, InboundEventStatus.isLeased] at final isLeased
  | reclaimed sweeps expired =>
      refine ⟨fun final => ?_, fun _ => .inr (.inr ⟨sweeps, expired, rfl⟩)⟩
      unfold InboundEventRepository.leaseExpired at expired
      rw [Bool.and_eq_true] at expired
      cases status : event.status <;>
        simp [status, InboundEventStatus.isFinal, InboundEventStatus.isLeased] at final expired
  | replayed byHand => exact absurd byHand unforced

end Inbound

/-! ### Sync jobs -/

namespace Sync

inductive JobMove (choice : BackfillChoice) (party : SyncParty) (left : List BackfillTask)
    (job : SyncJobRow) : SyncJobRow → Prop
  | stays : JobMove choice party left job job
  | claimed (leaseOwner : Nat) (polls : party = .worker leaseOwner) (idle : left = [])
      (claimable : job.status.isClaimable = true) :
      JobMove choice party left job (job.claimed leaseOwner choice.leaseSeconds choice.now)
  | progressed (leaseOwner : Nat) (later : SyncJobRow) (works : party = .worker leaseOwner)
      (busy : left ≠ []) (held : job.leaseOwner = some leaseOwner)
      (owner : later.leaseOwner = job.leaseOwner) (status : later.status = job.status) :
      JobMove choice party left job later
  | settled (leaseOwner : Nat) (later : SyncJobRow) (works : party = .worker leaseOwner)
      (busy : left ≠ []) (held : job.leaseOwner = some leaseOwner)
      (released : later.leaseOwner = none) :
      JobMove choice party left job later
  | reclaimed (sweeps : party = .reaper)
      (expired : SyncJobRepository.leaseExpired choice.now job = true) :
      JobMove choice party left job (job.reclaimed choice.now)
  | revived (requester : Nat) (asks : party = .requester requester)
      (paused : job.status = .paused) :
      JobMove choice party left job (job.revived choice.input.triggerKind choice.now)

structure JobsMove (choice : BackfillChoice) (party : SyncParty) (left : List BackfillTask)
    (jobs after : Table SyncJobRow) : Prop where
  moves : Table.Kept (JobMove choice party left) jobs after
  added : ∀ id later, jobs.get? id = none → after.get? id = some later →
    later.leaseOwner = none ∧ ∃ requester, party = .requester requester

theorem JobsMove.of_keys {choice : BackfillChoice} {party : SyncParty}
    {left : List BackfillTask} {jobs after : Table SyncJobRow}
    (moves : Table.Kept (JobMove choice party left) jobs after)
    (keys : after.nextId = jobs.nextId) : JobsMove choice party left jobs after := by
  refine ⟨moves, fun id later absent found => ?_⟩
  obtain ⟨job, there, -⟩ := moves.origin keys found
  rw [absent] at there
  contradiction

section Work

variable {choice : BackfillChoice} {leaseOwner : Nat} {left : List BackfillTask}

theorem heldBy_jobsMove {jobs : Table SyncJobRow} {id : Nat} {applies : SyncJobRow → Bool}
    {change : SyncJobRow → SyncJobRow}
    (moved : ∀ job, applies job = true →
      JobMove choice (.worker leaseOwner) left job (change job)) :
    JobsMove choice (.worker leaseOwner) left jobs (jobs.updateIf id applies change).2 := by
  refine .of_keys (fun other job found => ?_) (Table.nextId_updateIf ..)
  rw [Table.get?_updateIf, found]
  split
  · cases applied : applies job with
    | true => exact ⟨change job, by simp [applied], moved job applied⟩
    | false => exact ⟨job, by simp [applied], .stays⟩
  · exact ⟨job, rfl, .stays⟩

theorem owner_of_heldBy {job : SyncJobRow}
    (held : SyncJobRepository.heldBy leaseOwner job = true) :
    job.leaseOwner = some leaseOwner := by
  simpa [SyncJobRepository.heldBy] using held

theorem owner_of_runningUnder {job : SyncJobRow}
    (running : SyncJobRepository.runningUnder leaseOwner job = true) :
    job.leaseOwner = some leaseOwner := by
  unfold SyncJobRepository.runningUnder at running
  rw [Bool.and_eq_true] at running
  exact owner_of_heldBy running.1

theorem StepEffect.jobsMove {jobs after : Table SyncJobRow} {step : BackfillStep}
    (effect : StepEffect leaseOwner choice jobs step after) (busy : left ≠ []) :
    JobsMove choice (.worker leaseOwner) left jobs after := by
  cases effect with
  | untouched => exact .of_keys (.refl (fun _ => .stays) jobs) rfl
  | extended job =>
      refine heldBy_jobsMove fun row applied => ?_
      rw [Bool.and_eq_true] at applied
      exact .progressed leaseOwner _ rfl busy (owner_of_runningUnder applied.1) rfl rfl
  | advanced job cursor itemsAdded pages runs =>
      refine heldBy_jobsMove fun row applied => ?_
      exact .progressed leaseOwner _ rfl busy (owner_of_runningUnder applied) rfl rfl
  | completed | failed | parked | paused =>
      refine heldBy_jobsMove fun row held => ?_
      exact .settled leaseOwner _ rfl busy (owner_of_heldBy held) rfl

end Work

theorem pollOnce_jobsMove (leaseOwner : Nat) (choice : BackfillChoice) (jobs : Table SyncJobRow) :
    JobsMove choice (.worker leaseOwner) [] jobs
      (BackfillWorker.pollOnce leaseOwner choice jobs).1 := by
  rcases pollOnce_cases leaseOwner choice jobs with same | claimed
  · rw [same]
    exact .of_keys (.refl (fun _ => .stays) jobs) rfl
  · rw [claimed]
    refine .of_keys (fun id job found => ?_) (Table.nextId_updatePicked ..)
    rw [Table.get?_updatePicked, found, Option.map_some]
    split
    · next picked =>
        have wanted := Table.wanted_of_picked picked found
        rw [Bool.and_eq_true, Bool.and_eq_true] at wanted
        exact ⟨_, rfl, .claimed leaseOwner rfl rfl wanted.1.2⟩
    · exact ⟨job, rfl, .stays⟩

theorem enqueueIfAbsent_jobsMove (requester : Nat) (choice : BackfillChoice)
    (jobs : Table SyncJobRow) :
    JobsMove choice (.requester requester) [] jobs
      (SyncJobRepository.enqueueIfAbsent choice.input choice.now jobs).2 := by
  rcases enqueueIfAbsent_cases choice.input choice.now jobs with inserted | ⟨stored, _, revived⟩
  · rw [inserted]
    refine ⟨fun id job found => ⟨job, Table.get?_insert_of_some _ found, .stays⟩, ?_⟩
    intro id later absent found
    rw [Table.get?_insert, absent] at found
    split at found
    · obtain rfl := Option.some.inj found
      exact ⟨rfl, requester, rfl⟩
    · contradiction
  · rw [revived]
    refine .of_keys (fun id job found => ?_) (Table.nextId_updateIf ..)
    rw [Table.get?_updateIf, found]
    split
    · rw [Option.map_some]
      split
      · next paused => exact ⟨_, rfl, .revived requester rfl (by simpa using paused)⟩
      · exact ⟨job, rfl, .stays⟩
    · exact ⟨job, rfl, .stays⟩

theorem backfill_jobsMove (state : BackfillState) (party : SyncParty) (choice : BackfillChoice) :
    JobsMove choice party (state.left party) state.store
      (backfill.step state party choice).store := by
  cases queued : state.left party with
  | nil =>
      rw [(backfill.step_start queued choice).1]
      cases party with
      | worker leaseOwner => exact pollOnce_jobsMove leaseOwner choice state.store
      | reaper =>
          change JobsMove choice .reaper [] state.store (if choice.fails then state.store else _)
          split
          · exact .of_keys (.refl (fun _ => .stays) _) rfl
          · refine .of_keys (fun id job found => ?_) (Table.nextId_updatePicked ..)
            unfold SyncJobRepository.reclaimExpiredLeases
            rw [Table.get?_updatePicked, found, Option.map_some]
            split
            · next picked =>
                exact ⟨_, rfl, .reclaimed rfl (Table.wanted_of_picked picked found)⟩
            · exact ⟨job, rfl, .stays⟩
      | requester requester =>
          change JobsMove choice (.requester requester) [] state.store
            (if choice.fails then state.store else _)
          split
          · exact .of_keys (.refl (fun _ => .stays) _) rfl
          · exact enqueueIfAbsent_jobsMove requester choice state.store
  | cons task rest =>
      rw [(backfill.step_run queued choice).1]
      cases party with
      | worker leaseOwner =>
          exact (runStep_effect leaseOwner choice state.store task.rest task.step).jobsMove
            (List.cons_ne_nil _ _)
      | reaper | requester => exact .of_keys (.refl (fun _ => .stays) _) rfl

/-- What a step may do to a job: one that is done keeps its status, and only a claim of one
that waits, the holder of its lease, the reaper of a lapsed lease, or who asks again for one
that is paused writes it. -/
structure JobKept (choice : BackfillChoice) (party : SyncParty) (left : List BackfillTask)
    (job later : SyncJobRow) : Prop where
  final : job.status = .completed ∨ job.status = .deadLetter → later.status = job.status
  written : later ≠ job →
    (∃ leaseOwner, party = .worker leaseOwner ∧ left = [] ∧ job.status.isClaimable = true ∧
      later = job.claimed leaseOwner choice.leaseSeconds choice.now) ∨
    (∃ leaseOwner, party = .worker leaseOwner ∧ left ≠ [] ∧
      job.leaseOwner = some leaseOwner) ∨
    (party = .reaper ∧ SyncJobRepository.leaseExpired choice.now job = true ∧
      later = job.reclaimed choice.now) ∨
    (∃ requester, party = .requester requester ∧ job.status = .paused ∧
      later = job.revived choice.input.triggerKind choice.now)

section Moves

variable {choice : BackfillChoice} {party : SyncParty} {left : List BackfillTask}
  {job later : SyncJobRow}

theorem JobMove.kept (move : JobMove choice party left job later) (sound : job.LeaseSound) :
    JobKept choice party left job later := by
  cases move with
  | stays => exact ⟨fun _ => rfl, fun changed => absurd rfl changed⟩
  | claimed leaseOwner polls idle claimable =>
      refine ⟨fun final => ?_, fun _ => .inl ⟨leaseOwner, polls, idle, claimable, rfl⟩⟩
      rcases final with status | status <;> simp [status, SyncJobStatus.isClaimable] at claimable
  | progressed leaseOwner later works busy held owner status =>
      exact ⟨fun _ => status, fun _ => .inr (.inl ⟨leaseOwner, works, busy, held⟩)⟩
  | settled leaseOwner later works busy held released =>
      refine ⟨fun final => ?_, fun _ => .inr (.inl ⟨leaseOwner, works, busy, held⟩)⟩
      have running := sound (by rw [held]; rfl)
      rcases final with status | status <;> simp [status] at running
  | reclaimed sweeps expired =>
      refine ⟨fun final => ?_, fun _ => .inr (.inr (.inl ⟨sweeps, expired, rfl⟩))⟩
      unfold SyncJobRepository.leaseExpired at expired
      rw [Bool.and_eq_true, beq_iff_eq] at expired
      rcases final with status | status <;> simp [status] at expired
  | revived requester asks paused =>
      refine ⟨fun final => ?_, fun _ => .inr (.inr (.inr ⟨requester, asks, paused, rfl⟩))⟩
      rcases final with status | status <;> simp [status] at paused

theorem JobMove.leaseSound (move : JobMove choice party left job later)
    (sound : job.LeaseSound) : later.LeaseSound := by
  cases move with
  | stays => exact sound
  | claimed => exact fun _ => rfl
  | progressed leaseOwner later works busy held owner status =>
      intro leased
      rw [owner] at leased
      exact status.trans (sound leased)
  | settled leaseOwner later works busy held released =>
      intro leased
      rw [released] at leased
      contradiction
  | reclaimed => exact fun leased => absurd leased Bool.false_ne_true
  | revived requester asks paused =>
      exact fun leased => absurd ((sound leased).symm.trans paused) (by decide)

theorem JobMove.unheld {leaseOwner : Nat} (move : JobMove choice party left job later)
    (busy : party = .worker leaseOwner → left ≠ [])
    (unheld : job.leaseOwner ≠ some leaseOwner) : later.leaseOwner ≠ some leaseOwner := by
  cases move with
  | stays => exact unheld
  | claimed other polls idle claimable =>
      intro same
      obtain rfl := Option.some.inj same
      exact busy polls idle
  | progressed other later works busy held owner status => rwa [owner]
  | settled other later works busy held released => simp [released]
  | reclaimed => simp [SyncJobRow.reclaimed, SyncJobRow.released]
  | revived => exact unheld

end Moves

theorem leasesSound_step {state : BackfillState} (sound : LeasesSound state.store)
    (party : SyncParty) (choice : BackfillChoice) :
    LeasesSound (backfill.step state party choice).store := by
  intro id later found
  have moved := backfill_jobsMove state party choice
  cases before : state.store.get? id with
  | none =>
      intro leased
      rw [(moved.added id later before found).1] at leased
      contradiction
  | some job =>
      obtain ⟨other, there, move⟩ := moved.moves id job before
      rw [found, Option.some.injEq] at there
      subst there
      exact move.leaseSound (sound id job before)

def LeaseLost (leaseOwner id : Nat) (jobs : Table SyncJobRow) : Prop :=
  ∀ job, jobs.get? id = some job → job.leaseOwner ≠ some leaseOwner

/-- A lease once lost stays lost until the worker polls again. -/
theorem LeaseLost.step {leaseOwner id : Nat} {state : BackfillState}
    (lost : LeaseLost leaseOwner id state.store) {party : SyncParty} {choice : BackfillChoice}
    (busy : party = .worker leaseOwner → state.left party ≠ []) :
    LeaseLost leaseOwner id (backfill.step state party choice).store := by
  intro later found
  have moved := backfill_jobsMove state party choice
  cases before : state.store.get? id with
  | none =>
      rw [(moved.added id later before found).1]
      exact fun same => nomatch same
  | some job =>
      obtain ⟨other, there, move⟩ := moved.moves id job before
      rw [found, Option.some.injEq] at there
      subst there
      exact move.unheld busy (lost job before)

theorem LeaseLost.untouched {leaseOwner id : Nat} {state : BackfillState}
    (lost : LeaseLost leaseOwner id state.store) (busy : state.left (.worker leaseOwner) ≠ [])
    (choice : BackfillChoice) :
    (backfill.step state (.worker leaseOwner) choice).store.get? id = state.store.get? id := by
  have moved := backfill_jobsMove state (.worker leaseOwner) choice
  cases before : state.store.get? id with
  | none =>
      cases after : (backfill.step state (.worker leaseOwner) choice).store.get? id with
      | none => rfl
      | some later =>
          obtain ⟨-, requester, same⟩ := moved.added id later before after
          contradiction
  | some job =>
      obtain ⟨later, there, move⟩ := moved.moves id job before
      rw [there]
      cases move with
      | stays => rfl
      | claimed other polls idle claimable => exact absurd idle busy
      | progressed other later works _ held owner status =>
          obtain rfl := SyncParty.worker.inj works
          exact absurd held (lost job before)
      | settled other later works _ held released =>
          obtain rfl := SyncParty.worker.inj works
          exact absurd held (lost job before)
      | reclaimed sweeps expired => contradiction
      | revived requester asks paused => contradiction

end Sync

/-! ### Both ledgers -/

structure Workers (Inbox Payload : Type) where
  intake : Inbound.IntakeState Inbox Payload
  backfill : Sync.BackfillState

section Workers

variable {Inbox Payload Oracle : Type} (projectors : Inbound.Projector Inbox Payload Oracle)

/-- One statement of either ledger. Nobody puts rows back by hand. -/
inductive WorkersStep : Workers Inbox Payload → Workers Inbox Payload → Prop
  | intake (workers : Workers Inbox Payload) (party : Inbound.IntakeParty)
      (choice : Inbound.IntakeChoice Payload Oracle) (unforced : party ≠ .operator) :
      WorkersStep workers
        { workers with intake := (Inbound.intake projectors).step workers.intake party choice }
  | backfill (workers : Workers Inbox Payload) (party : Sync.SyncParty)
      (choice : Sync.BackfillChoice) :
      WorkersStep workers
        { workers with backfill := Sync.backfill.step workers.backfill party choice }

/-- A statement that does not hand the worker the job: it may poll, and claim others. -/
def Unclaimed (leaseOwner id : Nat) (before after : Workers Inbox Payload) : Prop :=
  WorkersStep projectors before after ∧
    (before.backfill.left (.worker leaseOwner) = [] →
      Sync.LeaseLost leaseOwner id after.backfill.store)

structure WorkersSound (workers : Workers Inbox Payload) : Prop where
  events : Inbound.LedgerSound workers.intake.store.events
  jobs : Sync.LeasesSound workers.backfill.store

variable {projectors}

theorem WorkersStep.sound {before after : Workers Inbox Payload}
    (step : WorkersStep projectors before after) (sound : WorkersSound before) :
    WorkersSound after := by
  cases step with
  | intake party choice unforced =>
      exact ⟨(Inbound.intake_step projectors sound.events 0).1, sound.jobs⟩
  | backfill party choice => exact ⟨sound.events, Sync.leasesSound_step sound.jobs party choice⟩

theorem Unclaimed.lost {leaseOwner id : Nat} {before after : Workers Inbox Payload}
    (unclaimed : Unclaimed projectors leaseOwner id before after)
    (lost : Sync.LeaseLost leaseOwner id before.backfill.store) :
    Sync.LeaseLost leaseOwner id after.backfill.store := by
  obtain ⟨step, idle⟩ := unclaimed
  by_cases nothing : before.backfill.left (.worker leaseOwner) = []
  · exact idle nothing
  · cases step with
    | intake party choice unforced => exact lost
    | backfill party choice => exact lost.step fun same => same ▸ nothing

/-- What is done stays done, whatever is written is written by who holds the lease, and a
worker whose lease of a job was taken back writes nothing of the job until it claims it
again. -/
theorem leases_settle {workers : Workers Inbox Payload} {inbox : Inbox}
    (reached : Relation.ReflTransGen (WorkersStep projectors)
      ⟨Crew.idle (.start inbox), Crew.idle .empty⟩ workers) :
    (∀ party choice id event, party ≠ .operator →
      workers.intake.store.events.get? id = some event →
        ∃ later,
          ((Inbound.intake projectors).step workers.intake party choice).store.events.get? id =
            some later ∧
          Inbound.EventKept choice party (workers.intake.left party) event later) ∧
    (∀ party choice id job, workers.backfill.store.get? id = some job →
        ∃ later, (Sync.backfill.step workers.backfill party choice).store.get? id = some later ∧
          Sync.JobKept choice party (workers.backfill.left party) job later) ∧
    ∀ leaseOwner id, Sync.LeaseLost leaseOwner id workers.backfill.store →
      ∀ later, Relation.ReflTransGen (Unclaimed projectors leaseOwner id) workers later →
        later.backfill.left (.worker leaseOwner) ≠ [] → ∀ choice,
          (Sync.backfill.step later.backfill (.worker leaseOwner) choice).store.get? id =
            later.backfill.store.get? id := by
  have sound : WorkersSound workers := by
    induction reached with
    | refl => exact ⟨Inbound.ledgerSound_empty, fun _ _ found => nomatch found⟩
    | tail _ step ih => exact step.sound ih
  refine ⟨fun party choice id event unforced found => ?_, fun party choice id job found => ?_, ?_⟩
  · obtain ⟨later, there, move⟩ :=
      Inbound.intake_moves projectors workers.intake party choice id event found
    exact ⟨later, there, move.kept unforced (sound.events.leases id event found)⟩
  · obtain ⟨later, there, move⟩ :=
      (Sync.backfill_jobsMove workers.backfill party choice).moves id job found
    exact ⟨later, there, move.kept (sound.jobs id job found)⟩
  · intro leaseOwner id lost later run busy choice
    have still : Sync.LeaseLost leaseOwner id later.backfill.store := by
      clear busy
      induction run with
      | refl => exact lost
      | tail _ step ih => exact step.lost ih
    exact still.untouched busy choice

theorem workersStep_of_backfill {intake : Inbound.IntakeState Inbox Payload}
    {before after : Sync.BackfillState}
    (reached : Sync.backfill.Reaches (fun _ _ _ => True) before after) :
    Relation.ReflTransGen (WorkersStep projectors) ⟨intake, before⟩ ⟨intake, after⟩ := by
  induction reached with
  | refl => exact .refl
  | tail _ stepped ih =>
      obtain ⟨party, choice, -, rfl⟩ := stepped
      exact ih.tail (.backfill _ party choice)

end Workers

/-! ### A walk whose lease lapses -/

def walking (now : Int) : Sync.BackfillChoice where
  now := now
  jitter := 0
  pressure := 0
  batchSize := 20
  leaseSeconds := 120
  skipped := []
  channel := some ⟨.facebook, none, some "token", false⟩
  decrypts := true
  slice := .page 1 (some "second page") false
  input := ⟨1, 1, .backfillComments, .initialConnect, none⟩
  fails := false

/-- A worker walks a page and stalls before it saves it. The reaper takes the job back, and a
second worker claims it. -/
def lapsedWalk : List (Sync.SyncParty × Sync.BackfillChoice) :=
  [(.requester 0, walking 0), (.worker 7, walking 1), (.worker 7, walking 2),
    (.worker 7, walking 3), (.worker 7, walking 4), (.reaper, walking 200000),
    (.worker 8, walking 200001)]

def savesFirstPage (id : Nat) : List Sync.BackfillTask → Bool
  | [⟨.saveProgress claimed cursor itemsAdded pages, _⟩] =>
      claimed.id == id && cursor == some "second page" && itemsAdded == 1 && pages == 0
  | _ => false

theorem leases_settle_lapsed :
    ∃ state job, state.store.get? 0 = some job ∧ job.leaseOwner = some 8 ∧
      (∃ claimed rest, state.left (.worker 7) =
        [⟨.saveProgress claimed (some "second page") 1 0, rest⟩] ∧ claimed.id = 0) ∧
      ∀ choice, (Sync.backfill.step state (.worker 7) choice).store.get? 0 =
        state.store.get? 0 := by
  have runs : (Sync.backfill.play (fun _ _ _ => true) (Crew.idle .empty) lapsedWalk).any
      (fun state => ((state.store.get? 0).any fun job => job.leaseOwner == some 8) &&
        savesFirstPage 0 (state.left (.worker 7))) = true := by
    decide +kernel
  obtain ⟨state, played, done⟩ := (Option.any_eq_true _ _).mp runs
  rw [Bool.and_eq_true] at done
  obtain ⟨job, found, owner⟩ := (Option.any_eq_true _ _).mp done.1
  rw [beq_iff_eq] at owner
  obtain ⟨-, saving⟩ := done
  unfold savesFirstPage at saving
  split at saving
  · next claimed cursor itemsAdded pages rest queued =>
      simp only [Bool.and_eq_true, beq_iff_eq] at saving
      obtain ⟨⟨⟨about, rfl⟩, rfl⟩, rfl⟩ := saving
      have reached : Sync.backfill.Reaches (fun _ _ _ => True) (Crew.idle .empty) state :=
        Sync.backfill.play_sound (fun _ _ _ _ => trivial) played
      have lost : Sync.LeaseLost 7 0 state.store := by
        intro stored there
        rw [found, Option.some.injEq] at there
        subst there
        simp [owner]
      have projectors : Inbound.Projector Unit Unit Unit := fun _ _ _ _ _ inbox => (inbox, none)
      have settled := (leases_settle (workersStep_of_backfill reached : Relation.ReflTransGen
        (WorkersStep projectors) ⟨Crew.idle (.start ()), Crew.idle .empty⟩ ⟨_, state⟩)).2.2 7 0
        lost _ .refl (by simp [queued])
      exact ⟨state, job, found, owner, ⟨claimed, rest, queued, about⟩, settled⟩
  · exact absurd saving Bool.false_ne_true

end UnifiedService
