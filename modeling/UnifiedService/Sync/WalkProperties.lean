import UnifiedService.Sync.BudgetProperties
import UnifiedService.Sync.PipelineProperties

/-! What a walk brings home. Its cursor never goes back, and a job that is completed has
appended every item of every page of the edge it walked, however often its lease lapsed and
whoever walked which page. -/

set_option autoImplicit false

namespace UnifiedService.Sync

open UnifiedService.Library
open UnifiedService.Inbound (InboundEventInput InboundEventRow Intake IntakeParty IntakeChoice
  Projector LedgerEffect startIntake runIntake)

/-! ### The edge a job walks -/

/-- An edge of the platform: the items of its first page, and of each later page, behind the
cursor that leads to it. -/
structure Edge (Item : Type) where
  first : List Item
  later : List (String × List Item)
  distinct : (later.map (·.1)).Nodup

namespace Edge

variable {Item : Type} (edge : Edge Item)

def last : Nat := edge.later.length

def items (place : Nat) : Option (List Item) := (edge.first :: edge.later.map (·.2))[place]?

/-- The cursor behind a page, unless it is the last. -/
def after (place : Nat) : Option String := (edge.later.map (·.1))[place]?

def place : Option String → Nat
  | none => 0
  | some cursor => (edge.later.map (·.1)).idxOf cursor + 1

structure Serves (cursor : Option String) (page : GraphEdge Item) : Prop where
  data : edge.items (edge.place cursor) = some page.data
  next : page.next = (edge.after (edge.place cursor)).isSome
  after : page.next = true → page.after = edge.after (edge.place cursor)

variable {edge}

theorem place_le_last {place : Nat} {items : List Item} (found : edge.items place = some items) :
    place ≤ edge.last := by
  obtain ⟨within, -⟩ := List.getElem?_eq_some_iff.mp found
  rw [List.length_cons, List.length_map] at within
  exact Nat.le_of_lt_succ within

theorem place_after {place : Nat} {cursor : String} (found : edge.after place = some cursor) :
    edge.place (some cursor) = place + 1 := by
  obtain ⟨within, rfl⟩ := List.getElem?_eq_some_iff.mp found
  exact congrArg (· + 1) (edge.distinct.idxOf_getElem place within)

def page (edge : Edge Item) (cursor : Option String) : GraphEdge Item where
  data := (edge.items (edge.place cursor)).getD []
  after := edge.after (edge.place cursor)
  next := (edge.after (edge.place cursor)).isSome

theorem serves_page {cursor : Option String} (within : edge.place cursor ≤ edge.last) :
    edge.Serves cursor (edge.page cursor) := by
  refine ⟨?_, rfl, fun _ => rfl⟩
  have there : edge.place cursor < (edge.first :: edge.later.map (·.2)).length := by
    rw [List.length_cons, List.length_map]
    exact Nat.lt_succ_of_le within
  unfold page items
  rw [List.getElem?_eq_getElem there]
  rfl

theorem last_le_of_after {place : Nat} (ends : edge.after place = none) : edge.last ≤ place := by
  have past := List.getElem?_eq_none_iff.mp ends
  rwa [List.length_map] at past

end Edge

/-! ### What is asked for, and what is appended -/

structure SyncJobRow.Asks (job : SyncJobRow) (asked : EnqueueSyncInput) : Prop where
  enterpriseId : job.enterpriseId = asked.enterpriseId
  channelId : job.channelId = asked.channelId
  jobKind : job.jobKind = asked.jobKind
  target : job.targetPlatformId = asked.targetPlatformId

structure ClaimedSyncJob.Asks (job : ClaimedSyncJob) (asked : EnqueueSyncInput) : Prop where
  enterpriseId : job.enterpriseId = asked.enterpriseId
  channelId : job.channelId = asked.channelId
  jobKind : job.jobKind = asked.jobKind
  target : job.targetPlatformId = asked.targetPlatformId

def EnqueueSyncInput.claim (asked : EnqueueSyncInput) (id : Nat) : ClaimedSyncJob where
  id := id
  enterpriseId := asked.enterpriseId
  channelId := asked.channelId
  jobKind := asked.jobKind
  targetPlatformId := asked.targetPlatformId
  pageCursor := none
  attemptCount := 1

/-- Whatever attempt appends it, an item appends the same rows. -/
theorem pageInputs_congr {sha256 : String → String} {job other : ClaimedSyncJob}
    (enterpriseId : job.enterpriseId = other.enterpriseId)
    (channelId : job.channelId = other.channelId) (jobKind : job.jobKind = other.jobKind)
    (channel : WalkChannel) (today : String) (items : List GraphItem) :
    BackfillWorker.pageInputs sha256 job channel today items =
      BackfillWorker.pageInputs sha256 other channel today items := by
  obtain ⟨_, _, _, _, _, _, _⟩ := job
  obtain ⟨_, _, _, _, _, _, _⟩ := other
  dsimp only at enterpriseId channelId jobKind
  subst enterpriseId channelId jobKind
  unfold BackfillWorker.pageInputs
  congr 1

def Known (events : Table (InboundEventRow Json)) (input : InboundEventInput Json) : Prop :=
  ∃ event ∈ events.rows, event.uniqueKey = (input.enterpriseId.getD 0, input.dedupKey)

/-! ### The ledger forgets no key -/

def SameKey (event later : InboundEventRow Json) : Prop := later.uniqueKey = event.uniqueKey

theorem SameKey.refl (event : InboundEventRow Json) : SameKey event event := rfl

def Grows (events after : Table (InboundEventRow Json)) : Prop :=
  ∀ input, Known events input → Known after input

theorem Grows.refl (events : Table (InboundEventRow Json)) : Grows events events :=
  fun _ known => known

theorem Grows.of_kept {events after : Table (InboundEventRow Json)}
    (kept : Table.Kept SameKey events after) :
    Grows events after := by
  intro input known
  obtain ⟨event, member, key⟩ := known
  obtain ⟨index, found⟩ := Table.mem_rows_iff.mp member
  obtain ⟨later, there, same⟩ := kept index event found
  exact ⟨later, Table.mem_rows_iff.mpr ⟨index, there⟩, same.trans key⟩

theorem grows_updateIf {events : Table (InboundEventRow Json)} {index : Nat}
    {applies : InboundEventRow Json → Bool} {change : InboundEventRow Json → InboundEventRow Json}
    (changed : ∀ event, (change event).uniqueKey = event.uniqueKey) :
    Grows events (events.updateIf index applies change).2 := by
  apply Grows.of_kept
  rw [Table.updateIf_eq]
  refine Table.Kept.update SameKey.refl _ _ fun event => ?_
  split
  · exact changed event
  · exact .refl event

theorem grows_updatePicked {events : Table (InboundEventRow Json)}
    {picked : List (Library.Stored (InboundEventRow Json))}
    {change : InboundEventRow Json → InboundEventRow Json}
    (changed : ∀ event, (change event).uniqueKey = event.uniqueKey) :
    Grows events (events.updatePicked picked change) := by
  apply Grows.of_kept
  intro index event found
  rw [Table.get?_updatePicked, found, Option.map_some]
  split
  · exact ⟨_, rfl, changed event⟩
  · exact ⟨_, rfl, rfl⟩

theorem inserted_known (input : InboundEventInput Json) (now : Int)
    (events : Table (InboundEventRow Json)) :
    Grows events (Inbound.InboundEventRepository.insertIgnoringDuplicate input now events).2 ∧
      Known (Inbound.InboundEventRepository.insertIgnoringDuplicate input now events).2 input := by
  unfold Inbound.InboundEventRepository.insertIgnoringDuplicate
  split
  · next taken =>
      obtain ⟨event, member, same⟩ := List.any_eq_true.mp taken
      exact ⟨.refl events, event, member, beq_iff_eq.mp same⟩
  · refine ⟨.of_kept (.insert SameKey.refl events _), input.row now, ?_, rfl⟩
    exact List.mem_append_right _ (List.mem_singleton.mpr rfl)

theorem LedgerEffect.grows {Oracle : Type} {choice : IntakeChoice Json Oracle}
    {events after : Table (InboundEventRow Json)} {party : IntakeParty}
    {tasks : List (Inbound.ProjectorTask Json)}
    (effect : LedgerEffect choice events party after tasks) : Grows events after := by
  cases effect with
  | untouched => exact .refl events
  | settled leaseOwner index status tasks done => exact grows_updateIf fun _ => rfl
  | failed leaseOwner index nextAttemptAt => exact grows_updateIf fun _ => rfl
  | reclaimed => exact grows_updatePicked fun _ => rfl
  | inserted index => exact (inserted_known choice.input choice.now events).1
  | replayed => exact grows_updateIf fun _ => rfl

theorem startIntake_grows {Inbox Oracle : Type} (intake : Intake Inbox Json) (party : IntakeParty)
    (choice : IntakeChoice Json Oracle) :
    Grows intake.events (startIntake intake party choice).1.events := by
  by_cases working : ∃ leaseOwner, party = .worker leaseOwner
  · obtain ⟨leaseOwner, rfl⟩ := working
    change Grows _ (Inbound.InboundProjectorWorker.pollOnce leaseOwner choice intake).1.events
    unfold Inbound.InboundProjectorWorker.pollOnce
    split
    · exact .refl _
    · exact grows_updatePicked fun _ => rfl
  · exact LedgerEffect.grows (Inbound.startIntake_ledger
      (fun leaseOwner same => working ⟨leaseOwner, same⟩) choice intake).1

theorem runIntake_grows {Inbox Oracle : Type} (projectors : Projector Inbox Json Oracle)
    (intake : Intake Inbox Json) (party : IntakeParty) (task : Inbound.ProjectorTask Json)
    (choice : IntakeChoice Json Oracle) :
    Grows intake.events (runIntake projectors intake party task choice).1.events := by
  cases party with
  | worker leaseOwner =>
      exact LedgerEffect.grows (Inbound.runStep_ledger projectors leaseOwner choice intake
        task.rest task.step)
  | reaper | ingest | operator => exact .refl _

/-! ### What a statement does to the job -/

structure SyncJobRow.Quiet (job later : SyncJobRow) : Prop where
  asks : ∀ asked, job.Asks asked → later.Asks asked
  cursor : later.pageCursor = job.pageCursor
  completed : later.status = .completed → job.status = .completed
  lease : ∀ leaseOwner, later.leaseOwner = some leaseOwner → job.leaseOwner = some leaseOwner
  sound : job.LeaseSound → later.LeaseSound

theorem SyncJobRow.Quiet.refl (job : SyncJobRow) : job.Quiet job :=
  ⟨fun _ asks => asks, rfl, fun completed => completed, fun _ owned => owned,
    fun sound => sound⟩

theorem quiet_extended (job : SyncJobRow) (leaseSeconds : Nat) (now : Int) :
    job.Quiet (job.extended leaseSeconds now) :=
  ⟨fun _ asks => ⟨asks.1, asks.2, asks.3, asks.4⟩, rfl, fun completed => completed,
    fun _ owned => owned, fun sound => sound⟩

theorem quiet_released {job later : SyncJobRow} (asks : ∀ asked, job.Asks asked → later.Asks asked)
    (cursor : later.pageCursor = job.pageCursor) (released : later.leaseOwner = none)
    (open_ : later.status ≠ .completed) : job.Quiet later := by
  refine ⟨asks, cursor, fun completed => absurd completed open_, fun _ owned => ?_, fun _ => ?_⟩
  · rw [released] at owned
    contradiction
  · intro leased
    rw [released] at leased
    contradiction

theorem quiet_revived {job : SyncJobRow} (triggerKind : SyncTriggerKind) (now : Int)
    (paused : job.status = .paused) : job.Quiet (job.revived triggerKind now) := by
  refine ⟨fun _ asks => ⟨asks.1, asks.2, asks.3, asks.4⟩, rfl, fun completed => ?_,
    fun _ owned => owned, fun sound leased => ?_⟩
  · contradiction
  · exact absurd ((sound leased).symm.trans paused) (by decide)

section Undisturbed

variable {id : Nat} {jobs after : Table SyncJobRow}

def Undisturbed (id : Nat) (jobs after : Table SyncJobRow) : Prop :=
  ∀ later, after.get? id = some later → ∃ job, jobs.get? id = some job ∧ job.Quiet later

theorem Undisturbed.refl (id : Nat) (jobs : Table SyncJobRow) : Undisturbed id jobs jobs :=
  fun later found => ⟨later, found, .refl later⟩

theorem Undisturbed.of_ne {other : Nat} {applies : SyncJobRow → Bool}
    {change : SyncJobRow → SyncJobRow} (different : other ≠ id) :
    Undisturbed id jobs (jobs.updateIf other applies change).2 := by
  intro later found
  rw [Table.get?_updateIf, if_neg different] at found
  exact ⟨later, found, .refl later⟩

theorem Undisturbed.updateIf {other : Nat} {applies : SyncJobRow → Bool}
    {change : SyncJobRow → SyncJobRow}
    (quiet : ∀ job, jobs.get? id = some job → applies job = true → job.Quiet (change job)) :
    Undisturbed id jobs (jobs.updateIf other applies change).2 := by
  intro later found
  by_cases same : other = id
  · rw [Table.get?_updateIf, if_pos same] at found
    obtain ⟨job, there, rfl⟩ := Option.map_eq_some_iff.mp found
    refine ⟨job, there, ?_⟩
    split
    · next applied => exact quiet job there applied
    · exact .refl job
  · exact Undisturbed.of_ne same later found

theorem StepEffect.undisturbed {leaseOwner : Nat} {choice : BackfillChoice} {step : BackfillStep}
    (effect : StepEffect leaseOwner choice jobs step after)
    (saves : ∀ job cursor itemsAdded pages, step = .saveProgress job cursor itemsAdded pages →
      job.id ≠ id)
    (completes : ∀ job itemsAdded, step = .markCompleted job itemsAdded → job.id ≠ id) :
    Undisturbed id jobs after := by
  cases effect with
  | untouched => exact .refl id jobs
  | extended job => exact .updateIf fun row _ _ => quiet_extended row _ _
  | advanced job cursor itemsAdded pages runs =>
      exact .of_ne (saves job cursor itemsAdded pages rfl)
  | completed job itemsAdded => exact .of_ne (completes job itemsAdded rfl)
  | failed job nextAttemptAt =>
      refine .updateIf fun row _ _ => quiet_released (fun _ asks => ⟨asks.1, asks.2, asks.3,
        asks.4⟩) rfl rfl ?_
      cases nextAttemptAt <;> exact fun same => by cases same
  | parked job until_ runs =>
      exact .updateIf fun row _ _ => quiet_released (fun _ asks => ⟨asks.1, asks.2, asks.3,
        asks.4⟩) rfl rfl fun same => by cases same
  | paused job =>
      exact .updateIf fun row _ _ => quiet_released (fun _ asks => ⟨asks.1, asks.2, asks.3,
        asks.4⟩) rfl rfl fun same => by cases same

theorem reclaimed_undisturbed (id limit : Nat) (now : Int) (skipped : List Nat)
    (jobs : Table SyncJobRow) :
    Undisturbed id jobs (SyncJobRepository.reclaimExpiredLeases limit now skipped jobs) := by
  intro later found
  unfold SyncJobRepository.reclaimExpiredLeases at found
  rw [Table.get?_updatePicked] at found
  obtain ⟨job, there, rfl⟩ := Option.map_eq_some_iff.mp found
  refine ⟨job, there, ?_⟩
  split
  · exact quiet_released (fun _ asks => ⟨asks.1, asks.2, asks.3, asks.4⟩) rfl rfl
      fun same => by cases same
  · exact .refl job

end Undisturbed

/-! ### What a walk rests on -/

section Walk

variable (sha256 : String → String) (id : Nat) (asked : EnqueueSyncInput) (channel : WalkChannel)
  (edge : Edge GraphItem)

def Offered (events : Table (InboundEventRow Json)) (place : Nat) : Prop :=
  ∃ items today, edge.items place = some items ∧
    ∀ input ∈ BackfillWorker.pageInputs sha256 (asked.claim id) channel today items,
      Known events input

structure SyncJobRow.Walked (job : SyncJobRow) (events : Table (InboundEventRow Json)) :
    Prop where
  asks : job.Asks asked
  lease : job.LeaseSound
  before : ∀ place < edge.place job.pageCursor,
    Offered sha256 id asked channel edge events place
  whole : job.status = .completed → ∀ place ≤ edge.last,
    Offered sha256 id asked channel edge events place

variable {Inbox : Type}

def WalkSound (store : Pipeline Inbox) : Prop :=
  ∀ job, store.jobs.get? id = some job →
    job.Walked sha256 id asked channel edge store.intake.events

/-- As long as a worker holds the job, its cursor is where the worker has it. -/
def HeldAt (jobs : Table SyncJobRow) (leaseOwner : Nat) (cursor : Option String) : Prop :=
  ∀ job, jobs.get? id = some job → job.leaseOwner = some leaseOwner → job.pageCursor = cursor

def StepKnown (store : Pipeline Inbox) (leaseOwner : Nat) : BackfillStep → Prop
  | .next | .markFailed _ _ | .markRateLimited _ _ | .markPaused _ => True
  | .refreshProfile job => job.id ≠ id
  | .runJob job => job.id = id → job.Asks asked ∧ HeldAt id store.jobs leaseOwner job.pageCursor
  | .page job cursor _ => job.id = id → job.Asks asked ∧ HeldAt id store.jobs leaseOwner cursor
  | .saveProgress job cursor _ _ => job.id = id → job.Asks asked ∧
      ∃ here, HeldAt id store.jobs leaseOwner here ∧
        edge.place cursor = edge.place here + 1 ∧
        Offered sha256 id asked channel edge store.intake.events (edge.place here)
  | .markCompleted job _ => job.id = id → ∃ here, HeldAt id store.jobs leaseOwner here ∧
      edge.place here = edge.last ∧
      Offered sha256 id asked channel edge store.intake.events edge.last

def AppendKnown (store : Pipeline Inbox) (task : AppendTask) : Prop :=
  ∃ page today done, edge.Serves task.cursor page ∧
    (task.nextCursor, task.finished) = BackfillWorker.slice task.job page ∧
    BackfillWorker.pageInputs sha256 (asked.claim id) channel today page.data =
      done ++ task.inputs ∧
    ∀ input ∈ done, Known store.intake.events input

structure RestKnown (store : Pipeline Inbox) (leaseOwner : Nat) (step : Option ClaimedSyncJob)
    (rest : List ClaimedSyncJob) : Prop where
  distinct : ((step.toList ++ rest).map (·.id)).Nodup
  waiting : ∀ job ∈ rest, job.id = id →
    job.Asks asked ∧ HeldAt id store.jobs leaseOwner job.pageCursor

def TaskKnown (store : Pipeline Inbox) (leaseOwner : Nat) : PipelineTask → Prop
  | .sync task => RestKnown id asked store leaseOwner task.step.job task.rest ∧
      StepKnown sha256 id asked channel edge store leaseOwner task.step
  | .append task => RestKnown id asked store leaseOwner (some task.job) task.rest ∧
      (task.job.id = id → task.job.Asks asked ∧ HeldAt id store.jobs leaseOwner task.cursor ∧
        AppendKnown sha256 id asked channel edge store task)
  | .intake _ => True

def WalkReady (store : Pipeline Inbox) (party : PipelineParty) (task : PipelineTask) : Prop :=
  ∀ leaseOwner, party = .sync (.worker leaseOwner) →
    TaskKnown sha256 id asked channel edge store leaseOwner task

variable {sha256 id asked channel edge}

theorem Offered.mono {events after : Table (InboundEventRow Json)} {place : Nat}
    (offered : Offered sha256 id asked channel edge events place) (grows : Grows events after) :
    Offered sha256 id asked channel edge after place := by
  obtain ⟨items, today, found, all⟩ := offered
  exact ⟨items, today, found, fun input member => grows input (all input member)⟩

theorem SyncJobRow.Walked.mono {job later : SyncJobRow} {events after : Table (InboundEventRow Json)}
    (walked : job.Walked sha256 id asked channel edge events) (quiet : job.Quiet later)
    (grows : Grows events after) : later.Walked sha256 id asked channel edge after := by
  refine ⟨quiet.asks asked walked.asks, quiet.sound walked.lease, fun place within => ?_,
    fun completed place within => ?_⟩
  · rw [quiet.cursor] at within
    exact (walked.before place within).mono grows
  · exact (walked.whole (quiet.completed completed) place within).mono grows

/-! ### What others do to it -/

/-- What a step leaves to the worker of a lease: the ledger has grown, and the job is in the
hands it was in, at the cursor it was at. -/
structure LeftTo (id leaseOwner : Nat) (store after : Pipeline Inbox) : Prop where
  grows : Grows store.intake.events after.intake.events
  held : ∀ later, after.jobs.get? id = some later → later.leaseOwner = some leaseOwner →
    ∃ job, store.jobs.get? id = some job ∧ job.leaseOwner = some leaseOwner ∧
      later.pageCursor = job.pageCursor

section LeftTo

variable {leaseOwner : Nat} {store after : Pipeline Inbox}

theorem LeftTo.of_undisturbed (grows : Grows store.intake.events after.intake.events)
    (still : Undisturbed id store.jobs after.jobs) : LeftTo id leaseOwner store after := by
  refine ⟨grows, fun later found owned => ?_⟩
  obtain ⟨job, there, quiet⟩ := still later found
  exact ⟨job, there, quiet.lease leaseOwner owned, quiet.cursor⟩

theorem HeldAt.mono {cursor : Option String} (heldAt : HeldAt id store.jobs leaseOwner cursor)
    (left : LeftTo id leaseOwner store after) : HeldAt id after.jobs leaseOwner cursor := by
  intro later found owned
  obtain ⟨job, there, held, same⟩ := left.held later found owned
  exact same.trans (heldAt job there held)

theorem RestKnown.mono {step : Option ClaimedSyncJob} {rest : List ClaimedSyncJob}
    (known : RestKnown id asked store leaseOwner step rest)
    (left : LeftTo id leaseOwner store after) :
    RestKnown id asked after leaseOwner step rest :=
  ⟨known.distinct, fun job member same =>
    ⟨(known.waiting job member same).1, (known.waiting job member same).2.mono left⟩⟩

theorem StepKnown.mono {step : BackfillStep}
    (known : StepKnown sha256 id asked channel edge store leaseOwner step)
    (left : LeftTo id leaseOwner store after) :
    StepKnown sha256 id asked channel edge after leaseOwner step := by
  cases step with
  | next | markFailed | markRateLimited | markPaused => trivial
  | refreshProfile job => exact known
  | runJob job | page job cursor pages =>
      exact fun same => ⟨(known same).1, (known same).2.mono left⟩
  | saveProgress job cursor itemsAdded pages =>
      intro same
      obtain ⟨asks, here, heldAt, next, offered⟩ := known same
      exact ⟨asks, here, heldAt.mono left, next, offered.mono left.grows⟩
  | markCompleted job itemsAdded =>
      intro same
      obtain ⟨here, heldAt, last, offered⟩ := known same
      exact ⟨here, heldAt.mono left, last, offered.mono left.grows⟩

theorem AppendKnown.mono {task : AppendTask}
    (known : AppendKnown sha256 id asked channel edge store task)
    (grows : Grows store.intake.events after.intake.events) :
    AppendKnown sha256 id asked channel edge after task := by
  obtain ⟨page, today, done, serves, sliced, split, all⟩ := known
  exact ⟨page, today, done, serves, sliced, split, fun input member => grows input (all input member)⟩

theorem TaskKnown.mono {task : PipelineTask}
    (known : TaskKnown sha256 id asked channel edge store leaseOwner task)
    (left : LeftTo id leaseOwner store after) :
    TaskKnown sha256 id asked channel edge after leaseOwner task := by
  cases task with
  | sync task => exact ⟨known.1.mono left, known.2.mono left⟩
  | append task =>
      refine ⟨known.1.mono left, fun same => ?_⟩
      obtain ⟨asks, heldAt, appended⟩ := known.2 same
      exact ⟨asks, heldAt.mono left, appended.mono left.grows⟩
  | intake task => trivial

theorem WalkSound.mono (sound : WalkSound sha256 id asked channel edge store)
    (grows : Grows store.intake.events after.intake.events)
    (still : Undisturbed id store.jobs after.jobs) :
    WalkSound sha256 id asked channel edge after := by
  intro later found
  obtain ⟨job, there, quiet⟩ := still later found
  exact (sound job there).mono quiet grows

end LeftTo

end Walk

end UnifiedService.Sync
