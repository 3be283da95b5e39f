import UnifiedService.Sync.Backfill
import UnifiedService.Sync.SlotProperties

/-! How often a sync job is handed to a worker. Claiming spends a budget that a park, a
saved page or a revival pays back. -/

set_option autoImplicit false

namespace UnifiedService.Sync

open UnifiedService.Library

/-! ### What is counted -/

def handed (id : Nat) : BackfillState → SyncParty → BackfillChoice → Nat :=
  backfill.given fun task => task.rest.countP (·.id == id)

def parks (id : Nat) (state : BackfillState) (party : SyncParty) (choice : BackfillChoice) : Nat :=
  match party, state.left party with
  | .worker leaseOwner, ⟨.markRateLimited job _, _⟩ :: _ =>
      if job.id = id ∧ choice.fails = false ∧
          (state.store.get? id).any (SyncJobRepository.heldBy leaseOwner) = true then 1 else 0
  | _, _ => 0

def savesPage (id : Nat) (state : BackfillState) (party : SyncParty) (choice : BackfillChoice) :
    Nat :=
  match party, state.left party with
  | .worker leaseOwner, ⟨.saveProgress job _ _ _, _⟩ :: _ =>
      if job.id = id ∧ choice.fails = false ∧
          (state.store.get? id).any (SyncJobRepository.runningUnder leaseOwner) = true then 1
      else 0
  | _, _ => 0

def revives (id : Nat) (state : BackfillState) (party : SyncParty) (choice : BackfillChoice) :
    Nat :=
  match party, state.left party with
  | .requester _, [] =>
      if (state.store.find? fun job => job.isLive && job.slot == choice.input.slot).any
          (fun stored => stored.id == id && stored.row.status == .paused) then 1 else 0
  | _, _ => 0

/-- The reaper finds no lapsed lease of a job whose attempts are spent. -/
def NoSpentLease (state : BackfillState) (party : SyncParty) (choice : BackfillChoice) : Prop :=
  party = .reaper → ∀ id job, state.store.get? id = some job →
    SyncJobRepository.leaseExpired choice.now job = true → job.attemptCount < syncMaxAttempts

/-! ### The budget of a job -/

/-- How often a job can still be claimed, if nothing pays anything back. -/
def SyncJobRow.budget (job : SyncJobRow) : Nat :=
  match job.status with
  | .pending | .failed | .running => syncMaxAttempts - job.attemptCount
  | .rateLimited => max 1 (syncMaxAttempts - job.attemptCount)
  | .paused | .completed | .deadLetter | .cancelled => 0

def budgetAt (id : Nat) (jobs : Table SyncJobRow) : Nat :=
  jobs.measureAt SyncJobRow.budget syncMaxAttempts id

/-- A job is leased only while it runs, and waits for a retry only with attempts left. -/
structure SyncJobRow.Sound (job : SyncJobRow) : Prop where
  lease : job.LeaseSound
  waiting : job.status = .pending ∨ job.status = .failed → job.attemptCount < syncMaxAttempts

def JobsSound (jobs : Table SyncJobRow) : Prop :=
  ∀ id job, jobs.get? id = some job → job.Sound

def AttemptsKnown (jobs : Table SyncJobRow) (leaseOwner : Nat) (claimed : ClaimedSyncJob) : Prop :=
  ∀ job, jobs.get? claimed.id = some job → job.leaseOwner = some leaseOwner →
    job.attemptCount = claimed.attemptCount ∨ job.attemptCount = 0

def BackfillStep.Retries (step : BackfillStep) : Prop :=
  ∀ job nextAttemptAt, step = .markFailed job (some nextAttemptAt) →
    job.attemptCount < syncMaxAttempts

def BackfillReady (jobs : Table SyncJobRow) (party : SyncParty) (task : BackfillTask) : Prop :=
  task.step.Retries ∧ ∀ leaseOwner, party = .worker leaseOwner →
    ∀ claimed ∈ task.jobs, AttemptsKnown jobs leaseOwner claimed

theorem jobsSound_empty : JobsSound .empty := by
  intro id job found
  contradiction

/-! ### What a statement does to a row -/

structure SyncJobRow.Becomes (job later : SyncJobRow) : Prop where
  sound : job.Sound → later.Sound
  lease : ∀ leaseOwner, later.leaseOwner = some leaseOwner → job.leaseOwner = some leaseOwner ∧
    (later.attemptCount = job.attemptCount ∨ later.attemptCount = 0)

theorem SyncJobRow.Becomes.refl (job : SyncJobRow) : job.Becomes job :=
  ⟨id, fun _ owned => ⟨owned, .inl rfl⟩⟩

theorem becomes_released {job later : SyncJobRow} (released : later.leaseOwner = none)
    (waiting : later.status = .pending ∨ later.status = .failed →
      later.attemptCount < syncMaxAttempts) : job.Becomes later := by
  constructor
  · intro _
    refine ⟨fun leased => ?_, waiting⟩
    rw [released] at leased
    contradiction
  · intro leaseOwner owned
    rw [released] at owned
    contradiction

theorem becomes_extended (job : SyncJobRow) (leaseSeconds : Nat) (now : Int) :
    job.Becomes (job.extended leaseSeconds now) :=
  ⟨fun sound => ⟨sound.lease, sound.waiting⟩, fun _ owned => ⟨owned, .inl rfl⟩⟩

theorem becomes_advanced (job : SyncJobRow) (pageCursor : Option String)
    (itemsAdded leaseSeconds : Nat) (now : Int) :
    job.Becomes (job.advanced pageCursor itemsAdded leaseSeconds now) :=
  ⟨fun sound => ⟨sound.lease, fun _ => Nat.zero_lt_succ 4⟩, fun _ owned => ⟨owned, .inr rfl⟩⟩

theorem becomes_revived {job : SyncJobRow} (triggerKind : SyncTriggerKind) (now : Int)
    (paused : job.status = .paused) : job.Becomes (job.revived triggerKind now) := by
  constructor
  · intro sound
    refine ⟨fun leased => ?_, fun _ => Nat.zero_lt_succ 4⟩
    exact absurd ((sound.lease leased).symm.trans paused) (by decide)
  · intro leaseOwner owned
    exact ⟨owned, .inr rfl⟩

theorem becomes_markedFailed {job : SyncJobRow} (nextAttemptAt : Option Int)
    (retries : nextAttemptAt.isSome = true → job.attemptCount < syncMaxAttempts) :
    job.Becomes (job.markedFailed nextAttemptAt) := by
  refine becomes_released rfl fun status => ?_
  cases nextAttemptAt with
  | none => rcases status with status | status <;> cases status
  | some nextAttemptAt => exact retries rfl

/-! ### One statement on one row -/

section Update

variable {jobs : Table SyncJobRow} {id : Nat} {applies : SyncJobRow → Bool}
  {change : SyncJobRow → SyncJobRow}

theorem updateIf_becomes
    (changed : ∀ job, jobs.get? id = some job → applies job = true → job.Becomes (change job)) :
    Table.Kept SyncJobRow.Becomes jobs (jobs.updateIf id applies change).2 := by
  intro other job found
  rw [Table.get?_updateIf, found]
  split
  · next same =>
      subst same
      cases applied : applies job with
      | true => exact ⟨change job, by simp [applied], changed job found applied⟩
      | false => exact ⟨job, by simp [applied], .refl job⟩
  · exact ⟨job, rfl, .refl job⟩

end Update

theorem JobsSound.of_becomes {jobs after : Table SyncJobRow} (sound : JobsSound jobs)
    (kept : Table.Kept SyncJobRow.Becomes jobs after) (keys : after.nextId = jobs.nextId) :
    JobsSound after := by
  intro id job found
  obtain ⟨before, there, becomes⟩ := kept.origin keys found
  exact becomes.sound (sound id before there)

theorem AttemptsKnown.of_becomes {jobs after : Table SyncJobRow} {leaseOwner : Nat}
    {claimed : ClaimedSyncJob} (known : AttemptsKnown jobs leaseOwner claimed)
    (kept : Table.Kept SyncJobRow.Becomes jobs after) (keys : after.nextId = jobs.nextId) :
    AttemptsKnown after leaseOwner claimed := by
  intro job found owned
  obtain ⟨before, there, becomes⟩ := kept.origin keys found
  obtain ⟨held, attempts⟩ := becomes.lease leaseOwner owned
  rcases attempts with same | reset
  · rw [same]
    exact known before there held
  · exact .inr reset

theorem BackfillReady.of_becomes {jobs after : Table SyncJobRow} {party : SyncParty}
    {task : BackfillTask} (ready : BackfillReady jobs party task)
    (kept : Table.Kept SyncJobRow.Becomes jobs after) (keys : after.nextId = jobs.nextId) :
    BackfillReady after party task :=
  ⟨ready.1, fun leaseOwner same claimed member =>
    (ready.2 leaseOwner same claimed member).of_becomes kept keys⟩

/-! ### A worker's next statement -/

theorem retryOrDie_retries (job : ClaimedSyncJob) (choice : BackfillChoice) :
    (BackfillWorker.retryOrDie job choice).Retries := by
  intro other nextAttemptAt same
  simp only [BackfillWorker.retryOrDie, BackfillStep.markFailed.injEq] at same
  obtain ⟨rfl, scheduled⟩ := same
  unfold Outbound.scheduleRetry at scheduled
  split at scheduled
  · contradiction
  · next more => exact Nat.lt_of_not_le more

theorem handleFailure_retries (job : ClaimedSyncJob) (choice : BackfillChoice)
    (error : Outbound.SendError) : (BackfillWorker.handleFailure job choice error).Retries := by
  unfold BackfillWorker.handleFailure
  split
  · exact retryOrDie_retries job choice
  · dsimp only
    split
    · exact fun _ _ same => nomatch same
    · split
      · exact fun _ _ same => nomatch same
      · split
        · exact fun _ _ same => nomatch same
        · split
          · exact retryOrDie_retries job choice
          · exact fun _ _ same => nomatch same

theorem handleFailure_job (job : ClaimedSyncJob) (choice : BackfillChoice)
    (error : Outbound.SendError) :
    (BackfillWorker.handleFailure job choice error).job = some job := by
  unfold BackfillWorker.handleFailure
  split
  · rfl
  · dsimp only
    split
    · rfl
    · split
      · rfl
      · split
        · rfl
        · split <;> rfl

structure BackfillStep.About (step : BackfillStep) (job : ClaimedSyncJob) : Prop where
  job : step.job = some job
  retries : step.Retries

theorem runJob_about (job : ClaimedSyncJob) (choice : BackfillChoice) :
    (BackfillWorker.runJob job choice).About job := by
  unfold BackfillWorker.runJob
  split
  · exact ⟨rfl, fun _ _ same => nomatch same⟩
  · split
    · exact ⟨rfl, fun _ _ same => nomatch same⟩
    · split
      · exact ⟨rfl, fun _ _ same => nomatch same⟩
      · split
        · exact ⟨rfl, fun _ _ same => nomatch same⟩
        · split
          · exact ⟨rfl, fun _ _ same => nomatch same⟩
          · split
            · exact ⟨rfl, fun _ _ same => nomatch same⟩
            · exact ⟨rfl, fun _ _ same => nomatch same⟩

theorem page_about (job : ClaimedSyncJob) (pages : Nat) (choice : BackfillChoice) :
    (BackfillWorker.page job pages choice).About job := by
  unfold BackfillWorker.page
  split
  · exact ⟨handleFailure_job job choice _, handleFailure_retries job choice _⟩
  · exact ⟨rfl, fun _ _ same => nomatch same⟩
  · exact ⟨rfl, fun _ _ same => nomatch same⟩

theorem refreshProfile_about (job : ClaimedSyncJob) (choice : BackfillChoice) :
    (BackfillWorker.refreshProfile job choice).About job := by
  unfold BackfillWorker.refreshProfile
  split
  · exact ⟨handleFailure_job job choice _, handleFailure_retries job choice _⟩
  · exact ⟨rfl, fun _ _ same => nomatch same⟩

/-- What a worker's statement makes of the table: an update of the one job it is about. -/
inductive StepEffect (leaseOwner : Nat) (choice : BackfillChoice) (jobs : Table SyncJobRow) :
    BackfillStep → Table SyncJobRow → Prop
  | untouched (step : BackfillStep) : StepEffect leaseOwner choice jobs step jobs
  | extended (job : ClaimedSyncJob) :
      StepEffect leaseOwner choice jobs .next
        (SyncJobRepository.extendLease job.id leaseOwner choice.leaseSeconds choice.now jobs).2
  | advanced (job : ClaimedSyncJob) (cursor : Option String) (itemsAdded pages : Nat)
      (runs : choice.fails = false) :
      StepEffect leaseOwner choice jobs (.saveProgress job cursor itemsAdded pages)
        (SyncJobRepository.saveProgress job.id leaseOwner cursor itemsAdded choice.leaseSeconds
          choice.now jobs).2
  | completed (job : ClaimedSyncJob) (itemsAdded : Nat) :
      StepEffect leaseOwner choice jobs (.markCompleted job itemsAdded)
        (SyncJobRepository.markCompleted job.id leaseOwner itemsAdded jobs)
  | failed (job : ClaimedSyncJob) (nextAttemptAt : Option Int) :
      StepEffect leaseOwner choice jobs (.markFailed job nextAttemptAt)
        (SyncJobRepository.markFailed job.id leaseOwner nextAttemptAt jobs)
  | parked (job : ClaimedSyncJob) (until_ : Int) (runs : choice.fails = false) :
      StepEffect leaseOwner choice jobs (.markRateLimited job until_)
        (SyncJobRepository.markRateLimited job.id leaseOwner until_ jobs)
  | paused (job : ClaimedSyncJob) :
      StepEffect leaseOwner choice jobs (.markPaused job)
        (SyncJobRepository.markPaused job.id leaseOwner jobs)

theorem runStep_effect (leaseOwner : Nat) (choice : BackfillChoice) (jobs : Table SyncJobRow)
    (rest : List ClaimedSyncJob) (step : BackfillStep) :
    StepEffect leaseOwner choice jobs step
      (BackfillWorker.runStep leaseOwner choice jobs rest step).1 := by
  cases step with
  | next =>
      cases rest with
      | nil => exact .untouched _
      | cons job rest =>
          simp only [BackfillWorker.runStep]
          split
          · exact .untouched _
          · have extends_ : StepEffect leaseOwner choice jobs .next
                (SyncJobRepository.extendLease job.id leaseOwner choice.leaseSeconds choice.now
                  jobs).2 := .extended job
            split
            · next after result => rwa [result] at extends_
            · next after result => rwa [result] at extends_
  | runJob | refreshProfile | page => exact .untouched _
  | saveProgress job cursor itemsAdded pages =>
      simp only [BackfillWorker.runStep]
      split
      · exact .untouched _
      · next runs =>
          have advances : StepEffect leaseOwner choice jobs (.saveProgress job cursor itemsAdded pages)
              (SyncJobRepository.saveProgress job.id leaseOwner cursor itemsAdded
                choice.leaseSeconds choice.now jobs).2 :=
            .advanced job cursor itemsAdded pages (Bool.not_eq_true _ ▸ runs)
          split
          · next after result => rwa [result] at advances
          · next after result => rwa [result] at advances
  | markCompleted job itemsAdded =>
      simp only [BackfillWorker.runStep]
      split
      · exact .untouched _
      · exact .completed job itemsAdded
  | markFailed job nextAttemptAt =>
      simp only [BackfillWorker.runStep]
      split
      · exact .untouched _
      · exact .failed job nextAttemptAt
  | markRateLimited job until_ =>
      simp only [BackfillWorker.runStep]
      split
      · exact .untouched _
      · next runs => exact .parked job until_ (Bool.not_eq_true _ ▸ runs)
  | markPaused job =>
      simp only [BackfillWorker.runStep]
      split
      · exact .untouched _
      · exact .paused job

theorem runStep_next {leaseOwner : Nat} {choice : BackfillChoice} {jobs : Table SyncJobRow}
    {rest : List ClaimedSyncJob} {step : BackfillStep} {task : BackfillTask}
    (next : task ∈ (BackfillWorker.runStep leaseOwner choice jobs rest step).2) :
    task.step.Retries ∧ task.jobs ⊆ step.job.toList ++ rest := by
  have goesOn : ∀ (job : Option ClaimedSyncJob) (more : List ClaimedSyncJob),
      (⟨.next, more⟩ : BackfillTask).step.Retries ∧
        (⟨.next, more⟩ : BackfillTask).jobs ⊆ job.toList ++ more :=
    fun job more =>
      ⟨fun _ _ same => (nomatch same), fun _ member => List.mem_append_right _ member⟩
  have stays : ∀ (job : ClaimedSyncJob) (other : BackfillStep), other.About job →
      (⟨other, rest⟩ : BackfillTask).step.Retries ∧
        (⟨other, rest⟩ : BackfillTask).jobs ⊆ (some job).toList ++ rest := by
    intro job other about
    refine ⟨about.retries, ?_⟩
    rw [BackfillTask.jobs, about.job]
    exact List.Subset.refl _
  have retries : ∀ job, (BackfillWorker.retryOrDie job choice).About job :=
    fun job => ⟨rfl, retryOrDie_retries job choice⟩
  cases step with
  | next =>
      cases rest with
      | nil => contradiction
      | cons job rest =>
          simp only [BackfillWorker.runStep] at next
          split at next
          · contradiction
          · split at next
            · obtain rfl := List.mem_singleton.mp next
              exact ⟨fun _ _ same => (nomatch same), List.Subset.refl _⟩
            · obtain rfl := List.mem_singleton.mp next
              exact ⟨fun _ _ same => (nomatch same),
                fun _ member => List.mem_cons_of_mem _ member⟩
  | runJob job =>
      simp only [BackfillWorker.runStep] at next
      split at next
      · contradiction
      · obtain rfl := List.mem_singleton.mp next
        exact stays job _ (runJob_about job choice)
  | refreshProfile job =>
      obtain rfl := List.mem_singleton.mp next
      exact stays job _ (refreshProfile_about job choice)
  | page job cursor pages =>
      obtain rfl := List.mem_singleton.mp next
      exact stays job _ (page_about job pages choice)
  | saveProgress job cursor itemsAdded pages =>
      simp only [BackfillWorker.runStep] at next
      split at next
      · obtain rfl := List.mem_singleton.mp next
        exact stays job _ (retries job)
      · split at next
        · obtain rfl := List.mem_singleton.mp next
          split
          · exact stays job _ ⟨rfl, fun _ _ same => nomatch same⟩
          · exact goesOn _ _
        · obtain rfl := List.mem_singleton.mp next
          exact goesOn _ _
  | markCompleted job itemsAdded =>
      simp only [BackfillWorker.runStep] at next
      split at next
      · obtain rfl := List.mem_singleton.mp next
        exact stays job _ (retries job)
      · obtain rfl := List.mem_singleton.mp next
        exact goesOn _ _
  | markFailed job | markRateLimited job | markPaused job =>
      simp only [BackfillWorker.runStep] at next
      split at next
      · contradiction
      · obtain rfl := List.mem_singleton.mp next
        exact goesOn _ _

section Worker

variable {leaseOwner : Nat} {choice : BackfillChoice} {jobs after : Table SyncJobRow}
  {step : BackfillStep}

theorem StepEffect.kept (effect : StepEffect leaseOwner choice jobs step after)
    (retries : step.Retries)
    (known : ∀ claimed ∈ step.job.toList, AttemptsKnown jobs leaseOwner claimed) :
    Table.Kept SyncJobRow.Becomes jobs after ∧ after.nextId = jobs.nextId := by
  cases effect with
  | untouched => exact ⟨.refl .refl jobs, rfl⟩
  | extended job =>
      exact ⟨updateIf_becomes fun row _ _ => becomes_extended row _ _, Table.nextId_updateIf ..⟩
  | advanced job cursor itemsAdded pages runs =>
      exact ⟨updateIf_becomes fun row _ _ => becomes_advanced row _ _ _ _, Table.nextId_updateIf ..⟩
  | completed job itemsAdded =>
      refine ⟨updateIf_becomes fun row _ _ => becomes_released rfl fun status => ?_, Table.nextId_updateIf ..⟩
      rcases status with status | status <;> cases status
  | failed job nextAttemptAt =>
      refine ⟨updateIf_becomes fun row found held => becomes_markedFailed _ fun scheduled => ?_,
        Table.nextId_updateIf ..⟩
      obtain ⟨at_, rfl⟩ := Option.isSome_iff_exists.mp scheduled
      have within := retries job at_ rfl
      have owned : row.leaseOwner = some leaseOwner := by
        simpa [SyncJobRepository.heldBy] using held
      rcases known job (by simp [BackfillStep.job]) row found owned with same | reset
      · rwa [same]
      · rw [reset]
        exact Nat.zero_lt_succ 4
  | parked job until_ runs =>
      refine ⟨updateIf_becomes fun row _ _ => becomes_released rfl fun status => ?_, Table.nextId_updateIf ..⟩
      rcases status with status | status <;> cases status
  | paused job =>
      refine ⟨updateIf_becomes fun row _ _ => becomes_released rfl fun status => ?_, Table.nextId_updateIf ..⟩
      rcases status with status | status <;> cases status

theorem running_of_owned {row : SyncJobRow} (sound : row.Sound)
    (held : SyncJobRepository.heldBy leaseOwner row = true) : row.status = .running := by
  refine sound.lease ?_
  have owned : row.leaseOwner = some leaseOwner := by
    simpa [SyncJobRepository.heldBy] using held
  rw [owned]
  rfl

theorem StepEffect.budget (effect : StepEffect leaseOwner choice jobs step after)
    (sound : JobsSound jobs) (id : Nat) {state : BackfillState} {rest : List ClaimedSyncJob}
    {tasks : List BackfillTask} (store : state.store = jobs)
    (queued : state.left (.worker leaseOwner) = ⟨step, rest⟩ :: tasks) :
    budgetAt id after ≤ budgetAt id jobs + (parks id state (.worker leaseOwner) choice +
      syncMaxAttempts * savesPage id state (.worker leaseOwner) choice) := by
  cases effect with
  | untouched => exact Nat.le_add_right _ _
  | extended job =>
      exact Table.measureAt_updateIf id _ fun row _ _ _ => Nat.le_add_right _ _
  | advanced job cursor itemsAdded pages runs =>
      refine Table.measureAt_updateIf id _ fun row found held same => ?_
      subst same
      have counted : savesPage job.id state (.worker leaseOwner) choice = 1 := by
        simp [savesPage, queued, runs, store, found, held]
      have whole : (row.advanced cursor itemsAdded choice.leaseSeconds choice.now).budget ≤
          syncMaxAttempts := by
        unfold SyncJobRow.budget
        split <;> simp [SyncJobRow.advanced, syncMaxAttempts]
      rw [counted, Nat.mul_one]
      exact whole.trans ((Nat.le_add_left _ _).trans (Nat.le_add_left _ _))
  | completed job itemsAdded =>
      refine Table.measureAt_updateIf id _ fun row _ _ _ => ?_
      exact Nat.zero_le _
  | failed job nextAttemptAt =>
      refine Table.measureAt_updateIf id _ fun row found held _ => ?_
      have running := running_of_owned (sound _ row found) held
      refine le_trans ?_ (Nat.le_add_right _ _)
      unfold SyncJobRow.budget
      rw [running]
      cases nextAttemptAt with
      | none => exact Nat.zero_le _
      | some at_ => exact Nat.le_refl _
  | parked job until_ runs =>
      refine Table.measureAt_updateIf id _ fun row found held same => ?_
      subst same
      have running := running_of_owned (sound _ row found) held
      have counted : parks job.id state (.worker leaseOwner) choice = 1 := by
        simp [parks, queued, runs, store, found, held]
      have before : row.budget = syncMaxAttempts - row.attemptCount := by
        unfold SyncJobRow.budget
        rw [running]
      have later : (row.markedRateLimited until_).budget =
          max 1 (syncMaxAttempts - row.attemptCount) := rfl
      rw [counted, before, later]
      omega
  | paused job =>
      refine Table.measureAt_updateIf id _ fun row _ _ _ => ?_
      exact Nat.zero_le _

end Worker

/-! ### What a party starts -/

theorem claimed_waits {job : SyncJobRow} {now : Int} (sound : job.Sound)
    (wanted : (!job.isDeleted && job.status.isClaimable && decide (job.dueAt ≤ now)) = true)
    (leaseOwner leaseSeconds : Nat) :
    1 + (job.claimed leaseOwner leaseSeconds now).budget ≤ job.budget := by
  simp only [Bool.and_eq_true] at wanted
  have claimable := wanted.1.2
  have waiting := sound.waiting
  have later : (job.claimed leaseOwner leaseSeconds now).budget =
      syncMaxAttempts - (job.attemptCount + 1) := rfl
  rw [later]
  unfold SyncJobRow.budget
  cases status : job.status with
  | pending | failed =>
      have left := waiting (by simp [status])
      dsimp only
      omega
  | rateLimited =>
      dsimp only
      omega
  | running | paused | completed | deadLetter | cancelled =>
      rw [status] at claimable
      contradiction

theorem countP_claimed (due : List (Stored SyncJobRow)) (id : Nat) :
    (due.map claimOf).countP (·.id == id) = (due.map (·.id)).count id := by
  rw [List.countP_map, List.count, List.countP_map]
  rfl

theorem pollOnce_cases (leaseOwner : Nat) (choice : BackfillChoice) (jobs : Table SyncJobRow) :
    BackfillWorker.pollOnce leaseOwner choice jobs = (jobs, []) ∨
      BackfillWorker.pollOnce leaseOwner choice jobs =
        (jobs.updatePicked (SyncJobRepository.dueRows choice.batchSize choice.now choice.skipped
          jobs) (·.claimed leaseOwner choice.leaseSeconds choice.now),
          [⟨.next, (SyncJobRepository.dueRows choice.batchSize choice.now choice.skipped jobs).map
            claimOf⟩]) := by
  unfold BackfillWorker.pollOnce
  split
  · exact .inl rfl
  · split
    · exact .inl rfl
    · next claimed after result =>
        simp only [SyncJobRepository.claimBatch] at result
        split at result
        · simp only [Except.ok.injEq, Prod.mk.injEq] at result
          obtain ⟨rfl, rfl⟩ := result
          exact .inr rfl
        · contradiction

section Poll

variable (leaseOwner : Nat) (choice : BackfillChoice) (jobs : Table SyncJobRow)

theorem get?_claimed (id : Nat) :
    (jobs.updatePicked (SyncJobRepository.dueRows choice.batchSize choice.now choice.skipped jobs)
      (·.claimed leaseOwner choice.leaseSeconds choice.now)).get? id =
      (jobs.get? id).map fun job =>
        if ((SyncJobRepository.dueRows choice.batchSize choice.now choice.skipped jobs).map
            (·.id)).contains id then job.claimed leaseOwner choice.leaseSeconds choice.now
        else job :=
  Table.get?_updatePicked ..

theorem poll_budget (sound : JobsSound jobs) (id : Nat) :
    ((BackfillWorker.pollOnce leaseOwner choice jobs).2.map
        fun task => task.rest.countP (·.id == id)).sum +
      budgetAt id (BackfillWorker.pollOnce leaseOwner choice jobs).1 ≤ budgetAt id jobs := by
  rcases pollOnce_cases leaseOwner choice jobs with same | claimed
  · rw [same]
    simp
  · rw [claimed]
    simp only [List.map_cons, List.map_nil, List.sum_cons, List.sum_nil, Nat.add_zero]
    rw [countP_claimed]
    exact Table.measureAt_claimed fun job found wanted =>
      claimed_waits (sound id job found) wanted leaseOwner choice.leaseSeconds

theorem poll_sound (sound : JobsSound jobs) :
    JobsSound (BackfillWorker.pollOnce leaseOwner choice jobs).1 := by
  rcases pollOnce_cases leaseOwner choice jobs with same | claimed
  · rw [same]
    exact sound
  · rw [claimed]
    intro id later found
    rw [get?_claimed, Option.map_eq_some_iff] at found
    obtain ⟨job, there, rfl⟩ := found
    split
    · refine ⟨fun _ => rfl, fun waiting => ?_⟩
      rcases waiting with status | status <;> cases status
    · exact sound id job there

theorem poll_ready :
    ∀ task ∈ (BackfillWorker.pollOnce leaseOwner choice jobs).2,
      BackfillReady (BackfillWorker.pollOnce leaseOwner choice jobs).1 (.worker leaseOwner)
        task := by
  rcases pollOnce_cases leaseOwner choice jobs with same | claimed
  · rw [same]
    exact fun _ member => absurd member List.not_mem_nil
  · rw [claimed]
    intro task member
    obtain rfl := List.mem_singleton.mp member
    refine ⟨fun _ _ same => (nomatch same), fun owner same claimed listed later found _ => ?_⟩
    obtain ⟨stored, due, rfl⟩ := List.mem_map.mp listed
    have there := get?_claimed leaseOwner choice jobs stored.id
    rw [(Table.mem_pick due).1, Option.map_some, if_pos (List.contains_iff_mem.mpr
      (List.mem_map_of_mem due))] at there
    change _ = some later at found
    rw [show (claimOf stored).id = stored.id from rfl, there, Option.some.injEq] at found
    subst found
    exact .inl rfl

theorem poll_others {other : SyncParty} {task : BackfillTask}
    (different : other ≠ .worker leaseOwner) (ready : BackfillReady jobs other task) :
    BackfillReady (BackfillWorker.pollOnce leaseOwner choice jobs).1 other task := by
  rcases pollOnce_cases leaseOwner choice jobs with same | claimed
  · rw [same]
    exact ready
  · rw [claimed]
    refine ⟨ready.1, fun owner same claimed listed later found owned => ?_⟩
    rw [get?_claimed, Option.map_eq_some_iff] at found
    obtain ⟨job, there, rfl⟩ := found
    by_cases picked : ((SyncJobRepository.dueRows choice.batchSize choice.now choice.skipped
        jobs).map (·.id)).contains claimed.id = true
    · rw [if_pos picked] at owned
      exact absurd (same.trans (congrArg SyncParty.worker (Option.some.inj owned).symm)) different
    · rw [if_neg picked] at owned ⊢
      exact ready.2 owner same claimed listed job there owned

end Poll

theorem reclaimed_becomes {jobs : Table SyncJobRow} {limit : Nat} {now : Int}
    {skipped : List Nat} (within : ∀ id job, jobs.get? id = some job →
      SyncJobRepository.leaseExpired now job = true → job.attemptCount < syncMaxAttempts) :
    Table.Kept SyncJobRow.Becomes jobs
      (SyncJobRepository.reclaimExpiredLeases limit now skipped jobs) := by
  intro id job found
  unfold SyncJobRepository.reclaimExpiredLeases
  rw [Table.get?_updatePicked, found, Option.map_some]
  split
  · next picked =>
      exact ⟨_, rfl, becomes_released rfl fun _ =>
        within id job found (Table.wanted_of_picked picked found)⟩
  · exact ⟨job, rfl, .refl job⟩

theorem reclaimed_budget (id : Nat) (jobs : Table SyncJobRow) (limit : Nat) (now : Int)
    (skipped : List Nat) :
    budgetAt id (SyncJobRepository.reclaimExpiredLeases limit now skipped jobs) =
      budgetAt id jobs := by
  refine Table.measureAt_updatePicked (fun job expired => ?_) id
  unfold SyncJobRepository.leaseExpired at expired
  rw [Bool.and_eq_true, beq_iff_eq] at expired
  unfold SyncJobRow.budget
  rw [expired.1]
  rfl

theorem enqueueIfAbsent_cases (input : EnqueueSyncInput) (now : Int) (jobs : Table SyncJobRow) :
    (SyncJobRepository.enqueueIfAbsent input now jobs).2 = jobs.insert (input.row now) ∨
      ∃ stored, (jobs.find? fun job => job.isLive && job.slot == input.slot) = some stored ∧
        (SyncJobRepository.enqueueIfAbsent input now jobs).2 =
          (jobs.updateIf stored.id (·.status == .paused) (·.revived input.triggerKind now)).2 := by
  unfold SyncJobRepository.enqueueIfAbsent
  split
  · exact .inl rfl
  · next stored found => exact .inr ⟨stored, found, rfl⟩

/-! ### A step, and a run -/

theorem enqueued_budget (input : EnqueueSyncInput) (now : Int) (jobs : Table SyncJobRow)
    (id : Nat) :
    budgetAt id (SyncJobRepository.enqueueIfAbsent input now jobs).2 ≤ budgetAt id jobs +
      syncMaxAttempts *
        if (jobs.find? fun job => job.isLive && job.slot == input.slot).any
          (fun stored => stored.id == id && stored.row.status == .paused) then 1 else 0 := by
  rcases enqueueIfAbsent_cases input now jobs with inserted | ⟨stored, first, revived⟩
  · rw [inserted]
    have whole : (input.row now).budget ≤ syncMaxAttempts := Nat.le_refl _
    exact (Table.measureAt_insert whole id).trans (Nat.le_add_right _ _)
  · rw [revived, first]
    refine Table.measureAt_updateIf id _ fun job found paused same => ?_
    obtain ⟨there, _⟩ := Table.find?_some first
    rw [found, Option.some.injEq] at there
    subst there
    have whole : (stored.row.revived input.triggerKind now).budget = syncMaxAttempts := rfl
    rw [whole, Option.any_some, same, beq_self_eq_true, Bool.true_and, if_pos paused, Nat.mul_one]
    exact Nat.le_add_left _ _

theorem enqueued_sound {input : EnqueueSyncInput} {now : Int} {jobs : Table SyncJobRow}
    (sound : JobsSound jobs) :
    JobsSound (SyncJobRepository.enqueueIfAbsent input now jobs).2 := by
  rcases enqueueIfAbsent_cases input now jobs with inserted | ⟨stored, first, revived⟩
  · rw [inserted]
    intro id job found
    rw [Table.get?_insert] at found
    split at found
    · obtain rfl := Option.some.inj found
      exact ⟨fun leased => absurd leased Bool.false_ne_true, fun _ => Nat.zero_lt_succ 4⟩
    · exact sound id job found
  · rw [revived]
    refine sound.of_becomes (updateIf_becomes fun job _ paused => ?_) (Table.nextId_updateIf ..)
    exact becomes_revived _ _ (by simpa using paused)

theorem enqueued_ready {input : EnqueueSyncInput} {now : Int} {jobs : Table SyncJobRow}
    {party : SyncParty} {task : BackfillTask} (ready : BackfillReady jobs party task) :
    BackfillReady (SyncJobRepository.enqueueIfAbsent input now jobs).2 party task := by
  rcases enqueueIfAbsent_cases input now jobs with inserted | ⟨stored, first, revived⟩
  · rw [inserted]
    refine ⟨ready.1, fun owner same claimed listed job found owned => ?_⟩
    rw [Table.get?_insert] at found
    split at found
    · obtain rfl := Option.some.inj found
      contradiction
    · exact ready.2 owner same claimed listed job found owned
  · rw [revived]
    refine ready.of_becomes (updateIf_becomes fun job _ paused => ?_) (Table.nextId_updateIf ..)
    exact becomes_revived _ _ (by simpa using paused)

theorem backfill_standing {state : BackfillState} {party : SyncParty} {choice : BackfillChoice}
    (standing : Crew.Standing JobsSound BackfillReady state)
    (permitted : NoSpentLease state party choice) :
    Crew.Standing JobsSound BackfillReady (backfill.step state party choice) := by
  refine standing.step (fun _ => ?_) fun task rest queued ready => ?_
  · cases party with
    | worker leaseOwner =>
        exact ⟨poll_sound _ _ _ standing.store, poll_ready _ _ _,
          fun other task different => poll_others _ _ _ different⟩
    | reaper =>
        change JobsSound (if choice.fails then state.store else _) ∧ (∀ task ∈ [], _) ∧ _
        refine ⟨?_, fun _ member => absurd member List.not_mem_nil, fun other task _ ready => ?_⟩
        · split
          · exact standing.store
          · exact standing.store.of_becomes (reclaimed_becomes (permitted rfl))
              (Table.nextId_updatePicked ..)
        · change BackfillReady (if choice.fails then state.store else _) other task
          split
          · exact ready
          · exact ready.of_becomes (reclaimed_becomes (permitted rfl))
              (Table.nextId_updatePicked ..)
    | requester id =>
        change JobsSound (if choice.fails then state.store else _) ∧ (∀ task ∈ [], _) ∧ _
        refine ⟨?_, fun _ member => absurd member List.not_mem_nil, fun other task _ ready => ?_⟩
        · split
          · exact standing.store
          · exact enqueued_sound standing.store
        · change BackfillReady (if choice.fails then state.store else _) other task
          split
          · exact ready
          · exact enqueued_ready ready
  · cases party with
    | worker leaseOwner =>
        have effect := runStep_effect leaseOwner choice state.store task.rest task.step
        have known : ∀ claimed ∈ task.jobs, AttemptsKnown state.store leaseOwner claimed :=
          ready.2 leaseOwner rfl
        obtain ⟨kept, keys⟩ := effect.kept ready.1 fun claimed listed =>
          known claimed (List.mem_append_left _ listed)
        refine ⟨standing.store.of_becomes kept keys, fun next member => ?_,
          fun other waiting ready => ready.of_becomes kept keys⟩
        obtain ⟨retries, within⟩ := runStep_next member
        refine ⟨retries, fun owner same claimed listed => ?_⟩
        obtain rfl := SyncParty.worker.inj same
        exact (known claimed (within listed)).of_becomes kept keys
    | reaper | requester =>
        exact ⟨standing.store, fun _ member => absurd member List.not_mem_nil,
          fun _ _ ready => ready⟩

def paidBack (id : Nat) (state : BackfillState) (party : SyncParty) (choice : BackfillChoice) :
    Nat :=
  parks id state party choice + syncMaxAttempts * savesPage id state party choice +
    syncMaxAttempts * revives id state party choice

theorem backfill_pays {state : BackfillState} {party : SyncParty} {choice : BackfillChoice}
    (standing : Crew.Standing JobsSound BackfillReady state) (id : Nat) :
    handed id state party choice + budgetAt id (backfill.step state party choice).store ≤
      budgetAt id state.store + paidBack id state party choice := by
  cases queued : state.left party with
  | nil =>
      rw [(backfill.step_start queued choice).1]
      unfold handed Crew.given
      rw [queued]
      cases party with
      | worker leaseOwner =>
          exact (poll_budget leaseOwner choice state.store standing.store id).trans
            (Nat.le_add_right _ _)
      | reaper =>
          change 0 + budgetAt id (if choice.fails then state.store else _) ≤ _
          rw [Nat.zero_add]
          split
          · exact Nat.le_add_right _ _
          · rw [reclaimed_budget]
            exact Nat.le_add_right _ _
      | requester agent =>
          change 0 + budgetAt id (if choice.fails then state.store else _) ≤ _
          rw [Nat.zero_add]
          split
          · exact Nat.le_add_right _ _
          · refine (enqueued_budget _ _ _ id).trans (Nat.add_le_add_left ?_ _)
            unfold paidBack revives
            rw [queued]
            exact Nat.le_add_left _ _
  | cons task rest =>
      rw [(backfill.step_run queued choice).1]
      have unhanded : handed id state party choice = 0 := by
        unfold handed Crew.given
        rw [queued]
      rw [unhanded, Nat.zero_add]
      cases party with
      | worker leaseOwner =>
          have effect := runStep_effect leaseOwner choice state.store task.rest task.step
          refine (effect.budget standing.store id rfl queued).trans (Nat.add_le_add_left ?_ _)
          exact Nat.le_add_right _ _
      | reaper | requester => exact Nat.le_add_right _ _

/-- A sync job is handed out within its attempts, one more for each park, and a new budget
for each saved page and each revival. Once that is spent it is not claimable. -/
theorem jobs_budgeted {script : List (SyncParty × BackfillChoice)} (id : Nat)
    (permitted : backfill.Permits NoSpentLease (Crew.idle .empty) script) :
    backfill.tally (handed id) (Crew.idle .empty) script +
        budgetAt id (backfill.after (Crew.idle .empty) script).store ≤
      syncMaxAttempts + backfill.tally (parks id) (Crew.idle .empty) script +
        syncMaxAttempts * backfill.tally (savesPage id) (Crew.idle .empty) script +
        syncMaxAttempts * backfill.tally (revives id) (Crew.idle .empty) script := by
  have bounded := Crew.tally_le (Crew.Standing JobsSound BackfillReady)
    (fun state => budgetAt id state.store)
    (fun _ _ _ standing allowed => backfill_standing standing allowed)
    (fun _ _ _ standing _ => backfill_pays standing id)
    (Crew.Standing.idle jobsSound_empty) permitted
  refine bounded.trans (Nat.le_of_eq ?_)
  unfold paidBack
  rw [Crew.tally_add, Crew.tally_add, Crew.tally_mul, Crew.tally_mul, ← Nat.add_assoc,
    ← Nat.add_assoc]
  rfl

theorem budget_pos_of_claimable {job : SyncJobRow} (sound : job.Sound)
    (claimable : job.status.isClaimable = true) : 0 < job.budget := by
  unfold SyncJobRow.budget
  have waiting := sound.waiting
  cases status : job.status with
  | pending | failed =>
      have left := waiting (by simp [status])
      exact Nat.sub_pos_of_lt left
  | rateLimited => exact Nat.lt_of_lt_of_le Nat.one_pos (Nat.le_max_left _ _)
  | running | paused | completed | deadLetter | cancelled =>
      rw [status] at claimable
      contradiction

theorem jobs_sound {script : List (SyncParty × BackfillChoice)}
    (permitted : backfill.Permits NoSpentLease (Crew.idle .empty) script) :
    JobsSound (backfill.after (Crew.idle .empty) script).store :=
  (Crew.Reaches.keeps (Crew.Standing JobsSound BackfillReady)
    (fun _ _ _ standing allowed => backfill_standing standing allowed)
    (Crew.Standing.idle jobsSound_empty) permitted.reaches).store

end UnifiedService.Sync
