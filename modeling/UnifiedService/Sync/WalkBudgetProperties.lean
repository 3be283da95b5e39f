import UnifiedService.Sync.WalkRunProperties

/-! How often a walk asks for a page. A page is asked for once, and once more for each time the
worker that holds the job fails at it, and for each time its lease is taken back there. -/

set_option autoImplicit false

namespace UnifiedService.Sync

open UnifiedService.Library
open UnifiedService.Inbound (Projector)

variable {Inbox Oracle : Type}

section Counts

variable (id : Nat) (edge : Edge GraphItem) (place : Nat)

/-! ### What is counted -/

def holdsPage (leaseOwner : Nat) (jobs : Table SyncJobRow) : Bool :=
  (jobs.get? id).any fun job =>
    job.leaseOwner == some leaseOwner && edge.place job.pageCursor == place

def asks (state : PipelineState Inbox) (party : PipelineParty) (choice : PipelineChoice Oracle) :
    Nat :=
  match party, state.left party with
  | .sync (.worker _), .sync ⟨.page job cursor _, _⟩ :: _ =>
      if job.id = id ∧ hasEdge choice.channel.platform job.jobKind = true ∧
        edge.place cursor = place then 1 else 0
  | _, _ => 0

def failsAt (choice : PipelineChoice Oracle) : PipelineTask → Bool
  | .sync ⟨.page job _ _, _⟩ =>
      job.id == id && match choice.answer with
        | .failed _ => true
        | .edge _ => false
  | .append task => task.job.id == id && !task.inputs.isEmpty && choice.sync.fails
  | .sync ⟨.saveProgress job _ _ _, _⟩ | .sync ⟨.markCompleted job _, _⟩ =>
      job.id == id && choice.sync.fails
  | .sync _ | .intake _ => false

/-- Whether the worker that holds the job at the page fails at it: the platform refuses the
page, or a statement that appends to the ledger or settles the page does not go through. -/
def setbacks (state : PipelineState Inbox) (party : PipelineParty)
    (choice : PipelineChoice Oracle) : Nat :=
  match party, state.left party with
  | .sync (.worker leaseOwner), task :: _ =>
      if failsAt id choice task = true ∧ holdsPage id edge place leaseOwner state.store.jobs = true
      then 1 else 0
  | _, _ => 0

/-- Whether the reaper takes back the lease of the job at the page. -/
def lapses (state : PipelineState Inbox) (party : PipelineParty) (choice : PipelineChoice Oracle) :
    Nat :=
  match party, state.left party with
  | .sync .reaper, [] =>
      if ((state.store.jobs.get? id).any fun job =>
            job.leaseOwner.isSome && edge.place job.pageCursor == place) = true ∧
          (((startBackfill state.store.jobs .reaper choice.sync).1.get? id).any
            (·.leaseOwner.isNone)) = true then 1
      else 0
  | _, _ => 0

/-! ### Who may still ask -/

/-- Whether a page is still to be asked for by whoever is handed the job next. -/
def SyncJobRow.opens (job : SyncJobRow) : Nat :=
  if job.status = .completed then 0
  else if edge.place job.pageCursor < place ∨
      (edge.place job.pageCursor = place ∧ job.leaseOwner = none) then 1
  else 0

def opensAt (jobs : Table SyncJobRow) : Nat := jobs.measureAt (SyncJobRow.opens edge place) 1 id

def waitingAsks (rest : List ClaimedSyncJob) : Nat :=
  rest.countP fun job => job.id == id && edge.place job.pageCursor == place

def stepAsks (jobs : Table SyncJobRow) (leaseOwner : Nat) : BackfillStep → Nat
  | .runJob job => (job.id == id && edge.place job.pageCursor == place).toNat
  | .page job cursor _ => (job.id == id && edge.place cursor == place).toNat
  | .markFailed job _ | .markRateLimited job _ | .markPaused job =>
      (job.id == id && holdsPage id edge place leaseOwner jobs).toNat
  | .next | .refreshProfile _ | .saveProgress _ _ _ _ | .markCompleted _ _ => 0

def taskAsks (store : Pipeline Inbox) (party : PipelineParty) (task : PipelineTask) : Nat :=
  match party, task with
  | .sync (.worker leaseOwner), .sync task =>
      stepAsks id edge place store.jobs leaseOwner task.step + waitingAsks id edge place task.rest
  | .sync (.worker _), .append task => waitingAsks id edge place task.rest
  | _, _ => 0

end Counts

section Walk

variable {sha256 : String → String} {id : Nat} {asked : EnqueueSyncInput} {channel : WalkChannel}
  {edge : Edge GraphItem} {place : Nat} {jobs : Table SyncJobRow}

/-! ### What others do -/

theorem holdsPage_iff {leaseOwner : Nat} {jobs : Table SyncJobRow} :
    holdsPage id edge place leaseOwner jobs = true ↔ ∃ job, jobs.get? id = some job ∧
      job.leaseOwner = some leaseOwner ∧ edge.place job.pageCursor = place := by
  simp [holdsPage, Option.any_eq_true]

theorem holdsPage_of_left {leaseOwner : Nat} {store after : Pipeline Inbox}
    (left : LeftTo id leaseOwner store after)
    (holds : holdsPage id edge place leaseOwner after.jobs = true) :
    holdsPage id edge place leaseOwner store.jobs = true := by
  obtain ⟨later, found, owned, there⟩ := holdsPage_iff.mp holds
  obtain ⟨job, before, held, same⟩ := left.held later found owned
  exact holdsPage_iff.mpr ⟨job, before, held, same ▸ there⟩

theorem taskAsks_le {party : PipelineParty} {store after : Pipeline Inbox} {task : PipelineTask}
    (left : ∀ leaseOwner, party = .sync (.worker leaseOwner) → LeftTo id leaseOwner store after) :
    taskAsks id edge place after party task ≤ taskAsks id edge place store party task := by
  cases party with
  | intake party => exact Nat.le_refl _
  | sync party =>
      cases party with
      | reaper | requester => exact Nat.le_refl _
      | worker leaseOwner =>
          have leaves := left leaseOwner rfl
          have less : ∀ job : ClaimedSyncJob,
              (job.id == id && holdsPage id edge place leaseOwner after.jobs).toNat ≤
                (job.id == id && holdsPage id edge place leaseOwner store.jobs).toNat := by
            intro job
            cases holds : holdsPage id edge place leaseOwner after.jobs with
            | false => simp
            | true => rw [holdsPage_of_left leaves holds]
          cases task with
          | append task | intake task => exact Nat.le_refl _
          | sync task =>
              obtain ⟨step, rest⟩ := task
              apply Nat.add_le_add_right
              cases step with
              | next | refreshProfile | saveProgress | markCompleted | runJob | page =>
                  exact Nat.le_refl _
              | markFailed job | markRateLimited job | markPaused job => exact less job

/-! ### What a worker's own steps cost -/

theorem opens_le_one (edge : Edge GraphItem) (place : Nat) (job : SyncJobRow) :
    job.opens edge place ≤ 1 := by
  unfold SyncJobRow.opens
  split
  · exact Nat.zero_le 1
  · split
    · exact Nat.le_refl 1
    · exact Nat.zero_le 1

theorem opens_released {job later : SyncJobRow} (cursor : later.pageCursor = job.pageCursor)
    (running : job.status ≠ .completed) {leaseOwner : Nat} {jobs : Table SyncJobRow}
    (found : jobs.get? id = some job) (held : job.leaseOwner = some leaseOwner) :
    later.opens edge place ≤
      job.opens edge place + (holdsPage id edge place leaseOwner jobs).toNat := by
  by_cases here : edge.place job.pageCursor = place
  · have holds := holdsPage_iff.mpr ⟨job, found, held, here⟩
    rw [holds]
    exact (opens_le_one edge place later).trans (Nat.le_add_left _ _)
  · refine le_trans ?_ (Nat.le_add_right _ _)
    unfold SyncJobRow.opens
    simp only [cursor, running, here, false_and, or_false, if_false]
    split
    · exact Nat.zero_le _
    · exact Nat.le_refl _

section Worker

variable {leaseOwner : Nat} {store : Pipeline Inbox}

/-- A failure of a task about the job, where its worker holds it at the page. -/
def credit (id : Nat) (edge : Edge GraphItem) (place leaseOwner : Nat) (jobs : Table SyncJobRow)
    (fails : Bool) : Nat :=
  if fails = true ∧ holdsPage id edge place leaseOwner jobs = true then 1 else 0

theorem stepAsks_of_ne (edge : Edge GraphItem) (place leaseOwner : Nat) (jobs : Table SyncJobRow)
    {step : BackfillStep} {job : ClaimedSyncJob} (about : step.job = some job)
    (different : job.id ≠ id) : stepAsks id edge place jobs leaseOwner step = 0 := by
  have elsewhere : (job.id == id) = false := by simpa using different
  cases step with
  | next | refreshProfile | saveProgress | markCompleted => rfl
  | runJob other | page other | markFailed other | markRateLimited other | markPaused other =>
      obtain rfl := Option.some.inj about
      simp [stepAsks, elsewhere]

theorem handleFailure_asks (job : ClaimedSyncJob) (choice : BackfillChoice)
    (error : Outbound.SendError) (jobs : Table SyncJobRow) :
    stepAsks id edge place jobs leaseOwner (BackfillWorker.handleFailure job choice error) =
      (job.id == id && holdsPage id edge place leaseOwner jobs).toNat := by
  unfold BackfillWorker.handleFailure
  split
  · rfl
  · dsimp only
    split
    · rfl
    · split
      · rfl
      · split
        · rfl
        · split <;> rfl

theorem runJob_asks (place : Nat) {job : ClaimedSyncJob} (choice : BackfillChoice)
    (known : StepKnown sha256 id asked channel edge store leaseOwner (.runJob job)) :
    stepAsks id edge place store.jobs leaseOwner (BackfillWorker.runJob job choice) ≤
      stepAsks id edge place store.jobs leaseOwner (.runJob job) := by
  have paused : stepAsks id edge place store.jobs leaseOwner (.markPaused job) ≤
      stepAsks id edge place store.jobs leaseOwner (.runJob job) := by
    change (job.id == id && holdsPage id edge place leaseOwner store.jobs).toNat ≤
      (job.id == id && edge.place job.pageCursor == place).toNat
    by_cases here : job.id = id
    · cases holds : holdsPage id edge place leaseOwner store.jobs with
      | false => simp
      | true =>
          obtain ⟨row, found, held, there⟩ := holdsPage_iff.mp holds
          rw [(known here).2 row found held] at there
          rw [there, beq_self_eq_true]
    · have elsewhere : (job.id == id) = false := by simpa using here
      rw [elsewhere]
      exact Nat.le_refl _
  unfold BackfillWorker.runJob
  split
  · exact paused
  · split
    · exact paused
    · split
      · exact paused
      · split
        · exact paused
        · split
          · exact paused
          · split
            · exact Nat.zero_le _
            · exact Nat.le_refl _

theorem settled_opens (place leaseOwner : Nat) (job : ClaimedSyncJob)
    {change : SyncJobRow → SyncJobRow} (sound : WalkSound sha256 id asked channel edge store)
    (cursor : ∀ row, (change row).pageCursor = row.pageCursor) :
    opensAt id edge place
        (store.jobs.updateIf job.id (SyncJobRepository.heldBy leaseOwner) change).2 ≤
      opensAt id edge place store.jobs +
        (job.id == id && holdsPage id edge place leaseOwner store.jobs).toNat := by
  refine Table.measureAt_updateIf id _ fun row found held same => ?_
  have owned : row.leaseOwner = some leaseOwner := owner_of_heldBy held
  subst same
  have running := (sound row found).lease (by rw [owned]; rfl)
  rw [beq_self_eq_true, Bool.true_and]
  refine opens_released (cursor row) ?_ found owned
  rw [running]
  exact fun same => by cases same

/-- A page that is saved leaves the next to be asked for by its worker. -/
theorem saved_opens (place : Nat) {job : ClaimedSyncJob} {cursor : Option String}
    {itemsAdded pages : Nat}
    {choice : BackfillChoice} {after : Table SyncJobRow}
    (known : StepKnown sha256 id asked channel edge store leaseOwner
      (.saveProgress job cursor itemsAdded pages))
    (saved : SyncJobRepository.saveProgress job.id leaseOwner cursor itemsAdded
      choice.leaseSeconds choice.now store.jobs = (true, after)) :
    opensAt id edge place after + (job.id == id && edge.place cursor == place).toNat ≤
      opensAt id edge place store.jobs := by
  obtain ⟨row, found, running, updated⟩ := Table.updateIf_true saved
  have owned := owner_of_runningUnder running
  unfold SyncJobRepository.runningUnder at running
  rw [Bool.and_eq_true, beq_iff_eq] at running
  by_cases here : job.id = id
  · obtain ⟨asks, at_, heldAt, next, offered⟩ := known here
    rw [here] at found
    have cursorAt := heldAt row found owned
    have there : after.get? id =
        some (row.advanced cursor itemsAdded choice.leaseSeconds choice.now) := by
      rw [updated, Table.get?_update, if_pos here, found]
      rfl
    unfold opensAt
    rw [Table.measureAt_some there, Table.measureAt_some found]
    have unfinished : row.status ≠ .completed := by
      rw [running.2]
      exact fun same => by cases same
    have leased : row.leaseOwner ≠ none := by
      rw [owned]
      exact fun same => by cases same
    simp only [SyncJobRow.opens, SyncJobRow.advanced, SyncJobRow.extended, unfinished, leased,
      and_false, or_false, if_false, here, beq_self_eq_true, Bool.true_and, cursorAt, next]
    by_cases same : edge.place at_ + 1 = place
    · subst same
      simp
    · have apart : (edge.place at_ + 1 == place) = false := by simpa using same
      rw [apart, Bool.toNat_false, Nat.add_zero]
      split
      · rw [if_pos (by omega)]
      · exact Nat.zero_le _
  · have elsewhere : (job.id == id) = false := by simpa using here
    rw [elsewhere, updated]
    simp only [Bool.false_and, Bool.toNat_false, Nat.add_zero]
    exact Table.measureAt_update id 0 fun _ _ same => absurd same here

def pollAsks (id : Nat) (edge : Edge GraphItem) (place leaseOwner : Nat) (jobs : Table SyncJobRow)
    (tasks : List BackfillTask) : Nat :=
  (tasks.map fun task =>
    stepAsks id edge place jobs leaseOwner task.step + waitingAsks id edge place task.rest).sum

/-- A failure that is none of the platform's is paid for where it happens. -/
theorem retryOrDie_pays (id : Nat) (edge : Edge GraphItem) (place leaseOwner : Nat)
    (job : ClaimedSyncJob) {choice : BackfillChoice} (fails : choice.fails = true)
    (jobs : Table SyncJobRow) (rest : List ClaimedSyncJob) :
    pollAsks id edge place leaseOwner jobs [⟨BackfillWorker.retryOrDie job choice, rest⟩] ≤
      waitingAsks id edge place rest +
        credit id edge place leaseOwner jobs (job.id == id && choice.fails) := by
  change (job.id == id && holdsPage id edge place leaseOwner jobs).toNat +
    waitingAsks id edge place rest + 0 ≤ _
  unfold credit
  rw [fails, Bool.and_true]
  cases job.id == id with
  | false => simp
  | true =>
      cases holdsPage id edge place leaseOwner jobs with
      | false => simp
      | true =>
          simp
          omega

theorem runStep_pays (place : Nat) (rest : List ClaimedSyncJob) {step : BackfillStep}
    (sound : WalkSound sha256 id asked channel edge store)
    (known : StepKnown sha256 id asked channel edge store leaseOwner step)
    (choice : PipelineChoice Oracle) (asking : ∀ job cursor pages, step ≠ .page job cursor pages) :
    opensAt id edge place
        (BackfillWorker.runStep leaseOwner choice.sync store.jobs rest step).1 +
      pollAsks id edge place leaseOwner
        (BackfillWorker.runStep leaseOwner choice.sync store.jobs rest step).1
        (BackfillWorker.runStep leaseOwner choice.sync store.jobs rest step).2 ≤
      opensAt id edge place store.jobs +
        (stepAsks id edge place store.jobs leaseOwner step + waitingAsks id edge place rest) +
        credit id edge place leaseOwner store.jobs (failsAt id choice (.sync ⟨step, rest⟩)) := by
  have settles : ∀ (job : ClaimedSyncJob) (change : SyncJobRow → SyncJobRow),
      (∀ row, (change row).pageCursor = row.pageCursor) →
      opensAt id edge place
          (store.jobs.updateIf job.id (SyncJobRepository.heldBy leaseOwner) change).2 +
        pollAsks id edge place leaseOwner
          (store.jobs.updateIf job.id (SyncJobRepository.heldBy leaseOwner) change).2
          [⟨.next, rest⟩] ≤
        opensAt id edge place store.jobs +
          ((job.id == id && holdsPage id edge place leaseOwner store.jobs).toNat +
            waitingAsks id edge place rest) := by
    intro job change cursor
    have paid := settled_opens place leaseOwner job sound cursor
    change _ + (0 + waitingAsks id edge place rest + 0) ≤ _
    omega
  cases step with
  | page job cursor pages => exact absurd rfl (asking job cursor pages)
  | next =>
      refine le_trans ?_ (Nat.le_add_right _ _)
      cases rest with
      | nil => exact Nat.le_add_right _ _
      | cons job rest =>
          have moved : waitingAsks id edge place (job :: rest) =
              waitingAsks id edge place rest +
                (job.id == id && edge.place job.pageCursor == place).toNat := by
            unfold waitingAsks
            rw [List.countP_cons]
            cases job.id == id && edge.place job.pageCursor == place <;> rfl
          have extended : opensAt id edge place (SyncJobRepository.extendLease job.id leaseOwner
              choice.sync.leaseSeconds choice.sync.now store.jobs).2 ≤
              opensAt id edge place store.jobs :=
            Table.measureAt_updateIf id 0 fun _ _ _ _ => Nat.le_refl _
          simp only [BackfillWorker.runStep]
          split
          · exact Nat.le_add_right _ _
          · split
            · next after result =>
                rw [result] at extended
                dsimp only at extended ⊢
                change _ + ((job.id == id && edge.place job.pageCursor == place).toNat +
                  waitingAsks id edge place rest + 0) ≤ _ + (0 + _)
                rw [moved]
                omega
            · next after result =>
                rw [result] at extended
                dsimp only at extended ⊢
                change _ + (0 + waitingAsks id edge place rest + 0) ≤ _ + (0 + _)
                rw [moved]
                omega
  | runJob job =>
      refine le_trans ?_ (Nat.le_add_right _ _)
      simp only [BackfillWorker.runStep]
      split
      · exact Nat.le_add_right _ _
      · have less := runJob_asks place choice.sync known
        change _ + (stepAsks id edge place store.jobs leaseOwner
          (BackfillWorker.runJob job choice.sync) + waitingAsks id edge place rest + 0) ≤ _
        omega
  | refreshProfile job =>
      refine le_trans ?_ (Nat.le_add_right _ _)
      have none_ := stepAsks_of_ne edge place leaseOwner store.jobs
        (refreshProfile_about job choice.sync).job known
      change _ + (stepAsks id edge place store.jobs leaseOwner
        (BackfillWorker.refreshProfile job choice.sync) + waitingAsks id edge place rest + 0) ≤
        _ + (0 + _)
      rw [none_]
      exact Nat.le_refl _
  | saveProgress job cursor itemsAdded pages =>
      simp only [BackfillWorker.runStep]
      split
      · next fails =>
          have paid := retryOrDie_pays id edge place leaseOwner job fails store.jobs rest
          dsimp only
          change _ ≤ _ + (0 + waitingAsks id edge place rest) + credit id edge place leaseOwner
            store.jobs (job.id == id && choice.sync.fails)
          omega
      · refine le_trans ?_ (Nat.le_add_right _ _)
        split
        · next after saved =>
            have paid := saved_opens place known saved
            dsimp only
            change _ + (stepAsks id edge place after leaseOwner (if pages + 1 < syncMaxPagesPerRun
              then .page job cursor (pages + 1) else .next) + waitingAsks id edge place rest + 0) ≤
              _ + (0 + _)
            split
            · change _ + ((job.id == id && edge.place cursor == place).toNat + _ + 0) ≤ _
              omega
            · change _ + (0 + _ + 0) ≤ _
              omega
        · next after refused =>
            obtain ⟨rfl, -⟩ := Table.updateIf_false refused
            exact Nat.le_refl _
  | markCompleted job itemsAdded =>
      simp only [BackfillWorker.runStep]
      split
      · next fails =>
          have paid := retryOrDie_pays id edge place leaseOwner job fails store.jobs rest
          dsimp only
          change _ ≤ _ + (0 + waitingAsks id edge place rest) + credit id edge place leaseOwner
            store.jobs (job.id == id && choice.sync.fails)
          omega
      · refine le_trans ?_ (Nat.le_add_right _ _)
        have done : opensAt id edge place (SyncJobRepository.markCompleted job.id leaseOwner
            itemsAdded store.jobs) ≤ opensAt id edge place store.jobs :=
          Table.measureAt_updateIf id 0 fun _ _ _ _ => Nat.zero_le _
        dsimp only
        change _ + (0 + waitingAsks id edge place rest + 0) ≤ _ + (0 + _)
        omega
  | markFailed job | markRateLimited job | markPaused job =>
      refine le_trans ?_ (Nat.le_add_right _ _)
      simp only [BackfillWorker.runStep]
      split
      · exact Nat.le_add_right _ _
      · exact settles job _ fun _ => rfl

theorem askPage_pays (sha256 : String → String) (id : Nat) (edge : Edge GraphItem)
    (place leaseOwner : Nat) (job : ClaimedSyncJob) (cursor : Option String) (pages : Nat)
    (rest : List ClaimedSyncJob) (choice : PipelineChoice Oracle) (store : Pipeline Inbox) :
    (if job.id = id ∧ hasEdge choice.channel.platform job.jobKind = true ∧
        edge.place cursor = place then 1 else 0) +
      taskAsks id edge place store (.sync (.worker leaseOwner))
        (BackfillWorker.askPage sha256 job cursor pages choice rest) ≤
      (stepAsks id edge place store.jobs leaseOwner (.page job cursor pages) +
          waitingAsks id edge place rest) +
        credit id edge place leaseOwner store.jobs
          (failsAt id choice (.sync ⟨.page job cursor pages, rest⟩)) := by
  have asked : (if job.id = id ∧ hasEdge choice.channel.platform job.jobKind = true ∧
      edge.place cursor = place then 1 else 0) ≤
      stepAsks id edge place store.jobs leaseOwner (.page job cursor pages) := by
    split
    · next here => simp [stepAsks, here.1, here.2.2]
    · exact Nat.zero_le _
  have came := askPage_asked sha256 job cursor pages choice rest
  generalize BackfillWorker.askPage sha256 job cursor pages choice rest = next at came
  cases came with
  | noEdge missing =>
      change _ + (0 + waitingAsks id edge place rest) ≤ _
      omega
  | failed error refused =>
      have left : taskAsks id edge place store (.sync (.worker leaseOwner))
          (BackfillWorker.settled job pages choice (.failed error) rest) =
          (job.id == id && holdsPage id edge place leaseOwner store.jobs).toNat +
            waitingAsks id edge place rest := by
        rw [← handleFailure_asks job { choice.sync with slice := .failed error } error]
        rfl
      have paid : (job.id == id && holdsPage id edge place leaseOwner store.jobs).toNat =
          credit id edge place leaseOwner store.jobs
            (failsAt id choice (.sync ⟨.page job cursor pages, rest⟩)) := by
        have failing : failsAt id choice (.sync ⟨.page job cursor pages, rest⟩) =
            (job.id == id) := by simp [failsAt, refused]
        unfold credit
        rw [failing]
        cases job.id == id <;> cases holdsPage id edge place leaseOwner store.jobs <;> rfl
      rw [left, ← paid]
      omega
  | answered page served =>
      change _ + waitingAsks id edge place rest ≤ _
      omega

theorem appendNext_pays (id : Nat) (edge : Edge GraphItem) (place leaseOwner : Nat)
    (task : AppendTask) (choice : PipelineChoice Oracle)
    (store : Pipeline Inbox) :
    taskAsks id edge place store (.sync (.worker leaseOwner))
        (BackfillWorker.appendNext task choice store.intake).2 ≤
      waitingAsks id edge place task.rest +
        credit id edge place leaseOwner store.jobs (failsAt id choice (.append task)) := by
  have came := appendNext_appended task choice store.intake
  generalize BackfillWorker.appendNext task choice store.intake = next at came
  cases came with
  | done all =>
      refine le_trans (Nat.le_of_eq ?_) (Nat.le_add_right _ _)
      change stepAsks id edge place store.jobs leaseOwner (BackfillWorker.page task.job task.pages
        { choice.sync with slice := .page task.added task.nextCursor task.finished }) + _ = _
      cases finished : task.finished <;> exact Nat.zero_add _
  | gaveUp left fails =>
      change (task.job.id == id && holdsPage id edge place leaseOwner store.jobs).toNat +
        waitingAsks id edge place task.rest ≤ _
      have unread : task.inputs.isEmpty = false := by
        cases listed : task.inputs with
        | nil => exact absurd listed left
        | cons => rfl
      have failing : failsAt id choice (.append task) = (task.job.id == id) := by
        simp only [failsAt, unread, fails, Bool.not_false, Bool.and_true]
      unfold credit
      rw [failing]
      cases task.job.id == id with
      | false => simp
      | true =>
          cases holdsPage id edge place leaseOwner store.jobs with
          | false => simp
          | true =>
              simp
              omega
  | appended input inputs added listed => exact Nat.le_add_right _ _

/-! ### What a party starts -/

theorem unfinished_of_claimable {job : SyncJobRow} (claimable : job.status.isClaimable = true) :
    job.status ≠ .completed := by
  intro completed
  rw [completed] at claimable
  contradiction

theorem unleased_of_claimable {job : SyncJobRow} (sound : job.LeaseSound)
    (claimable : job.status.isClaimable = true) : job.leaseOwner = none := by
  cases owner : job.leaseOwner with
  | none => rfl
  | some leaseOwner =>
      rw [sound (by rw [owner]; rfl)] at claimable
      contradiction

/-- A claim hands the page that is open to one worker. -/
theorem pollOnce_pays (place leaseOwner : Nat) (sound : WalkSound sha256 id asked channel edge store)
    (choice : BackfillChoice) :
    opensAt id edge place (BackfillWorker.pollOnce leaseOwner choice store.jobs).1 +
      pollAsks id edge place leaseOwner (BackfillWorker.pollOnce leaseOwner choice store.jobs).1
        (BackfillWorker.pollOnce leaseOwner choice store.jobs).2 ≤
      opensAt id edge place store.jobs := by
  rcases pollOnce_cases leaseOwner choice store.jobs with same | claimed
  · rw [same]
    exact Nat.le_refl _
  · rw [claimed]
    change _ + (0 + waitingAsks id edge place _ + 0) ≤ _
    dsimp only
    have waits : ∀ claimed ∈ (SyncJobRepository.dueRows choice.batchSize choice.now choice.skipped
        store.jobs).map claimOf, claimed.id = id → ∃ job, store.jobs.get? id = some job ∧
          job.status.isClaimable = true ∧ claimed.pageCursor = job.pageCursor := by
      intro claimed member same
      obtain ⟨stored, due, rfl⟩ := List.mem_map.mp member
      obtain ⟨there, wanted⟩ := Table.mem_pick due
      rw [Bool.and_eq_true, Bool.and_eq_true] at wanted
      exact ⟨stored.row, same ▸ there, wanted.1.2, rfl⟩
    by_cases here : ∀ job, store.jobs.get? id = some job → edge.place job.pageCursor = place
    · have once : waitingAsks id edge place ((SyncJobRepository.dueRows choice.batchSize
          choice.now choice.skipped store.jobs).map claimOf) ≤
          ((SyncJobRepository.dueRows choice.batchSize choice.now choice.skipped
            store.jobs).map (·.id)).count id := by
        rw [← countP_claimed]
        refine List.countP_mono_left fun claimed _ counted => ?_
        exact (Bool.and_eq_true _ _ ▸ counted).1
      have paid : ((SyncJobRepository.dueRows choice.batchSize choice.now choice.skipped
            store.jobs).map (·.id)).count id +
          opensAt id edge place (store.jobs.updatePicked (SyncJobRepository.dueRows
            choice.batchSize choice.now choice.skipped store.jobs)
            (·.claimed leaseOwner choice.leaseSeconds choice.now)) ≤
          opensAt id edge place store.jobs := by
        refine Table.measureAt_claimed fun job found wanted => ?_
        simp only [Bool.and_eq_true] at wanted
        have free := unleased_of_claimable (sound job found).lease wanted.1.2
        have unfinished := unfinished_of_claimable wanted.1.2
        have spent : (job.claimed leaseOwner choice.leaseSeconds choice.now).opens edge place =
            0 := by
          simp [SyncJobRow.opens, SyncJobRow.claimed, here job found]
        rw [spent]
        simp [SyncJobRow.opens, unfinished, here job found, free]
      omega
    · push Not at here
      obtain ⟨job, found, apart⟩ := here
      have none_ : waitingAsks id edge place ((SyncJobRepository.dueRows choice.batchSize
          choice.now choice.skipped store.jobs).map claimOf) = 0 := by
        refine List.countP_eq_zero.mpr fun claimed member counted => ?_
        rw [Bool.and_eq_true, beq_iff_eq, beq_iff_eq] at counted
        obtain ⟨row, again, -, cursor⟩ := waits claimed member counted.1
        obtain rfl := Option.some.inj (again.symm.trans found)
        exact apart (cursor ▸ counted.2)
      rw [none_]
      have there := get?_claimed leaseOwner choice store.jobs id
      rw [found, Option.map_some] at there
      unfold opensAt
      rw [Table.measureAt_some there, Table.measureAt_some found]
      split
      · next picked =>
          have wanted := Table.wanted_of_picked picked found
          simp only [Bool.and_eq_true] at wanted
          have unfinished := unfinished_of_claimable wanted.1.2
          simp [SyncJobRow.opens, SyncJobRow.claimed, unfinished, apart]
      · exact Nat.le_refl _

end Worker

theorem reclaimed_pays (id : Nat) (edge : Edge GraphItem) (place : Nat) (jobs : Table SyncJobRow)
    (choice : BackfillChoice) :
    opensAt id edge place (startBackfill jobs .reaper choice).1 ≤
      opensAt id edge place jobs +
        if ((jobs.get? id).any fun job =>
              job.leaseOwner.isSome && edge.place job.pageCursor == place) = true ∧
            (((startBackfill jobs .reaper choice).1.get? id).any (·.leaseOwner.isNone)) = true then 1
        else 0 := by
  simp only [startBackfill]
  split
  · exact Nat.le_add_right _ _
  · unfold SyncJobRepository.reclaimExpiredLeases opensAt
    cases found : jobs.get? id with
    | none =>
        have absent := Table.get?_updatePicked jobs (jobs.pick
          (SyncJobRepository.leaseExpired choice.now) expiredBefore Outbound.leaseReaperBatch
          choice.skipped) (·.reclaimed choice.now) id
        rw [found, Option.map_none] at absent
        rw [Table.measureAt_none absent, Table.measureAt_none found]
        exact Nat.le_add_right _ _
    | some job =>
        have there := Table.get?_updatePicked jobs (jobs.pick
          (SyncJobRepository.leaseExpired choice.now) expiredBefore Outbound.leaseReaperBatch
          choice.skipped) (·.reclaimed choice.now) id
        rw [found, Option.map_some] at there
        rw [Table.measureAt_some there, Table.measureAt_some found, there, Option.any_some,
          Option.any_some]
        split
        · next picked =>
            have expired := Table.wanted_of_picked picked found
            unfold SyncJobRepository.leaseExpired at expired
            rw [Bool.and_eq_true, beq_iff_eq] at expired
            by_cases here : edge.place job.pageCursor = place
            · cases owner : job.leaseOwner with
              | some leaseOwner =>
                  refine (opens_le_one edge place _).trans ?_
                  simp [here, SyncJobRow.reclaimed, SyncJobRow.released]
              | none =>
                  have open_ : job.opens edge place = 1 := by
                    simp [SyncJobRow.opens, expired.1, here, owner]
                  rw [open_]
                  exact (opens_le_one edge place _).trans (Nat.le_add_right _ _)
            · refine le_trans ?_ (Nat.le_add_right _ _)
              simp [SyncJobRow.opens, SyncJobRow.reclaimed, SyncJobRow.released, expired.1, here]
        · exact Nat.le_add_right _ _

theorem enqueued_pays (input : EnqueueSyncInput) (now : Int) :
    opensAt id edge place (SyncJobRepository.enqueueIfAbsent input now jobs).2 ≤
      opensAt id edge place jobs := by
  rcases enqueueIfAbsent_cases input now jobs with inserted | ⟨stored, _, revived⟩
  · rw [inserted]
    exact Table.measureAt_insert (opens_le_one edge place _) id
  · rw [revived]
    refine Table.measureAt_updateIf id 0 fun job _ paused _ => ?_
    have unfinished : job.status ≠ .completed := by
      rw [beq_iff_eq] at paused
      rw [paused]
      exact fun same => by cases same
    simp only [SyncJobRow.opens, SyncJobRow.revived, unfinished, if_false]
    exact Nat.le_refl _

/-! ### A step, and a run -/

theorem sum_taskAsks_sync (store : Pipeline Inbox) (leaseOwner : Nat) (tasks : List BackfillTask) :
    ((tasks.map PipelineTask.sync).map
        (taskAsks id edge place store (.sync (.worker leaseOwner)))).sum =
      pollAsks id edge place leaseOwner store.jobs tasks := by
  rw [List.map_map]
  rfl

theorem sum_taskAsks_idle {party : PipelineParty} (idle : party.worker? = none)
    (store : Pipeline Inbox) (tasks : List PipelineTask) :
    (tasks.map (taskAsks id edge place store party)).sum = 0 := by
  have nothing : ∀ task, taskAsks id edge place store party task = 0 := by
    intro task
    cases party with
    | intake party => rfl
    | sync party =>
        cases party with
        | worker leaseOwner => contradiction
        | reaper | requester => rfl
  rw [funext nothing]
  simp

section Step

variable {projectors : Projector Inbox Json Oracle} {state : PipelineState Inbox}
  {party : PipelineParty} {choice : PipelineChoice Oracle}

/-- What a step asks for, and what it leaves to be asked, is paid by what stood open before it
and by the setbacks of the step itself. -/
def StepPays (sha256 : String → String) (id : Nat) (edge : Edge GraphItem) (place : Nat)
    (projectors : Projector Inbox Json Oracle) (state : PipelineState Inbox)
    (party : PipelineParty) (choice : PipelineChoice Oracle) : Prop :=
  asks id edge place state party choice +
      (opensAt id edge place ((pipeline sha256 projectors).step state party choice).store.jobs +
        Crew.shareOf (taskAsks id edge place)
          ((pipeline sha256 projectors).step state party choice) party) ≤
    opensAt id edge place state.store.jobs +
        Crew.shareOf (taskAsks id edge place) state party +
      (setbacks id edge place state party choice + lapses id edge place state party choice)

/-- A claim pays for what it hands out, and the reaper's credit for what it takes back. -/
theorem start_pays (standing : WalkStanding sha256 id asked channel edge state)
    (queued : state.left party = []) :
    StepPays sha256 id edge place projectors state party choice := by
  unfold StepPays Crew.shareOf
  obtain ⟨written, added⟩ := (pipeline sha256 projectors).step_start queued choice
  have unasked : asks id edge place state party choice = 0 := by
    unfold asks
    rw [queued]
    split <;> first | rfl | contradiction
  rw [unasked, written, added, queued, Nat.zero_add, List.map_nil, List.sum_nil, Nat.add_zero]
  cases party with
  | intake party =>
      rw [sum_taskAsks_idle rfl]
      exact Nat.le_add_right _ _
  | sync party =>
      cases party with
      | worker leaseOwner =>
          have paid := pollOnce_pays place leaseOwner standing.2.store choice.sync
          refine le_trans ?_ (Nat.le_add_right _ _)
          change _ + ((List.map PipelineTask.sync _).map _).sum ≤ _
          rw [sum_taskAsks_sync]
          exact paid
      | reaper =>
          rw [sum_taskAsks_idle rfl]
          have lapsed : lapses id edge place state (.sync .reaper) choice =
              if ((state.store.jobs.get? id).any fun job =>
                    job.leaseOwner.isSome && edge.place job.pageCursor == place) = true ∧
                  (((startBackfill state.store.jobs .reaper choice.sync).1.get? id).any
                    (·.leaseOwner.isNone)) = true then 1 else 0 := by
            unfold lapses
            rw [queued]
          rw [lapsed]
          have paid := reclaimed_pays id edge place state.store.jobs choice.sync
          change opensAt id edge place (startBackfill state.store.jobs .reaper
            choice.sync).1 + 0 ≤ _
          omega
      | requester agent =>
          rw [sum_taskAsks_idle rfl]
          refine le_trans ?_ (Nat.le_add_right _ _)
          change opensAt id edge place (startBackfill state.store.jobs (.requester agent)
            choice.sync).1 + 0 ≤ _
          simp only [startBackfill]
          split
          · exact Nat.le_refl _
          · exact enqueued_pays _ _

theorem idle_pays (idle : party.worker? = none) {task : PipelineTask}
    (queued : state.left party = [task]) :
    StepPays sha256 id edge place projectors state party choice := by
  unfold StepPays Crew.shareOf
  rw [queued]
  obtain ⟨written, added⟩ := (pipeline sha256 projectors).step_run queued choice
  rw [List.append_nil] at added
  have unasked : asks id edge place state party choice = 0 := by
    unfold asks
    split
    · contradiction
    · rfl
  have still : ((pipeline sha256 projectors).run state.store party task choice).1.jobs =
      state.store.jobs := by
    cases party with
    | intake party => cases task <;> rfl
    | sync party =>
        cases party with
        | worker leaseOwner => contradiction
        | reaper | requester => cases task <;> rfl
  rw [written, added, unasked, still, sum_taskAsks_idle idle, sum_taskAsks_idle idle, Nat.zero_add]
  exact Nat.le_add_right _ _

theorem run_pays (standing : WalkStanding sha256 id asked channel edge state) {task : PipelineTask}
    {rest : List PipelineTask} (queued : state.left party = task :: rest) :
    StepPays sha256 id edge place projectors state party choice := by
  obtain rfl := standing.1.alone queued
  by_cases idle : party.worker? = none
  · exact idle_pays idle queued
  · unfold StepPays Crew.shareOf
    rw [queued]
    have ready := standing.2.tasks party task (queued ▸ List.mem_cons_self)
    obtain ⟨written, added⟩ := (pipeline sha256 projectors).step_run queued choice
    rw [List.append_nil] at added
    rw [written, added]
    refine le_trans ?_ (Nat.add_le_add_left (Nat.le_add_right _ _) _)
    obtain ⟨leaseOwner, works⟩ := Option.ne_none_iff_exists'.mp idle
    obtain rfl := eq_of_worker works
    have known := ready leaseOwner rfl
    have failed : setbacks id edge place state (.sync (.worker leaseOwner)) choice =
        credit id edge place leaseOwner state.store.jobs (failsAt id choice task) := by
      unfold setbacks
      rw [queued]
      rfl
    rw [failed, List.map_singleton, List.sum_singleton]
    cases task with
    | intake task =>
        have unasked : asks id edge place state (.sync (.worker leaseOwner)) choice = 0 := by
          unfold asks
          rw [queued]
        rw [unasked, Nat.zero_add]
        exact Nat.le_add_right _ _
    | append task =>
        have unasked : asks id edge place state (.sync (.worker leaseOwner)) choice = 0 := by
          unfold asks
          rw [queued]
        have paid := appendNext_pays id edge place leaseOwner task choice state.store
        rw [unasked, Nat.zero_add]
        change opensAt id edge place state.store.jobs + (taskAsks id edge place state.store
          (.sync (.worker leaseOwner))
          (BackfillWorker.appendNext task choice state.store.intake).2 + 0) ≤
          opensAt id edge place state.store.jobs + waitingAsks id edge place task.rest + _
        omega
    | sync task =>
        obtain ⟨step, rest⟩ := task
        by_cases asking : ∃ job cursor pages, step = .page job cursor pages
        · obtain ⟨job, cursor, pages, rfl⟩ := asking
          have paid := askPage_pays sha256 id edge place leaseOwner job cursor pages rest choice
            state.store
          have asked : asks id edge place state (.sync (.worker leaseOwner)) choice =
              if job.id = id ∧ hasEdge choice.channel.platform job.jobKind = true ∧
                edge.place cursor = place then 1 else 0 := by
            unfold asks
            rw [queued]
          rw [asked]
          change _ + (opensAt id edge place state.store.jobs + (taskAsks id edge place
            state.store (.sync (.worker leaseOwner))
            (BackfillWorker.askPage sha256 job cursor pages choice rest) + 0)) ≤
            opensAt id edge place state.store.jobs + (stepAsks id edge place state.store.jobs
              leaseOwner (.page job cursor pages) + waitingAsks id edge place rest) + _
          omega
        · have different : ∀ job cursor pages, step ≠ .page job cursor pages :=
            fun job cursor pages same => asking ⟨job, cursor, pages, same⟩
          have unasked : asks id edge place state (.sync (.worker leaseOwner)) choice = 0 := by
            unfold asks
            rw [queued]
            cases step with
            | page job cursor pages => exact absurd rfl (different job cursor pages)
            | next | runJob | refreshProfile | saveProgress | markCompleted | markFailed
            | markRateLimited | markPaused => rfl
          have paid := runStep_pays place rest standing.2.store known.2
            choice different
          have plain := walkStep_plain sha256 leaseOwner rest choice state.store.jobs different
          rw [unasked, Nat.zero_add]
          change opensAt id edge place (BackfillWorker.walkStep sha256 leaseOwner ⟨step, rest⟩
              choice state.store.jobs).1 + (List.map (taskAsks id edge place { state.store with
              jobs := (BackfillWorker.walkStep sha256 leaseOwner ⟨step, rest⟩ choice
                state.store.jobs).1 } (.sync (.worker leaseOwner)))
              (BackfillWorker.walkStep sha256 leaseOwner ⟨step, rest⟩ choice
                state.store.jobs).2).sum ≤ _
          rw [plain, sum_taskAsks_sync]
          exact paid

theorem pipeline_pays (standing : WalkStanding sha256 id asked channel edge state) :
    StepPays sha256 id edge place projectors state party choice := by
  cases queued : state.left party with
  | nil => exact start_pays standing queued
  | cons task rest => exact run_pays standing queued

end Step

/-- In every run each page of a walk is asked for at most once, once more for each time the
worker that holds the job fails at that page, and for each time the lease is taken back there. -/
theorem pages_asked_once (walkable : Walkable asked channel edge) (inbox : Inbox)
    {projectors : Projector Inbox Json Oracle}
    {script : List (PipelineParty × PipelineChoice Oracle)}
    (permitted : (pipeline sha256 projectors).Permits
      (Served sha256 projectors id asked channel edge) (Crew.idle (.start inbox)) script)
    (place : Nat) :
    (pipeline sha256 projectors).tally (asks id edge place) (Crew.idle (.start inbox)) script ≤
      1 + (pipeline sha256 projectors).tally (setbacks id edge place) (Crew.idle (.start inbox))
          script +
        (pipeline sha256 projectors).tally (lapses id edge place) (Crew.idle (.start inbox))
          script := by
  have bounded := Crew.tally_le_shared (WalkStanding sha256 id asked channel edge)
    (fun store : Pipeline Inbox => opensAt id edge place store.jobs) (taskAsks id edge place)
    (fun _ _ _ standing served => walkStanding_step walkable standing served)
    (fun _ _ _ standing _ => pipeline_pays standing)
    (fun state party choice other standing served different task _ => by
      obtain ⟨tasks, kept⟩ := pipeline_kept walkable standing served
      exact taskAsks_le fun leaseOwner same => kept.others leaseOwner fun works =>
        different (same.trans (eq_of_worker works).symm))
    (walkStanding_idle inbox) permitted
  rw [Crew.tally_add] at bounded
  exact bounded.trans (Nat.le_of_eq (Nat.add_assoc _ _ _).symm)

end Walk

/-- The refused page is asked for twice, and that is its bound. -/
theorem pages_asked_once_refused :
    (pipeline id idleProjectors).tally (asks 0 walkedEdge 0) (Crew.idle (.start ())) refusedOnce =
        2 ∧
      (pipeline id idleProjectors).tally (asks 0 walkedEdge 0) (Crew.idle (.start ()))
          refusedOnce ≤
        1 + (pipeline id idleProjectors).tally (setbacks 0 walkedEdge 0) (Crew.idle (.start ()))
            refusedOnce +
          (pipeline id idleProjectors).tally (lapses 0 walkedEdge 0) (Crew.idle (.start ()))
            refusedOnce :=
  ⟨by decide +kernel, pages_asked_once walkedEdge_walkable () refusedOnce_served 0⟩

end UnifiedService.Sync
