import UnifiedService.Leases
import UnifiedService.Sync.WalkProperties

/-! The walk over a whole run: what each step of a worker, of the reaper, of whoever asks for
a walk and of the ledger's own workers leaves in order. -/

set_option autoImplicit false

namespace UnifiedService.Sync

open UnifiedService.Library
open UnifiedService.Inbound (InboundEventInput InboundEventRow Intake IntakeParty IntakeChoice
  Projector startIntake runIntake)

section Walk

variable {sha256 : String → String} {id : Nat} {asked : EnqueueSyncInput} {channel : WalkChannel}
  {edge : Edge GraphItem} {Inbox : Type}

/-! ### A worker's own steps -/

structure StepKept (sha256 : String → String) (id : Nat) (asked : EnqueueSyncInput)
    (channel : WalkChannel) (edge : Edge GraphItem) (worker : Option Nat)
    (store after : Pipeline Inbox) (tasks : List PipelineTask) : Prop where
  sound : WalkSound sha256 id asked channel edge after
  next : ∀ leaseOwner, worker = some leaseOwner → ∀ task ∈ tasks,
    TaskKnown sha256 id asked channel edge after leaseOwner task
  others : ∀ other, worker ≠ some other → LeftTo id other store after
  forward : ∀ job later, store.jobs.get? id = some job → after.jobs.get? id = some later →
    edge.place job.pageCursor ≤ edge.place later.pageCursor

section Worker

variable {leaseOwner : Nat} {store : Pipeline Inbox}

theorem RestKnown.next {step : Option ClaimedSyncJob} {rest : List ClaimedSyncJob}
    (known : RestKnown id asked store leaseOwner step rest) :
    RestKnown id asked store leaseOwner none rest := by
  exact ⟨known.distinct.sublist ((List.sublist_append_right _ _).map _), known.waiting⟩

theorem RestKnown.absent {job : ClaimedSyncJob} {rest : List ClaimedSyncJob}
    (known : RestKnown id asked store leaseOwner (some job) rest) (here : job.id = id) :
    ∀ other ∈ rest, other.id ≠ id := by
  intro other member same
  have distinct := known.distinct
  rw [Option.toList_some, List.singleton_append, List.map_cons, List.nodup_cons] at distinct
  exact distinct.1 (here.trans same.symm ▸ List.mem_map_of_mem member)

theorem stepKnown_of_ne {step : BackfillStep} {job : ClaimedSyncJob} (about : step.job = some job)
    (different : job.id ≠ id) : StepKnown sha256 id asked channel edge store leaseOwner step := by
  cases step with
  | next => contradiction
  | markFailed | markRateLimited | markPaused => trivial
  | refreshProfile other | runJob other | page other | saveProgress other
  | markCompleted other =>
      obtain rfl := Option.some.inj about
      first
        | exact different
        | exact fun same => absurd same different

theorem handleFailure_known (job : ClaimedSyncJob) (choice : BackfillChoice)
    (error : Outbound.SendError) :
    StepKnown sha256 id asked channel edge store leaseOwner
      (BackfillWorker.handleFailure job choice error) := by
  unfold BackfillWorker.handleFailure
  split
  · trivial
  · dsimp only
    split
    · trivial
    · split
      · trivial
      · split
        · trivial
        · split <;> trivial

/-- A step that leaves the walk where it stands keeps what everybody knows. -/
theorem StepKept.of_undisturbed {worker : Option Nat} {after : Pipeline Inbox}
    {tasks : List PipelineTask} (sound : WalkSound sha256 id asked channel edge store)
    (grows : Grows store.intake.events after.intake.events)
    (still : Undisturbed id store.jobs after.jobs)
    (known : ∀ leaseOwner, worker = some leaseOwner → ∀ task ∈ tasks,
      TaskKnown sha256 id asked channel edge store leaseOwner task) :
    StepKept sha256 id asked channel edge worker store after tasks := by
  refine ⟨sound.mono grows still, fun leaseOwner same task member => ?_,
    fun _ _ => .of_undisturbed grows still, fun job later found stored => ?_⟩
  · exact (known leaseOwner same task member).mono (.of_undisturbed grows still)
  · obtain ⟨before, there, quiet⟩ := still later stored
    obtain rfl := Option.some.inj (there.symm.trans found)
    rw [quiet.cursor]

theorem saved_kept {job : ClaimedSyncJob} {cursor : Option String} {itemsAdded pages : Nat}
    {rest : List ClaimedSyncJob} {choice : BackfillChoice} {after : Table SyncJobRow}
    (sound : WalkSound sha256 id asked channel edge store)
    (waits : RestKnown id asked store leaseOwner (some job) rest)
    (known : StepKnown sha256 id asked channel edge store leaseOwner
      (.saveProgress job cursor itemsAdded pages))
    (saved : SyncJobRepository.saveProgress job.id leaseOwner cursor itemsAdded
      choice.leaseSeconds choice.now store.jobs = (true, after)) :
    StepKept sha256 id asked channel edge (some leaseOwner) store { store with jobs := after }
      [.sync ⟨if pages + 1 < syncMaxPagesPerRun then .page job cursor (pages + 1) else .next,
        rest⟩] := by
  obtain ⟨row, found, running, updated⟩ := Table.updateIf_true saved
  unfold SyncJobRepository.runningUnder at running
  simp only [SyncJobRepository.heldBy, Bool.and_eq_true, beq_iff_eq] at running
  by_cases here : job.id = id
  · obtain ⟨asks, at_, heldAt, next, offered⟩ := known here
    rw [here] at found
    have walked := sound row found
    have cursorAt := heldAt row found running.1
    have there : ∀ later, after.get? id = some later →
        later = row.advanced cursor itemsAdded choice.leaseSeconds choice.now := by
      intro later stored
      rw [updated, Table.get?_update, if_pos here, found] at stored
      exact (Option.some.inj stored).symm
    have heldNow : HeldAt id after leaseOwner cursor := by
      intro later stored _
      rw [there later stored]
      rfl
    have vacuous : RestKnown id asked { store with jobs := after } leaseOwner (some job) rest :=
      ⟨waits.distinct, fun other member same => absurd same (waits.absent here other member)⟩
    constructor
    · intro later stored
      rw [there later stored]
      refine ⟨⟨walked.asks.1, walked.asks.2, walked.asks.3, walked.asks.4⟩, walked.lease,
        fun place within => ?_, fun completed => ?_⟩
      · change place < edge.place cursor at within
        rw [next] at within
        rcases Nat.lt_succ_iff_lt_or_eq.mp within with earlier | same
        · rw [← cursorAt] at earlier
          exact walked.before place earlier
        · rw [same]
          exact offered
      · change row.status = .completed at completed
        rw [running.2] at completed
        contradiction
    · intro owner same task member
      obtain rfl := Option.some.inj same
      obtain rfl := List.mem_singleton.mp member
      split
      · exact ⟨vacuous, fun _ => ⟨asks, heldNow⟩⟩
      · exact ⟨vacuous.next, trivial⟩
    · refine fun other different => ⟨.refl _, fun later stored owned => ?_⟩
      rw [there later stored] at owned
      exact absurd (running.1.symm.trans owned) different
    · intro before later stored replaced
      obtain rfl := Option.some.inj (found.symm.trans stored)
      rw [there later replaced, cursorAt]
      change _ ≤ edge.place cursor
      rw [next]
      exact Nat.le_succ _
  · have still : Undisturbed id store.jobs after := by
      have elsewhere : Undisturbed id store.jobs (SyncJobRepository.saveProgress job.id leaseOwner
          cursor itemsAdded choice.leaseSeconds choice.now store.jobs).2 := .of_ne here
      rwa [saved] at elsewhere
    refine .of_undisturbed sound (.refl _) still fun owner same task member => ?_
    obtain rfl := Option.some.inj same
    obtain rfl := List.mem_singleton.mp member
    split
    · exact ⟨waits, fun same => absurd same here⟩
    · exact ⟨waits.next, trivial⟩

/-- A job is completed by the worker that holds it behind its last page. -/
theorem completed_kept {job : ClaimedSyncJob} {itemsAdded : Nat} {rest : List ClaimedSyncJob}
    (sound : WalkSound sha256 id asked channel edge store)
    (waits : RestKnown id asked store leaseOwner (some job) rest)
    (known : StepKnown sha256 id asked channel edge store leaseOwner
      (.markCompleted job itemsAdded)) :
    StepKept sha256 id asked channel edge (some leaseOwner) store
      { store with
        jobs := SyncJobRepository.markCompleted job.id leaseOwner itemsAdded store.jobs }
      [.sync ⟨.next, rest⟩] := by
  by_cases here : job.id = id
  · obtain ⟨at_, heldAt, last, offered⟩ := known here
    have there : ∀ later, (SyncJobRepository.markCompleted job.id leaseOwner itemsAdded
        store.jobs).get? id = some later → ∃ row, store.jobs.get? id = some row ∧
          (later = row ∨ row.leaseOwner = some leaseOwner ∧ later = row.completed itemsAdded) := by
      intro later stored
      unfold SyncJobRepository.markCompleted at stored
      rw [Table.get?_updateIf, if_pos here] at stored
      obtain ⟨row, found, rfl⟩ := Option.map_eq_some_iff.mp stored
      refine ⟨row, found, ?_⟩
      split
      · next held => exact .inr ⟨by simpa [SyncJobRepository.heldBy] using held, rfl⟩
      · exact .inl rfl
    constructor
    · intro later stored
      obtain ⟨row, found, rfl | ⟨held, rfl⟩⟩ := there later stored
      · exact sound later found
      · have walked := sound row found
        have cursorAt := heldAt row found held
        have before : ∀ place < edge.place row.pageCursor,
            Offered sha256 id asked channel edge store.intake.events place := walked.before
        refine ⟨⟨walked.asks.1, walked.asks.2, walked.asks.3, walked.asks.4⟩,
          fun leased => absurd leased Bool.false_ne_true, before, fun _ place within => ?_⟩
        rw [cursorAt, last] at before
        rcases Nat.lt_or_eq_of_le within with earlier | same
        · exact before place earlier
        · rw [same]
          exact offered
    · intro owner same task member
      obtain rfl := Option.some.inj same
      obtain rfl := List.mem_singleton.mp member
      exact ⟨⟨waits.next.distinct, fun other member same =>
        absurd same (waits.absent here other member)⟩, trivial⟩
    · refine fun other different => ⟨.refl _, fun later stored owned => ?_⟩
      obtain ⟨row, found, rfl | ⟨held, rfl⟩⟩ := there later stored
      · exact ⟨later, found, owned, rfl⟩
      · contradiction
    · intro before later stored replaced
      obtain ⟨row, found, same⟩ := there later replaced
      obtain rfl := Option.some.inj (found.symm.trans stored)
      rcases same with rfl | ⟨held, rfl⟩ <;> exact Nat.le_refl _
  · refine .of_undisturbed sound (.refl _) (.of_ne here) fun owner same task member => ?_
    obtain rfl := Option.some.inj same
    obtain rfl := List.mem_singleton.mp member
    exact ⟨waits.next, trivial⟩

theorem runJob_known {job : ClaimedSyncJob} {choice : BackfillChoice}
    (paged : asked.jobKind ≠ .refreshProfile)
    (known : StepKnown sha256 id asked channel edge store leaseOwner (.runJob job)) :
    StepKnown sha256 id asked channel edge store leaseOwner
      (BackfillWorker.runJob job choice) := by
  unfold BackfillWorker.runJob
  split
  · trivial
  · split
    · trivial
    · split
      · trivial
      · split
        · trivial
        · split
          · trivial
          · split
            · next refresh =>
                exact fun same => paged ((known same).1.jobKind.symm.trans refresh)
            · exact known

theorem runStep_kept {rest : List ClaimedSyncJob} {step : BackfillStep}
    (paged : asked.jobKind ≠ .refreshProfile)
    (sound : WalkSound sha256 id asked channel edge store)
    (waits : RestKnown id asked store leaseOwner step.job rest)
    (known : StepKnown sha256 id asked channel edge store leaseOwner step)
    (choice : BackfillChoice) (asking : ∀ job cursor pages, step ≠ .page job cursor pages) :
    StepKept sha256 id asked channel edge (some leaseOwner) store
      { store with jobs := (BackfillWorker.runStep leaseOwner choice store.jobs rest step).1 }
      ((BackfillWorker.runStep leaseOwner choice store.jobs rest step).2.map .sync) := by
  have effect := runStep_effect leaseOwner choice store.jobs rest step
  have quietly : ∀ tasks : List BackfillTask,
      (∀ job cursor itemsAdded pages, step = .saveProgress job cursor itemsAdded pages →
        job.id ≠ id) →
      (∀ job itemsAdded, step = .markCompleted job itemsAdded → job.id ≠ id) →
      (∀ task ∈ tasks, TaskKnown sha256 id asked channel edge store leaseOwner (.sync task)) →
      StepKept sha256 id asked channel edge (some leaseOwner) store
        { store with jobs := (BackfillWorker.runStep leaseOwner choice store.jobs rest step).1 }
        (tasks.map .sync) := by
    intro tasks saves completes all
    refine .of_undisturbed sound (.refl _) (effect.undisturbed saves completes) ?_
    intro owner same task member
    obtain rfl := Option.some.inj same
    obtain ⟨work, listed, rfl⟩ := List.mem_map.mp member
    exact all work listed
  have unmoved : ∀ tasks : List PipelineTask,
      (∀ task ∈ tasks, TaskKnown sha256 id asked channel edge store leaseOwner task) →
      StepKept sha256 id asked channel edge (some leaseOwner) store store tasks :=
    fun tasks all => .of_undisturbed sound (.refl _) (.refl id _)
      fun _ same => Option.some.inj same ▸ all
  have goesOn : TaskKnown sha256 id asked channel edge store leaseOwner (.sync ⟨.next, rest⟩) :=
    ⟨waits.next, trivial⟩
  have retries : ∀ job, step.job = some job →
      TaskKnown sha256 id asked channel edge store leaseOwner
        (.sync ⟨BackfillWorker.retryOrDie job choice, rest⟩) := by
    intro job about
    have here : RestKnown id asked store leaseOwner (some job) rest := about ▸ waits
    exact ⟨here, trivial⟩
  cases step with
  | page job cursor pages => exact absurd rfl (asking job cursor pages)
  | next =>
      refine quietly _ (fun _ _ _ _ same => by cases same) (fun _ _ same => by cases same) ?_
      cases rest with
      | nil => exact fun _ member => absurd member List.not_mem_nil
      | cons job rest =>
          have later : RestKnown id asked store leaseOwner (some job) rest :=
            ⟨waits.distinct, fun other member => waits.waiting other (List.mem_cons_of_mem _ member)⟩
          simp only [BackfillWorker.runStep]
          split
          · exact fun _ member => absurd member List.not_mem_nil
          · split
            · intro task member
              obtain rfl := List.mem_singleton.mp member
              exact ⟨later, waits.waiting job List.mem_cons_self⟩
            · intro task member
              obtain rfl := List.mem_singleton.mp member
              exact ⟨later.next, trivial⟩
  | runJob job =>
      refine quietly _ (fun _ _ _ _ same => by cases same) (fun _ _ same => by cases same) ?_
      simp only [BackfillWorker.runStep]
      split
      · exact fun _ member => absurd member List.not_mem_nil
      · intro task member
        obtain rfl := List.mem_singleton.mp member
        exact ⟨(runJob_about job choice).job ▸ waits, runJob_known paged known⟩
  | refreshProfile job =>
      refine quietly _ (fun _ _ _ _ same => by cases same) (fun _ _ same => by cases same) ?_
      intro task member
      obtain rfl := List.mem_singleton.mp member
      have about := refreshProfile_about job choice
      exact ⟨about.job ▸ waits, stepKnown_of_ne about.job known⟩
  | saveProgress job cursor itemsAdded pages =>
      simp only [BackfillWorker.runStep]
      split
      · apply unmoved
        intro task member
        obtain rfl := List.mem_singleton.mp member
        exact retries job rfl
      · split
        · next after saved => exact saved_kept sound waits known saved
        · next after refused =>
            obtain ⟨rfl, -⟩ := Table.updateIf_false refused
            apply unmoved
            intro task member
            obtain rfl := List.mem_singleton.mp member
            exact goesOn
  | markCompleted job itemsAdded =>
      simp only [BackfillWorker.runStep]
      split
      · apply unmoved
        intro task member
        obtain rfl := List.mem_singleton.mp member
        exact retries job rfl
      · exact completed_kept sound waits known
  | markFailed job | markRateLimited job | markPaused job =>
      refine quietly _ (fun _ _ _ _ same => by cases same) (fun _ _ same => by cases same) ?_
      simp only [BackfillWorker.runStep]
      split
      · exact fun _ member => absurd member List.not_mem_nil
      · intro task member
        obtain rfl := List.mem_singleton.mp member
        exact goesOn

/-! ### A page -/

/-- A walk that reads an edge to its end: one with a cursor to keep, of an edge the platform
has. A job about one thread has one page. -/
structure Walkable (asked : EnqueueSyncInput) (channel : WalkChannel) (edge : Edge GraphItem) :
    Prop where
  paged : asked.jobKind ≠ .refreshProfile
  edged : hasEdge channel.platform asked.jobKind = true
  single : asked.targetPlatformId = none ∨ edge.last = 0

variable {Oracle : Type}

theorem settled_known {job : ClaimedSyncJob} {pages : Nat} {choice : PipelineChoice Oracle}
    {answer : SliceAnswer} {rest : List ClaimedSyncJob}
    (waits : RestKnown id asked store leaseOwner (some job) rest)
    (known : StepKnown sha256 id asked channel edge store leaseOwner
      (BackfillWorker.page job pages { choice.sync with slice := answer })) :
    TaskKnown sha256 id asked channel edge store leaseOwner
      (BackfillWorker.settled job pages choice answer rest) :=
  ⟨(page_about job pages { choice.sync with slice := answer }).job ▸ waits, known⟩

theorem askPage_known {job : ClaimedSyncJob} {cursor : Option String} {pages : Nat}
    {rest : List ClaimedSyncJob} {choice : PipelineChoice Oracle}
    (walkable : Walkable asked channel edge)
    (waits : RestKnown id asked store leaseOwner (some job) rest)
    (known : StepKnown sha256 id asked channel edge store leaseOwner (.page job cursor pages))
    (served : job.id = id → choice.channel = channel ∧
      ∀ page, choice.answer = .edge page → edge.Serves cursor page) :
    TaskKnown sha256 id asked channel edge store leaseOwner
      (BackfillWorker.askPage sha256 job cursor pages choice rest) := by
  have came := askPage_asked sha256 job cursor pages choice rest
  generalize BackfillWorker.askPage sha256 job cursor pages choice rest = next at came
  cases came with
  | noEdge missing =>
      refine settled_known waits (stepKnown_of_ne (page_about ..).job fun same => ?_)
      rw [(served same).1, (known same).1.jobKind, walkable.edged] at missing
      contradiction
  | failed error refused => exact settled_known waits (handleFailure_known job _ error)
  | answered page answered =>
      refine ⟨waits, fun same => ⟨(known same).1, (known same).2, page, choice.today, [],
        (served same).2 page answered, rfl, ?_, fun _ member => absurd member List.not_mem_nil⟩⟩
      have asks := (known same).1
      rw [(served same).1]
      exact pageInputs_congr asks.enterpriseId.symm asks.channelId.symm asks.jobKind.symm channel
        choice.today page.data

theorem slice_known {task : AppendTask} {choice : BackfillChoice}
    (walkable : Walkable asked channel edge)
    (asks : task.job.Asks asked) (heldAt : HeldAt id store.jobs leaseOwner task.cursor)
    (appended : AppendKnown sha256 id asked channel edge store task) (all : task.inputs = []) :
    StepKnown sha256 id asked channel edge store leaseOwner
      (BackfillWorker.page task.job task.pages
        { choice with slice := .page task.added task.nextCursor task.finished }) := by
  obtain ⟨page, today, done, serves, sliced, split, known⟩ := appended
  rw [all, List.append_nil] at split
  have offered : Offered sha256 id asked channel edge store.intake.events
      (edge.place task.cursor) :=
    ⟨page.data, today, serves.data, fun input member => known input (split ▸ member)⟩
  have within := Edge.place_le_last serves.data
  have ends : task.finished = true → edge.place task.cursor = edge.last := by
    intro finished
    have last : (BackfillWorker.slice task.job page).2 = true := by
      rw [← sliced]
      exact finished
    unfold BackfillWorker.slice at last
    split at last
    · next targeted =>
        rcases walkable.single with none_ | single
        · rw [asks.target, none_] at targeted
          exact absurd targeted.2 Bool.false_ne_true
        · omega
    · refine Nat.le_antisymm within (Edge.last_le_of_after ?_)
      rw [Bool.not_eq_true', serves.next] at last
      exact Option.not_isSome_iff_eq_none.mp (Bool.not_eq_true _ ▸ last)
  have goesOn : task.finished = false →
      edge.place task.nextCursor = edge.place task.cursor + 1 := by
    intro more
    have cursor : task.nextCursor = (BackfillWorker.slice task.job page).1 :=
      congrArg Prod.fst sliced
    have open_ : (BackfillWorker.slice task.job page).2 = false :=
      (congrArg Prod.snd sliced).symm.trans more
    unfold BackfillWorker.slice at cursor open_
    split at open_
    · contradiction
    · next whole =>
        rw [if_neg whole] at cursor
        have next : page.next = true := by simpa using open_
        have there := serves.next.symm.trans next
        obtain ⟨found, behind⟩ := Option.isSome_iff_exists.mp there
        rw [cursor, serves.after next, behind]
        exact Edge.place_after behind
  cases finished : task.finished with
  | true =>
      have last := ends finished
      exact fun _ => ⟨task.cursor, heldAt, last, last ▸ offered⟩
  | false => exact fun _ => ⟨asks, task.cursor, heldAt, goesOn finished, offered⟩

theorem appendNext_kept {task : AppendTask} {choice : PipelineChoice Oracle}
    (walkable : Walkable asked channel edge)
    (sound : WalkSound sha256 id asked channel edge store)
    (known : TaskKnown sha256 id asked channel edge store leaseOwner (.append task)) :
    StepKept sha256 id asked channel edge (some leaseOwner) store
      { store with intake := (BackfillWorker.appendNext task choice store.intake).1 }
      [(BackfillWorker.appendNext task choice store.intake).2] := by
  obtain ⟨waits, walks⟩ := known
  have came := appendNext_appended task choice store.intake
  generalize BackfillWorker.appendNext task choice store.intake = next at came
  cases came with
  | done all =>
      refine .of_undisturbed sound (.refl _) (.refl id _) fun owner same later member => ?_
      obtain rfl := Option.some.inj same
      obtain rfl := List.mem_singleton.mp member
      apply settled_known waits
      by_cases here : task.job.id = id
      · obtain ⟨asks, heldAt, appended⟩ := walks here
        exact slice_known walkable asks heldAt appended all
      · exact stepKnown_of_ne (page_about ..).job here
  | gaveUp left fails =>
      refine .of_undisturbed sound (.refl _) (.refl id _) fun owner same later member => ?_
      obtain rfl := Option.some.inj same
      obtain rfl := List.mem_singleton.mp member
      exact settled_known waits (handleFailure_known task.job _ .other)
  | appended input inputs added listed =>
      obtain ⟨grows, stored⟩ := inserted_known input choice.sync.now store.intake.events
      have left : ∀ worker, LeftTo id worker store
          { store with intake := { store.intake with
            events := (Inbound.InboundEventRepository.insertIgnoringDuplicate input
              choice.sync.now store.intake.events).2 } } :=
        fun worker => .of_undisturbed grows (.refl id _)
      refine ⟨sound.mono grows (.refl id _), fun owner same later member => ?_,
        fun other _ => left other, fun job later found stored => ?_⟩
      swap
      · obtain rfl := Option.some.inj (found.symm.trans stored)
        exact Nat.le_refl _
      obtain rfl := Option.some.inj same
      obtain rfl := List.mem_singleton.mp member
      refine ⟨waits.mono (left leaseOwner), fun same => ?_⟩
      obtain ⟨asks, heldAt, page, today, done, serves, sliced, split, all⟩ := walks same
      refine ⟨asks, heldAt.mono (left leaseOwner), page, today, done ++ [input], serves, sliced,
        ?_, fun other member => ?_⟩
      · rw [split, listed, List.append_assoc]
        rfl
      · rcases List.mem_append.mp member with before | last
        · exact grows other (all other before)
        · rw [List.mem_singleton.mp last]
          exact stored

/-! ### What a party starts -/

def CreatedAs (id : Nat) (asked : EnqueueSyncInput) (jobs after : Table SyncJobRow) : Prop :=
  jobs.get? id = none → ∀ job, after.get? id = some job → job.Asks asked

theorem pollOnce_kept (sound : WalkSound sha256 id asked channel edge store)
    (leaseOwner : Nat) (choice : BackfillChoice) :
    StepKept sha256 id asked channel edge (some leaseOwner) store
      { store with jobs := (BackfillWorker.pollOnce leaseOwner choice store.jobs).1 }
      ((BackfillWorker.pollOnce leaseOwner choice store.jobs).2.map .sync) := by
  rcases pollOnce_cases leaseOwner choice store.jobs with same | claimed
  · rw [same]
    exact .of_undisturbed sound (.refl _) (.refl id _) fun _ _ _ member =>
      absurd member List.not_mem_nil
  · rw [claimed]
    have row : ∀ later, (store.jobs.updatePicked (SyncJobRepository.dueRows choice.batchSize
        choice.now choice.skipped store.jobs)
        (·.claimed leaseOwner choice.leaseSeconds choice.now)).get? id = some later →
        ∃ job, store.jobs.get? id = some job ∧
          (later = job ∨ later = job.claimed leaseOwner choice.leaseSeconds choice.now) := by
      intro later found
      rw [get?_claimed, Option.map_eq_some_iff] at found
      obtain ⟨job, there, rfl⟩ := found
      refine ⟨job, there, ?_⟩
      split
      · exact .inr rfl
      · exact .inl rfl
    constructor
    · intro later found
      obtain ⟨job, there, rfl | rfl⟩ := row later found
      · exact sound later there
      · have walked := sound job there
        exact ⟨⟨walked.asks.1, walked.asks.2, walked.asks.3, walked.asks.4⟩, fun _ => rfl,
          walked.before, fun completed => by cases completed⟩
    · intro owner same task member
      obtain rfl := Option.some.inj same
      obtain rfl := List.mem_singleton.mp member
      refine ⟨⟨?_, ?_⟩, trivial⟩
      · change (((SyncJobRepository.dueRows choice.batchSize choice.now choice.skipped
          store.jobs).map claimOf).map (·.id)).Nodup
        rw [List.map_map]
        exact Table.pick_nodup
      · intro job member same
        obtain ⟨stored, due, rfl⟩ := List.mem_map.mp member
        change stored.id = id at same
        have there := (Table.mem_pick due).1
        rw [same] at there
        have walked := sound stored.row there
        refine ⟨⟨walked.asks.1, walked.asks.2, walked.asks.3, walked.asks.4⟩,
          fun later found _ => ?_⟩
        obtain ⟨job, again, rfl | rfl⟩ := row later found
        · obtain rfl := Option.some.inj (there.symm.trans again)
          rfl
        · obtain rfl := Option.some.inj (there.symm.trans again)
          rfl
    · refine fun other different => ⟨.refl _, fun later found owned => ?_⟩
      obtain ⟨job, there, rfl | rfl⟩ := row later found
      · exact ⟨later, there, owned, rfl⟩
      · exact absurd owned different
    · intro before later stored replaced
      obtain ⟨job, there, same⟩ := row later replaced
      obtain rfl := Option.some.inj (there.symm.trans stored)
      rcases same with rfl | rfl <;> exact Nat.le_refl _

theorem enqueued_kept {input : EnqueueSyncInput} {now : Int}
    (sound : WalkSound sha256 id asked channel edge store)
    (created : CreatedAs id asked store.jobs
      (SyncJobRepository.enqueueIfAbsent input now store.jobs).2) :
    StepKept sha256 id asked channel edge none store
      { store with jobs := (SyncJobRepository.enqueueIfAbsent input now store.jobs).2 } [] := by
  rcases enqueueIfAbsent_cases input now store.jobs with inserted | ⟨stored, _, revived⟩
  · rw [inserted] at created ⊢
    have row : ∀ later, (store.jobs.insert (input.row now)).get? id = some later →
        store.jobs.get? id = some later ∨
          (store.jobs.get? id = none ∧ later = input.row now) := by
      intro later found
      cases there : store.jobs.get? id with
      | some job =>
          rw [Table.get?_insert_of_some _ there] at found
          exact .inl found
      | none =>
          rw [Table.get?_insert, there] at found
          split at found
          · exact .inr ⟨rfl, (Option.some.inj found).symm⟩
          · contradiction
    constructor
    · intro later found
      rcases row later found with there | ⟨absent, rfl⟩
      · exact sound later there
      · exact ⟨created absent _ found, fun leased => absurd leased Bool.false_ne_true,
          fun _ within => absurd within (Nat.not_lt_zero _), fun completed => by cases completed⟩
    · exact fun _ same => by cases same
    · refine fun other _ => ⟨.refl _, fun later found owned => ?_⟩
      rcases row later found with there | ⟨absent, rfl⟩
      · exact ⟨later, there, owned, rfl⟩
      · contradiction
    · intro job later found stored
      rcases row later stored with there | ⟨absent, rfl⟩
      · obtain rfl := Option.some.inj (there.symm.trans found)
        exact Nat.le_refl _
      · rw [absent] at found
        contradiction
  · rw [revived]
    exact .of_undisturbed sound (.refl _)
      (.updateIf fun job _ paused => quiet_revived _ _ (by simpa using paused))
      fun _ same => by cases same

end Worker

/-! ### A step, and a run -/

variable {Oracle : Type} {projectors : Projector Inbox Json Oracle}

/-- The platform answers what is asked about the job from one edge, as far as it answers, and
the job is the walk that was asked for. -/
structure Served (sha256 : String → String) (projectors : Projector Inbox Json Oracle) (id : Nat)
    (asked : EnqueueSyncInput) (channel : WalkChannel) (edge : Edge GraphItem)
    (state : PipelineState Inbox) (party : PipelineParty) (choice : PipelineChoice Oracle) :
    Prop where
  created : CreatedAs id asked state.store.jobs
    ((pipeline sha256 projectors).step state party choice).store.jobs
  page : ∀ leaseOwner job cursor pages rest tasks, party = .sync (.worker leaseOwner) →
    state.left party = .sync ⟨.page job cursor pages, rest⟩ :: tasks → job.id = id →
      choice.channel = channel ∧ ∀ page, choice.answer = .edge page → edge.Serves cursor page

theorem startBackfill_single (jobs : Table SyncJobRow) (party : SyncParty)
    (choice : BackfillChoice) : (startBackfill jobs party choice).2.length ≤ 1 := by
  cases party with
  | worker leaseOwner =>
      change (BackfillWorker.pollOnce leaseOwner choice jobs).2.length ≤ 1
      rcases pollOnce_cases leaseOwner choice jobs with same | claimed
      · rw [same]
        exact Nat.zero_le 1
      · rw [claimed]
        exact Nat.le_refl 1
  | reaper | requester => exact Nat.zero_le 1

theorem walkStep_single (leaseOwner : Nat) (task : BackfillTask) (choice : PipelineChoice Oracle)
    (jobs : Table SyncJobRow) :
    (BackfillWorker.walkStep sha256 leaseOwner task choice jobs).2.length ≤ 1 := by
  unfold BackfillWorker.walkStep
  split
  · exact Nat.le_refl 1
  · next step asking =>
      rw [List.length_map]
      cases step <;> simp only [BackfillWorker.runStep] <;> repeat' split
      all_goals simp

theorem startIntake_single (intake : Intake Inbox Json) (party : IntakeParty)
    (choice : IntakeChoice Json Oracle) : (startIntake intake party choice).2.length ≤ 1 := by
  cases party with
  | worker leaseOwner =>
      simp only [startIntake, Inbound.InboundProjectorWorker.pollOnce]
      split <;> simp
  | reaper | ingest | operator => exact Nat.zero_le 1

theorem runIntake_single (intake : Intake Inbox Json) (party : IntakeParty)
    (task : Inbound.ProjectorTask Json) (choice : IntakeChoice Json Oracle) :
    (runIntake projectors intake party task choice).2.length ≤ 1 := by
  cases party with
  | worker leaseOwner =>
      obtain ⟨step, rest⟩ := task
      cases step <;> simp only [runIntake, Inbound.InboundProjectorWorker.runStep] <;>
        repeat' split
      all_goals simp
  | reaper | ingest | operator => exact Nat.zero_le 1

theorem pipeline_single : Crew.Single
    (pipeline sha256 projectors : Crew (Pipeline Inbox) _ _ (PipelineChoice Oracle)) := by
  constructor
  · intro store party choice
    cases party with
    | sync party =>
        change ((startBackfill store.jobs party choice.sync).2.map _).length ≤ 1
        rw [List.length_map]
        exact startBackfill_single ..
    | intake party =>
        change ((startIntake store.intake party choice.intake).2.map _).length ≤ 1
        rw [List.length_map]
        exact startIntake_single ..
  · intro store party task choice
    cases party with
    | sync party =>
        cases party with
        | worker leaseOwner =>
            cases task with
            | sync task => exact walkStep_single ..
            | append task => exact Nat.le_refl 1
            | intake task => exact Nat.zero_le 1
        | reaper | requester => cases task <;> exact Nat.zero_le 1
    | intake party =>
        cases task with
        | sync task | append task => exact Nat.zero_le 1
        | intake task =>
            change ((runIntake projectors store.intake party task choice.intake).2.map
              _).length ≤ 1
            rw [List.length_map]
            exact runIntake_single ..

def PipelineParty.worker? : PipelineParty → Option Nat
  | .sync (.worker leaseOwner) => some leaseOwner
  | .sync .reaper | .sync (.requester _) | .intake _ => none

theorem eq_of_worker {party : PipelineParty} {leaseOwner : Nat}
    (works : party.worker? = some leaseOwner) : party = .sync (.worker leaseOwner) := by
  cases party with
  | intake party => contradiction
  | sync party =>
      cases party with
      | worker other => rw [Option.some.inj works]
      | reaper | requester => contradiction

theorem start_kept {store : Pipeline Inbox} {choice : PipelineChoice Oracle} (party : PipelineParty)
    (sound : WalkSound sha256 id asked channel edge store)
    (created : CreatedAs id asked store.jobs (startPipeline store party choice).1.jobs) :
    StepKept sha256 id asked channel edge party.worker? store (startPipeline store party choice).1
      (startPipeline store party choice).2 := by
  cases party with
  | intake party =>
      exact .of_undisturbed sound (startIntake_grows _ party choice.intake) (.refl id _)
        fun _ same => by cases same
  | sync party =>
      cases party with
      | worker leaseOwner => exact pollOnce_kept sound leaseOwner choice.sync
      | reaper =>
          have still : Undisturbed id store.jobs (startBackfill store.jobs .reaper choice.sync).1 := by
            simp only [startBackfill]
            split
            · exact .refl id _
            · exact reclaimed_undisturbed _ _ _ _ _
          exact .of_undisturbed sound (.refl _) still fun _ same => by cases same
      | requester agent =>
          change CreatedAs id asked store.jobs
            (startBackfill store.jobs (.requester agent) choice.sync).1 at created
          change StepKept sha256 id asked channel edge none store { store with
            jobs := (startBackfill store.jobs (.requester agent) choice.sync).1 } []
          simp only [startBackfill] at created ⊢
          split
          · exact .of_undisturbed sound (.refl _) (.refl id _) fun _ same => by cases same
          · next runs =>
              rw [if_neg runs] at created
              exact enqueued_kept sound created

theorem run_kept (projectors : Projector Inbox Json Oracle) {store : Pipeline Inbox}
    {choice : PipelineChoice Oracle} {task : PipelineTask}
    (walkable : Walkable asked channel edge) (party : PipelineParty)
    (sound : WalkSound sha256 id asked channel edge store)
    (ready : WalkReady sha256 id asked channel edge store party task)
    (served : ∀ leaseOwner job cursor pages rest, party = .sync (.worker leaseOwner) →
      task = .sync ⟨.page job cursor pages, rest⟩ → job.id = id → choice.channel = channel ∧
        ∀ page, choice.answer = .edge page → edge.Serves cursor page) :
    StepKept sha256 id asked channel edge party.worker? store
      (runPipeline sha256 projectors store party task choice).1
      (runPipeline sha256 projectors store party task choice).2 := by
  have unmoved : ∀ {party : PipelineParty} {intake : Intake Inbox Json}
      {tasks : List PipelineTask}, party.worker? = none →
      Grows store.intake.events intake.events →
      StepKept sha256 id asked channel edge party.worker? store
        { store with intake := intake } tasks := by
    intro party intake tasks idle grows
    refine .of_undisturbed sound grows (.refl id _) fun leaseOwner same => ?_
    rw [idle] at same
    contradiction
  cases party with
  | intake party =>
      cases task with
      | sync task | append task => exact unmoved rfl (.refl _)
      | intake task => exact unmoved rfl (runIntake_grows projectors _ party task choice.intake)
  | sync party =>
      cases party with
      | reaper | requester => cases task <;> exact unmoved rfl (.refl _)
      | worker leaseOwner =>
          have known := ready leaseOwner rfl
          cases task with
          | intake task =>
              exact .of_undisturbed sound (.refl _) (.refl id _) fun _ _ _ member =>
                absurd member List.not_mem_nil
          | append task => exact appendNext_kept walkable sound known
          | sync task =>
              obtain ⟨step, rest⟩ := task
              by_cases asking : ∃ job cursor pages, step = .page job cursor pages
              · obtain ⟨job, cursor, pages, rfl⟩ := asking
                refine .of_undisturbed sound (.refl _) (.refl id _) fun owner same next member => ?_
                obtain rfl := Option.some.inj same
                obtain rfl := List.mem_singleton.mp member
                exact askPage_known walkable known.1 known.2
                  (served leaseOwner job cursor pages rest rfl rfl)
              · have plain := walkStep_plain sha256 leaseOwner rest choice store.jobs
                  fun job cursor pages same => asking ⟨job, cursor, pages, same⟩
                change StepKept sha256 id asked channel edge (some leaseOwner) store
                  { store with jobs := (BackfillWorker.walkStep sha256 leaseOwner ⟨step, rest⟩
                    choice store.jobs).1 }
                  (BackfillWorker.walkStep sha256 leaseOwner ⟨step, rest⟩ choice store.jobs).2
                rw [plain]
                exact runStep_kept walkable.paged sound known.1 known.2 choice.sync
                  fun job cursor pages same => asking ⟨job, cursor, pages, same⟩

theorem StepKept.ready {party : PipelineParty} {store after : Pipeline Inbox}
    {tasks : List PipelineTask}
    (kept : StepKept sha256 id asked channel edge party.worker? store after tasks) :
    (∀ task ∈ tasks, WalkReady sha256 id asked channel edge after party task) ∧
      ∀ other task, other ≠ party → WalkReady sha256 id asked channel edge store other task →
        WalkReady sha256 id asked channel edge after other task := by
  constructor
  · intro task member owner same
    subst same
    exact kept.next owner rfl task member
  · intro other task different ready owner same
    subst same
    exact (ready owner rfl).mono (kept.others owner fun works =>
      different (eq_of_worker works).symm)

def WalkStanding (sha256 : String → String) (id : Nat) (asked : EnqueueSyncInput)
    (channel : WalkChannel) (edge : Edge GraphItem) (state : PipelineState Inbox) : Prop :=
  Crew.Solo state ∧ Crew.Standing (WalkSound sha256 id asked channel edge)
    (WalkReady sha256 id asked channel edge) state

section Step

variable {state : PipelineState Inbox} {party : PipelineParty} {choice : PipelineChoice Oracle}

theorem pipeline_kept (walkable : Walkable asked channel edge)
    (standing : WalkStanding sha256 id asked channel edge state)
    (served : Served sha256 projectors id asked channel edge state party choice) :
    ∃ tasks, StepKept sha256 id asked channel edge party.worker? state.store
      ((pipeline sha256 projectors).step state party choice).store tasks := by
  cases queued : state.left party with
  | nil =>
      have created := served.created
      rw [((pipeline sha256 projectors).step_start queued choice).1] at created ⊢
      exact ⟨_, start_kept party standing.2.store created⟩
  | cons task rest =>
      rw [((pipeline sha256 projectors).step_run queued choice).1]
      refine ⟨_, run_kept projectors walkable party standing.2.store
        (standing.2.tasks party task (queued ▸ List.mem_cons_self)) ?_⟩
      intro leaseOwner job cursor pages others same at_
      exact served.page leaseOwner job cursor pages others rest same (at_ ▸ queued)

theorem walkStanding_step (walkable : Walkable asked channel edge)
    (standing : WalkStanding sha256 id asked channel edge state)
    (served : Served sha256 projectors id asked channel edge state party choice) :
    WalkStanding sha256 id asked channel edge
      ((pipeline sha256 projectors).step state party choice) := by
  refine ⟨standing.1.step pipeline_single, ?_⟩
  refine Crew.Standing.step_solo standing.1 standing.2 (fun nothing => ?_) fun task queued ready => ?_
  · have created := served.created
    rw [((pipeline sha256 projectors).step_start nothing choice).1] at created
    have kept := start_kept party standing.2.store created
    exact ⟨kept.sound, kept.ready⟩
  · have kept := run_kept projectors walkable party standing.2.store ready
      fun leaseOwner job cursor pages rest same at_ =>
        served.page leaseOwner job cursor pages rest [] same (at_ ▸ queued)
    exact ⟨kept.sound, kept.ready⟩

end Step

def Pipeline.start (inbox : Inbox) : Pipeline Inbox := ⟨.empty, .start inbox⟩

theorem walkStanding_idle (inbox : Inbox) :
    WalkStanding sha256 id asked channel edge (Crew.idle (.start inbox)) :=
  ⟨.idle _, .idle fun _ found => by cases found⟩

/-- A job that is completed has every item of every page of its edge in the ledger, and one
that is not has every page before its cursor there. -/
theorem walk_brings_everything (walkable : Walkable asked channel edge) (inbox : Inbox)
    {state : PipelineState Inbox}
    (reached : (pipeline sha256 projectors).Reaches
      (Served sha256 projectors id asked channel edge) (Crew.idle (.start inbox)) state)
    {job : SyncJobRow} (found : state.store.jobs.get? id = some job) :
    (∀ place < edge.place job.pageCursor,
        Offered sha256 id asked channel edge state.store.intake.events place) ∧
      (job.status = .completed → ∀ place ≤ edge.last,
        Offered sha256 id asked channel edge state.store.intake.events place) := by
  have standing := Crew.Reaches.keeps (WalkStanding sha256 id asked channel edge)
    (fun _ _ _ kept served => walkStanding_step walkable kept served) (walkStanding_idle inbox)
    reached
  have walked := standing.2.store job found
  exact ⟨walked.before, walked.whole⟩

end Walk

/-! ### A walk that is refused once -/

def walkedEdge : Edge GraphItem where
  first := [.post walkedPost]
  later := [("more", [])]
  distinct := by decide

/-- A walk of two pages whose first page is refused, and asked for again by a later poll. -/
def refusedOnce : List (PipelineParty × PipelineChoice Unit) :=
  [(.sync (.requester 0), walkChoice 0 (.failed .other)),
    plainTurn 1, plainTurn 2, plainTurn 3, plainTurn 4, plainTurn 5, plainTurn 6,
    plainTurn 10000000, plainTurn 10000001, plainTurn 10000002,
    walkTurn 10000003 (.edge (walkedEdge.page none)),
    plainTurn 10000004, plainTurn 10000005, plainTurn 10000006,
    walkTurn 10000007 (.edge (walkedEdge.page (some "more"))),
    plainTurn 10000008, plainTurn 10000009]

def askedCursor {Inbox : Type} (state : PipelineState Inbox) (party : PipelineParty) :
    Option (Option String) :=
  match state.left party with
  | .sync ⟨.page _ cursor _, _⟩ :: _ => some cursor
  | _ => none

def createdCheck (id : Nat) (asked : EnqueueSyncInput) (jobs after : Table SyncJobRow) : Bool :=
  (jobs.get? id).isSome ||
    (after.get? id).all fun job => job.enterpriseId == asked.enterpriseId &&
      job.channelId == asked.channelId && job.jobKind == asked.jobKind &&
      job.targetPlatformId == asked.targetPlatformId

theorem createdAs_of_check {id : Nat} {asked : EnqueueSyncInput} {jobs after : Table SyncJobRow}
    (checked : createdCheck id asked jobs after = true) : CreatedAs id asked jobs after := by
  intro absent job found
  simp only [createdCheck, absent, found, Option.isSome_none, Bool.false_or, Option.all_some,
    Bool.and_eq_true, beq_iff_eq] at checked
  exact ⟨checked.1.1.1, checked.1.1.2, checked.1.2, checked.2⟩

section Served

variable {Inbox Oracle : Type} {sha256 : String → String} {projectors : Projector Inbox Json Oracle}
  {id : Nat} {asked : EnqueueSyncInput} {channel : WalkChannel} {edge : Edge GraphItem}
  {state : PipelineState Inbox} {party : PipelineParty} {choice : PipelineChoice Oracle}

theorem served_asking (cursor : Option String)
    (created : createdCheck id asked state.store.jobs
      ((pipeline sha256 projectors).step state party choice).store.jobs = true)
    (asking : askedCursor state party = some cursor) (same : choice.channel = channel)
    (answered : ∀ page, choice.answer = .edge page → edge.Serves cursor page) :
    Served sha256 projectors id asked channel edge state party choice := by
  refine ⟨createdAs_of_check created, fun leaseOwner job other pages rest tasks _ queued _ => ?_⟩
  unfold askedCursor at asking
  rw [queued] at asking
  obtain rfl := Option.some.inj asking
  exact ⟨same, answered⟩

theorem served_quiet
    (created : createdCheck id asked state.store.jobs
      ((pipeline sha256 projectors).step state party choice).store.jobs = true)
    (quiet : askedCursor state party = none) :
    Served sha256 projectors id asked channel edge state party choice := by
  refine ⟨createdAs_of_check created, fun leaseOwner job cursor pages rest tasks _ queued _ => ?_⟩
  unfold askedCursor at quiet
  rw [queued] at quiet
  contradiction

end Served

theorem refusedOnce_served : (pipeline id idleProjectors).Permits
    (Served id idleProjectors 0 askedPosts walkedChannel walkedEdge) (Crew.idle (.start ()))
    refusedOnce := by
  refine ⟨served_quiet ?_ ?_, served_quiet ?_ ?_, served_quiet ?_ ?_, served_quiet ?_ ?_,
    served_asking none ?_ ?_ rfl fun _ same => (by cases same), served_quiet ?_ ?_,
    served_quiet ?_ ?_, served_quiet ?_ ?_, served_quiet ?_ ?_, served_quiet ?_ ?_,
    served_asking none ?_ ?_ rfl fun page same => ?first, served_quiet ?_ ?_, served_quiet ?_ ?_,
    served_quiet ?_ ?_, served_asking (some "more") ?_ ?_ rfl fun page same => ?later,
    served_quiet ?_ ?_, served_quiet ?_ ?_, trivial⟩
  case first =>
    obtain rfl := GraphAnswer.edge.inj same
    exact Edge.serves_page (by decide)
  case later =>
    obtain rfl := GraphAnswer.edge.inj same
    exact Edge.serves_page (by decide)
  all_goals decide +kernel

theorem walkedEdge_walkable : Walkable askedPosts walkedChannel walkedEdge :=
  ⟨by decide, by decide, .inl rfl⟩

/-- Both pages are there in the end, the one that had been refused and the one after it. -/
theorem walk_brings_everything_refused :
    walkedEdge.first ≠ [] ∧ ∀ place ≤ walkedEdge.last,
      Offered id 0 askedPosts walkedChannel walkedEdge
        ((pipeline id idleProjectors).after (Crew.idle (.start ()))
          refusedOnce).store.intake.events place := by
  have completed : (((pipeline id idleProjectors).after (Crew.idle (.start ()))
      refusedOnce).store.jobs.get? 0).any (·.status == .completed) = true := by decide +kernel
  obtain ⟨job, found, status⟩ := Option.any_eq_true _ _ |>.mp completed
  exact ⟨List.cons_ne_nil _ _,
    (walk_brings_everything walkedEdge_walkable () refusedOnce_served.reaches found).2
      (beq_iff_eq.mp status)⟩

section Walk

variable {sha256 : String → String} {id : Nat} {asked : EnqueueSyncInput} {channel : WalkChannel}
  {edge : Edge GraphItem} {Inbox Oracle : Type} {projectors : Projector Inbox Json Oracle}

theorem pipeline_keeps_jobs (state : PipelineState Inbox) (party : PipelineParty)
    (choice : PipelineChoice Oracle) {job : SyncJobRow}
    (found : state.store.jobs.get? id = some job) :
    ∃ later, ((pipeline sha256 projectors).step state party choice).store.jobs.get? id =
      some later := by
  have halves : (syncHalf ((pipeline sha256 projectors).step state party choice)).store =
      state.store.jobs ∨ ∃ backfiller coarse,
        (syncHalf ((pipeline sha256 projectors).step state party choice)).store =
          (backfill.step (syncHalf state) backfiller coarse).store := by
    rcases syncHalf_steps party with same | ⟨backfiller, coarse, step⟩
    · exact .inl (congrArg (·.store) same)
    · exact .inr ⟨backfiller, coarse, congrArg (·.store) step⟩
  change ∃ later, (syncHalf ((pipeline sha256 projectors).step state party choice)).store.get? id =
    some later
  rcases halves with same | ⟨backfiller, coarse, step⟩
  · rw [same]
    exact ⟨job, found⟩
  · rw [step]
    obtain ⟨later, there, -⟩ :=
      (backfill_jobsMove (syncHalf state) backfiller coarse).moves id job found
    exact ⟨later, there⟩

/-- The cursor of a walk never goes back to a page it has left. -/
theorem cursor_never_rewinds (walkable : Walkable asked channel edge) (inbox : Inbox)
    {earlier later : PipelineState Inbox}
    (before : (pipeline sha256 projectors).Reaches
      (Served sha256 projectors id asked channel edge) (Crew.idle (.start inbox)) earlier)
    (between : (pipeline sha256 projectors).Reaches
      (Served sha256 projectors id asked channel edge) earlier later)
    {job : SyncJobRow} (found : earlier.store.jobs.get? id = some job) :
    ∃ now, later.store.jobs.get? id = some now ∧
      edge.place job.pageCursor ≤ edge.place now.pageCursor := by
  have standing := Crew.Reaches.keeps (WalkStanding sha256 id asked channel edge)
    (fun _ _ _ kept served => walkStanding_step walkable kept served) (walkStanding_idle inbox)
    before
  refine (Crew.Reaches.keeps (fun state => WalkStanding sha256 id asked channel edge state ∧
    ∃ now, state.store.jobs.get? id = some now ∧
      edge.place job.pageCursor ≤ edge.place now.pageCursor) ?_
    ⟨standing, job, found, Nat.le_refl _⟩ between).2
  intro state party choice kept served
  obtain ⟨standing, now, there, ahead⟩ := kept
  refine ⟨walkStanding_step walkable standing served, ?_⟩
  obtain ⟨next, last⟩ := pipeline_keeps_jobs state party choice there
  obtain ⟨tasks, moved⟩ := pipeline_kept walkable standing served
  exact ⟨next, last, ahead.trans (moved.forward now next there last)⟩

end Walk

theorem cursor_never_rewinds_refused :
    ∃ now, ((pipeline id idleProjectors).after (Crew.idle (.start ()))
        refusedOnce).store.jobs.get? 0 = some now ∧
      walkedEdge.place none ≤ walkedEdge.place now.pageCursor := by
  have asked : (((pipeline id idleProjectors).after (Crew.idle (.start ()))
      (refusedOnce.take 1)).store.jobs.get? 0).any (·.pageCursor == none) = true := by
    decide +kernel
  obtain ⟨job, found, cursor⟩ := Option.any_eq_true _ _ |>.mp asked
  have first : (pipeline id idleProjectors).Permits
      (Served id idleProjectors 0 askedPosts walkedChannel walkedEdge) (Crew.idle (.start ()))
      (refusedOnce.take 1) := ⟨refusedOnce_served.1, trivial⟩
  have later := refusedOnce_served.2.reaches
  have ahead := cursor_never_rewinds walkedEdge_walkable () first.reaches later found
  rw [beq_iff_eq.mp cursor] at ahead
  exact ahead

end UnifiedService.Sync
