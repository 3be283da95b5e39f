import UnifiedService.Inbound.BudgetProperties
import UnifiedService.Library.Solo
import UnifiedService.Sync.Walk

/-! The pipeline against its two halves. What the backfill workers do to the sync-job ledger
is a run of the ledger's own machine, whatever the platform answers, and what they append to
the inbound ledger is what its own ingestion could have appended. -/

set_option autoImplicit false

namespace UnifiedService.Sync

open UnifiedService.Library
open UnifiedService.Inbound (InboundEventInput InboundEventRow Intake IntakeParty IntakeChoice
  IntakeState ProjectorTask Projector LedgerEffect intake startIntake runIntake)

variable {Inbox Oracle : Type} {sha256 : String → String}
  {projectors : Projector Inbox Json Oracle}

/-! ### A page of a walk -/

inductive Asked (sha256 : String → String) (job : ClaimedSyncJob) (cursor : Option String)
    (pages : Nat) (choice : PipelineChoice Oracle) (rest : List ClaimedSyncJob) :
    PipelineTask → Prop
  | noEdge (missing : hasEdge choice.channel.platform job.jobKind = false) :
      Asked sha256 job cursor pages choice rest
        (BackfillWorker.settled job pages choice (.page 0 none true) rest)
  | failed (error : Outbound.SendError) (refused : choice.answer = .failed error) :
      Asked sha256 job cursor pages choice rest
        (BackfillWorker.settled job pages choice (.failed error) rest)
  | answered (page : GraphEdge GraphItem) (served : choice.answer = .edge page) :
      Asked sha256 job cursor pages choice rest
        (.append
          { job := job
            cursor := cursor
            pages := pages
            inputs :=
              BackfillWorker.pageInputs sha256 job choice.channel choice.today page.data
            added := 0
            nextCursor := (BackfillWorker.slice job page).1
            finished := (BackfillWorker.slice job page).2
            rest := rest })

theorem askPage_asked (sha256 : String → String) (job : ClaimedSyncJob) (cursor : Option String)
    (pages : Nat) (choice : PipelineChoice Oracle) (rest : List ClaimedSyncJob) :
    Asked sha256 job cursor pages choice rest
      (BackfillWorker.askPage sha256 job cursor pages choice rest) := by
  unfold BackfillWorker.askPage
  split
  · split
    · next error refused => exact .failed error refused
    · next page served => exact .answered page served
  · next missing => exact .noEdge (Bool.not_eq_true _ ▸ missing)

theorem walkStep_plain (sha256 : String → String) (leaseOwner : Nat) (rest : List ClaimedSyncJob)
    {step : BackfillStep} (choice : PipelineChoice Oracle) (jobs : Table SyncJobRow)
    (asking : ∀ job cursor pages, step ≠ .page job cursor pages) :
    BackfillWorker.walkStep sha256 leaseOwner ⟨step, rest⟩ choice jobs =
      ((BackfillWorker.runStep leaseOwner choice.sync jobs rest step).1,
        (BackfillWorker.runStep leaseOwner choice.sync jobs rest step).2.map .sync) := by
  unfold BackfillWorker.walkStep
  split
  · next job cursor pages same => exact absurd same (asking job cursor pages)
  · rfl

inductive Appended (task : AppendTask) (choice : PipelineChoice Oracle)
    (intake : Intake Inbox Json) : Intake Inbox Json × PipelineTask → Prop
  | done (all : task.inputs = []) :
      Appended task choice intake
        (intake, BackfillWorker.settled task.job task.pages choice
          (.page task.added task.nextCursor task.finished) task.rest)
  | gaveUp (left : task.inputs ≠ []) (fails : choice.sync.fails = true) :
      Appended task choice intake
        (intake, BackfillWorker.settled task.job task.pages choice (.failed .other) task.rest)
  | appended (input : InboundEventInput Json) (inputs : List (InboundEventInput Json))
      (added : Nat) (listed : task.inputs = input :: inputs) :
      Appended task choice intake
        ({ intake with
            events := (Inbound.InboundEventRepository.insertIgnoringDuplicate input
              choice.sync.now intake.events).2 },
          .append { task with inputs := inputs, added := added })

theorem appendNext_appended (task : AppendTask) (choice : PipelineChoice Oracle)
    (intake : Intake Inbox Json) :
    Appended task choice intake (BackfillWorker.appendNext task choice intake) := by
  unfold BackfillWorker.appendNext
  split
  · next all => exact .done all
  · next input inputs listed =>
      split
      · next fails => exact .gaveUp (listed ▸ List.cons_ne_nil _ _) fails
      · have inserts := fun added => @Appended.appended Inbox Oracle task choice intake input
          inputs added listed
        split
        · next events inserted =>
            rw [inserted] at inserts
            exact inserts task.added
        · next events inserted =>
            rw [inserted] at inserts
            exact inserts (task.added + 1)

/-! ### The two halves of a state -/

/-- A page whose rows are still being appended has not come to anything yet. -/
def PipelineTask.sync? : PipelineTask → Option BackfillTask
  | .sync task => some task
  | .append task => some ⟨.page task.job task.cursor task.pages, task.rest⟩
  | .intake _ => none

def PipelineTask.intake? : PipelineTask → Option (ProjectorTask Json)
  | .intake task => some task
  | .sync _ | .append _ => none

def syncHalf (state : PipelineState Inbox) : BackfillState :=
  ⟨state.store.jobs, fun party => (state.left (.sync party)).filterMap PipelineTask.sync?⟩

def intakeHalf (state : PipelineState Inbox) : IntakeState Inbox Json where
  store := state.store.intake
  left := fun party =>
    match party with
    | .ingest _ => []
    | party => (state.left (.intake party)).filterMap PipelineTask.intake?

theorem syncHalf_left (state : PipelineState Inbox) (party : SyncParty) :
    (syncHalf state).left party =
      (state.left (.sync party)).filterMap PipelineTask.sync? := rfl

theorem crewState_eq {Store Party Task : Type} {state other : CrewState Store Party Task}
    (store : state.store = other.store) (left : ∀ party, state.left party = other.left party) :
    state = other := by
  cases state
  cases other
  cases store
  cases funext left
  rfl

theorem filterMap_sync (tasks : List BackfillTask) :
    (tasks.map PipelineTask.sync).filterMap PipelineTask.sync? = tasks := by
  induction tasks with
  | nil => rfl
  | cons task tasks ih => exact congrArg (task :: ·) ih

theorem filterMap_intake (tasks : List (ProjectorTask Json)) :
    (tasks.map PipelineTask.intake).filterMap PipelineTask.intake? = tasks := by
  induction tasks with
  | nil => rfl
  | cons task tasks ih => exact congrArg (task :: ·) ih

/-! ### The sync-job ledger -/

section SyncHalf

variable {state : PipelineState Inbox} {choice : PipelineChoice Oracle}

theorem syncHalf_step {party : SyncParty} {tasks : List PipelineTask}
    {coarse : BackfillChoice}
    (store : ((pipeline sha256 projectors).step state (.sync party) choice).store.jobs =
      (backfill.advance (syncHalf state) party coarse).1)
    (left : ((pipeline sha256 projectors).step state (.sync party) choice).left (.sync party) =
      tasks)
    (same : tasks.filterMap PipelineTask.sync? =
      (backfill.advance (syncHalf state) party coarse).2) :
    syncHalf ((pipeline sha256 projectors).step state (.sync party) choice) =
      backfill.step (syncHalf state) party coarse := by
  apply crewState_eq store
  intro other
  rw [syncHalf_left]
  by_cases here : other = party
  · subst here
    rw [left, same, backfill.left_step_self]
  · rw [backfill.left_step_of_ne _ _ here, syncHalf_left, Crew.left_step_of_ne]
    exact fun equal => here (PipelineParty.sync.inj equal)

theorem syncHalf_still {party : PipelineParty} {tasks : List PipelineTask}
    (store : ((pipeline sha256 projectors).step state party choice).store.jobs = state.store.jobs)
    (left : ((pipeline sha256 projectors).step state party choice).left party = tasks)
    (same : ∀ backfiller, party = .sync backfiller →
      tasks.filterMap PipelineTask.sync? =
        (state.left (.sync backfiller)).filterMap PipelineTask.sync?) :
    syncHalf ((pipeline sha256 projectors).step state party choice) = syncHalf state := by
  apply crewState_eq store
  intro other
  rw [syncHalf_left, syncHalf_left]
  by_cases here : PipelineParty.sync other = party
  · rw [← here] at left ⊢
    rw [left, same other here.symm]
  · rw [Crew.left_step_of_ne _ _ _ here]

/-- Once a page came to something, the poll is where the backfill machine has it. -/
theorem settled_step {leaseOwner : Nat} {task : PipelineTask} {rest : List PipelineTask}
    (queued : state.left (.sync (.worker leaseOwner)) = task :: rest) {job : ClaimedSyncJob}
    {cursor : Option String} {pages : Nat} {jobs : List ClaimedSyncJob} {answer : SliceAnswer}
    (asked : task.sync? = some ⟨.page job cursor pages, jobs⟩)
    (store : ((pipeline sha256 projectors).step state (.sync (.worker leaseOwner))
      choice).store.jobs = state.store.jobs)
    (left : ((pipeline sha256 projectors).step state (.sync (.worker leaseOwner)) choice).left
      (.sync (.worker leaseOwner)) = BackfillWorker.settled job pages choice answer jobs :: rest) :
    syncHalf ((pipeline sha256 projectors).step state (.sync (.worker leaseOwner)) choice) =
      backfill.step (syncHalf state) (.worker leaseOwner) { choice.sync with slice := answer } := by
  have waiting : (syncHalf state).left (.worker leaseOwner) =
      ⟨.page job cursor pages, jobs⟩ :: rest.filterMap PipelineTask.sync? := by
    rw [syncHalf_left, queued, List.filterMap_cons_some asked]
  apply syncHalf_step _ left
  · rw [backfill.advance_run waiting]
    rfl
  · rw [backfill.advance_run waiting, store]
    rfl

theorem syncHalf_run {party : SyncParty} {task : PipelineTask} {rest : List PipelineTask}
    (queued : state.left (.sync party) = task :: rest) :
    syncHalf ((pipeline sha256 projectors).step state (.sync party) choice) = syncHalf state ∨
      ∃ coarse, syncHalf ((pipeline sha256 projectors).step state (.sync party) choice) =
        backfill.step (syncHalf state) party coarse := by
  obtain ⟨written, added⟩ := (pipeline sha256 projectors).step_run queued choice
  have still : ∀ {next : PipelineTask},
      ((pipeline sha256 projectors).run state.store (.sync party) task choice).2 = [next] →
      next.sync? = task.sync? →
      ((pipeline sha256 projectors).run state.store (.sync party) task choice).1.jobs =
        state.store.jobs →
      syncHalf ((pipeline sha256 projectors).step state (.sync party) choice) =
        syncHalf state := by
    intro next brought same store
    refine syncHalf_still (written ▸ store) added fun backfiller equal => ?_
    obtain rfl := PipelineParty.sync.inj equal
    rw [queued, brought, List.singleton_append, List.filterMap_cons, List.filterMap_cons, same]
  have dropped : ∀ {work : BackfillTask}, task.sync? = some work →
      (∀ leaseOwner, party ≠ .worker leaseOwner) →
      ((pipeline sha256 projectors).run state.store (.sync party) task choice) =
        (state.store, []) →
      syncHalf ((pipeline sha256 projectors).step state (.sync party) choice) =
        backfill.step (syncHalf state) party choice.sync := by
    intro work waits idle nothing
    have waiting : (syncHalf state).left party = work :: rest.filterMap PipelineTask.sync? := by
      rw [syncHalf_left, queued, List.filterMap_cons_some waits]
    apply syncHalf_step _ added
    · rw [backfill.advance_run waiting, nothing]
      cases party with
      | worker leaseOwner => exact absurd rfl (idle leaseOwner)
      | reaper | requester => rfl
    · rw [backfill.advance_run waiting, written, nothing]
      cases party with
      | worker leaseOwner => exact absurd rfl (idle leaseOwner)
      | reaper | requester => rfl
  cases party with
  | reaper | requester =>
      cases task with
      | sync work => exact .inr ⟨_, dropped rfl (fun _ same => by cases same) rfl⟩
      | append work => exact .inr ⟨_, dropped rfl (fun _ same => by cases same) rfl⟩
      | intake work =>
          refine .inl (syncHalf_still (by rw [written]; rfl) added fun backfiller equal => ?_)
          obtain rfl := PipelineParty.sync.inj equal
          rw [queued]
          rfl
  | worker leaseOwner =>
      cases task with
      | intake work =>
          refine .inl (syncHalf_still (by rw [written]; rfl) added fun backfiller equal => ?_)
          obtain rfl := PipelineParty.sync.inj equal
          rw [queued]
          rfl
      | append work =>
          have came : Appended work choice state.store.intake
              (BackfillWorker.appendNext work choice state.store.intake) :=
            appendNext_appended work choice state.store.intake
          have comes : ∀ answer, (BackfillWorker.appendNext work choice state.store.intake).2 =
              BackfillWorker.settled work.job work.pages choice answer work.rest →
              syncHalf ((pipeline sha256 projectors).step state (.sync (.worker leaseOwner))
                choice) = backfill.step (syncHalf state) (.worker leaseOwner)
                  { choice.sync with slice := answer } := by
            intro answer settles
            refine settled_step queued rfl (by rw [written]; rfl) ?_
            rw [added]
            exact congrArg (fun next => [next] ++ rest) settles
          generalize result : BackfillWorker.appendNext work choice state.store.intake = next
            at came comes
          cases came with
          | done all => exact .inr ⟨_, comes _ rfl⟩
          | gaveUp left fails => exact .inr ⟨_, comes _ rfl⟩
          | appended input inputs added listed =>
              exact .inl (still (congrArg (fun next => [Prod.snd next]) result) rfl rfl)
      | sync work =>
          obtain ⟨step, jobs⟩ := work
          by_cases asking : ∃ job cursor pages, step = .page job cursor pages
          · obtain ⟨job, cursor, pages, rfl⟩ := asking
            have asked := askPage_asked sha256 job cursor pages choice jobs
            have comes : ∀ answer, BackfillWorker.askPage sha256 job cursor pages choice jobs =
                BackfillWorker.settled job pages choice answer jobs →
                syncHalf ((pipeline sha256 projectors).step state (.sync (.worker leaseOwner))
                  choice) = backfill.step (syncHalf state) (.worker leaseOwner)
                    { choice.sync with slice := answer } := by
              intro answer settles
              refine settled_step queued rfl (by rw [written]; rfl) ?_
              rw [added]
              exact congrArg (fun next => [next] ++ rest) settles
            generalize result : BackfillWorker.askPage sha256 job cursor pages choice jobs = next
              at asked comes
            cases asked with
            | noEdge missing => exact .inr ⟨_, comes _ rfl⟩
            | failed error refused => exact .inr ⟨_, comes _ rfl⟩
            | answered page served => exact .inl (still (congrArg (fun next => [next]) result) rfl rfl)
          · have plain := walkStep_plain sha256 leaseOwner jobs choice state.store.jobs
              fun job cursor pages same => asking ⟨job, cursor, pages, same⟩
            have waiting : (syncHalf state).left (.worker leaseOwner) =
                ⟨step, jobs⟩ :: rest.filterMap PipelineTask.sync? := by
              rw [syncHalf_left, queued]
              rfl
            refine .inr ⟨choice.sync, syncHalf_step ?_ added ?_⟩
            · rw [written, backfill.advance_run waiting]
              exact congrArg Prod.fst plain
            · rw [backfill.advance_run waiting, List.filterMap_append]
              refine congrArg (· ++ rest.filterMap PipelineTask.sync?) ?_
              refine (congrArg (fun next => next.2.filterMap PipelineTask.sync?) plain).trans ?_
              exact filterMap_sync _

theorem syncHalf_steps (party : PipelineParty) :
    syncHalf ((pipeline sha256 projectors).step state party choice) = syncHalf state ∨
      ∃ backfiller coarse,
        syncHalf ((pipeline sha256 projectors).step state party choice) =
          backfill.step (syncHalf state) backfiller coarse := by
  cases party with
  | intake party =>
      refine .inl (syncHalf_still ?_ rfl fun _ same => by cases same)
      cases queued : state.left (.intake party) with
      | nil => rw [((pipeline sha256 projectors).step_start queued choice).1]; rfl
      | cons task rest =>
          rw [((pipeline sha256 projectors).step_run queued choice).1]
          cases task <;> rfl
  | sync party =>
      cases queued : state.left (.sync party) with
      | nil =>
          obtain ⟨written, added⟩ := (pipeline sha256 projectors).step_start queued choice
          have idle : (syncHalf state).left party = [] := by
            rw [syncHalf_left, queued]
            rfl
          refine .inr ⟨party, choice.sync, syncHalf_step ?_ added ?_⟩
          · rw [written, backfill.advance_start idle]
            rfl
          · rw [backfill.advance_start idle]
            exact filterMap_sync _
      | cons task rest =>
          rcases syncHalf_run queued with same | ⟨coarse, step⟩
          · exact .inl same
          · exact .inr ⟨party, coarse, step⟩

end SyncHalf

/-! ### The inbound ledger -/

section IntakeHalf

variable {state : PipelineState Inbox} {choice : PipelineChoice Oracle}

def keepsTasks : IntakeParty → Bool
  | .ingest _ => false
  | .worker _ | .reaper | .operator => true

theorem intakeHalf_left (state : PipelineState Inbox) {party : IntakeParty}
    (keeps : keepsTasks party = true) :
    (intakeHalf state).left party =
      (state.left (.intake party)).filterMap PipelineTask.intake? := by
  cases party with
  | ingest id => contradiction
  | worker | reaper | operator => rfl

theorem intakeHalf_ingest (state : PipelineState Inbox) (id : Nat) :
    (intakeHalf state).left (.ingest id) = [] := rfl

theorem intakeHalf_eq {party : IntakeParty} {coarse : IntakeChoice Json Oracle}
    {after : PipelineState Inbox}
    (store : after.store.intake =
      ((intake projectors).advance (intakeHalf state) party coarse).1)
    (here : (intakeHalf after).left party =
      ((intake projectors).advance (intakeHalf state) party coarse).2)
    (others : ∀ other, other ≠ party →
      (intakeHalf after).left other = (intakeHalf state).left other) :
    intakeHalf after = (intake projectors).step (intakeHalf state) party coarse := by
  apply crewState_eq store
  intro other
  by_cases same : other = party
  · subst same
    rw [here, (intake projectors).left_step_self]
  · rw [others other same, Crew.left_step_of_ne _ _ _ same]

theorem intakeHalf_others {party : PipelineParty} {other : IntakeParty}
    (different : PipelineParty.intake other ≠ party) :
    (intakeHalf ((pipeline sha256 projectors).step state party choice)).left other =
      (intakeHalf state).left other := by
  by_cases keeps : keepsTasks other = true
  · rw [intakeHalf_left _ keeps, intakeHalf_left _ keeps, Crew.left_step_of_ne _ _ _ different]
  · cases other with
    | ingest id => rfl
    | worker | reaper | operator => exact absurd rfl keeps

theorem intakeHalf_append {party : SyncParty} {input : InboundEventInput Json} {now : Int}
    (store : ((pipeline sha256 projectors).step state (.sync party) choice).store.intake =
      { state.store.intake with
        events := (Inbound.InboundEventRepository.insertIgnoringDuplicate input now
          state.store.intake.events).2 }) :
    intakeHalf ((pipeline sha256 projectors).step state (.sync party) choice) =
      (intake projectors).step (intakeHalf state) (.ingest 0)
        { choice.intake with input := input, now := now, fails := false } := by
  apply intakeHalf_eq
  · rw [store, (intake projectors).advance_start (intakeHalf_ingest state 0)]
    rfl
  · rw [(intake projectors).advance_start (intakeHalf_ingest state 0)]
    rfl
  · exact fun other _ => intakeHalf_others fun same => by cases same

theorem intakeHalf_still {party : PipelineParty}
    (store : ((pipeline sha256 projectors).step state party choice).store.intake =
      state.store.intake)
    (left : ∀ other, party = .intake other → keepsTasks other = true →
      (((pipeline sha256 projectors).step state party choice).left party).filterMap
          PipelineTask.intake? = (state.left party).filterMap PipelineTask.intake?) :
    intakeHalf ((pipeline sha256 projectors).step state party choice) = intakeHalf state := by
  apply crewState_eq store
  intro other
  by_cases here : PipelineParty.intake other = party
  · by_cases keeps : keepsTasks other = true
    · rw [intakeHalf_left _ keeps, intakeHalf_left _ keeps, here]
      exact left other here.symm keeps
    · cases other with
      | ingest id => rfl
      | worker | reaper | operator => exact absurd rfl keeps
  · exact intakeHalf_others here

theorem intakeHalf_steps (party : PipelineParty) :
    intakeHalf ((pipeline sha256 projectors).step state party choice) = intakeHalf state ∨
      ∃ worker coarse, intakeHalf ((pipeline sha256 projectors).step state party choice) =
        (intake projectors).step (intakeHalf state) worker coarse := by
  cases party with
  | sync party =>
      have apart : ∀ other, PipelineParty.sync party = .intake other → keepsTasks other = true →
          (((pipeline sha256 projectors).step state (.sync party) choice).left
            (.sync party)).filterMap PipelineTask.intake? =
            (state.left (.sync party)).filterMap PipelineTask.intake? :=
        fun _ same => by cases same
      cases queued : state.left (.sync party) with
      | nil =>
          refine .inl (intakeHalf_still ?_ apart)
          rw [((pipeline sha256 projectors).step_start queued choice).1]
          rfl
      | cons task rest =>
          have written := ((pipeline sha256 projectors).step_run queued choice).1
          cases party with
          | reaper | requester =>
              refine .inl (intakeHalf_still ?_ apart)
              rw [written]
              cases task <;> rfl
          | worker leaseOwner =>
              cases task with
              | sync work | intake work =>
                  refine .inl (intakeHalf_still ?_ apart)
                  rw [written]
                  rfl
              | append work =>
                  have came := appendNext_appended work choice state.store.intake
                  have store := congrArg Pipeline.intake written
                  change _ = (BackfillWorker.appendNext work choice state.store.intake).1 at store
                  generalize BackfillWorker.appendNext work choice state.store.intake = next
                    at came store
                  cases came with
                  | done all => exact .inl (intakeHalf_still store apart)
                  | gaveUp left fails => exact .inl (intakeHalf_still store apart)
                  | appended input inputs added listed =>
                      exact .inr ⟨_, _, intakeHalf_append store⟩
  | intake party =>
      have others : ∀ other, other ≠ party →
          (intakeHalf ((pipeline sha256 projectors).step state (.intake party) choice)).left
            other = (intakeHalf state).left other := by
        intro other different
        exact intakeHalf_others fun same => different (PipelineParty.intake.inj same)
      cases queued : state.left (.intake party) with
      | nil =>
          obtain ⟨written, added⟩ := (pipeline sha256 projectors).step_start queued choice
          have idle : (intakeHalf state).left party = [] := by
            by_cases keeps : keepsTasks party = true
            · rw [intakeHalf_left _ keeps, queued]
              rfl
            · cases party with
              | ingest id => rfl
              | worker | reaper | operator => exact absurd rfl keeps
          refine .inr ⟨party, choice.intake, intakeHalf_eq ?_ ?_ others⟩
          · rw [written, (intake projectors).advance_start idle]
            rfl
          · rw [(intake projectors).advance_start idle]
            by_cases keeps : keepsTasks party = true
            · rw [intakeHalf_left _ keeps, added]
              exact filterMap_intake _
            · cases party with
              | ingest id => rfl
              | worker | reaper | operator => exact absurd rfl keeps
      | cons task rest =>
          obtain ⟨written, added⟩ := (pipeline sha256 projectors).step_run queued choice
          cases task with
          | sync work | append work =>
              refine .inl (intakeHalf_still (by rw [written]; rfl) fun other same keeps => ?_)
              rw [added, queued]
              rfl
          | intake work =>
              by_cases keeps : keepsTasks party = true
              · have waiting : (intakeHalf state).left party =
                    work :: rest.filterMap PipelineTask.intake? := by
                  rw [intakeHalf_left _ keeps, queued]
                  rfl
                refine .inr ⟨party, choice.intake, intakeHalf_eq ?_ ?_ others⟩
                · rw [written, (intake projectors).advance_run waiting]
                  rfl
                · rw [(intake projectors).advance_run waiting, intakeHalf_left _ keeps, added,
                    List.filterMap_append]
                  exact congrArg (· ++ rest.filterMap PipelineTask.intake?) (filterMap_intake _)
              · refine .inl (intakeHalf_still ?_ fun other same works => ?_)
                · rw [written]
                  cases party with
                  | ingest id => rfl
                  | worker | reaper | operator => exact absurd rfl keeps
                · exact absurd (PipelineParty.intake.inj same ▸ works) keeps

end IntakeHalf

/-! ### Every run -/

/-- Whatever steps a run of the pipeline takes, its sync-job ledger is reached by a run of the
backfill machine, and its inbound ledger by a run of the ledger's own. -/
theorem pipeline_projects (sha256 : String → String) (projectors : Projector Inbox Json Oracle)
    {before after : PipelineState Inbox}
    (reached : (pipeline sha256 projectors).Reaches (fun _ _ _ => True) before after) :
    backfill.Reaches (fun _ _ _ => True) (syncHalf before) (syncHalf after) ∧
      (intake projectors).Reaches (fun _ _ _ => True) (intakeHalf before)
        (intakeHalf after) := by
  constructor
  · refine Relation.ReflTransGen.lift' syncHalf (fun state later stepped => ?_) _ _ reached
    obtain ⟨party, choice, -, rfl⟩ := stepped
    rcases syncHalf_steps party with same | ⟨backfiller, coarse, step⟩
    · rw [Function.onFun, same]
    · exact .single ⟨backfiller, coarse, trivial, step⟩
  · refine Relation.ReflTransGen.lift' intakeHalf (fun state later stepped => ?_) _ _ reached
    obtain ⟨party, choice, -, rfl⟩ := stepped
    rcases intakeHalf_steps party with same | ⟨worker, coarse, step⟩
    · rw [Function.onFun, same]
    · exact .single ⟨worker, coarse, trivial, step⟩

def walkedPost : GraphFeedPost where
  id := "post"
  message := some "hello"
  story := none
  permalinkUrl := none
  createdTime := none
  statusType := none
  commentTotal := none
  reactionTotal := none
  shareCount := none
  fullPicture := none
  attachmentImage := none
  attachmentType := none
  comments := []

def walkedChannel : WalkChannel := ⟨.facebook, "page", none⟩

def askedPosts : EnqueueSyncInput := ⟨1, 1, .backfillPosts, .manual, none⟩

def walkChoice (now : Int) (answer : GraphAnswer) : PipelineChoice Unit where
  sync :=
    { now := now
      jitter := 0
      pressure := 0
      batchSize := 1
      leaseSeconds := 60
      skipped := []
      channel := some ⟨.facebook, none, some "token", false⟩
      decrypts := true
      slice := .failed .other
      input := askedPosts
      fails := false }
  intake :=
    { now := now
      jitter := 0
      batchSize := 1
      leaseSeconds := 60
      skipped := []
      channel := none
      oracle := ()
      input := ⟨none, none, .facebook, .comment, "", .null, none⟩
      replays := 0
      fails := false }
  channel := walkedChannel
  today := ""
  answer := answer

def walkTurn (now : Int) (answer : GraphAnswer) : PipelineParty × PipelineChoice Unit :=
  (.sync (.worker 7), walkChoice now answer)

def plainTurn (now : Int) : PipelineParty × PipelineChoice Unit := walkTurn now (.failed .other)

def idleProjectors : Projector Unit Json Unit := fun _ _ _ _ _ inbox => (inbox, none)

/-- A job that is claimed, and one post of its page that is appended. -/
theorem pipeline_projects_walk :
    (Inbound.intake idleProjectors).Reaches (fun _ _ _ => True)
      (intakeHalf (Crew.idle ⟨.empty, .start ()⟩))
      (intakeHalf ((pipeline id idleProjectors).after (Crew.idle ⟨.empty, .start ()⟩)
        [(.sync (.requester 0), walkChoice 0 (.failed .other)), plainTurn 1, plainTurn 2,
          plainTurn 3, walkTurn 4 (.edge ⟨[.post walkedPost], none, false⟩), plainTurn 5])) :=
  (pipeline_projects id idleProjectors (Crew.Permits.always _ _).reaches).2

end UnifiedService.Sync
