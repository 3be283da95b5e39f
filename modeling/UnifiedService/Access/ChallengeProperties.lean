import UnifiedService.Access.Challenges
import UnifiedService.Access.DatabaseProperties

/-! A challenge is bounded and single-use: whatever is issued, resent and verified at the
same time, statement by statement. -/

set_option autoImplicit false

namespace UnifiedService.Access

open UnifiedService.Library

/-! ### An issue alone -/

section Alone

variable {runtime : Runtime} {db : AccessDb}

theorem commitIssue_liveIds (issue : Issue) :
    db.commitIssue runtime issue (db.liveIds issue.input) =
      { db with
        verifications := (db.supersedeLive issue.input issue.now).verifications.insert
          (AccessDb.newVerification issue.input (runtime.hashSecret issue.secret) issue.now)
        trail := .sent db.verifications.nextId issue.input.destination issue.secret ::
          db.trail } := by
  rw [supersedeLive_verifications]
  rfl

theorem liveIds_supersedeLive (input : IssueVerificationInput) (now : Int) :
    (db.supersedeLive input now).liveIds input = [] := by
  rw [List.eq_nil_iff_forall_not_mem]
  intro id listed
  obtain ⟨row, found, live, same⟩ := mem_liveIds.mp listed
  rw [supersedeLive_verifications, Table.get?_updateWhere] at found
  obtain ⟨old, there, rfl⟩ := Option.map_eq_some_iff.mp found
  split at live
  · simp [AccessDb.isLive] at live
  · next spared =>
      rw [if_neg spared] at same
      exact spared (List.contains_iff_mem.mpr (mem_liveIds.mpr ⟨old, there, live, same⟩))

theorem issue_alone (input : IssueVerificationInput) (resendOf : Option Nat)
    (choice : AccessChoice) :
    ∃ outcome next, VerificationService.issue runtime input resendOf choice db =
        .ok (outcome, next) ∧
      (issueProgram runtime).alone () 4 db (.find
        { input
          secret := mintSecret runtime input.verificationKind.config.secretShape choice.random
          now := choice.now }) = some next := by
  have free : (db.supersedeLive input choice.now).verifications.rows.any (fun verification =>
      AccessDb.isLive verification && AccessDb.sameChallenge verification input) = false := by
    rw [List.any_eq_false]
    intro row member holds
    obtain ⟨id, found⟩ := Table.mem_rows_iff.mp member
    rw [Bool.and_eq_true, sameChallenge_iff] at holds
    have listed := mem_liveIds.mpr ⟨row, found, holds⟩
    rw [liveIds_supersedeLive] at listed
    exact List.not_mem_nil listed
  have success : ∃ outcome next,
      VerificationService.issue runtime input resendOf choice db = .ok (outcome, next) := by
    simp only [VerificationService.issue, AccessDb.createVerification, free]
    exact ⟨_, _, rfl⟩
  obtain ⟨outcome, next, issued⟩ := success
  refine ⟨outcome, next, issued, ?_⟩
  obtain ⟨-, rfl⟩ := issue_ok issued
  have all : (db.liveIds input).filter (fun id => (db.liveIds input).contains id) =
      db.liveIds input :=
    List.filter_eq_self.mpr fun id listed => List.contains_iff_mem.mpr listed
  have own : (db.liveIds input).all (db.liveIds input).contains = true :=
    List.all_eq_true.mpr fun id listed => List.contains_iff_mem.mpr listed
  have created : ∀ issue : Issue, issue.input = input →
      (issueProgram runtime).statement db (.create issue
        ((db.liveIds issue.input).filter fun id => (db.liveIds issue.input).contains id)) () =
        .continues (.commit issue (db.liveIds issue.input)) := by
    rintro issue rfl
    simp only [issueProgram, IssueState.statement, all, own, if_true]
  rw [TransactionProgram.alone_continues rfl, TransactionProgram.alone_continues rfl,
    TransactionProgram.alone_continues (created _ rfl), TransactionProgram.alone_commits rfl]
  exact congrArg some (commitIssue_liveIds _)

end Alone

/-! ### What one statement does -/

inductive SingleChange (db : AccessDb) : AccessDb → Prop where
  | same : SingleChange db db
  | spent (id : Nat) (row : VerificationRow) (found : db.verifications.get? id = some row)
      (budget : row.attemptCount < row.maxAttempts) :
      SingleChange db { db with
        verifications := db.verifications.update id fun row =>
          { row with attemptCount := row.attemptCount + 1 } }
  | resent (id : Nat) (now : Int) : SingleChange db (db.recordResend id now)
  | consumed (id : Nat) (row : VerificationRow) (now : Int) (identityId : Option Nat)
      (destination : String) (found : db.verifications.get? id = some row)
      (live : AccessDb.isLive row = true) :
      SingleChange db { db with
        verifications := db.verifications.update id fun row =>
          { row with consumedAt := some now }
        trail := .verified id identityId destination :: db.trail }

section Statements

variable {runtime : Runtime} {choice : AccessChoice} {db next : AccessDb}

theorem single_change {task : VerificationTask} {outcome : VerificationOutcome}
    (notIssue : ∀ input resendOf, task ≠ .issue input resendOf)
    (success : VerificationService.step runtime choice task db = .ok (outcome, next)) :
    SingleChange db next := by
  cases task with
  | issue input resendOf => exact absurd rfl (notIssue input resendOf)
  | assertWithinDestinationCap input resendOf =>
      simp only [VerificationService.step, VerificationService.assertWithinDestinationCap]
        at success
      split at success
      · contradiction
      · obtain ⟨-, rfl⟩ := Prod.mk.inj (Except.ok.inj success)
        exact .same
  | resend destination kind deliveryChannel =>
      simp only [VerificationService.step, VerificationService.resend] at success
      repeat' split at success
      all_goals
        obtain ⟨-, rfl⟩ := Prod.mk.inj (Except.ok.inj success)
        exact .same
  | recordResend id =>
      obtain ⟨-, rfl⟩ := Prod.mk.inj (Except.ok.inj success)
      exact .resent id choice.now
  | verifyByDestination destination submitted kind onward =>
      simp only [VerificationService.step, VerificationService.verifyByDestination] at success
      split at success
      · contradiction
      · obtain ⟨-, rfl⟩ := Prod.mk.inj (Except.ok.inj success)
        exact .same
  | verify id submitted kind onward =>
      simp only [VerificationService.step, VerificationService.verify] at success
      split at success
      · contradiction
      · split at success
        · contradiction
        · obtain ⟨-, rfl⟩ := Prod.mk.inj (Except.ok.inj success)
          exact .same
  | spendAttempt verification submitted onward =>
      simp only [VerificationService.step, VerificationService.spendAttempt] at success
      split at success
      · contradiction
      · next attempts after spent =>
          obtain ⟨row, found, budget, -, rfl⟩ := spendAttempt_ok spent
          obtain ⟨-, rfl⟩ := Prod.mk.inj (Except.ok.inj success)
          exact .spent verification.id row found budget
  | compareSecret verification attempts submitted onward =>
      simp only [VerificationService.step, VerificationService.compareSecret] at success
      repeat' split at success
      all_goals first
        | contradiction
        | (obtain ⟨-, rfl⟩ := Prod.mk.inj (Except.ok.inj success)
           exact .same)
  | consume verification onward =>
      simp only [VerificationService.step, VerificationService.consume] at success
      split at success
      · contradiction
      · next after consumed =>
          obtain ⟨row, found, live, rfl⟩ := consume_ok consumed
          obtain ⟨-, rfl⟩ := Prod.mk.inj (Except.ok.inj success)
          exact .consumed verification.id row choice.now _ _ found live

end Statements

/-! ### What stays of a row -/

structure Onward (row later : VerificationRow) : Prop where
  key : later.challengeKey = row.challengeKey
  createdAt : later.createdAt = row.createdAt
  maxAttempts : later.maxAttempts = row.maxAttempts
  attempts : row.attemptCount ≤ later.attemptCount
  budget : row.attemptCount ≤ row.maxAttempts → later.attemptCount ≤ later.maxAttempts
  live : AccessDb.isLive later = true → AccessDb.isLive row = true
  superseded : row.supersededAt.isSome = true → later.supersededAt.isSome = true
  consumed : row.consumedAt.isSome = true → later.consumedAt.isSome = true

theorem Onward.refl (row : VerificationRow) : Onward row row :=
  ⟨rfl, rfl, rfl, Nat.le_refl _, id, id, id, id⟩

def verifiedOf (id : Nat) : AccessEvent → Bool
  | .verified verificationId _ _ => verificationId == id
  | _ => false

def AccessDb.successes (db : AccessDb) (id : Nat) : Nat := db.trail.countP (verifiedOf id)

section Changes

variable {runtime : Runtime} {db next : AccessDb}

theorem SingleChange.kept (change : SingleChange db next) :
    Table.Kept Onward db.verifications next.verifications := by
  cases change with
  | same => exact .refl .refl _
  | spent id row found budget =>
      intro other old there
      by_cases same : id = other
      · subst same
        obtain rfl := Option.some.inj (found.symm.trans there)
        refine ⟨{ row with attemptCount := row.attemptCount + 1 }, ?_, rfl, rfl, rfl,
          Nat.le_succ _, fun _ => budget, fun live => live, fun stays => stays, fun stays => stays⟩
        rw [Table.get?_update_self, found, Option.map_some]
      · exact ⟨old, by rw [Table.get?_update_of_ne _ _ same, there], .refl old⟩
  | resent id now =>
      exact .update .refl _ id fun row =>
        ⟨rfl, rfl, rfl, Nat.le_refl _, fun within => within, fun live => live,
          fun stays => stays, fun stays => stays⟩
  | consumed id row now identityId destination found live =>
      refine .update .refl _ id fun row =>
        ⟨rfl, rfl, rfl, Nat.le_refl _, fun within => within, fun live => ?_,
          fun stays => stays, fun _ => rfl⟩
      simp [AccessDb.isLive] at live

theorem SingleChange.nextId (change : SingleChange db next) :
    next.verifications.nextId = db.verifications.nextId := by
  cases change <;> simp [AccessDb.recordResend]

theorem SingleChange.successes (change : SingleChange db next) (id : Nat) :
    next.successes id = db.successes id ∨
      next.successes id = db.successes id + 1 ∧
      (∃ row, db.verifications.get? id = some row ∧ AccessDb.isLive row = true) ∧
      ∃ later, next.verifications.get? id = some later ∧ later.consumedAt.isSome = true := by
  cases change with
  | same => exact .inl rfl
  | spent other row found budget => exact .inl rfl
  | resent other now => exact .inl rfl
  | consumed other row now identityId destination found live =>
      by_cases same : other = id
      · subst same
        refine .inr ⟨by simp [AccessDb.successes, verifiedOf], ⟨row, found, live⟩,
          { row with consumedAt := some now }, ?_, rfl⟩
        rw [Table.get?_update_self, found, Option.map_some]
      · left
        simp [AccessDb.successes, verifiedOf, same]

theorem commitIssue_kept (runtime : Runtime) (issue : Issue) (superseded : List Nat) :
    Table.Kept Onward db.verifications
      (db.commitIssue runtime issue superseded).verifications := by
  intro id row found
  have replaced := Table.get?_updateWhere db.verifications (fun id _ => superseded.contains id)
    (fun verification => { verification with supersededAt := some issue.now }) id
  rw [found, Option.map_some] at replaced
  refine ⟨_, Table.get?_insert_of_some _ replaced, ?_⟩
  split
  · refine ⟨rfl, rfl, rfl, Nat.le_refl _, fun within => within, fun live => ?_, fun _ => rfl,
      fun stays => stays⟩
    simp [AccessDb.isLive] at live
  · exact .refl row

@[simp] theorem successes_commitIssue (issue : Issue) (superseded : List Nat) (id : Nat) :
    (db.commitIssue runtime issue superseded).successes id = db.successes id := by
  simp [AccessDb.successes, AccessDb.commitIssue, verifiedOf]

theorem get?_commitIssue {issue : Issue} {superseded : List Nat} {id : Nat}
    {row : VerificationRow}
    (found : (db.commitIssue runtime issue superseded).verifications.get? id = some row) :
    (id = db.verifications.nextId ∧ row =
      AccessDb.newVerification issue.input (runtime.hashSecret issue.secret) issue.now) ∨
    ∃ old, db.verifications.get? id = some old ∧ Onward old row ∧
      (id ∈ superseded → AccessDb.isLive row = false) := by
  have bound : id < db.verifications.nextId ∨ id = db.verifications.nextId := by
    have within := Table.get?_lt found
    simp only [AccessDb.commitIssue, Table.nextId_insert, Table.nextId_updateWhere] at within
    exact Nat.lt_succ_iff_lt_or_eq.mp within
  rcases bound with old | rfl
  · right
    obtain ⟨before, there⟩ := Option.isSome_iff_exists.mp (Table.get?_isSome_iff.mpr old)
    obtain ⟨later, again, onward⟩ :=
      commitIssue_kept runtime issue superseded id before there
    obtain rfl := Option.some.inj (found.symm.trans again)
    refine ⟨before, there, onward, fun listed => ?_⟩
    rw [AccessDb.commitIssue] at found
    have replaced := Table.get?_updateWhere db.verifications
      (fun id _ => superseded.contains id)
      (fun verification => { verification with supersededAt := some issue.now }) id
    rw [there, Option.map_some, if_pos (List.contains_iff_mem.mpr listed)] at replaced
    rw [Table.get?_insert_of_some _ replaced] at found
    rw [← Option.some.inj found]
    simp [AccessDb.isLive]
  · left
    have last : (db.commitIssue runtime issue superseded).verifications.get?
        db.verifications.nextId =
          some (AccessDb.newVerification issue.input (runtime.hashSecret issue.secret)
            issue.now) := by
      rw [AccessDb.commitIssue, Table.get?_insert, if_pos (by simp)]
    exact ⟨rfl, Option.some.inj (found.symm.trans last)⟩

end Changes

/-! ### One live challenge, one success -/

structure ChallengesHold (db : AccessDb) : Prop where
  within : ∀ id row, db.verifications.get? id = some row → row.attemptCount ≤ row.maxAttempts
  unique : ∀ id other row twin, db.verifications.get? id = some row →
    db.verifications.get? other = some twin → AccessDb.isLive row = true →
    AccessDb.isLive twin = true → row.challengeKey = twin.challengeKey → id = other
  once : ∀ id, db.successes id ≤ 1
  spent : ∀ id, 0 < db.successes id → ∃ row, db.verifications.get? id = some row ∧
    row.consumedAt.isSome = true

/-- An issue that is about to commit holds its entry of the index, and supersedes every
live row in its way. -/
def IssueReady (db : AccessDb) (state : IssueState) (locks : List ChallengeLock) : Prop :=
  match state with
  | .commit issue superseded =>
      .entry issue.input.challengeKey ∈ locks ∧ ∀ id ∈ db.liveIds issue.input, id ∈ superseded
  | .find _ | .supersede _ _ | .create _ _ => True

section Invariant

variable {runtime : Runtime} {db next : AccessDb}

theorem ChallengesHold.single (hold : ChallengesHold db) (change : SingleChange db next) :
    ChallengesHold next := by
  have origin : ∀ id later, next.verifications.get? id = some later →
      ∃ row, db.verifications.get? id = some row ∧ Onward row later :=
    fun id later found => change.kept.origin change.nextId found
  constructor
  · intro id later found
    obtain ⟨row, there, onward⟩ := origin id later found
    exact onward.budget (hold.within id row there)
  · intro id other row twin found there live lively same
    obtain ⟨row, found, onward⟩ := origin id row found
    obtain ⟨twin, there, forth⟩ := origin other twin there
    exact hold.unique id other row twin found there (onward.live live) (forth.live lively)
      (onward.key.symm.trans (same.trans forth.key))
  · intro id
    rcases change.successes id with same | ⟨more, ⟨row, found, live⟩, -⟩
    · rw [same]
      exact hold.once id
    · -- The row was live, so it had not been consumed before.
      have none : db.successes id = 0 := by
        by_contra some
        obtain ⟨row', found', consumed⟩ := hold.spent id (Nat.pos_of_ne_zero some)
        obtain rfl := Option.some.inj (found.symm.trans found')
        rw [AccessDb.isLive, Bool.and_eq_true, Option.isNone_iff_eq_none] at live
        rw [live.1] at consumed
        contradiction
      omega
  · intro id positive
    rcases change.successes id with same | ⟨-, -, later⟩
    · obtain ⟨row, found, consumed⟩ := hold.spent id (same ▸ positive)
      obtain ⟨later, there, onward⟩ := change.kept id row found
      exact ⟨later, there, onward.consumed consumed⟩
    · exact later

theorem ChallengesHold.commit {issue : Issue} {superseded : List Nat}
    (hold : ChallengesHold db) (all : ∀ id ∈ db.liveIds issue.input, id ∈ superseded) :
    ChallengesHold (db.commitIssue runtime issue superseded) := by
  -- No old row under the new one's key is live any more.
  have cleared : ∀ id old row, db.verifications.get? id = some old → Onward old row →
      (id ∈ superseded → AccessDb.isLive row = false) → AccessDb.isLive row = true →
      row.challengeKey ≠ issue.input.challengeKey := by
    intro id old row found onward out live same
    have listed := all id (mem_liveIds.mpr
      ⟨old, found, onward.live live, onward.key.symm.trans same⟩)
    rw [out listed] at live
    contradiction
  constructor
  · intro id row found
    rcases get?_commitIssue found with ⟨-, rfl⟩ | ⟨old, before, onward, -⟩
    · exact Nat.zero_le _
    · exact onward.budget (hold.within id old before)
  · intro id other row twin found there live lively same
    rcases get?_commitIssue found with ⟨rfl, rfl⟩ | ⟨old, before, onward, out⟩ <;>
      rcases get?_commitIssue there with ⟨rfl, rfl⟩ | ⟨old', before', forth, out'⟩
    · rfl
    · exact absurd same.symm (cleared other old' twin before' forth out' lively)
    · exact absurd same (cleared id old row before onward out live)
    · exact hold.unique id other old old' before before' (onward.live live)
        (forth.live lively) (onward.key.symm.trans (same.trans forth.key))
  · intro id
    rw [successes_commitIssue]
    exact hold.once id
  · intro id positive
    rw [successes_commitIssue] at positive
    obtain ⟨row, found, consumed⟩ := hold.spent id positive
    obtain ⟨later, there, onward⟩ := commitIssue_kept runtime issue superseded id row found
    exact ⟨later, there, onward.consumed consumed⟩

theorem IssueReady.single {state : IssueState} {locks : List ChallengeLock}
    (change : SingleChange db next) (ready : IssueReady db state locks) :
    IssueReady next state locks := by
  cases state with
  | commit issue superseded =>
      refine ⟨ready.1, fun id listed => ready.2 id ?_⟩
      obtain ⟨later, found, live, same⟩ := mem_liveIds.mp listed
      obtain ⟨row, there, onward⟩ := change.kept.origin change.nextId found
      exact mem_liveIds.mpr ⟨row, there, onward.live live, onward.key.symm.trans same⟩
  | _ => trivial

theorem IssueReady.commit {issue : Issue} {superseded : List Nat} {state : IssueState}
    {locks : List ChallengeLock} (apart : .entry issue.input.challengeKey ∉ locks)
    (ready : IssueReady db state locks) :
    IssueReady (db.commitIssue runtime issue superseded) state locks := by
  cases state with
  | commit other others =>
      refine ⟨ready.1, fun id listed => ready.2 id ?_⟩
      obtain ⟨row, found, live, same⟩ := mem_liveIds.mp listed
      rcases get?_commitIssue found with ⟨-, rfl⟩ | ⟨old, before, onward, -⟩
      · have entry : issue.input.challengeKey = other.input.challengeKey := same
        exact absurd (entry ▸ ready.1) apart
      · exact mem_liveIds.mpr ⟨old, before, onward.live live, onward.key.symm.trans same⟩
  | _ => trivial

theorem statement_commits {state : IssueState}
    (committed : state.statement runtime db = .commits next) :
    ∃ issue superseded, state = .commit issue superseded ∧
      next = db.commitIssue runtime issue superseded := by
  cases state with
  | find issue => cases committed
  | supersede issue found => cases committed
  | create issue superseded =>
      rw [IssueState.statement] at committed
      split at committed <;> cases committed
  | commit issue superseded =>
      exact ⟨issue, superseded, rfl, (Outcome.commits.inj committed).symm⟩

theorem advance_challenges {server : Server AccessDb IssueState ChallengeLock} (id : Nat)
    (keeps : Server.Keeps ChallengesHold IssueReady server) :
    Server.Keeps ChallengesHold IssueReady (server.advance (issueProgram runtime) id ()) := by
  refine keeps.advance ?_ ?_
  · intro store state locks _ next hold ready result
    cases state with
    | find issue =>
        cases result
        trivial
    | supersede issue found =>
        cases result
        trivial
    | create issue superseded =>
        simp only [issueProgram, IssueState.statement] at result
        split at result
        · next all =>
            cases result
            refine ⟨List.mem_append_right _ List.mem_cons_self, fun other listed => ?_⟩
            exact List.contains_iff_mem.mp (List.all_eq_true.mp all other listed)
        · cases result
    | commit issue superseded => cases result
  · intro store state locks _ next hold ready result
    obtain ⟨issue, superseded, rfl, rfl⟩ := statement_commits result
    refine ⟨hold.commit ready.2, fun other otherLocks disjoint waits => ?_⟩
    exact waits.commit fun listed => disjoint ready.1 listed

end Invariant

/-! ### Attempts -/

def AccessDb.attempts (db : AccessDb) (id : Nat) : Nat :=
  ((db.verifications.get? id).map (·.attemptCount)).getD 0

section Attempts

variable {runtime : Runtime} {choice : AccessChoice} {db next : AccessDb}

theorem attempts_of_kept (kept : Table.Kept Onward db.verifications next.verifications)
    (id : Nat) : db.attempts id ≤ next.attempts id := by
  unfold AccessDb.attempts
  cases found : db.verifications.get? id with
  | none => exact Nat.zero_le _
  | some row =>
      obtain ⟨later, there, onward⟩ := kept id row found
      rw [there]
      exact onward.attempts

theorem step_compares {task : VerificationTask} {tasks : List VerificationTask}
    (notIssue : ∀ input resendOf, task ≠ .issue input resendOf)
    (success : VerificationService.step runtime choice task db = .ok (.continues tasks, next))
    (id : Nat) :
    (tasks.flatMap VerificationTask.compares).count id + db.attempts id ≤ next.attempts id := by
  have kept := attempts_of_kept (single_change notIssue success).kept id
  cases task with
  | spendAttempt verification submitted onward =>
      simp only [VerificationService.step, VerificationService.spendAttempt] at success
      split at success
      · contradiction
      · next attempts after spent =>
          obtain ⟨row, found, -, -, rfl⟩ := spendAttempt_ok spent
          obtain ⟨same, rfl⟩ := Prod.mk.inj (Except.ok.inj success)
          obtain rfl := VerificationOutcome.continues.inj same
          by_cases here : verification.id = id
          · subst here
            simp [VerificationTask.compares, AccessDb.attempts, found, Nat.add_comm]
          · simpa [VerificationTask.compares, here] using kept
  | issue input resendOf => exact absurd rfl (notIssue input resendOf)
  | _ =>
      suffices nothing : tasks.flatMap VerificationTask.compares = [] by
        rw [nothing]
        simpa using kept
      simp only [VerificationService.step, VerificationService.assertWithinDestinationCap,
        VerificationService.resend, VerificationService.verifyByDestination,
        VerificationService.verify, VerificationService.compareSecret,
        VerificationService.consume] at success
      repeat' split at success
      all_goals first
        | contradiction
        | (obtain ⟨same, -⟩ := Prod.mk.inj (Except.ok.inj success)
           first
             | contradiction
             | (obtain rfl := VerificationOutcome.continues.inj same
                rfl))

end Attempts

/-! ### Steps of the service -/

def ChallengeTask.compares : ChallengeTask → List Nat
  | .single task => task.compares
  | .transaction _ _ _ => []

theorem weigh_single (id : Nat) (tasks : List VerificationTask) :
    Machine.weigh (fun task => task.compares.count id) (tasks.map ChallengeTask.single) =
      (tasks.flatMap VerificationTask.compares).count id := by
  induction tasks with
  | nil => rfl
  | cons task rest ih =>
      rw [List.map_cons, Machine.weigh_cons, List.flatMap_cons, List.count_append, ih]
      rfl

namespace ChallengeState

variable {runtime : Runtime} {state : ChallengeState} {choice : AccessChoice}

/-- A statement that commits by itself throws and leaves the database, or succeeds. -/
theorem perform_cases (runtime : Runtime) (state : ChallengeState) (task : VerificationTask)
    (choice : AccessChoice) :
    ((state.perform runtime task choice).1.server = state.server ∧
      (state.perform runtime task choice).2 = [] ∧
      (state.perform runtime task choice).1.underWay = state.underWay) ∨
    ∃ outcome next, VerificationService.step runtime choice task state.db = .ok (outcome, next) ∧
      (state.perform runtime task choice).1.server = { state.server with store := next } ∧
      match outcome with
      | .continues tasks =>
          (state.perform runtime task choice).2 = tasks.map .single ∧
            (state.perform runtime task choice).1.underWay =
              tasks.flatMap VerificationTask.passed ++ state.underWay
      | .verified _ _ =>
          (state.perform runtime task choice).2 = [] ∧
            (state.perform runtime task choice).1.underWay = state.underWay := by
  unfold perform
  cases result : VerificationService.step runtime choice task state.db with
  | error error =>
      left
      simp only [db] at result
      simp only [db, result, and_self]
  | ok done =>
      obtain ⟨outcome, next⟩ := done
      right
      refine ⟨outcome, next, rfl, ?_⟩
      simp only [db] at result
      cases outcome <;> simp only [db, result, and_self]

@[simp] theorem perform_compared (task : VerificationTask) :
    (state.perform runtime task choice).1.compared = task.compares ++ state.compared := by
  unfold perform
  simp only
  split <;> rfl

@[simp] theorem perform_now (task : VerificationTask) :
    (state.perform runtime task choice).1.now = state.now := by
  unfold perform
  simp only
  split <;> rfl

inductive StoreStep (runtime : Runtime) (state : ChallengeState) : AccessDb → Prop where
  | single {next : AccessDb} (change : SingleChange state.db next) :
      StoreStep runtime state next
  | issued (issue : Issue) (superseded : List Nat) :
      StoreStep runtime state (state.db.commitIssue runtime issue superseded)

theorem advance_storeStep (id : Nat) :
    StoreStep runtime state (state.server.advance (issueProgram runtime) id ()).store := by
  rcases Server.advance_store (issueProgram runtime) state.server id () with
    same | ⟨running, -, committed⟩
  · rw [same]
    exact .single .same
  · obtain ⟨issue, superseded, -, same⟩ := statement_commits committed
    rw [same]
    exact .issued issue superseded

theorem run_single_cases (runtime : Runtime) (state : ChallengeState) {task : VerificationTask}
    (choice : AccessChoice) (notIssue : ∀ input resendOf, task ≠ .issue input resendOf) :
    run runtime state (.single task) choice =
        ({ state with now := choice.now }, [.single task]) ∨
      run runtime state (.single task) choice =
        perform runtime { state with now := choice.now } task choice := by
  cases task with
  | issue input resendOf => exact absurd rfl (notIssue input resendOf)
  | _ =>
      simp only [run]
      split
      · exact .inl rfl
      · exact .inr rfl

theorem run_storeStep (runtime : Runtime) (state : ChallengeState) (task : ChallengeTask)
    (choice : AccessChoice) : StoreStep runtime state (run runtime state task choice).1.db := by
  cases task with
  | single task =>
      by_cases issues : ∃ input resendOf, task = .issue input resendOf
      · obtain ⟨input, resendOf, rfl⟩ := issues
        exact .single .same
      · have notIssue : ∀ input resendOf, task ≠ .issue input resendOf :=
          fun input resendOf same => issues ⟨input, resendOf, same⟩
        rcases run_single_cases runtime state choice notIssue with waits | runs
        · rw [waits]
          exact .single .same
        · rw [runs]
          rcases perform_cases runtime { state with now := choice.now } task choice with
            ⟨same, -⟩ | ⟨outcome, next, success, same, -⟩
          · rw [db, same]
            exact .single .same
          · rw [db, same]
            exact .single (single_change notIssue success)
  | transaction id input resendOf =>
      simp only [run, advanceIssue]
      split
      · exact advance_storeStep id
      · exact advance_storeStep id

theorem run_keeps (task : ChallengeTask)
    (keeps : Server.Keeps ChallengesHold IssueReady state.server) :
    Server.Keeps ChallengesHold IssueReady (run runtime state task choice).1.server := by
  cases task with
  | single task =>
      by_cases issues : ∃ input resendOf, task = .issue input resendOf
      · obtain ⟨input, resendOf, rfl⟩ := issues
        exact keeps.begin trivial
      · have notIssue : ∀ input resendOf, task ≠ .issue input resendOf :=
          fun input resendOf same => issues ⟨input, resendOf, same⟩
        rcases run_single_cases runtime state choice notIssue with waits | runs
        · rw [waits]
          exact keeps
        · rw [runs]
          rcases perform_cases runtime { state with now := choice.now } task choice with
            ⟨same, -⟩ | ⟨outcome, next, success, same, -⟩
          · rw [same]
            exact keeps
          · rw [same]
            have change := single_change notIssue success
            exact keeps.restore (keeps.store.single change) fun _ _ => IssueReady.single change
  | transaction id input resendOf =>
      simp only [run, advanceIssue]
      split
      · exact advance_challenges id keeps
      · exact advance_challenges id keeps

/-- The comparisons made against a row, and those still to be made, were paid for. -/
def PaidFor (id : Nat) (state : ChallengeState) (pending : Nat) : Prop :=
  state.compared.count id + pending ≤ state.db.attempts id

theorem StoreStep.kept {next : AccessDb} (step : StoreStep runtime state next) :
    Table.Kept Onward state.db.verifications next.verifications := by
  cases step with
  | single change => exact change.kept
  | issued issue superseded => exact commitIssue_kept runtime issue superseded

theorem run_paidFor (id others : Nat) (task : ChallengeTask)
    (paid : PaidFor id state (task.compares.count id + others)) :
    PaidFor id (run runtime state task choice).1
      (Machine.weigh (fun task => task.compares.count id) (run runtime state task choice).2 +
        others) := by
  have grown := attempts_of_kept (run_storeStep runtime state task choice).kept id
  unfold PaidFor at paid ⊢
  cases task with
  | single task =>
      by_cases issues : ∃ input resendOf, task = .issue input resendOf
      · obtain ⟨input, resendOf, rfl⟩ := issues
        exact paid
      · have notIssue : ∀ input resendOf, task ≠ .issue input resendOf :=
          fun input resendOf same => issues ⟨input, resendOf, same⟩
        rcases run_single_cases runtime state choice notIssue with waits | runs
        · rw [waits]
          simp only [Machine.weigh_cons, Machine.weigh_nil, Nat.add_zero]
          exact paid
        · rw [runs] at grown ⊢
          have performed : (perform runtime { state with now := choice.now } task
              choice).1.compared = task.compares ++ state.compared := perform_compared task
          rw [performed, List.count_append]
          simp only [ChallengeTask.compares] at paid
          rcases perform_cases runtime { state with now := choice.now } task choice with
            ⟨-, nothing, -⟩ | ⟨outcome, next, success, same, left⟩
          · rw [nothing, Machine.weigh_nil]
            omega
          · cases outcome with
            | continues tasks =>
                have spent := step_compares notIssue success id
                have after : (perform runtime { state with now := choice.now } task
                    choice).1.db = next := by rw [db, same]
                rw [left.1, weigh_single, after]
                simp only [db] at spent paid ⊢
                omega
            | verified verification onward =>
                rw [left.1, Machine.weigh_nil]
                omega
  | transaction transactionId input resendOf =>
      simp only [ChallengeTask.compares, List.count_nil, Nat.zero_add] at paid
      have weightless : Machine.weigh (fun task : ChallengeTask => task.compares.count id)
          (run runtime state (.transaction transactionId input resendOf) choice).2 = 0 := by
        simp only [run, advanceIssue]
        split
        · rfl
        · split
          · cases resendOf <;> rfl
          · rfl
      have same : (run runtime state (.transaction transactionId input resendOf)
          choice).1.compared = state.compared := by
        simp only [run, advanceIssue]
        split <;> rfl
      rw [weightless, same]
      omega

end ChallengeState

section Runs

variable {runtime : Runtime} {start : AccessDb} {now : Int}
  {allowed : ChallengeState → Event ChallengeTask ChallengeCall AccessChoice → Prop}
  {pool : Pool ChallengeState ChallengeTask}

theorem fresh_holds (start : AccessDb) (now : Int) :
    ChallengesHold (ChallengeState.fresh start now).db where
  within := by simp [ChallengeState.fresh, ChallengeState.db, Server.idle]
  unique := by simp [ChallengeState.fresh, ChallengeState.db, Server.idle]
  once := by simp [ChallengeState.fresh, ChallengeState.db, Server.idle, AccessDb.successes]
  spent := by simp [ChallengeState.fresh, ChallengeState.db, Server.idle, AccessDb.successes]

theorem reached_keeps
    (reached : (challengeMachine runtime).PoolReaches allowed (.fresh start now) pool) :
    Server.Keeps ChallengesHold IssueReady pool.shared.server :=
  ((challengeMachine runtime).pool_invariant
    (fun state => Server.Keeps ChallengesHold IssueReady state.server) (fun _ _ => True)
    (Server.Keeps.idle (fresh_holds start now)) (fun _ _ _ _ _ _ => trivial)
    (fun _ task _ keeps _ _ =>
      ⟨ChallengeState.run_keeps task keeps, fun _ _ => trivial, fun _ _ => trivial⟩)
    reached).1

theorem reached_paidFor (id : Nat)
    (reached : (challengeMachine runtime).PoolReaches allowed (.fresh start now) pool) :
    ChallengeState.PaidFor id pool.shared (Machine.weigh
      (fun task : ChallengeTask => task.compares.count id) pool.processes.flatten) := by
  refine (challengeMachine runtime).pool_weighed _ (ChallengeState.PaidFor id) ?_ ?_ ?_ reached
  · simp [ChallengeState.PaidFor, ChallengeState.fresh]
  · intro state call others _ paid
    have weightless : Machine.weigh (fun task : ChallengeTask => task.compares.count id)
        call.opening = 0 := by
      cases call <;> rfl
    simpa [challengeMachine, weightless] using paid
  · intro _ _ task choice others _ _ _ _ paid
    exact ChallengeState.run_paidFor id others task paid

/-- Once superseded, a row stays so, and nothing is verified against it. -/
theorem superseded_stays {later : Pool ChallengeState ChallengeTask} {id : Nat}
    {row : VerificationRow} (found : pool.shared.db.verifications.get? id = some row)
    (superseded : row.supersededAt.isSome = true)
    (goes : Relation.ReflTransGen ((challengeMachine runtime).PoolStep allowed) pool later) :
    later.shared.db.successes id = pool.shared.db.successes id := by
  refine ((challengeMachine runtime).pool_invariant_from
    (fun state => (∃ row, state.db.verifications.get? id = some row ∧
      row.supersededAt.isSome = true) ∧
      state.db.successes id = pool.shared.db.successes id) (fun _ _ => True)
    (fun _ _ _ _ _ _ => trivial) ?_ ⟨⟨row, found, superseded⟩, rfl⟩ (fun _ _ _ _ => trivial)
    goes).1.2
  rintro state task choice ⟨⟨row, found, superseded⟩, same⟩ _ _
  have step := ChallengeState.run_storeStep runtime state task choice
  refine ⟨⟨?_, ?_⟩, fun _ _ => trivial, fun _ _ => trivial⟩
  · obtain ⟨later, there, onward⟩ := step.kept id row found
    exact ⟨later, there, onward.superseded superseded⟩
  · rw [← same]
    show (ChallengeState.run runtime state task choice).1.db.successes id = _
    generalize (ChallengeState.run runtime state task choice).1.db = next at step
    cases step with
    | single change =>
        rcases change.successes id with unchanged | ⟨-, ⟨other, there, live⟩, -⟩
        · exact unchanged
        · obtain rfl := Option.some.inj (found.symm.trans there)
          simp only [AccessDb.isLive, Bool.and_eq_true, Option.isNone_iff_eq_none] at live
          rw [live.2] at superseded
          contradiction
    | issued issue replaced => exact successes_commitIssue issue replaced id

end Runs

/-- A challenge is bounded and single-use. Whatever calls run at the same time, a row is
compared against at most as often as it has attempts, verified at most once and never again
once it is superseded, and of each subject, kind and destination one row is live at most. -/
theorem challenges_are_bounded (runtime : Runtime) (start : AccessDb) (now : Int)
    (pool : Pool ChallengeState ChallengeTask)
    (reached : (challengeMachine runtime).PoolReaches (fun _ _ => True) (.fresh start now) pool) :
    (∀ id row, pool.shared.db.verifications.get? id = some row →
      pool.shared.compared.count id ≤ row.maxAttempts) ∧
    (∀ id, pool.shared.db.successes id ≤ 1) ∧
    (∀ id row later, pool.shared.db.verifications.get? id = some row →
      row.supersededAt.isSome = true →
      Relation.ReflTransGen ((challengeMachine runtime).PoolStep fun _ _ => True) pool later →
      later.shared.db.successes id = pool.shared.db.successes id) ∧
    ∀ id other row twin, pool.shared.db.verifications.get? id = some row →
      pool.shared.db.verifications.get? other = some twin → AccessDb.isLive row = true →
      AccessDb.isLive twin = true → row.challengeKey = twin.challengeKey → id = other := by
  have hold := (reached_keeps reached).store
  refine ⟨fun id row found => ?_, hold.once, fun id row later found superseded goes =>
    superseded_stays found superseded goes, hold.unique⟩
  have paid : _ ≤ _ := reached_paidFor id reached
  have within := hold.within id row found
  have attempts : pool.shared.db.attempts id = row.attemptCount := by
    rw [AccessDb.attempts, found]
    rfl
  omega

def codeFor (destination : String) : IssueVerificationInput where
  subjectKind := .identity
  identityId := some 0
  customerId := none
  enterpriseId := none
  verificationKind := .firstLogin
  destination := destination
  deliveryChannel := .email

def challengeTurns (process count : Nat) (now : Int) (random : String) :
    List (ChallengeCall ⊕ (Nat × AccessChoice)) :=
  List.replicate count (.inr (process, { now, random }))

/-- A code is issued and guessed wrong, a second one supersedes it and is verified. -/
def guessedOnce : List (ChallengeCall ⊕ (Nat × AccessChoice)) :=
  .inl (.issue (codeFor "a@mail.example")) :: challengeTurns 0 6 0 "one" ++
    .inl (.verify 0 "two" .firstLogin .completeVerifiedLogin) :: challengeTurns 1 3 1 "" ++
    .inl (.issue (codeFor "a@mail.example")) :: challengeTurns 2 6 2 "two" ++
    .inl (.verify 1 "two" .firstLogin .completeVerifiedLogin) :: challengeTurns 3 4 3 ""

theorem challenges_are_bounded_guessed :
    ∃ pool : Pool ChallengeState ChallengeTask, pool.shared.compared = [1, 0] ∧
      (∀ id row, pool.shared.db.verifications.get? id = some row →
        pool.shared.compared.count id ≤ row.maxAttempts) ∧
      pool.shared.db.successes 1 = 1 ∧ pool.shared.db.successes 0 = 0 ∧
      ∀ id, pool.shared.db.successes id ≤ 1 := by
  have runs : ((challengeMachine plainRuntime).playPool (fun _ _ => true)
      ⟨.fresh smallDeployment 0, []⟩ guessedOnce).any (fun pool =>
        decide (pool.shared.compared = [1, 0] ∧ pool.shared.db.successes 1 = 1 ∧
          pool.shared.db.successes 0 = 0)) = true := by
    decide +kernel
  obtain ⟨pool, played, done⟩ := (Option.any_eq_true _ _).mp runs
  obtain ⟨compared, verified, lost⟩ := of_decide_eq_true done
  have reached : (challengeMachine plainRuntime).PoolReaches (fun _ _ => True)
      (.fresh smallDeployment 0) pool :=
    (challengeMachine plainRuntime).playPool_sound (fun _ _ _ => trivial) played
  obtain ⟨bounded, once, -⟩ := challenges_are_bounded plainRuntime smallDeployment 0 pool reached
  exact ⟨pool, compared, bounded, verified, lost, once⟩

end UnifiedService.Access
