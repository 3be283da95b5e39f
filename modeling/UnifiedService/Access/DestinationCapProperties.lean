import UnifiedService.Access.ChallengeProperties

/-! The hourly cap of a destination: it is one as long as an issue that counts leaves room
for those that have counted before it and are still on their way. -/

set_option autoImplicit false

namespace UnifiedService.Access

open UnifiedService.Library

def WithinCap (cap : Nat) (state : ChallengeState) : Prop :=
  ∀ destination, state.db.countSentToDestinationSince destination (state.now - hourMs) ≤ cap

def ChallengeCall.HasCap (cap : Nat) : ChallengeCall → Prop
  | .issue input => input.verificationKind.config.hourlyDestinationCap = cap
  | .resend _ kind _ => kind.config.hourlyDestinationCap = cap
  | .verify _ _ _ _ | .verifyByDestination _ _ _ _ => True

def underOneCap (cap : Nat) (state : ChallengeState) :
    Event ChallengeTask ChallengeCall AccessChoice → Prop
  | .opened call => call.HasCap cap
  | .ran _ choice => state.now ≤ choice.now

/-- An issue is about to be let through, although those that counted before it and have not
ended leave it no room. -/
def Overbooks (cap : Nat) (state : ChallengeState) :
    Event ChallengeTask ChallengeCall AccessChoice → Prop
  | .ran (.single (.assertWithinDestinationCap input _)) choice =>
      state.db.countSentToDestinationSince input.destination (choice.now - hourMs) < cap ∧
      cap ≤ state.db.countSentToDestinationSince input.destination (choice.now - hourMs) +
        state.underWay.count input.destination
  | _ => False

/-! ### What is counted -/

section Counts

variable {runtime : Runtime} {db next : AccessDb} {destination : String} {since later : Int}

theorem countSent_antitone (passes : since ≤ later) :
    db.countSentToDestinationSince destination later ≤
      db.countSentToDestinationSince destination since := by
  unfold AccessDb.countSentToDestinationSince Table.count
  refine List.countP_mono_left fun row _ counted => ?_
  simp only [Bool.and_eq_true, beq_iff_eq, decide_eq_true_eq] at counted ⊢
  exact ⟨counted.1, Int.le_trans passes counted.2⟩

theorem SingleChange.countSent (change : SingleChange db next) :
    next.countSentToDestinationSince destination since =
      db.countSentToDestinationSince destination since := by
  cases change with
  | same => rfl
  | spent id row found budget =>
      apply Table.count_update_unseen
      exact fun _ => rfl
  | resent id now =>
      apply Table.count_update_unseen
      exact fun _ => rfl
  | consumed id row now identityId address found live =>
      apply Table.count_update_unseen
      exact fun _ => rfl

theorem countSent_commitIssue (issue : Issue) (superseded : List Nat) :
    (db.commitIssue runtime issue superseded).countSentToDestinationSince destination since ≤
      db.countSentToDestinationSince destination since +
        if issue.input.destination = destination then 1 else 0 := by
  simp only [AccessDb.countSentToDestinationSince, AccessDb.commitIssue]
  rw [Table.count_insert, Table.count_updateWhere]
  · refine Nat.add_le_add_left ?_ _
    by_cases same : issue.input.destination = destination
    · rw [if_pos same]
      split <;> omega
    · have unlike : (AccessDb.newVerification issue.input (runtime.hashSecret issue.secret)
          issue.now).destination ≠ destination := same
      rw [if_neg (by simp [unlike])]
      exact Nat.zero_le _
  · exact fun _ _ _ => rfl

end Counts

/-! ### What a step leaves to do -/

def ChallengeTask.bound : ChallengeTask → List String
  | .single task => task.passed
  | .transaction _ input _ => [input.destination]

def CapReady (cap : Nat) (state : ChallengeState) : ChallengeTask → Prop
  | .single (.assertWithinDestinationCap input _) =>
      input.verificationKind.config.hourlyDestinationCap = cap
  | .single (.resend _ kind _) => kind.config.hourlyDestinationCap = cap
  | .transaction id input _ => id < state.server.transactions.nextId ∧
      ∀ running, state.server.transactions.get? id = some (some running) →
        running.state.issue.input = input
  | .single _ => True

section Steps

variable {runtime : Runtime} {choice : AccessChoice} {state : ChallengeState} {cap : Nat}

theorem weigh_bound (destination : String) (tasks : List VerificationTask) :
    Machine.weigh (fun task => task.bound.count destination)
        (tasks.map ChallengeTask.single) =
      (tasks.flatMap VerificationTask.passed).count destination := by
  induction tasks with
  | nil => rfl
  | cons task rest ih =>
      rw [List.map_cons, Machine.weigh_cons, List.flatMap_cons, List.count_append, ih]
      rfl

/-- Only the cap lets an issue through, and only while fewer were created. -/
theorem step_passed {task : VerificationTask} {tasks : List VerificationTask} {db next : AccessDb}
    (success : VerificationService.step runtime choice task db = .ok (.continues tasks, next)) :
    tasks.flatMap VerificationTask.passed = [] ∨
      ∃ input resendOf, task = .assertWithinDestinationCap input resendOf ∧
        tasks = [.issue input resendOf] ∧
        db.countSentToDestinationSince input.destination (choice.now - hourMs) <
          input.verificationKind.config.hourlyDestinationCap := by
  cases task with
  | assertWithinDestinationCap input resendOf =>
      simp only [VerificationService.step, VerificationService.assertWithinDestinationCap]
        at success
      split at success
      · contradiction
      · next room =>
          obtain ⟨same, -⟩ := Prod.mk.inj (Except.ok.inj success)
          obtain rfl := VerificationOutcome.continues.inj same
          exact .inr ⟨input, resendOf, rfl, rfl, Nat.lt_of_not_le room⟩
  | issue input resendOf =>
      obtain ⟨same, -⟩ := issue_ok success
      obtain rfl := VerificationOutcome.continues.inj same
      left
      cases resendOf <;> rfl
  | _ =>
      left
      simp only [VerificationService.step, VerificationService.resend,
        VerificationService.verifyByDestination, VerificationService.verify,
        VerificationService.spendAttempt, VerificationService.compareSecret,
        VerificationService.consume] at success
      repeat' split at success
      all_goals first
        | contradiction
        | (obtain ⟨same, -⟩ := Prod.mk.inj (Except.ok.inj success)
           first
             | contradiction
             | (obtain rfl := VerificationOutcome.continues.inj same
                rfl))

theorem step_capReady {task : VerificationTask} {tasks : List VerificationTask}
    {db next : AccessDb} (ready : CapReady cap state (.single task))
    (success : VerificationService.step runtime choice task db = .ok (.continues tasks, next))
    (later : ChallengeState) :
    ∀ following ∈ tasks, CapReady cap later (.single following) := by
  cases task with
  | resend destination kind deliveryChannel =>
      simp only [VerificationService.step, VerificationService.resend] at success
      repeat' split at success
      all_goals
        obtain ⟨same, -⟩ := Prod.mk.inj (Except.ok.inj success)
        obtain rfl := VerificationOutcome.continues.inj same
        intro following member
      · exact absurd member List.not_mem_nil
      · exact absurd member List.not_mem_nil
      · rw [List.mem_singleton.mp member]
        exact ready
  | issue input resendOf =>
      obtain ⟨same, -⟩ := issue_ok success
      obtain rfl := VerificationOutcome.continues.inj same
      intro following member
      obtain ⟨resent, -, rfl⟩ := List.mem_map.mp member
      trivial
  | _ =>
      simp only [VerificationService.step, VerificationService.assertWithinDestinationCap,
        VerificationService.verifyByDestination, VerificationService.verify,
        VerificationService.spendAttempt, VerificationService.compareSecret,
        VerificationService.consume] at success
      repeat' split at success
      all_goals first
        | contradiction
        | (obtain ⟨same, -⟩ := Prod.mk.inj (Except.ok.inj success)
           first
             | contradiction
             | (obtain rfl := VerificationOutcome.continues.inj same
                intro following member
                first
                  | exact absurd member List.not_mem_nil
                  | (rw [List.mem_singleton.mp member]
                     trivial)))

/-! ### Steps -/

theorem CapReady.of_server {later : ChallengeState} {task : ChallengeTask}
    (same : later.server.transactions = state.server.transactions)
    (ready : CapReady cap state task) : CapReady cap later task := by
  cases task with
  | single task => cases task <;> exact ready
  | transaction id input resendOf =>
      rw [CapReady, same]
      exact ready

theorem statement_continues {db : AccessDb} {stage next : IssueState}
    (continues : stage.statement runtime db = .continues next) : next.issue = stage.issue := by
  cases stage with
  | find issue =>
      cases continues
      rfl
  | supersede issue found =>
      cases continues
      rfl
  | create issue superseded =>
      rw [IssueState.statement] at continues
      split at continues
      · cases continues
        rfl
      · cases continues
  | commit issue superseded => cases continues

theorem advance_input {server : Server AccessDb IssueState ChallengeLock} {id other : Nat}
    {input : IssueVerificationInput}
    (ready : ∀ running, server.transactions.get? other = some (some running) →
      running.state.issue.input = input) {running : OpenTransaction IssueState ChallengeLock}
    (found : (server.advance (issueProgram runtime) id ()).transactions.get? other =
      some (some running)) : running.state.issue.input = input := by
  unfold Server.advance at found
  split at found
  · next before there =>
      split at found
      · exact ready running found
      · split at found
        · next stage continues =>
            rw [Table.get?_update] at found
            split at found
            · next same =>
                subst same
                rw [there, Option.map_some, Option.some.injEq, Option.some.injEq] at found
                rw [← found, statement_continues continues]
                exact ready before there
            · exact ready running found
        · exact ready running (Server.finish_others found).2
        · exact ready running (Server.finish_others found).2
  · exact ready running found
  · exact ready running found

theorem advance_nextId {server : Server AccessDb IssueState ChallengeLock} (id : Nat) :
    (server.advance (issueProgram runtime) id ()).transactions.nextId =
      server.transactions.nextId := by
  unfold Server.advance
  repeat' split
  all_goals simp [Server.finish]

theorem CapReady.advance {later : ChallengeState} {id : Nat} {task : ChallengeTask}
    (same : later.server = state.server.advance (issueProgram runtime) id ())
    (ready : CapReady cap state task) : CapReady cap later task := by
  cases task with
  | single task => cases task <;> exact ready
  | transaction other input resendOf =>
      refine ⟨?_, fun running found => ?_⟩
      · rw [same, advance_nextId]
        exact ready.1
      · rw [same] at found
        exact advance_input ready.2 found

theorem CapReady.begin {later : ChallengeState} {stage : IssueState} {task : ChallengeTask}
    (same : later.server = state.server.begin stage) (ready : CapReady cap state task) :
    CapReady cap later task := by
  cases task with
  | single task => cases task <;> exact ready
  | transaction id input resendOf =>
      obtain ⟨known, own⟩ := ready
      refine ⟨?_, fun running found => own running ?_⟩
      · rw [same, Server.begin, Table.nextId_insert]
        exact Nat.lt_succ_of_lt known
      · rw [same, Server.begin, Table.get?_insert, if_neg (Nat.ne_of_lt known)] at found
        exact found

theorem run_capReady (task : ChallengeTask) (ready : CapReady cap state task) :
    (∀ following ∈ (ChallengeState.run runtime state task choice).2,
      CapReady cap (ChallengeState.run runtime state task choice).1 following) ∧
    ∀ other, CapReady cap state other →
      CapReady cap (ChallengeState.run runtime state task choice).1 other := by
  cases task with
  | single task =>
      by_cases issues : ∃ input resendOf, task = .issue input resendOf
      · obtain ⟨input, resendOf, rfl⟩ := issues
        refine ⟨fun following member => ?_, fun other => CapReady.begin rfl⟩
        rw [List.mem_singleton.mp member]
        refine ⟨?_, fun running found => ?_⟩
        · simp [ChallengeState.run, ChallengeState.beginIssue, Server.begin]
        · simp only [ChallengeState.run, ChallengeState.beginIssue, Server.begin,
            Table.get?_insert_self, Option.some.injEq] at found
          rw [← found]
          rfl
      · have notIssue : ∀ input resendOf, task ≠ .issue input resendOf :=
          fun input resendOf same => issues ⟨input, resendOf, same⟩
        rcases ChallengeState.run_single_cases runtime state choice notIssue with waits | runs
        · rw [waits]
          refine ⟨fun following member => ?_, fun other => CapReady.of_server rfl⟩
          rw [List.mem_singleton.mp member]
          exact ready.of_server rfl
        · rw [runs]
          rcases ChallengeState.perform_cases runtime { state with now := choice.now } task
            choice with ⟨same, nothing, -⟩ | ⟨outcome, next, success, same, left⟩
          · refine ⟨fun following member => ?_, fun other => CapReady.of_server (by rw [same])⟩
            rw [nothing] at member
            exact absurd member List.not_mem_nil
          · refine ⟨fun following member => ?_, fun other => CapReady.of_server (by rw [same])⟩
            cases outcome with
            | continues tasks =>
                rw [left.1] at member
                obtain ⟨own, listed, rfl⟩ := List.mem_map.mp member
                exact step_capReady ready success _ own listed
            | verified verification onward =>
                rw [left.1] at member
                exact absurd member List.not_mem_nil
  | transaction id input resendOf =>
      simp only [ChallengeState.run, ChallengeState.advanceIssue]
      split
      · refine ⟨fun following member => ?_, fun other => CapReady.advance rfl⟩
        rw [List.mem_singleton.mp member]
        exact ready.advance rfl
      · refine ⟨fun following member => ?_, fun other => CapReady.advance rfl⟩
        simp only at member
        split at member
        · obtain ⟨resent, -, rfl⟩ := List.mem_map.mp member
          trivial
        · exact absurd member List.not_mem_nil

/-- The challenges created within the hour, and those that issues on their way will create,
are no more than the cap. -/
def Booked (cap : Nat) (destination : String) (state : ChallengeState) (pending : Nat) : Prop :=
  state.underWay.count destination = pending ∧
    state.db.countSentToDestinationSince destination (state.now - hourMs) + pending ≤ cap

variable (runtime) in
theorem advance_countSent {server : Server AccessDb IssueState ChallengeLock} {id : Nat}
    {input : IssueVerificationInput}
    (own : ∀ running, server.transactions.get? id = some (some running) →
      running.state.issue.input = input) (destination : String) (since : Int) :
    (server.advance (issueProgram runtime) id ()).store.countSentToDestinationSince destination
        since ≤
      server.store.countSentToDestinationSince destination since +
        [input.destination].count destination := by
  rcases Server.advance_store (issueProgram runtime) server id () with
    same | ⟨running, found, committed⟩
  · rw [same]
    exact Nat.le_add_right _ _
  · obtain ⟨issue, superseded, stage, same⟩ := statement_commits committed
    have theirs := own running found
    rw [stage] at theirs
    have named : issue.input = input := theirs
    rw [same, ← named]
    refine Nat.le_trans (countSent_commitIssue issue superseded) (Nat.add_le_add_left ?_ _)
    by_cases here : issue.input.destination = destination <;> simp [here]

theorem perform_booked {destination : String} {others : Nat} {task : VerificationTask}
    (notIssue : ∀ input resendOf, task ≠ .issue input resendOf)
    (ready : CapReady cap state (.single task))
    (leaves : ¬ Overbooks cap state (.ran (.single task) choice))
    (booked : Booked cap destination { state with now := choice.now } others) :
    Booked cap destination
      (ChallengeState.perform runtime { state with now := choice.now } task choice).1
      (Machine.weigh (fun task => task.bound.count destination)
        (ChallengeState.perform runtime { state with now := choice.now } task choice).2 +
        others) := by
  obtain ⟨onTheWay, room⟩ := booked
  unfold Booked
  rw [ChallengeState.perform_now]
  rcases ChallengeState.perform_cases runtime { state with now := choice.now } task choice with
    ⟨same, nothing, waiting⟩ | ⟨outcome, next, success, same, left⟩
  · rw [ChallengeState.db, same, nothing, waiting, Machine.weigh_nil, Nat.zero_add]
    exact ⟨onTheWay, room⟩
  · have counted : next.countSentToDestinationSince destination (choice.now - hourMs) =
        state.db.countSentToDestinationSince destination (choice.now - hourMs) :=
      (single_change notIssue success).countSent
    rw [ChallengeState.db, same]
    cases outcome with
    | verified verification onward =>
        obtain ⟨nothing, waiting⟩ := left
        rw [nothing, waiting, Machine.weigh_nil, Nat.zero_add, counted]
        exact ⟨onTheWay, room⟩
    | continues tasks =>
        obtain ⟨onward, waiting⟩ := left
        rw [onward, waiting, weigh_bound, List.count_append, counted]
        rcases step_passed success with none | ⟨input, resendOf, rfl, rfl, below⟩
        · rw [none, List.count_nil, Nat.zero_add, Nat.zero_add]
          exact ⟨onTheWay, room⟩
        · refine ⟨by rw [onTheWay], ?_⟩
          have ownCap : input.verificationKind.config.hourlyDestinationCap = cap := ready
          rw [ownCap] at below
          by_cases here : input.destination = destination
          · subst here
            -- Let through with no room left is what the run rules out.
            have left : ¬ cap ≤ state.db.countSentToDestinationSince input.destination
                (choice.now - hourMs) + state.underWay.count input.destination :=
              fun full => leaves ⟨below, full⟩
            simp only [List.flatMap_cons, List.flatMap_nil, List.append_nil,
              VerificationTask.passed, List.count_singleton_self]
            have own : state.underWay.count input.destination = others := onTheWay
            omega
          · simp only [List.flatMap_cons, List.flatMap_nil, List.append_nil,
              VerificationTask.passed, List.count_singleton, beq_iff_eq]
            rw [if_neg here, Nat.zero_add]
            exact room

theorem run_booked {destination : String} {others : Nat} {task : ChallengeTask}
    (ready : CapReady cap state task) (timely : state.now ≤ choice.now)
    (leaves : ¬ Overbooks cap state (.ran task choice))
    (booked : Booked cap destination state (task.bound.count destination + others)) :
    Booked cap destination (ChallengeState.run runtime state task choice).1
      (Machine.weigh (fun task => task.bound.count destination)
        (ChallengeState.run runtime state task choice).2 + others) := by
  obtain ⟨onTheWay, room⟩ := booked
  have passes : state.now - hourMs ≤ choice.now - hourMs := Int.sub_le_sub_right timely _
  have fewer : state.db.countSentToDestinationSince destination (choice.now - hourMs) ≤
      state.db.countSentToDestinationSince destination (state.now - hourMs) :=
    countSent_antitone passes
  cases task with
  | single task =>
      by_cases issues : ∃ input resendOf, task = .issue input resendOf
      · obtain ⟨input, resendOf, rfl⟩ := issues
        exact ⟨onTheWay, Nat.le_trans (Nat.add_le_add_right fewer _) room⟩
      · have notIssue : ∀ input resendOf, task ≠ .issue input resendOf :=
          fun input resendOf same => issues ⟨input, resendOf, same⟩
        have unbound : (ChallengeTask.single task).bound = [] := by
          cases task with
          | issue input resendOf => exact absurd rfl (notIssue input resendOf)
          | _ => rfl
        rw [unbound, List.count_nil, Nat.zero_add] at onTheWay room
        have stays : Booked cap destination { state with now := choice.now } others :=
          ⟨onTheWay, Nat.le_trans (Nat.add_le_add_right fewer _) room⟩
        rcases ChallengeState.run_single_cases runtime state choice notIssue with waits | runs
        · rw [waits, Machine.weigh_cons, Machine.weigh_nil, unbound, List.count_nil,
            Nat.zero_add]
          exact stays
        · rw [runs]
          exact perform_booked notIssue ready leaves stays
  | transaction id input resendOf =>
      have bounded := Nat.le_trans
        (advance_countSent runtime ready.2 destination (choice.now - hourMs))
        (Nat.add_le_add_right fewer _)
      simp only [ChallengeTask.bound] at onTheWay room
      simp only [ChallengeState.run, ChallengeState.advanceIssue]
      split
      · next goes =>
          rw [Machine.weigh_cons, Machine.weigh_nil]
          refine ⟨onTheWay, ?_⟩
          have same := Server.advance_store_of_open goes
          simp only [ChallengeState.db, same]
          exact Nat.le_trans (Nat.add_le_add_right fewer _) room
      · have weightless : Machine.weigh (fun task : ChallengeTask => task.bound.count destination)
            (if ChallengeState.committing { state with now := choice.now } id = true then
              resendOf.toList.map fun resent => .single (.recordResend resent) else []) = 0 := by
          split
          · cases resendOf <;> rfl
          · rfl
        rw [weightless, Nat.zero_add]
        refine ⟨?_, ?_⟩
        · rw [List.count_erase, onTheWay, List.count_singleton]
          simp only [beq_iff_eq]
          split <;> omega
        · simp only [ChallengeState.db] at bounded room ⊢
          omega

end Steps

/-- The hourly cap is one: in every run in which an issue is only let through while those
that have counted before it and are still on their way leave it room, at no time have more
challenges than the cap been created for a destination within the hour. -/
theorem hourly_cap_holds (runtime : Runtime) (start : AccessDb) (now : Int) (cap : Nat)
    (pool : Pool ChallengeState ChallengeTask)
    (reached : (challengeMachine runtime).PoolReaches
      (fun state event => underOneCap cap state event ∧ ¬ Overbooks cap state event)
      (.fresh start now) pool) : WithinCap cap pool.shared := by
  intro destination
  have ready : ∀ {pool : Pool ChallengeState ChallengeTask},
      (challengeMachine runtime).PoolReaches
        (fun state event => underOneCap cap state event ∧ ¬ Overbooks cap state event)
        (.fresh start now) pool →
      ∀ process ∈ pool.processes, ∀ task ∈ process, CapReady cap pool.shared task := by
    intro pool reached
    refine ((challengeMachine runtime).pool_invariant (fun _ => True) (CapReady cap) trivial
      ?_ ?_ reached).2
    · intro state call _ permitted task opened
      cases call <;>
      · rw [List.mem_singleton.mp opened]
        exact permitted.1
    · intro state task choice _ waits _
      exact ⟨trivial, run_capReady task waits⟩
  have booked : Booked cap destination pool.shared (Machine.weigh
      (fun task : ChallengeTask => task.bound.count destination) pool.processes.flatten) := by
    refine (challengeMachine runtime).pool_weighed _ (Booked cap destination) ?_ ?_ ?_ reached
    · refine ⟨rfl, Nat.zero_le _⟩
    · intro state call others _ kept
      have weightless : Machine.weigh
          (fun task : ChallengeTask => task.bound.count destination) call.opening = 0 := by
        cases call <;> rfl
      rw [challengeMachine, weightless, Nat.zero_add]
      exact kept
    · intro before process task choice others reachedBefore member queued permitted kept
      exact run_booked (ready reachedBefore process member task queued) permitted.1 permitted.2
        kept
  exact Nat.le_trans (Nat.le_add_right _ _) booked.2

instance ChallengeCall.decidableHasCap (cap : Nat) :
    (call : ChallengeCall) → Decidable (call.HasCap cap)
  | .issue _ => inferInstanceAs (Decidable (_ = _))
  | .resend _ _ _ => inferInstanceAs (Decidable (_ = _))
  | .verify _ _ _ _ => .isTrue trivial
  | .verifyByDestination _ _ _ _ => .isTrue trivial

instance underOneCap.decidable (cap : Nat) (state : ChallengeState) :
    (event : Event ChallengeTask ChallengeCall AccessChoice) →
      Decidable (underOneCap cap state event)
  | .opened call => ChallengeCall.decidableHasCap cap call
  | .ran _ _ => inferInstanceAs (Decidable (_ ≤ _))

def leavesRoom (cap : Nat) (state : ChallengeState) :
    Event ChallengeTask ChallengeCall AccessChoice → Bool
  | .ran (.single (.assertWithinDestinationCap input _)) choice =>
      decide (state.db.countSentToDestinationSince input.destination (choice.now - hourMs) +
        state.underWay.count input.destination < cap)
  | _ => true

theorem leavesRoom_sound {cap : Nat} {state : ChallengeState}
    {event : Event ChallengeTask ChallengeCall AccessChoice}
    (leaves : leavesRoom cap state event = true) : ¬ Overbooks cap state event := by
  intro overbooks
  unfold Overbooks at overbooks
  split at overbooks
  · exact absurd (of_decide_eq_true leaves) (Nat.not_lt_of_le overbooks.2)
  · exact overbooks

def resetFor (destination : String) : IssueVerificationInput :=
  { codeFor destination with verificationKind := .passwordReset }

def oneByOne (count : Nat) : List (ChallengeCall ⊕ (Nat × AccessChoice)) :=
  (List.range count).flatMap fun process =>
    .inl (.issue (resetFor "a@mail.example")) :: challengeTurns process 6 process "token"

/-- Three issues fill the cap of the hour. -/
theorem hourly_cap_holds_three :
    ∃ pool : Pool ChallengeState ChallengeTask,
      pool.shared.db.countSentToDestinationSince "a@mail.example" (pool.shared.now - hourMs) = 3 ∧
        WithinCap 3 pool.shared := by
  have runs : ((challengeMachine plainRuntime).playPool
      (fun state event => decide (underOneCap 3 state event) && leavesRoom 3 state event)
      ⟨.fresh smallDeployment 0, []⟩ (oneByOne 3)).any (fun pool =>
        pool.shared.db.countSentToDestinationSince "a@mail.example"
          (pool.shared.now - hourMs) == 3) = true := by
    decide +kernel
  obtain ⟨pool, played, full⟩ := (Option.any_eq_true _ _).mp runs
  refine ⟨pool, beq_iff_eq.mp full, hourly_cap_holds plainRuntime smallDeployment 0 3 pool ?_⟩
  refine (challengeMachine plainRuntime).playPool_sound (fun state event passed => ?_) played
  rw [Bool.and_eq_true] at passed
  exact ⟨of_decide_eq_true passed.1, leavesRoom_sound passed.2⟩

def fourAtOnce : List (ChallengeCall ⊕ (Nat × AccessChoice)) :=
  List.replicate 4 (.inl (.issue (resetFor "a@mail.example"))) ++
    (List.range 4).flatMap (fun process => challengeTurns process 1 0 "token") ++
    (List.range 4).flatMap fun process => challengeTurns process 5 0 "token"

/-- The count is read before the transaction: issues that overlap exceed the cap. -/
theorem overlap_exceeds_cap :
    ¬ ∀ (runtime : Runtime) (start : AccessDb) (now : Int) (cap : Nat)
      (pool : Pool ChallengeState ChallengeTask),
      (challengeMachine runtime).PoolReaches (underOneCap cap) (.fresh start now) pool →
      WithinCap cap pool.shared := by
  intro claimed
  have runs : ((challengeMachine plainRuntime).playPool
      (fun state event => decide (underOneCap 3 state event))
      ⟨.fresh smallDeployment 0, []⟩ fourAtOnce).any (fun pool =>
        pool.shared.db.countSentToDestinationSince "a@mail.example"
          (pool.shared.now - hourMs) == 4) = true := by
    decide +kernel
  obtain ⟨pool, played, exceeded⟩ := (Option.any_eq_true _ _).mp runs
  have within := claimed plainRuntime smallDeployment 0 3 pool
    ((challengeMachine plainRuntime).playPool_sound
      (fun _ _ passed => of_decide_eq_true passed) played) "a@mail.example"
  rw [beq_iff_eq.mp exceeded] at within
  exact absurd within (by decide)

end UnifiedService.Access
