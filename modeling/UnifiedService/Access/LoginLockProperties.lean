import UnifiedService.Access.MintingProperties
import UnifiedService.Access.PasswordProperties

/-! The login lock: what sets it and what ends it, over every run of the service in which
nobody writes the tables of people by hand. -/

set_option autoImplicit false

namespace UnifiedService.Access

open UnifiedService.Library

def SessionDb.lockOf (db : SessionDb) (id : Nat) : Option Int :=
  (db.findIdentity id).bind (·.lockedUntil)

def SessionDb.Locked (db : SessionDb) (id : Nat) : Prop :=
  ∃ lockedUntil, db.lockOf id = some lockedUntil ∧ db.now < lockedUntil

/-! ### What a step does to the throttle -/

/-- One more failure: a lock that is running stays, one that has ended starts the count
again. -/
def IdentityRow.failAt (now : Int) (identity : IdentityRow) : IdentityRow :=
  let failed := if identity.lockedUntil.any fun lockedUntil => lockedUntil ≤ now then 1
    else identity.failedLoginCount + 1
  { identity with
    failedLoginCount := failed
    lockedUntil :=
      if identity.lockedUntil.any fun lockedUntil => now < lockedUntil then identity.lockedUntil
      else if maxFailedLogins ≤ failed then some (now + loginLockDurationMs)
      else none }

theorem IdentityRow.failAt_locked {now lockedUntil : Int} {row : IdentityRow}
    (locked : row.lockedUntil = some lockedUntil) (running : now < lockedUntil) :
    (row.failAt now).lockedUntil = some lockedUntil := by
  simp [failAt, locked, running]

theorem IdentityRow.failAt_expired {now lockedUntil : Int} {row : IdentityRow}
    (locked : row.lockedUntil = some lockedUntil) (ended : lockedUntil ≤ now) :
    (row.failAt now).lockedUntil = none ∧ (row.failAt now).failedLoginCount = 1 := by
  have notRunning : ¬now < lockedUntil := by omega
  simp [failAt, locked, ended, notRunning, maxFailedLogins]

theorem IdentityRow.failAt_open (now : Int) {row : IdentityRow} (unlocked : row.lockedUntil = none) :
    (row.failAt now).failedLoginCount = row.failedLoginCount + 1 ∧
      (row.failAt now).lockedUntil =
        if maxFailedLogins ≤ row.failedLoginCount + 1 then some (now + loginLockDurationMs)
        else none := by
  simp [failAt, unlocked]

/-- A lock after a failure is the one that was running, or a new one of full length. -/
theorem IdentityRow.failAt_lockedUntil {now lockedUntil : Int} {row : IdentityRow}
    (locked : (row.failAt now).lockedUntil = some lockedUntil) :
    row.lockedUntil = some lockedUntil ∨ lockedUntil = now + loginLockDurationMs := by
  unfold failAt at locked
  dsimp only at locked
  generalize (if row.lockedUntil.any fun lockedUntil => lockedUntil ≤ now then 1
    else row.failedLoginCount + 1) = failed at locked
  split at locked
  · exact .inl locked
  · split at locked
    · exact .inr (Option.some.inj locked).symm
    · contradiction

/-- The steps that clear the lock of an identity: a login that succeeds, and the new
password of an accepted invitation. -/
def SessionTask.clears (id : Nat) : SessionTask → Bool
  | .recordSuccessfulLogin identityId _ _ => identityId == id
  | .access (.account (.completeInviteWrite identity _ _ _)) _ _ => identity.id == id
  | _ => false

def SessionTask.fails (id : Nat) : SessionTask → Bool
  | .recordFailedLogin identityId => identityId == id
  | _ => false

def SessionTask.operates : SessionTask → Bool
  | .operate _ _ => true
  | _ => false

inductive Throttles (task : SessionTask) (now : Int) (id : Nat) (row later : IdentityRow) : Prop
  | kept (count : later.failedLoginCount = row.failedLoginCount)
      (lock : later.lockedUntil = row.lockedUntil)
  | cleared (clears : task.clears id = true) (count : later.failedLoginCount = 0)
      (lock : later.lockedUntil = none)
  | failed (fails : task.fails id = true) (same : later = row.failAt now)

theorem IdentityRow.SameGuard.throttles {task : SessionTask} {now : Int} {id : Nat}
    {row later : IdentityRow} (same : row.SameGuard later) : Throttles task now id row later :=
  .kept same.failedLoginCount same.lockedUntil

section Steps

variable {runtime : SessionRuntime} {choice : AccessChoice} {db after : SessionDb}
  {task : SessionTask} {tasks : List SessionTask} {id : Nat} {row : IdentityRow}

theorem access_throttles {step : AccessTask} {others : List AccessTask} {afterwards : Afterwards}
    (found : db.findIdentity id = some row)
    (success : accessStatement runtime.toRuntime choice step others afterwards db =
      .ok (tasks, after)) :
    ∃ later, after.findIdentity id = some later ∧
      Throttles (.access step others afterwards) db.now id row later := by
  unfold accessStatement at success
  obtain ⟨_, -, rest⟩ := bind_eq_ok.mp success
  obtain ⟨⟨left, people⟩, mapped, last⟩ := bind_eq_ok.mp rest
  obtain ⟨-, rfl⟩ := Prod.mk.inj (Except.ok.inj last)
  have ran : step.statement runtime.toRuntime choice db.access = .ok (left, people) := by
    cases result : step.statement runtime.toRuntime choice db.access with
    | error error =>
        rw [result] at mapped
        contradiction
    | ok outcome =>
        rw [result] at mapped
        exact congrArg _ (Except.ok.inj mapped)
  have same : (endSessions { db with access := people } step).findIdentity id =
      people.identities.get? id := by
    unfold endSessions
    split <;> rfl
  rw [same]
  have there : db.access.identities.get? id = some row := found
  cases step with
  | role step =>
      obtain ⟨⟨roleTasks, middle⟩, stepped, done⟩ := bind_eq_ok.mp ran
      obtain ⟨-, rfl⟩ := Prod.mk.inj (Except.ok.inj done)
      obtain ⟨roles, rows, grants, recent, rfl⟩ := role_step_frame stepped
      exact ⟨row, there, .kept rfl rfl⟩
  | verification step =>
      obtain ⟨outcome, stepped, -⟩ := verification_statement_ok ran
      obtain ⟨verifications, recent, rfl⟩ := verification_step_frame stepped
      exact ⟨row, there, .kept rfl rfl⟩
  | account step =>
      rcases account_step_guards ran with kept | ⟨identity, enterpriseId, destination, password,
        rfl, accepts⟩
      · obtain ⟨later, last, same⟩ := kept id row there
        exact ⟨later, last, same.throttles⟩
      · by_cases own : identity.id = id
        · subst own
          obtain ⟨later, last, -⟩ := (statement_lasting ran).identities identity.id row there
          obtain ⟨count, lock⟩ := accepts.cleared later last
          exact ⟨later, last, .cleared (beq_self_eq_true _) count lock⟩
        · exact ⟨row, (accepts.others id own).trans there, .kept rfl rfl⟩

theorem recordFailedLogin_throttles (identityId : Nat) (found : db.findIdentity id = some row) :
    ∃ later, (db.recordFailedLogin identityId).findIdentity id = some later ∧
      Throttles (.recordFailedLogin identityId) db.now id row later := by
  have there : db.access.identities.get? id = some row := found
  by_cases own : identityId = id
  · subst own
    have failed : (db.recordFailedLogin identityId).findIdentity identityId =
        (db.access.identities.get? identityId).map (IdentityRow.failAt db.now) :=
      Table.get?_update_self _ _ _
    rw [failed, there]
    exact ⟨_, rfl, .failed (beq_self_eq_true _) rfl⟩
  · exact ⟨row, (Table.get?_update_of_ne _ _ own).trans there, .kept rfl rfl⟩

theorem recordSuccessfulLogin_throttles (identityId : Nat) (employments : List EmploymentSummary)
    (staff : Option StaffSummary) (found : db.findIdentity id = some row) :
    ∃ later, (db.recordSuccessfulLogin identityId).findIdentity id = some later ∧
      Throttles (.recordSuccessfulLogin identityId employments staff) db.now id row later := by
  have there : db.access.identities.get? id = some row := found
  by_cases own : identityId = id
  · subst own
    have cleared : (db.recordSuccessfulLogin identityId).findIdentity identityId =
        (db.access.identities.get? identityId).map fun identity =>
          { identity with failedLoginCount := 0, lockedUntil := none } :=
      Table.get?_update_self _ _ _
    rw [cleared, there]
    exact ⟨_, rfl, .cleared (beq_self_eq_true _) rfl rfl⟩
  · exact ⟨row, (Table.get?_update_of_ne _ _ own).trans there, .kept rfl rfl⟩

theorem statement_throttles (byHand : task.operates = false) (found : db.findIdentity id = some row)
    (success : task.statement runtime choice db = .ok (tasks, after)) :
    ∃ later, after.findIdentity id = some later ∧ Throttles task db.now id row later := by
  have untouched : after.access = db.access → ∃ later, after.findIdentity id = some later ∧
      Throttles task db.now id row later := by
    intro same
    refine ⟨row, ?_, .kept rfl rfl⟩
    rw [SessionDb.findIdentity, same]
    exact found
  cases task with
  | access step others afterwards => exact access_throttles found success
  | recordFailedLogin identityId =>
      obtain ⟨-, rfl⟩ := Prod.mk.inj (Except.ok.inj success)
      exact recordFailedLogin_throttles identityId found
  | recordSuccessfulLogin identityId employments staff =>
      simp only [SessionTask.statement, AuthService.completeLogin] at success
      have same : after = db.recordSuccessfulLogin identityId := by grind
      rw [same]
      exact recordSuccessfulLogin_throttles identityId employments staff found
  | createSession identityId employment staffId =>
      obtain ⟨created, inserted, last⟩ := bind_eq_ok.mp success
      obtain ⟨-, rfl⟩ := Prod.mk.inj (Except.ok.inj last)
      unfold SessionDb.createSession at inserted
      split at inserted
      · contradiction
      · obtain rfl := Except.ok.inj inserted
        exact untouched rfl
  | revokeBeyondNewest _ _ _ | mint _ _ | revoke _ | revokeAll _ | sweepExpired _ _ _ _
  | sweepRevoked _ _ _ =>
      obtain ⟨-, rfl⟩ := Prod.mk.inj (Except.ok.inj success)
      exact untouched rfl
  | refuse error => contradiction
  | operate people withdrawn => contradiction
  | _ =>
      obtain rfl := statement_reads success rfl
      exact untouched rfl

variable (runtime choice) in
theorem sessionStep_throttles (byHand : task.operates = false)
    (found : db.findIdentity id = some row) :
    ∃ later, (sessionStep runtime db task choice).1.findIdentity id = some later ∧
      Throttles task choice.now id row later := by
  have timed : SessionDb.findIdentity { db with now := choice.now } id = some row := found
  rcases sessionStep_cases runtime db task choice with ⟨tasks, after, success, same⟩ | same
  · rw [same]
    exact statement_throttles byHand timed success
  · rw [same]
    exact ⟨row, found, .kept rfl rfl⟩

variable (runtime choice task) in
theorem sessionStep_now : (sessionStep runtime db task choice).1.now = choice.now := by
  rcases sessionStep_cases runtime db task choice with ⟨tasks, after, success, same⟩ | same
  · rw [same]
    rcases statement_sessions success with ⟨_, _, _, -, expiresAt, created⟩ | ages
    · exact (SessionDb.createSession_ok created).2.1
    · exact ages.now
  · rw [same]

theorem lockOf_eq (found : db.findIdentity id = some row) : db.lockOf id = row.lockedUntil := by
  rw [SessionDb.lockOf, found]
  rfl

theorem lockOf_some {lockedUntil : Int} (locked : db.lockOf id = some lockedUntil) :
    ∃ row, db.findIdentity id = some row ∧ row.lockedUntil = some lockedUntil :=
  Option.bind_eq_some_iff.mp locked

/-- A lock is set by a wrong password, for its full length. -/
theorem step_locks {lockedUntil : Int} (byHand : task.operates = false)
    (found : db.findIdentity id = some row)
    (locked : (sessionStep runtime db task choice).1.lockOf id = some lockedUntil) :
    db.lockOf id = some lockedUntil ∨
      task = .recordFailedLogin id ∧ lockedUntil = choice.now + loginLockDurationMs := by
  obtain ⟨later, there, change⟩ := sessionStep_throttles runtime choice byHand found
  rw [lockOf_eq there] at locked
  rw [lockOf_eq found]
  cases change with
  | kept count lock => exact .inl (lock.symm.trans locked)
  | cleared clears count lock =>
      rw [lock] at locked
      contradiction
  | failed fails same =>
      subst same
      refine (IdentityRow.failAt_lockedUntil locked).imp_right fun new => ⟨?_, new⟩
      unfold SessionTask.fails at fails
      split at fails
      · rw [beq_iff_eq.mp fails]
      · contradiction

theorem step_leaves_lock {lockedUntil : Int} (byHand : task.operates = false)
    (spared : task.clears id = false) (locked : db.lockOf id = some lockedUntil)
    (running : choice.now < lockedUntil) :
    (sessionStep runtime db task choice).1.lockOf id = some lockedUntil := by
  obtain ⟨row, found, lock⟩ := lockOf_some locked
  obtain ⟨later, there, change⟩ := sessionStep_throttles runtime choice byHand found
  rw [lockOf_eq there]
  cases change with
  | kept count same => exact same.trans lock
  | cleared clears => exact absurd (spared.symm.trans clears) Bool.false_ne_true
  | failed fails same =>
      subst same
      exact IdentityRow.failAt_locked lock running

def LoginRequest.identity (runtime : SessionRuntime) (db : SessionDb) (request : LoginRequest) :
    Option (Stored IdentityRow) :=
  match AuthService.resolveCredential runtime.toRuntime request.address with
  | .ok (.email, value) => db.access.findByEmail runtime.toRuntime value
  | .ok (.mobile, value) => db.access.findByMobile value
  | .error _ => none

def SessionTask.asksToLogIn (runtime : SessionRuntime) (db : SessionDb) :
    SessionTask → Option Nat
  | .login request => (request.identity runtime db).map (·.id)
  | .completeInvited identityId => some identityId
  | .selectEnterprise selectionToken _ => runtime.verifySelectionToken selectionToken db.now
  | .refreshIdentity call => some call.session.identityId
  | .access (.account (.completeVerifiedLogin identityId _)) _ _ => some identityId
  | _ => none

variable (id) in
theorem assertLoginable_locked {lockedUntil : Int} (lock : row.lockedUntil = some lockedUntil)
    (running : db.now < lockedUntil) : ∃ error, AuthService.assertLoginable db id row =
      .error error := by
  unfold AuthService.assertLoginable
  split
  · exact ⟨_, rfl⟩
  · rw [lock, Option.filter_some, if_pos (decide_eq_true running)]
    exact ⟨_, rfl⟩

theorem loginable_locked (locked : db.Locked id) :
    ∃ error, AuthService.loginable db id = .error error := by
  obtain ⟨lockedUntil, set, running⟩ := locked
  obtain ⟨row, found, lock⟩ := lockOf_some set
  obtain ⟨error, refused⟩ := assertLoginable_locked id lock running
  refine ⟨error, ?_⟩
  unfold AuthService.loginable
  rw [found]
  simp only [refused]
  rfl

theorem login_locked {request : LoginRequest}
    (asks : (SessionTask.login request).asksToLogIn runtime db = some id)
    (locked : db.Locked id) : ∃ error, AuthService.login runtime request db = .error error := by
  obtain ⟨lockedUntil, set, running⟩ := locked
  obtain ⟨row, found, lock⟩ := lockOf_some set
  obtain ⟨identity, named, rfl⟩ := Option.map_eq_some_iff.mp asks
  have finishes (own : db.findIdentity identity.id = some identity.row) :
      (identity.row.lockedUntil.any fun lockedUntil => decide (db.now < lockedUntil)) = true ∧
        ∃ error, AuthService.assertLoginable db identity.id identity.row = .error error := by
    obtain rfl := Option.some.inj (found.symm.trans own)
    rw [lock]
    exact ⟨decide_eq_true running, assertLoginable_locked _ lock running⟩
  unfold LoginRequest.identity at named
  unfold AuthService.login
  -- A wrong password is refused without being counted, the right one by the lock.
  split at named
  · next value resolved =>
      obtain ⟨locks, error, refused⟩ := finishes (Table.find?_some named).1
      rw [resolved]
      simp only [bind, Except.bind, named, locks, Bool.true_and, refused]
      cases runtime.verifyPassword identity.row.passwordHash request.password with
      | false => exact ⟨_, rfl⟩
      | true => exact ⟨error, rfl⟩
  · next value resolved =>
      obtain ⟨locks, error, refused⟩ := finishes (Table.find?_some named).1
      rw [resolved]
      simp only [bind, Except.bind, named, locks, Bool.true_and, refused]
      cases runtime.verifyPassword identity.row.passwordHash request.password with
      | false => exact ⟨_, rfl⟩
      | true => exact ⟨error, rfl⟩
  · contradiction

theorem locked_refuses (asks : task.asksToLogIn runtime { db with now := choice.now } = some id)
    (locked : SessionDb.Locked { db with now := choice.now } id) :
    sessionStep runtime db task choice = ({ db with now := choice.now }, []) := by
  have refused : ∃ error, task.statement runtime choice { db with now := choice.now } =
      .error error := by
    cases task with
    | login request => exact login_locked asks locked
    | completeInvited identityId =>
        obtain rfl := Option.some.inj asks
        obtain ⟨error, refused⟩ := loginable_locked locked
        exact ⟨error, by simp [SessionTask.statement, refused]⟩
    | selectEnterprise selectionToken enterpriseRefId =>
        obtain ⟨error, refused⟩ := loginable_locked locked
        have names : runtime.verifySelectionToken selectionToken choice.now = some id := asks
        exact ⟨error, by
          simp [SessionTask.statement, AuthService.selectEnterprise, names, refused]⟩
    | refreshIdentity call =>
        obtain rfl := Option.some.inj asks
        obtain ⟨error, refused⟩ := loginable_locked locked
        exact ⟨error, by
          simp [SessionTask.statement, AuthService.refreshIdentity, refused]⟩
    | access step others afterwards =>
        unfold SessionTask.asksToLogIn at asks
        split at asks
        any_goals contradiction
        next identityId credential _ _ same =>
          obtain ⟨rfl, rfl, rfl⟩ := SessionTask.access.inj same
          obtain rfl := Option.some.inj asks
          obtain ⟨error, refused⟩ := loginable_locked locked
          refine ⟨error, ?_⟩
          simp only [SessionTask.statement, accessStatement, mayContinue, refused]
          rfl
    | _ => contradiction
  obtain ⟨error, refused⟩ := refused
  unfold sessionStep
  rw [transact_of_error refused]

end Steps

/-! ### Runs -/

/-- The clock does not go back, and nobody writes the tables of people by hand. -/
def unaided (runtime : SessionRuntime) (db : SessionDb) :
    Event SessionTask SessionCall AccessChoice → Bool
  | .opened _ => true
  | .ran task choice => timely runtime db (.ran task choice) && !task.operates

def uncleared (runtime : SessionRuntime) (id : Nat) (db : SessionDb) :
    Event SessionTask SessionCall AccessChoice → Bool
  | .opened _ => true
  | .ran task choice => unaided runtime db (.ran task choice) && !task.clears id

/-- How many wrong passwords the events of a run counted against an identity. -/
def failuresOf (id : Nat) (events : List (Event SessionTask SessionCall AccessChoice)) : Nat :=
  events.countP fun event =>
    match event with
    | .opened _ => false
    | .ran task _ => task.fails id

def UnaidedSteps (runtime : SessionRuntime) :
    Pool SessionDb SessionTask → Pool SessionDb SessionTask → Prop :=
  Relation.ReflTransGen ((sessionMachine runtime).PoolStep fun db event =>
    unaided runtime db event = true)

def UnclearedSteps (runtime : SessionRuntime) (id : Nat) :
    Pool SessionDb SessionTask → Pool SessionDb SessionTask → Prop :=
  Relation.ReflTransGen ((sessionMachine runtime).PoolStep fun db event =>
    uncleared runtime id db event = true)

def UnaidedRun (runtime : SessionRuntime) :
    Pool SessionDb SessionTask → List (Event SessionTask SessionCall AccessChoice) →
      Pool SessionDb SessionTask → Prop :=
  (sessionMachine runtime).PoolRun fun db event => unaided runtime db event = true

section Runs

variable {runtime : SessionRuntime} {id : Nat} {start pool : Pool SessionDb SessionTask}

theorem unaided_ran {db : SessionDb} {task : SessionTask} {choice : AccessChoice}
    (passes : unaided runtime db (.ran task choice) = true) :
    db.now ≤ choice.now ∧ task.operates = false := by
  obtain ⟨timed, byHand⟩ := Bool.and_eq_true _ _ ▸ passes
  exact ⟨(timely_ran timed).1, by simpa using byHand⟩

theorem uncleared_ran {db : SessionDb} {task : SessionTask} {choice : AccessChoice}
    (passes : uncleared runtime id db (.ran task choice) = true) :
    db.now ≤ choice.now ∧ task.operates = false ∧ task.clears id = false := by
  obtain ⟨timed, spared⟩ := Bool.and_eq_true _ _ ▸ passes
  exact ⟨(unaided_ran timed).1, (unaided_ran timed).2, by simpa using spared⟩

theorem lock_lasts {lockedUntil : Int} (reached : UnclearedSteps runtime id start pool)
    (locked : start.shared.lockOf id = some lockedUntil)
    (running : pool.shared.now < lockedUntil) : pool.shared.lockOf id = some lockedUntil := by
  induction reached with
  | refl => exact locked
  | tail _ step ih =>
      cases step with
      | opened call permitted => exact ih running
      | ran index task rest choice next permitted =>
          obtain ⟨later, byHand, spared⟩ := uncleared_ran permitted
          have now : choice.now < lockedUntil := by
            rw [← sessionStep_now runtime choice task]
            exact running
          exact step_leaves_lock byHand spared (ih (later.trans_lt now)) now

inductive Counted (now : Int) (row : IdentityRow) (failures : Nat) : Prop
  | ended (lockedUntil : Int) (lock : row.lockedUntil = some lockedUntil)
      (past : lockedUntil ≤ now)
  | counting (lock : row.lockedUntil = none) (count : row.failedLoginCount ≤ failures)
  | reached (enough : maxFailedLogins ≤ failures)

theorem Counted.failAt {now later : Int} {row : IdentityRow} {failures : Nat}
    (counted : Counted now row failures) (passes : now ≤ later) :
    Counted later (row.failAt later) (failures + 1) := by
  cases counted with
  | ended lockedUntil lock past =>
      obtain ⟨unlocked, count⟩ := IdentityRow.failAt_expired lock (past.trans passes)
      exact .counting unlocked (by omega)
  | counting lock count =>
      obtain ⟨counts, locks⟩ := IdentityRow.failAt_open later lock
      by_cases enough : maxFailedLogins ≤ row.failedLoginCount + 1
      · exact .reached (by omega)
      · rw [if_neg enough] at locks
        exact .counting locks (by omega)
  | reached enough => exact .reached (by omega)

theorem Counted.throttles {task : SessionTask} {now later : Int} {row next : IdentityRow}
    {failures : Nat} (counted : Counted now row failures) (passes : now ≤ later)
    (change : Throttles task later id row next) :
    Counted later next (failures + if task.fails id then 1 else 0) := by
  cases change with
  | kept count lock =>
      cases counted with
      | ended lockedUntil locked past =>
          exact .ended lockedUntil (lock.trans locked) (past.trans passes)
      | counting unlocked counts => exact .counting (lock.trans unlocked) (by omega)
      | reached enough => exact .reached (by omega)
  | cleared clears count lock => exact .counting lock (by omega)
  | failed fails same =>
      subst same
      rw [if_pos fails]
      exact counted.failAt passes

theorem run_counted {events : List (Event SessionTask SessionCall AccessChoice)} {row : IdentityRow}
    (run : UnaidedRun runtime start events pool)
    (found : start.shared.findIdentity id = some row)
    (counted : Counted start.shared.now row 0) :
    ∃ later, pool.shared.findIdentity id = some later ∧
      Counted pool.shared.now later (failuresOf id events) := by
  induction run with
  | start => exact ⟨row, found, counted⟩
  | opened before call permitted ih => exact ih
  | ran before index task rest choice next permitted ih =>
      obtain ⟨middle, there, counts⟩ := ih
      obtain ⟨passes, byHand⟩ := unaided_ran permitted
      obtain ⟨later, last, change⟩ :=
        sessionStep_throttles runtime choice byHand there
      refine ⟨later, last, ?_⟩
      have counted := counts.throttles passes change
      rw [← sessionStep_now runtime choice task] at counted
      rw [failuresOf, List.countP_cons]
      exact counted

/-- A lock that has ended is set again only by as many wrong passwords as the first. -/
theorem lock_again {events : List (Event SessionTask SessionCall AccessChoice)} {lockedUntil : Int}
    (run : UnaidedRun runtime start events pool)
    (locked : start.shared.lockOf id = some lockedUntil) (past : lockedUntil ≤ start.shared.now)
    (again : pool.shared.Locked id) : maxFailedLogins ≤ failuresOf id events := by
  obtain ⟨row, found, lock⟩ := lockOf_some locked
  obtain ⟨later, there, counted⟩ := run_counted run found (.ended lockedUntil lock past)
  obtain ⟨ending, set, running⟩ := again
  rw [lockOf_eq there] at set
  cases counted with
  | ended ended same gone =>
      obtain rfl := Option.some.inj (set.symm.trans same)
      omega
  | counting unlocked count =>
      rw [unlocked] at set
      contradiction
  | reached enough => exact enough

end Runs

/-- A lock is set by a wrong password only, for its full length; no wrong password moves it
while it runs, and unless it is cleared it stays until its end. Once it has ended it takes the
full number of wrong passwords to set it again. Whoever is found locked is let in no further. -/
theorem login_lock_bounds_guessing (runtime : SessionRuntime) (id : Nat) :
    (∀ db row task choice lockedUntil, task.operates = false →
      db.findIdentity id = some row → db.lockOf id ≠ some lockedUntil →
      (sessionStep runtime db task choice).1.lockOf id = some lockedUntil →
        task = .recordFailedLogin id ∧ lockedUntil = choice.now + loginLockDurationMs) ∧
    (∀ db choice lockedUntil, db.lockOf id = some lockedUntil → choice.now < lockedUntil →
      (sessionStep runtime db (.recordFailedLogin id) choice).1.lockOf id = some lockedUntil) ∧
    (∀ start pool lockedUntil, UnclearedSteps runtime id start pool →
      start.shared.lockOf id = some lockedUntil → pool.shared.now < lockedUntil →
        pool.shared.lockOf id = some lockedUntil) ∧
    (∀ start events pool lockedUntil, UnaidedRun runtime start events pool →
      start.shared.lockOf id = some lockedUntil → lockedUntil ≤ start.shared.now →
      pool.shared.Locked id → maxFailedLogins ≤ failuresOf id events) ∧
    ∀ db task choice, SessionTask.asksToLogIn runtime { db with now := choice.now } task = some id →
      SessionDb.Locked { db with now := choice.now } id →
        sessionStep runtime db task choice = ({ db with now := choice.now }, []) := by
  refine ⟨?_, ?_, ?_, ?_, ?_⟩
  · intro db row task choice lockedUntil byHand found unset locked
    exact (step_locks byHand found locked).resolve_left unset
  · intro db choice lockedUntil locked running
    exact step_leaves_lock rfl rfl locked running
  · intro start pool lockedUntil reached locked running
    exact lock_lasts reached locked running
  · intro start events pool lockedUntil run locked past again
    exact lock_again run locked past again
  · intro db task choice asks locked
    exact locked_refuses asks locked

def guesses (first count : Nat) : List (SessionCall ⊕ (Nat × AccessChoice)) :=
  (List.range' first count).flatMap fun index =>
    [.inl (.login ⟨atEmail "ana@mail.example", "guess"⟩),
      .inr (index, { now := 1, random := "" }), .inr (index, { now := 1, random := "" })]

/-- Ana's login is past its check when five wrong passwords lock her account. -/
def overtakenLogin : List (SessionCall ⊕ (Nat × AccessChoice)) :=
  .inl (.login ⟨atEmail "ana@mail.example", "secret"⟩) ::
    List.replicate 4 (.inr (0, { now := 1, random := "" })) ++ guesses 1 5

theorem overtakenLogin_reaches : ∃ pool, UnaidedSteps plainSessions ⟨oneEmployed, []⟩ pool ∧
    pool.processes[0]? = some [.createSession 0 (some ⟨0, 0, .business⟩) none] ∧
    pool.shared.Locked 0 ∧ pool.shared.now = 1 ∧ pool.shared.sessions = [] := by
  have runs : ((sessionMachine plainSessions).playPool (unaided plainSessions) ⟨oneEmployed, []⟩
      overtakenLogin).any (fun pool =>
        pool.processes[0]? == some [.createSession 0 (some ⟨0, 0, .business⟩) none] &&
          (pool.shared.lockOf 0 == some 900001 &&
            (pool.shared.now == 1 && pool.shared.sessions == []))) = true := by
    decide +kernel
  obtain ⟨pool, played, ends⟩ := (Option.any_eq_true _ _).mp runs
  simp only [Bool.and_eq_true, beq_iff_eq] at ends
  obtain ⟨pending, locked, now, sessions⟩ := ends
  refine ⟨pool, ?_, pending, ⟨900001, locked, by omega⟩, now, sessions⟩
  exact (sessionMachine plainSessions).playPool_sound (fun _ _ passed => passed) played

/-- A login that had read the identity before the lock was set gets its session under it. -/
theorem session_under_lock :
    ¬∀ (pool : Pool SessionDb SessionTask) (index : Nat) (task : SessionTask)
      (rest : List SessionTask) (choice : AccessChoice),
      UnaidedSteps plainSessions ⟨oneEmployed, []⟩ pool →
      pool.processes[index]? = some (task :: rest) → choice.now = pool.shared.now →
      pool.shared.Locked 0 →
        (sessionStep plainSessions pool.shared task choice).1.sessions = pool.shared.sessions := by
  intro claimed
  obtain ⟨pool, reached, pending, locked, now, sessions⟩ := overtakenLogin_reaches
  have kept := claimed pool 0 _ [] { now := 1, random := "" } reached pending now.symm locked
  have created : (sessionStep plainSessions pool.shared
      (.createSession 0 (some ⟨0, 0, .business⟩) none)
      { now := 1, random := "" }).1.sessions ≠ [] := by
    simp [sessionStep, SessionTask.statement, AuthService.createSession, SessionDb.createSession,
      sessions, bind, Except.bind, pure, Except.pure, transact]
  exact created (kept.trans sessions)

def lockedBefore : SessionDb :=
  { oneEmployed with
    access :=
      { oneEmployed.access with
        identities := ⟨[{ ana with failedLoginCount := 5, lockedUntil := some 0 }]⟩ } }

/-- Five wrong passwords lock Ana again, and then the right one is refused. -/
theorem ana_locked_again : ∃ events pool,
    UnaidedRun plainSessions ⟨lockedBefore, []⟩ events pool ∧ pool.shared.Locked 0 ∧
      maxFailedLogins ≤ failuresOf 0 events ∧
      (sessionStep plainSessions pool.shared (.login ⟨atEmail "ana@mail.example", "secret"⟩)
        { now := 1, random := "" }).2 = [] := by
  have runs : ((sessionMachine plainSessions).playPool (unaided plainSessions) ⟨lockedBefore, []⟩
      (guesses 0 5)).any (fun pool =>
        (SessionTask.login ⟨atEmail "ana@mail.example", "secret"⟩).asksToLogIn plainSessions
            { pool.shared with now := 1 } == some 0 &&
          (pool.shared.lockOf 0 == some 900001 && pool.shared.now == 1)) = true := by
    decide +kernel
  obtain ⟨pool, played, ends⟩ := (Option.any_eq_true _ _).mp runs
  simp only [Bool.and_eq_true, beq_iff_eq] at ends
  obtain ⟨asks, locked, now⟩ := ends
  have reached : UnaidedSteps plainSessions ⟨lockedBefore, []⟩ pool :=
    (sessionMachine plainSessions).playPool_sound (fun _ _ passed => passed) played
  obtain ⟨events, run⟩ := (sessionMachine plainSessions).poolRun_of_reaches reached
  obtain ⟨-, -, -, again, refuses⟩ := login_lock_bounds_guessing plainSessions 0
  have running : pool.shared.Locked 0 := ⟨900001, locked, by omega⟩
  refine ⟨events, pool, run, running, again _ _ _ 0 run rfl (by decide) running, ?_⟩
  rw [refuses pool.shared _ { now := 1, random := "" } asks ⟨900001, locked, (by decide : (1 : Int) < 900001)⟩]

end UnifiedService.Access
