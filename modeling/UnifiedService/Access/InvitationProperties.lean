import UnifiedService.Access.AccountProperties

/-! Invitations: what every step of every call leaves of people, rows and challenges,
whose password an accepted invitation sets, and who is made active by it. -/

set_option autoImplicit false

namespace UnifiedService.Access

open UnifiedService.Library

/-! ### What lasts -/

def IdentityRow.SameAddresses (row later : IdentityRow) : Prop :=
  later.email = row.email ∧ later.mobile = row.mobile

structure VerificationRow.SameIssue (row later : VerificationRow) : Prop where
  identityId : later.identityId = row.identityId
  enterpriseId : later.enterpriseId = row.enterpriseId
  verificationKind : later.verificationKind = row.verificationKind
  destination : later.destination = row.destination
  secretHash : later.secretHash = row.secretHash
  expiresAt : later.expiresAt = row.expiresAt
  maxAttempts : later.maxAttempts = row.maxAttempts

structure EmployeeRow.SameEmployment (row later : EmployeeRow) : Prop where
  identityId : later.identityId = row.identityId
  enterpriseId : later.enterpriseId = row.enterpriseId
  invitedAt : later.invitedAt = row.invitedAt
  joined : row.joinedAt.isSome = true → later.joinedAt.isSome = true

def StaffRow.SameHolder (row later : StaffRow) : Prop := later.identityId = row.identityId

theorem StaffRow.SameHolder.refl (row : StaffRow) : row.SameHolder row := rfl

theorem VerificationRow.SameIssue.refl (row : VerificationRow) : row.SameIssue row :=
  ⟨rfl, rfl, rfl, rfl, rfl, rfl, rfl⟩

theorem VerificationRow.SameIssue.trans {row middle later : VerificationRow}
    (first : row.SameIssue middle) (second : middle.SameIssue later) : row.SameIssue later :=
  ⟨second.identityId.trans first.identityId, second.enterpriseId.trans first.enterpriseId,
    second.verificationKind.trans first.verificationKind,
    second.destination.trans first.destination, second.secretHash.trans first.secretHash,
    second.expiresAt.trans first.expiresAt, second.maxAttempts.trans first.maxAttempts⟩

theorem VerificationRow.SameIssue.symm {row later : VerificationRow}
    (same : row.SameIssue later) : later.SameIssue row :=
  ⟨same.identityId.symm, same.enterpriseId.symm, same.verificationKind.symm,
    same.destination.symm, same.secretHash.symm, same.expiresAt.symm, same.maxAttempts.symm⟩

theorem EmployeeRow.SameEmployment.refl (row : EmployeeRow) : row.SameEmployment row :=
  ⟨rfl, rfl, rfl, id⟩

structure Lasting (db next : AccessDb) : Prop where
  identities : db.identities.Kept IdentityRow.SameAddresses next.identities
  employees : db.employees.Kept EmployeeRow.SameEmployment next.employees
  staff : db.staff.Kept StaffRow.SameHolder next.staff
  verifications : db.verifications.Kept VerificationRow.SameIssue next.verifications
  trail : ∃ recent, next.trail = recent ++ db.trail

theorem Lasting.refl (db : AccessDb) : Lasting db db where
  identities := .refl (fun _ => ⟨rfl, rfl⟩) _
  employees := .refl .refl _
  staff := .refl .refl _
  verifications := .refl .refl _
  trail := ⟨[], rfl⟩

theorem Lasting.mem_trail {db next : AccessDb} (lasting : Lasting db next) {event : AccessEvent}
    (member : event ∈ db.trail) : event ∈ next.trail := by
  obtain ⟨recent, same⟩ := lasting.trail
  rw [same]
  exact List.mem_append_right recent member

theorem supersedeLive_kept (db : AccessDb) (input : IssueVerificationInput) (now : Int) :
    db.verifications.Kept VerificationRow.SameIssue (db.supersedeLive input now).verifications := by
  refine Table.Kept.map _ fun row => ?_
  split
  · exact ⟨rfl, rfl, rfl, rfl, rfl, rfl, rfl⟩
  · exact .refl row

theorem verification_step_kept {runtime : Runtime} {choice : AccessChoice}
    {task : VerificationTask} {db next : AccessDb} {outcome : VerificationOutcome}
    (success : VerificationService.step runtime choice task db = .ok (outcome, next)) :
    db.verifications.Kept VerificationRow.SameIssue next.verifications ∧
      ((∃ input resendOf, task = .issue input resendOf) ∨
        next.verifications.nextId = db.verifications.nextId) := by
  cases task with
  | issue input resendOf =>
      obtain ⟨-, rfl⟩ := issue_ok success
      exact ⟨(supersedeLive_kept db input choice.now).trans .trans (.insert .refl _ _),
        .inl ⟨input, resendOf, rfl⟩⟩
  | recordResend id =>
      obtain ⟨-, rfl⟩ := Prod.mk.inj (Except.ok.inj success)
      exact ⟨.update .refl _ _ fun _ => ⟨rfl, rfl, rfl, rfl, rfl, rfl, rfl⟩,
        .inr (Table.nextId_update _ _ _)⟩
  | spendAttempt verification submitted following =>
      simp only [VerificationService.step, VerificationService.spendAttempt] at success
      split at success
      · contradiction
      · next attempts middle spent =>
          obtain ⟨-, rfl⟩ := Prod.mk.inj (Except.ok.inj success)
          obtain ⟨-, -, -, -, rfl⟩ := spendAttempt_ok spent
          exact ⟨.update .refl _ _ fun _ => ⟨rfl, rfl, rfl, rfl, rfl, rfl, rfl⟩,
            .inr (Table.nextId_update _ _ _)⟩
  | consume verification following =>
      simp only [VerificationService.step, VerificationService.consume] at success
      split at success
      · contradiction
      · next middle consumed =>
          obtain ⟨-, rfl⟩ := Prod.mk.inj (Except.ok.inj success)
          obtain ⟨-, -, -, rfl⟩ := consume_ok consumed
          exact ⟨.update .refl _ _ fun _ => ⟨rfl, rfl, rfl, rfl, rfl, rfl, rfl⟩,
            .inr (Table.nextId_update _ _ _)⟩
  | assertWithinDestinationCap input resendOf =>
      simp only [VerificationService.step, VerificationService.assertWithinDestinationCap]
        at success
      split at success
      · contradiction
      · obtain ⟨-, rfl⟩ := Prod.mk.inj (Except.ok.inj success)
        exact ⟨.refl .refl _, .inr rfl⟩
  | resend destination kind deliveryChannel =>
      simp only [VerificationService.step, VerificationService.resend] at success
      repeat' split at success
      all_goals
        obtain ⟨-, rfl⟩ := Prod.mk.inj (Except.ok.inj success)
        exact ⟨.refl .refl _, .inr rfl⟩
  | verifyByDestination destination submitted kind following =>
      simp only [VerificationService.step, VerificationService.verifyByDestination] at success
      split at success
      · contradiction
      · obtain ⟨-, rfl⟩ := Prod.mk.inj (Except.ok.inj success)
        exact ⟨.refl .refl _, .inr rfl⟩
  | verify id submitted kind following =>
      simp only [VerificationService.step, VerificationService.verify] at success
      split at success
      · contradiction
      · split at success
        · contradiction
        · obtain ⟨-, rfl⟩ := Prod.mk.inj (Except.ok.inj success)
          exact ⟨.refl .refl _, .inr rfl⟩
  | compareSecret verification attempts submitted following =>
      simp only [VerificationService.step, VerificationService.compareSecret] at success
      split at success
      · obtain ⟨-, rfl⟩ := Prod.mk.inj (Except.ok.inj success)
        exact ⟨.refl .refl _, .inr rfl⟩
      · split at success <;> contradiction

theorem setPassword_kept (runtime : Runtime) (identity : Stored IdentityRow)
    (verifiedDestination newPassword : String) (choice : AccessChoice) (db : AccessDb) :
    db.identities.Kept IdentityRow.SameAddresses
      (AuthService.setPassword runtime identity verifiedDestination newPassword choice
        db).identities := by
  have changed : db.identities.Kept IdentityRow.SameAddresses
      (db.updatePasswordHash identity.id
        (runtime.hashPassword newPassword choice.random)).identities :=
    .update (fun _ => ⟨rfl, rfl⟩) _ _ fun _ => ⟨rfl, rfl⟩
  unfold AuthService.setPassword
  simp only
  split
  · refine changed.trans (fun first second => ⟨second.1.trans first.1, second.2.trans first.2⟩)
      (.update (fun _ => ⟨rfl, rfl⟩) _ _ fun row => ?_)
    split <;> exact ⟨rfl, rfl⟩
  · exact changed

theorem activateEmployee_kept (db : AccessDb) (employeeId enterpriseId : Nat) (now : Int) :
    db.employees.Kept EmployeeRow.SameEmployment
      (db.activateEmployee employeeId enterpriseId now).employees := by
  refine .update .refl _ _ fun row => ?_
  split
  · refine ⟨rfl, rfl, rfl, fun joined => ?_⟩
    obtain ⟨at_, same⟩ := Option.isSome_iff_exists.mp joined
    simp [same]
  · exact .refl row

theorem activate_kept (identityId : Nat) (enterpriseId : Option Nat) (now : Int) (db : AccessDb) :
    db.employees.Kept EmployeeRow.SameEmployment
        (AuthService.activate identityId enterpriseId now db).employees ∧
      db.staff.Kept StaffRow.SameHolder
        (AuthService.activate identityId enterpriseId now db).staff := by
  have employees := Table.Kept.refl EmployeeRow.SameEmployment.refl db.employees
  have staff : db.staff.Kept StaffRow.SameHolder db.staff :=
    .refl .refl _
  unfold AuthService.activate
  cases enterpriseId with
  | some enterpriseId =>
      simp only
      split
      · split
        · exact ⟨activateEmployee_kept db _ _ _, staff⟩
        · exact ⟨employees, staff⟩
      · exact ⟨employees, staff⟩
  | none =>
      simp only
      split
      · split
        · refine ⟨employees, .update .refl _ _ fun row => ?_⟩
          split <;> rfl
        · exact ⟨employees, staff⟩
      · exact ⟨employees, staff⟩

theorem account_step_lasting {runtime : Runtime} {choice : AccessChoice} {task : AccountTask}
    {db next : AccessDb} {tasks : List AccessTask}
    (success : accountStep runtime choice task db = .ok (tasks, next)) : Lasting db next := by
  by_cases reading : task.writes = false
  · rw [account_step_reads reading success]
    exact .refl db
  · cases task with
    | signupWrite slug businessEmail owner password =>
        obtain ⟨-, roles, rows, added, rfl, -⟩ := signupWrite_ok success
        exact { Lasting.refl db with
          identities := .insert (fun _ => ⟨rfl, rfl⟩) _ _
          employees := .insert .refl _ _ }
    | createWrite enterpriseId actingEmployeeId addresses role =>
        obtain ⟨identityId, identities, added, settles, -, rfl, -, -⟩ :=
          createEmployeeWrite_ok success
        refine { Lasting.refl db with
          identities := ?_, employees := .insert .refl _ _, trail := ⟨[_], rfl⟩ }
        rcases settles with ⟨_, -, -, -, rfl⟩ | ⟨-, -, rfl⟩
        · exact .refl (fun _ => ⟨rfl, rfl⟩) _
        · exact .insert (fun _ => ⟨rfl, rfl⟩) _ _
    | setStatusWrite enterpriseId employeeId source status =>
        obtain ⟨-, -, rfl⟩ := setStatusWrite_ok success
        exact { Lasting.refl db with
          employees := .update .refl _ _ fun _ => ⟨rfl, rfl, rfl, id⟩ }
    | setStaffStatusWrite target status =>
        obtain ⟨-, -, rfl⟩ := setStaffStatusWrite_ok success
        exact { Lasting.refl db with staff := .update .refl _ _ fun _ => rfl }
    | inviteStaffWrite actingStaffId addresses roleIds =>
        obtain ⟨-, -, staffRoles, rfl⟩ := inviteStaffWrite_ok success
        exact { Lasting.refl db with
          identities := .insert (fun _ => ⟨rfl, rfl⟩) _ _
          staff := .insert .refl _ _ }
    | markVerified identityId credential =>
        obtain ⟨-, rfl⟩ := Prod.mk.inj (Except.ok.inj success)
        refine { Lasting.refl db with
          identities := .update (fun _ => ⟨rfl, rfl⟩) _ _ fun _ => ?_ }
        split <;> exact ⟨rfl, rfl⟩
    | completeInviteWrite identity enterpriseId verifiedDestination newPassword =>
        obtain ⟨-, rfl⟩ := Prod.mk.inj (Except.ok.inj success)
        have set := setPassword_kept runtime identity verifiedDestination newPassword choice db
        obtain ⟨identities, frame⟩ := setPassword_frame runtime identity verifiedDestination
          newPassword choice db
        rw [frame] at set ⊢
        obtain ⟨employees, staff⟩ := activate_kept identity.id enterpriseId choice.now
          { db with identities := identities }
        obtain ⟨employed, members, same⟩ := activate_frame identity.id enterpriseId choice.now
          { db with identities := identities }
        rw [same] at employees staff ⊢
        exact ⟨set, employees, staff, .refl .refl _, [_], rfl⟩
    | _ => exact absurd rfl reading

theorem role_step_quiet {runtime : Runtime} {task : RoleTask} {db next : AccessDb}
    {tasks : List RoleTask} (success : RolesService.step runtime task db = .ok (tasks, next)) :
    ∃ recent, next.trail = recent ++ db.trail ∧ ∀ identityId enterpriseId destination,
      .inviteCompleted identityId enterpriseId destination ∉ recent := by
  by_cases reading : task.writes = false
  · obtain rfl := role_step_reads reading success
    exact ⟨[], rfl, by simp⟩
  · cases task with
    | createWrite enterpriseId request =>
        obtain ⟨-, -, ⟨rows, rfl⟩, -⟩ := createWrite_ok success
        exact ⟨[], rfl, by simp⟩
    | updateWrite enterpriseId roleId request =>
        obtain ⟨-, -, -, ⟨rows, rfl⟩, -⟩ := updateWrite_ok success
        exact ⟨[], rfl, by simp⟩
    | archiveWrite enterpriseId roleId =>
        obtain ⟨-, -, rfl⟩ := archiveWrite_ok success
        exact ⟨[], rfl, by simp⟩
    | setRolesWrite enterpriseId actingEmployeeId employeeId roles =>
        obtain ⟨-, grants, rfl, -⟩ := setRolesWrite_ok success
        exact ⟨[_], rfl, by simp⟩
    | _ => exact absurd rfl reading

def VerificationOutcome.tasks : VerificationOutcome → List AccessTask
  | .continues tasks => tasks.map .verification
  | .verified proven following => AuthService.afterVerified proven following

theorem verification_statement_ok {runtime : Runtime} {choice : AccessChoice}
    {task : VerificationTask} {db next : AccessDb} {tasks : List AccessTask}
    (success : (AccessTask.verification task).statement runtime choice db = .ok (tasks, next)) :
    ∃ outcome, VerificationService.step runtime choice task db = .ok (outcome, next) ∧
      tasks = outcome.tasks := by
  obtain ⟨⟨outcome, after⟩, step, done⟩ := bind_eq_ok.mp success
  cases outcome with
  | continues left =>
      obtain ⟨rfl, rfl⟩ := Prod.mk.inj (Except.ok.inj done)
      exact ⟨_, step, rfl⟩
  | verified proven following =>
      obtain ⟨rfl, rfl⟩ := Prod.mk.inj (Except.ok.inj done)
      exact ⟨_, step, rfl⟩

theorem statement_lasting {runtime : Runtime} {choice : AccessChoice} {task : AccessTask}
    {db next : AccessDb} {tasks : List AccessTask}
    (success : task.statement runtime choice db = .ok (tasks, next)) : Lasting db next := by
  cases task with
  | role task =>
      obtain ⟨⟨roleTasks, after⟩, step, done⟩ := bind_eq_ok.mp success
      obtain ⟨-, rfl⟩ := Prod.mk.inj (Except.ok.inj done)
      obtain ⟨roles, rows, grants, recent, rfl⟩ := role_step_frame step
      exact { Lasting.refl db with trail := ⟨recent, rfl⟩ }
  | account task => exact account_step_lasting success
  | verification task =>
      obtain ⟨outcome, step, -⟩ := verification_statement_ok success
      obtain ⟨kept, -⟩ := verification_step_kept step
      obtain ⟨verifications, recent, rfl⟩ := verification_step_frame step
      exact { Lasting.refl db with verifications := kept, trail := ⟨recent, rfl⟩ }

end UnifiedService.Access
