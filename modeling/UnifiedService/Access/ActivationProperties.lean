import UnifiedService.Access.InvitationProperties

/-! Who is made active: the holder of a row by accepting its invitation, and an
administrator only where that had happened before. -/

set_option autoImplicit false

namespace UnifiedService.Access

open UnifiedService.Library

/-- The identity accepted an invitation of the business, or one to the staff where no
business is named. -/
def InviteAccepted (db : AccessDb) (identityId : Nat) (enterpriseId : Option Nat) : Prop :=
  ∃ destination, .inviteCompleted identityId enterpriseId destination ∈ db.trail

/-- Every row that began with an invitation and is active was accepted by its holder. -/
def ActiveByAcceptance (db : AccessDb) : Prop :=
  (∀ id row, db.employees.get? id = some row → row.invitedAt.isSome = true →
    row.status = .active → InviteAccepted db row.identityId (some row.enterpriseId)) ∧
  ∀ id row, db.staff.get? id = some row → row.status = .active →
    InviteAccepted db row.identityId none

/-- Nobody reinstates a suspended staff member who never accepted a staff invitation,
but whose address some other invitation has proven. -/
def reinstatesAccepted (db : AccessDb) : Event AccessTask AccessCall AccessChoice → Prop
  | .ran (.account (.setStaffStatus _ staffId .active)) _ =>
      ∀ target, db.findStaffTarget staffId = some target → target.status = .suspended →
        target.everAccepted = true → InviteAccepted db target.identityId none
  | .ran _ _ | .opened _ => True

/-! ### What every state keeps -/

structure Acceptances (db : AccessDb) : Prop where
  active : ∀ id row, db.employees.get? id = some row → row.invitedAt.isSome = true →
    row.status = .active → row.joinedAt.isSome = true
  joined : ∀ id row, db.employees.get? id = some row → row.invitedAt.isSome = true →
    row.joinedAt.isSome = true → InviteAccepted db row.identityId (some row.enterpriseId)
  staff : ∀ id row, db.staff.get? id = some row → row.status = .active →
    InviteAccepted db row.identityId none

theorem Acceptances.activeByAcceptance {db : AccessDb} (kept : Acceptances db) :
    ActiveByAcceptance db :=
  ⟨fun id row found invited active => kept.joined id row found invited
    (kept.active id row found invited active), kept.staff⟩

theorem InviteAccepted.later {db next : AccessDb} (grown : db.trail ⊆ next.trail)
    {identityId : Nat} {enterpriseId : Option Nat}
    (accepted : InviteAccepted db identityId enterpriseId) :
    InviteAccepted next identityId enterpriseId := by
  obtain ⟨destination, member⟩ := accepted
  exact ⟨destination, grown member⟩

def JoinedAsRead (db : AccessDb) (employeeId : Nat) (employee : EmployeeRow) : Prop :=
  ∃ row, db.employees.get? employeeId = some row ∧ employee.SameEmployment row

def ActivationReady (db : AccessDb) : AccessTask → Prop
  | .account (.setStatusAuthority _ _ employeeId employee _)
  | .account (.setStatusLevel _ _ employeeId employee _) => JoinedAsRead db employeeId employee
  | .account (.setStatusWrite _ employeeId _ status) => status = .active →
      ∃ row, db.employees.get? employeeId = some row ∧ row.joinedAt.isSome = true
  | .account (.setStaffStatusWrite target status) => status = .active →
      ∃ row, db.staff.get? target.id = some row ∧ InviteAccepted db row.identityId none
  | _ => True

theorem EmployeeRow.SameEmployment.trans {row middle later : EmployeeRow}
    (first : row.SameEmployment middle) (second : middle.SameEmployment later) :
    row.SameEmployment later :=
  ⟨second.identityId.trans first.identityId, second.enterpriseId.trans first.enterpriseId,
    second.invitedAt.trans first.invitedAt, second.joined ∘ first.joined⟩

theorem Lasting.activationReady {db next : AccessDb} (lasting : Lasting db next)
    {task : AccessTask} (ready : ActivationReady db task) : ActivationReady next task := by
  have read : ∀ {employeeId employee}, JoinedAsRead db employeeId employee →
      JoinedAsRead next employeeId employee := by
    rintro employeeId employee ⟨row, found, same⟩
    obtain ⟨later, there, still⟩ := lasting.employees _ row found
    exact ⟨later, there, same.trans still⟩
  cases task with
  | role task => trivial
  | verification task => trivial
  | account task =>
      cases task with
      | setStatusAuthority enterpriseId actingEmployeeId employeeId employee status =>
          exact read ready
      | setStatusLevel enterpriseId authority employeeId employee status => exact read ready
      | setStatusWrite enterpriseId employeeId source status =>
          intro active
          obtain ⟨row, found, joined⟩ := ready active
          obtain ⟨later, there, still⟩ := lasting.employees _ row found
          exact ⟨later, there, still.joined joined⟩
      | setStaffStatusWrite target status =>
          intro active
          obtain ⟨row, found, accepted⟩ := ready active
          obtain ⟨later, there, holder⟩ := lasting.staff _ row found
          exact ⟨later, there, holder ▸ accepted.later fun _ => lasting.mem_trail⟩
      | _ => trivial

section Steps

variable {runtime : Runtime} {choice : AccessChoice} {db next : AccessDb}
  {tasks : List AccessTask}

/-- A step that leaves employments and staff keeps what holds of them. -/
theorem Acceptances.of_eq (kept : Acceptances db) (grown : db.trail ⊆ next.trail)
    (employees : next.employees = db.employees) (staff : next.staff = db.staff) :
    Acceptances next where
  active := by rw [employees]; exact kept.active
  joined := by
    rw [employees]
    exact fun id row found invited joined =>
      InviteAccepted.later grown (kept.joined id row found invited joined)
  staff := by
    rw [staff]
    exact fun id row found active => InviteAccepted.later grown (kept.staff id row found active)

theorem Acceptances.insertEmployee (kept : Acceptances db) (grown : db.trail ⊆ next.trail)
    {identityId enterpriseId : Nat} {status : EmployeeStatus} {invitedBy : Option Nat} {now : Int}
    (employees : next.employees = db.employees.insert
      (AccessDb.newEmployee identityId enterpriseId status invitedBy now))
    (staff : next.staff = db.staff) : Acceptances next where
  active := by
    intro id row found invited active
    rw [employees, Table.get?_insert] at found
    split at found
    · obtain rfl := Option.some.inj found
      obtain rfl : status = .active := active
      simp [AccessDb.newEmployee] at invited
    · exact kept.active id row found invited active
  joined := by
    intro id row found invited joined
    rw [employees, Table.get?_insert] at found
    split at found
    · obtain rfl := Option.some.inj found
      cases status <;> simp [AccessDb.newEmployee] at invited joined
    · exact InviteAccepted.later grown (kept.joined id row found invited joined)
  staff := by
    rw [staff]
    exact fun id row found active => InviteAccepted.later grown (kept.staff id row found active)

theorem setStatusWrite_accepted {enterpriseId employeeId : Nat} {source status : EmployeeStatus}
    (kept : Acceptances db)
    (ready : ActivationReady db (.account (.setStatusWrite enterpriseId employeeId source status)))
    (success : EmployeesService.setStatusWrite enterpriseId employeeId source status db =
      .ok (tasks, next)) (grown : db.trail ⊆ next.trail) : Acceptances next := by
  obtain ⟨-, -, rfl⟩ := setStatusWrite_ok success
  refine ⟨fun id row found invited active => ?_, fun id row found invited joined => ?_,
    fun id row found active => InviteAccepted.later grown (kept.staff id row found active)⟩
  · rw [Table.get?_update] at found
    split at found
    · next same =>
        obtain ⟨old, there, rfl⟩ := Option.map_eq_some_iff.mp found
        obtain ⟨row, again, joined⟩ := ready active
        obtain rfl := Option.some.inj (again.symm.trans (same ▸ there))
        exact joined
    · exact kept.active id row found invited active
  · rw [Table.get?_update] at found
    split at found
    · obtain ⟨old, there, rfl⟩ := Option.map_eq_some_iff.mp found
      exact InviteAccepted.later grown (kept.joined id old there invited joined)
    · exact InviteAccepted.later grown (kept.joined id row found invited joined)

theorem setStaffStatusWrite_accepted {target : StaffTarget} {status : StaffStatus}
    (kept : Acceptances db)
    (ready : ActivationReady db (.account (.setStaffStatusWrite target status)))
    (success : PlatformService.setStaffStatusWrite target status db = .ok (tasks, next))
    (grown : db.trail ⊆ next.trail) : Acceptances next := by
  obtain ⟨-, -, rfl⟩ := setStaffStatusWrite_ok success
  refine ⟨kept.active, fun id row found invited joined =>
    InviteAccepted.later grown (kept.joined id row found invited joined), fun id row found active => ?_⟩
  rw [Table.get?_update] at found
  split at found
  · next same =>
      obtain ⟨old, there, rfl⟩ := Option.map_eq_some_iff.mp found
      obtain ⟨row, again, accepted⟩ := ready active
      obtain rfl := Option.some.inj (again.symm.trans (same ▸ there))
      exact accepted.later grown
  · exact InviteAccepted.later grown (kept.staff id row found active)

theorem activate_accepted {identityId : Nat} {enterpriseId : Option Nat} {now : Int}
    (kept : Acceptances db)
    (employees : next.employees =
      (AuthService.activate identityId enterpriseId now db).employees)
    (staff : next.staff = (AuthService.activate identityId enterpriseId now db).staff)
    (grown : db.trail ⊆ next.trail) (accepted : InviteAccepted next identityId enterpriseId) :
    Acceptances next := by
  cases enterpriseId with
  | some enterpriseId =>
      cases found : db.findEmployeeByIdentity enterpriseId identityId with
      | none =>
          simp only [AuthService.activate, found] at employees staff
          exact kept.of_eq grown employees staff
      | some employment =>
          by_cases waits : employment.row.status = .invited
          · simp only [AuthService.activate, found, waits, if_true] at employees staff
            obtain ⟨there, holder⟩ := Table.find?_some found
            simp only [Bool.and_eq_true, beq_iff_eq] at holder
            refine ⟨fun id row seen invited active => ?_, fun id row seen invited joined => ?_,
              fun id row seen active => ?_⟩
            · rw [employees, AccessDb.activateEmployee, Table.get?_update] at seen
              split at seen
              · obtain ⟨old, before, rfl⟩ := Option.map_eq_some_iff.mp seen
                split
                · simp
                · next other =>
                    rw [if_neg other] at invited active
                    exact kept.active id old before invited active
              · exact kept.active id row seen invited active
            · rw [employees, AccessDb.activateEmployee, Table.get?_update] at seen
              split at seen
              · next same =>
                  obtain ⟨old, before, rfl⟩ := Option.map_eq_some_iff.mp seen
                  obtain rfl := Option.some.inj (there.symm.trans (same ▸ before))
                  split
                  · exact holder.1 ▸ holder.2 ▸ accepted
                  · exact holder.1 ▸ holder.2 ▸ accepted
              · exact InviteAccepted.later grown (kept.joined id row seen invited joined)
            · rw [staff] at seen
              exact InviteAccepted.later grown (kept.staff id row seen active)
          · simp only [AuthService.activate, found, waits, if_false] at employees staff
            exact kept.of_eq grown employees staff
  | none =>
      cases found : db.findAnyStaffByIdentity identityId with
      | none =>
          simp only [AuthService.activate, found] at employees staff
          exact kept.of_eq grown employees staff
      | some member =>
          by_cases waits : member.row.status = .invited
          · simp only [AuthService.activate, found, waits, if_true] at employees staff
            obtain ⟨there, holder⟩ := Table.find?_some found
            refine ⟨by rw [employees]; exact kept.active, fun id row seen invited joined => ?_,
              fun id row seen active => ?_⟩
            · rw [employees] at seen
              exact InviteAccepted.later grown (kept.joined id row seen invited joined)
            · rw [staff, AccessDb.activateStaff, Table.get?_update] at seen
              split at seen
              · next same =>
                  obtain ⟨old, before, rfl⟩ := Option.map_eq_some_iff.mp seen
                  obtain rfl := Option.some.inj (there.symm.trans (same ▸ before))
                  rw [if_pos waits]
                  exact (beq_iff_eq.mp holder) ▸ accepted
              · exact InviteAccepted.later grown (kept.staff id row seen active)
          · simp only [AuthService.activate, found, waits, if_false] at employees staff
            exact kept.of_eq grown employees staff

/-- A status change goes through when the row had joined, or is not made active. -/
theorem setStatus_ready {enterpriseId employeeId : Nat} {authority : ActorAuthority}
    {employee : EmployeeRow} {status : EmployeeStatus}
    (ready : JoinedAsRead db employeeId employee)
    (success : EmployeesService.setStatusLevel enterpriseId authority employeeId employee status
      db = .ok (tasks, next)) :
    next = db ∧ ∀ task ∈ tasks, ActivationReady db task := by
  unfold EmployeesService.setStatusLevel at success
  split at success
  · contradiction
  · split at success
    · contradiction
    · next allowed =>
        obtain ⟨rfl, rfl⟩ := Prod.mk.inj (Except.ok.inj success)
        refine ⟨rfl, fun task member => ?_⟩
        rw [List.mem_singleton.mp member]
        rintro rfl
        obtain ⟨-, joined⟩ := mayChangeStatus_active.mp allowed
        obtain ⟨row, found, same⟩ := ready
        exact ⟨row, found, same.joined joined⟩

theorem setStaffStatus_ready {actingStaffId staffId : Nat} {status : StaffStatus}
    (allowed : reinstatesAccepted db
      (.ran (.account (.setStaffStatus actingStaffId staffId status)) choice))
    (success : PlatformService.setStaffStatus actingStaffId staffId status db =
      .ok (tasks, next)) :
    next = db ∧ ∀ task ∈ tasks, ActivationReady db task := by
  unfold PlatformService.setStaffStatus at success
  split at success
  · contradiction
  · next target found =>
      split at success
      · contradiction
      · split at success
        · contradiction
        · next changes =>
            obtain ⟨rfl, rfl⟩ := Prod.mk.inj (Except.ok.inj success)
            refine ⟨rfl, fun task member => ?_⟩
            rw [List.mem_singleton.mp member]
            rintro rfl
            obtain ⟨suspended, proven⟩ := mayChangeStatus_active.mp changes
            have accepted := allowed target found suspended proven
            obtain ⟨row, there, named⟩ := Option.bind_eq_some_iff.mp found
            obtain ⟨identity, -, rfl⟩ := Option.map_eq_some_iff.mp named
            exact ⟨row, there, accepted⟩

theorem account_step_accepted {task : AccountTask} (kept : Acceptances db)
    (grown : db.trail ⊆ next.trail) (ready : ActivationReady db (.account task))
    (allowed : reinstatesAccepted db (.ran (.account task) choice))
    (success : accountStep runtime choice task db = .ok (tasks, next)) :
    Acceptances next ∧ ∀ left ∈ tasks, ActivationReady next left := by
  have challenges : ∀ {identityId : Nat} {business : Option Nat} {kind : VerificationKind}
      {addresses : Addresses}, ∀ left ∈ challenge identityId business kind addresses,
      ActivationReady next left := by
    intro identityId business kind addresses left member
    obtain ⟨destination, -, rfl⟩ := List.mem_map.mp member
    trivial
  cases task with
  | signupWrite slug businessEmail owner password =>
      obtain ⟨rfl, roles, rows, added, rfl, -⟩ := signupWrite_ok success
      exact ⟨kept.insertEmployee grown rfl rfl, challenges⟩
  | createWrite enterpriseId actingEmployeeId addresses role =>
      obtain ⟨_, identities, added, -, rfl, rfl, -, -⟩ := createEmployeeWrite_ok success
      exact ⟨kept.insertEmployee grown rfl rfl, challenges⟩
  | inviteStaffWrite actingStaffId addresses roleIds =>
      obtain ⟨-, rfl, staffRoles, rfl⟩ := inviteStaffWrite_ok success
      refine ⟨⟨kept.active, fun id row found invited joined =>
        InviteAccepted.later grown (kept.joined id row found invited joined),
        fun id row found active => ?_⟩, challenges⟩
      rw [Table.get?_insert] at found
      split at found
      · obtain rfl := Option.some.inj found
        contradiction
      · exact InviteAccepted.later grown (kept.staff id row found active)
  | setStatus enterpriseId actingEmployeeId employeeId status =>
      simp only [accountStep, EmployeesService.setStatus] at success
      split at success
      · contradiction
      · next employee found =>
          obtain ⟨rfl, rfl⟩ := Prod.mk.inj (Except.ok.inj success)
          refine ⟨kept, fun left member => ?_⟩
          rw [List.mem_singleton.mp member]
          exact ⟨employee, (Option.filter_eq_some_iff.mp found).1, .refl employee⟩
  | setStatusAuthority enterpriseId actingEmployeeId employeeId employee status =>
      obtain ⟨rfl, rfl⟩ := Prod.mk.inj (Except.ok.inj success)
      exact ⟨kept, by simpa [ActivationReady] using ready⟩
  | setStatusLevel enterpriseId authority employeeId employee status =>
      obtain ⟨rfl, left⟩ := setStatus_ready ready success
      exact ⟨kept, left⟩
  | setStatusWrite enterpriseId employeeId source status =>
      have after := setStatusWrite_accepted kept ready success grown
      obtain ⟨rfl, -, -⟩ := setStatusWrite_ok success
      exact ⟨after, by simp⟩
  | setStaffStatus actingStaffId staffId status =>
      obtain ⟨rfl, left⟩ := setStaffStatus_ready allowed success
      exact ⟨kept, left⟩
  | setStaffStatusWrite target status =>
      have after := setStaffStatusWrite_accepted kept ready success grown
      obtain ⟨rfl, -, -⟩ := setStaffStatusWrite_ok success
      exact ⟨after, by simp⟩
  | completeInviteWrite identity enterpriseId verifiedDestination newPassword =>
      obtain ⟨rfl, rfl⟩ := Prod.mk.inj (Except.ok.inj success)
      refine ⟨?_, by simp⟩
      obtain ⟨identities, set⟩ := setPassword_frame runtime identity verifiedDestination
        newPassword choice db
      rw [set] at grown ⊢
      have before : Acceptances { db with identities := identities } :=
        ⟨kept.active, kept.joined, kept.staff⟩
      exact activate_accepted before rfl rfl grown ⟨verifiedDestination, List.mem_cons_self⟩
  | markVerified identityId credential =>
      obtain ⟨rfl, rfl⟩ := Prod.mk.inj (Except.ok.inj success)
      exact ⟨kept.of_eq grown rfl rfl, by simp⟩
  | signup request =>
      simp only [accountStep, EnterpriseOnboardingService.signup] at success
      repeat' split at success
      all_goals first
        | contradiction
        | skip
      obtain ⟨rfl, rfl⟩ := Prod.mk.inj (Except.ok.inj success)
      exact ⟨kept, by simp [ActivationReady]⟩
  | createEmployee enterpriseId actingEmployeeId request =>
      simp only [accountStep, EmployeesService.create] at success
      repeat' split at success
      all_goals first
        | contradiction
        | skip
      obtain ⟨rfl, rfl⟩ := Prod.mk.inj (Except.ok.inj success)
      exact ⟨kept, by simp [ActivationReady]⟩
  | createAuthority enterpriseId actingEmployeeId addresses role =>
      simp only [accountStep, EmployeesService.createAuthority] at success
      split at success
      · contradiction
      · obtain ⟨rfl, rfl⟩ := Prod.mk.inj (Except.ok.inj success)
        exact ⟨kept, by simp [ActivationReady]⟩
  | inviteStaff actingStaffId request =>
      simp only [accountStep, PlatformService.inviteStaff] at success
      split at success
      · contradiction
      · obtain ⟨roleIds, -, done⟩ := bind_eq_ok.mp success
        obtain ⟨rfl, rfl⟩ := Prod.mk.inj (Except.ok.inj done)
        exact ⟨kept, by simp [ActivationReady]⟩
  | resend address purpose =>
      obtain ⟨destination, -, done⟩ := bind_eq_ok.mp success
      obtain ⟨rfl, rfl⟩ := Prod.mk.inj (Except.ok.inj done)
      exact ⟨kept, by simp [ActivationReady]⟩
  | verifyLogin verificationRefId code =>
      obtain ⟨rfl, rfl⟩ := Prod.mk.inj (Except.ok.inj success)
      exact ⟨kept, by simp [ActivationReady]⟩
  | completeVerifiedLogin identityId verifiedDestination =>
      simp only [accountStep, AuthService.completeVerifiedLogin] at success
      repeat' split at success
      all_goals first
        | contradiction
        | skip
      obtain ⟨rfl, rfl⟩ := Prod.mk.inj (Except.ok.inj success)
      refine ⟨kept, fun left member => ?_⟩
      obtain ⟨credential, -, rfl⟩ := List.mem_map.mp member
      trivial
  | acceptInvite request =>
      obtain ⟨destination, -, done⟩ := bind_eq_ok.mp success
      obtain ⟨rfl, rfl⟩ := Prod.mk.inj (Except.ok.inj done)
      exact ⟨kept, by simp [ActivationReady]⟩
  | completeInvite identityId enterpriseId verifiedDestination newPassword =>
      simp only [accountStep, AuthService.completeInvite] at success
      split at success
      · contradiction
      · obtain ⟨rfl, rfl⟩ := Prod.mk.inj (Except.ok.inj success)
        exact ⟨kept, by simp [ActivationReady]⟩

theorem statement_accepted {task : AccessTask} (kept : Acceptances db)
    (ready : ActivationReady db task) (allowed : reinstatesAccepted db (.ran task choice))
    (success : task.statement runtime choice db = .ok (tasks, next)) :
    Acceptances next ∧ ∀ left ∈ tasks, ActivationReady next left := by
  have grown : db.trail ⊆ next.trail := fun _ => (statement_lasting success).mem_trail
  cases task with
  | role task =>
      obtain ⟨⟨roleTasks, after⟩, step, done⟩ := bind_eq_ok.mp success
      obtain ⟨rfl, rfl⟩ := Prod.mk.inj (Except.ok.inj done)
      obtain ⟨roles, rows, grants, recent, rfl⟩ := role_step_frame step
      refine ⟨kept.of_eq grown rfl rfl, fun left member => ?_⟩
      obtain ⟨waiting, -, rfl⟩ := List.mem_map.mp member
      trivial
  | verification task =>
      obtain ⟨outcome, step, rfl⟩ := verification_statement_ok success
      obtain ⟨verifications, recent, rfl⟩ := verification_step_frame step
      refine ⟨kept.of_eq grown rfl rfl, fun left member => ?_⟩
      cases outcome with
      | continues waiting =>
          obtain ⟨one, -, rfl⟩ := List.mem_map.mp member
          trivial
      | verified proven following =>
          cases following with
          | completeInvite newPassword =>
              obtain ⟨identityId, -, rfl⟩ := List.mem_map.mp member
              trivial
          | completeVerifiedLogin =>
              obtain ⟨identityId, -, rfl⟩ := List.mem_map.mp member
              trivial
  | account task => exact account_step_accepted kept grown ready allowed success

end Steps

/-- Nobody is active on somebody else's say-so: in every run in which no suspended staff
member is reinstated who never accepted a staff invitation while some credential of
theirs is verified. -/
theorem active_by_acceptance (runtime : Runtime) (permissions : Table PermissionRow)
    (templates : Table RoleRow) (grants : List RolePermissionRow)
    (pool : Pool AccessDb AccessTask)
    (reached : (accessMachine runtime).PoolReaches reinstatesAccepted
      (.seeded permissions templates grants) pool) : ActiveByAcceptance pool.shared := by
  refine (access_invariant Acceptances ActivationReady ?_ ?_ ?_ reached).1.activeByAcceptance
  · intro db call _ _ task opened
    cases call <;>
      · rw [List.mem_singleton.mp opened]
        trivial
  · intro db task choice tasks next kept ready allowed success
    obtain ⟨after, left⟩ := statement_accepted kept ready allowed success
    exact ⟨after, left, fun _ waits => (statement_lasting success).activationReady waits⟩
  · exact
      { active := by simp [AccessDb.seeded]
        joined := by simp [AccessDb.seeded]
        staff := by simp [AccessDb.seeded] }

def checkReinstates (db : AccessDb) (event : Event AccessTask AccessCall AccessChoice) : Bool :=
  match event with
  | .ran (.account (.setStaffStatus _ staffId .active)) _ =>
      (db.findStaffTarget staffId).all fun target =>
        target.status != .suspended || !target.everAccepted ||
          db.trail.any fun event =>
            match event with
            | .inviteCompleted identityId none _ => identityId == target.identityId
            | _ => false
  | _ => true

theorem checkReinstates_sound {db : AccessDb} {event : Event AccessTask AccessCall AccessChoice}
    (passed : checkReinstates db event = true) : reinstatesAccepted db event := by
  unfold reinstatesAccepted
  split
  · next actingStaffId staffId choice =>
      intro target found suspended proven
      simp only [checkReinstates, found, Option.all_some, suspended, proven, bne_self_eq_false,
        Bool.not_true, Bool.or_self, Bool.false_or, List.any_eq_true] at passed
      obtain ⟨accepted, member, same⟩ := passed
      split at same
      · next identityId destination =>
          obtain rfl := beq_iff_eq.mp same
          exact ⟨destination, member⟩
      · contradiction
  · trivial
  · trivial

def staffReinstated : List (AccessCall ⊕ (Nat × AccessChoice)) :=
  .inl (.inviteStaff 9 { address := atEmail "ops@platform.example", roleRefIds := [] }) ::
    turns 0 4 0 "one" ++
    .inl (.acceptInvite
      { address := atEmail "ops@platform.example", code := "one", password := "ops" }) ::
    turns 1 8 1 "two" ++
    .inl (.setStaffStatus 9 0 .suspended) :: turns 2 2 2 "" ++
    .inl (.setStaffStatus 9 0 .active) :: turns 3 2 3 ""

/-- A reinstated staff member is active, and had accepted their invitation. -/
theorem active_by_acceptance_reinstated :
    ∃ pool : Pool AccessDb AccessTask,
      pool.shared.staff.rows.map (·.status) = [.active] ∧ ActiveByAcceptance pool.shared := by
  have runs : ((accessMachine plainRuntime).playPool checkReinstates ⟨smallDeployment, []⟩
      staffReinstated).any (fun pool =>
        pool.shared.staff.rows.map (·.status) == [.active]) = true := by
    decide +kernel
  obtain ⟨pool, played, done⟩ := (Option.any_eq_true _ _).mp runs
  have reached := (accessMachine plainRuntime).playPool_sound (fun _ _ => checkReinstates_sound)
    played
  exact ⟨pool, beq_iff_eq.mp done, active_by_acceptance plainRuntime _ _ _ pool reached⟩

/-- A staff invitation is cancelled, the person accepts the invitation of a business,
and the cancelled staff member is reinstated. -/
def cancelledThenReinstated : List (AccessCall ⊕ (Nat × AccessChoice)) :=
  .inl (signUp "shop" "owner@shop.example") :: turns 0 4 0 "one" ++
    .inl (.inviteStaff 9 { address := atEmail "ops@platform.example", roleRefIds := [] }) ::
    turns 1 4 0 "two" ++
    .inl (.setStaffStatus 9 0 .suspended) :: turns 2 2 0 "" ++
    .inl (.createEmployee 0 0 { address := atEmail "ops@platform.example", roleRefId := 3 }) ::
    turns 3 5 0 "three" ++
    .inl (.acceptInvite
      { address := atEmail "ops@platform.example", code := "three", password := "ops" }) ::
    turns 4 8 1 "four" ++
    .inl (.setStaffStatus 9 0 .active) :: turns 5 2 2 ""

/-- An invitation to a business vouches for a staff row its holder never accepted. -/
theorem staff_active_without_acceptance :
    ¬ ∀ (runtime : Runtime) (permissions : Table PermissionRow) (templates : Table RoleRow)
      (grants : List RolePermissionRow) (pool : Pool AccessDb AccessTask),
      (accessMachine runtime).PoolReaches (fun _ _ => True)
        (.seeded permissions templates grants) pool → ActiveByAcceptance pool.shared := by
  intro claimed
  have runs : ((accessMachine plainRuntime).playPool (fun _ _ => true) ⟨smallDeployment, []⟩
      cancelledThenReinstated).any (fun pool =>
        ((pool.shared.staff.get? 0).any fun row => row.status == .active) &&
        pool.shared.trail.all fun event =>
          match event with
          | .inviteCompleted _ none _ => false
          | _ => true) = true := by
    decide +kernel
  obtain ⟨pool, played, done⟩ := (Option.any_eq_true _ _).mp runs
  rw [Bool.and_eq_true] at done
  obtain ⟨row, found, active⟩ := (Option.any_eq_true _ _).mp done.1
  have reached := (accessMachine plainRuntime).playPool_sound (fun _ _ _ => trivial) played
  obtain ⟨destination, accepted⟩ := (claimed plainRuntime _ _ _ pool reached).2 0 row found
    (beq_iff_eq.mp active)
  simpa using List.all_eq_true.mp done.2 _ accepted

end UnifiedService.Access
