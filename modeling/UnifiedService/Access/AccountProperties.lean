import UnifiedService.Access.DatabaseProperties

/-! What the writing steps of the account calls do: the exact database each success
leaves, and what every run keeps of businesses, their owner roles and their grants. -/

set_option autoImplicit false

namespace UnifiedService.Access

open UnifiedService.Library

/-! ### Signing up -/

theorem createEnterprise_ok {db next : AccessDb} {runtime : Runtime} {slug email : String}
    {id : Nat}
    (created : EnterpriseOnboardingService.createEnterprise runtime slug email db =
      .ok (id, next)) :
    id = db.enterprises.nextId ∧
      next = { db with enterprises := db.enterprises.insert { slug, email } } := by
  unfold EnterpriseOnboardingService.createEnterprise at created
  repeat' split at created
  all_goals first
    | contradiction
    | skip
  obtain ⟨rfl, rfl⟩ := Prod.mk.inj (Except.ok.inj created)
  exact ⟨rfl, rfl⟩

theorem insertSystemRoles_ok {enterpriseId : Nat} {templates : List (Stored RoleRow)}
    {db next : AccessDb} {created : List (String × Nat)}
    (inserted : AccessDb.insertSystemRoles enterpriseId templates db = .ok (created, next)) :
    ∃ roles, next = { db with roles := roles } ∧
      (∀ id role, db.roles.get? id = some role → roles.get? id = some role) ∧
      ∀ entry ∈ created, ∃ role, roles.get? entry.2 = some role ∧
        role.enterpriseId = some enterpriseId ∧ role.isSystem = true ∧ role.name = entry.1 := by
  induction templates generalizing db created with
  | nil =>
      obtain ⟨rfl, rfl⟩ := Prod.mk.inj (Except.ok.inj inserted)
      exact ⟨db.roles, rfl, fun _ _ found => found, by simp⟩
  | cons template rest ih =>
      obtain ⟨⟨id, middle⟩, first, after⟩ := bind_eq_ok.mp inserted
      obtain ⟨⟨ids, last⟩, others, done⟩ := bind_eq_ok.mp after
      obtain ⟨rfl, rfl⟩ := Prod.mk.inj (Except.ok.inj done)
      obtain ⟨-, rfl, rfl⟩ := AccessDb.insertRole_ok first
      obtain ⟨roles, rfl, kept, named⟩ := ih others
      refine ⟨roles, rfl, fun other role found => kept other role
        (Table.get?_insert_of_some _ found), fun entry member => ?_⟩
      rcases List.mem_cons.mp member with rfl | later
      · exact ⟨_, kept _ _ (Table.get?_insert_self _ _), rfl, rfl, rfl⟩
      · exact named entry later

theorem instantiateSystemRoles_ok {enterpriseId : Nat} {db next : AccessDb}
    {created : List (String × Nat)}
    (instantiated : db.instantiateSystemRoles enterpriseId = .ok (created, next)) :
    ∃ roles rows, next = { db with roles := roles, rolePermissions := rows } ∧
      (∀ id role, db.roles.get? id = some role → roles.get? id = some role) ∧
      ∀ entry ∈ created, ∃ role, roles.get? entry.2 = some role ∧
        role.enterpriseId = some enterpriseId ∧ role.isSystem = true ∧ role.name = entry.1 := by
  obtain ⟨⟨ids, middle⟩, inserted, done⟩ := bind_eq_ok.mp instantiated
  obtain ⟨rfl, rfl⟩ := Prod.mk.inj (Except.ok.inj done)
  obtain ⟨roles, rfl, kept, named⟩ := insertSystemRoles_ok inserted
  obtain ⟨rows, same, -⟩ := AccessDb.foldl_insertRolePermission
    (AccessDb.templateGrants { db with roles := roles } enterpriseId) { db with roles := roles }
  exact ⟨roles, rows, same, kept, named⟩

theorem grantOwner_ok {db next : AccessDb} {enterpriseId employeeId : Nat}
    {roleIds : List (String × Nat)}
    (granted : db.grantOwner enterpriseId employeeId roleIds = .ok next) :
    ∃ roleId, (SystemRole.owner.text, roleId) ∈ roleIds ∧
      db.grantToEmployee
        { enterpriseId, employeeId, roleId, grantedByEmployeeId := none } = .ok next := by
  unfold AccessDb.grantOwner at granted
  split at granted
  · contradiction
  · next roleId looked =>
      obtain ⟨earlier, later, same, -⟩ := List.lookup_eq_some_iff.mp looked
      exact ⟨roleId, by simp [same], granted⟩

theorem grantToEmployee_added {db next : AccessDb} {grant : EmployeeRoleRow}
    (granted : db.grantToEmployee grant = .ok next) :
    ∃ added, next = { db with employeeRoles := db.employeeRoles ++ added } ∧
      ∀ other ∈ added, other = grant := by
  rcases AccessDb.grantToEmployee_ok granted with rfl | ⟨rfl, -⟩
  · exact ⟨[], by simp, by simp⟩
  · exact ⟨[grant], rfl, by simp⟩

theorem signupWrite_ok {db next : AccessDb} {runtime : Runtime} {slug businessEmail : String}
    {owner : Addresses} {password : String} {choice : AccessChoice} {tasks : List AccessTask}
    (success : EnterpriseOnboardingService.signupWrite runtime slug businessEmail owner password
      choice db = .ok (tasks, next)) :
    tasks = challenge db.identities.nextId (some db.enterprises.nextId) .firstLogin owner ∧
      ∃ roles rows added, next =
        { db with
          enterprises := db.enterprises.insert { slug, email := businessEmail }
          identities := db.identities.insert
            (AccessDb.newIdentity owner.email owner.mobile
              (runtime.hashPassword password choice.random))
          employees := db.employees.insert
            (AccessDb.newEmployee db.identities.nextId db.enterprises.nextId .active none
              choice.now)
          roles := roles
          rolePermissions := rows
          employeeRoles := db.employeeRoles ++ added } ∧
        (∀ id role, db.roles.get? id = some role → roles.get? id = some role) ∧
        (∃ id role, roles.get? id = some role ∧ role.enterpriseId = some db.enterprises.nextId ∧
          role.isSystem = true ∧ role.name = SystemRole.owner.text) ∧
        ∀ grant ∈ added, grant.enterpriseId = db.enterprises.nextId ∧
          grant.employeeId = db.employees.nextId := by
  obtain ⟨⟨enterpriseId, first⟩, enterprise, success⟩ := bind_eq_ok.mp success
  obtain ⟨rfl, rfl⟩ := createEnterprise_ok enterprise
  obtain ⟨⟨identityId, second⟩, identity, success⟩ := bind_eq_ok.mp success
  obtain ⟨rfl, rfl⟩ := AccessDb.createIdentity_ok identity
  obtain ⟨⟨employeeId, third⟩, employee, success⟩ := bind_eq_ok.mp success
  obtain ⟨-, rfl, rfl⟩ := AccessDb.createEmployee_ok employee
  obtain ⟨⟨roleIds, fourth⟩, instantiated, success⟩ := bind_eq_ok.mp success
  obtain ⟨roles, rows, rfl, kept, named⟩ := instantiateSystemRoles_ok instantiated
  obtain ⟨fifth, granted, done⟩ := bind_eq_ok.mp success
  obtain ⟨roleId, listed, grants⟩ := grantOwner_ok granted
  obtain ⟨added, rfl, only⟩ := grantToEmployee_added grants
  obtain ⟨rfl, rfl⟩ := Prod.mk.inj (Except.ok.inj done)
  obtain ⟨role, found, ours, system, name⟩ := named _ listed
  refine ⟨rfl, roles, rows, added, rfl, kept, ⟨roleId, role, found, ours, system, name⟩, ?_⟩
  intro grant member
  rw [only grant member]
  exact ⟨rfl, rfl⟩

/-! ### Inviting -/

def SettlesOn (runtime : Runtime) (enterpriseId : Nat) (addresses : Addresses)
    (choice : AccessChoice) (db : AccessDb) (identityId : Nat)
    (identities : Table IdentityRow) : Prop :=
  (∃ existing, db.findExisting runtime addresses = some existing ∧
    db.findEmployeeByIdentity enterpriseId existing.id = none ∧
    identityId = existing.id ∧ identities = db.identities) ∨
  (db.findExisting runtime addresses = none ∧ identityId = db.identities.nextId ∧
    identities = db.identities.insert
      (AccessDb.newIdentity addresses.email addresses.mobile
        (runtime.hashPassword choice.random choice.random)))

theorem identityFor_ok {db next : AccessDb} {runtime : Runtime} {enterpriseId identityId : Nat}
    {addresses : Addresses} {choice : AccessChoice}
    (settled : EmployeesService.identityFor runtime enterpriseId addresses choice db =
      .ok (identityId, next)) :
    ∃ identities, next = { db with identities := identities } ∧
      SettlesOn runtime enterpriseId addresses choice db identityId identities := by
  unfold EmployeesService.identityFor at settled
  split at settled
  · next existing found =>
      split at settled
      · contradiction
      · next elsewhere =>
          obtain ⟨rfl, rfl⟩ := Prod.mk.inj (Except.ok.inj settled)
          exact ⟨db.identities, rfl,
            .inl ⟨existing, found, by simpa using elsewhere, rfl, rfl⟩⟩
  · next absent =>
      obtain ⟨rfl, rfl⟩ := AccessDb.createIdentity_ok settled
      exact ⟨_, rfl, .inr ⟨absent, rfl, rfl⟩⟩

theorem createEmployeeWrite_ok {db next : AccessDb} {runtime : Runtime}
    {enterpriseId actingEmployeeId : Nat} {addresses : Addresses} {role : FoundRole}
    {choice : AccessChoice} {tasks : List AccessTask}
    (success : EmployeesService.createWrite runtime enterpriseId actingEmployeeId addresses role
      choice db = .ok (tasks, next)) :
    ∃ identityId identities added,
      SettlesOn runtime enterpriseId addresses choice db identityId identities ∧
      tasks = challenge identityId (some enterpriseId) .employeeInvite addresses ∧
      next =
        { db with
          identities := identities
          employees := db.employees.insert
            (AccessDb.newEmployee identityId enterpriseId .invited (some actingEmployeeId)
              choice.now)
          employeeRoles := db.employeeRoles ++ added
          trail := .invited enterpriseId db.employees.nextId actingEmployeeId :: db.trail } ∧
      db.findEmployeeByIdentity enterpriseId identityId = none ∧
      ∀ grant ∈ added, grant.enterpriseId = enterpriseId ∧
        grant.employeeId = db.employees.nextId ∧ grant.roleId = role.id := by
  obtain ⟨⟨identityId, first⟩, identity, success⟩ := bind_eq_ok.mp success
  obtain ⟨identities, rfl, settles⟩ := identityFor_ok identity
  obtain ⟨⟨employeeId, second⟩, employee, success⟩ := bind_eq_ok.mp success
  obtain ⟨unemployed, rfl, rfl⟩ := AccessDb.createEmployee_ok employee
  obtain ⟨third, granted, done⟩ := bind_eq_ok.mp success
  obtain ⟨added, rfl, only⟩ := grantToEmployee_added granted
  obtain ⟨rfl, rfl⟩ := Prod.mk.inj (Except.ok.inj done)
  refine ⟨identityId, identities, added, settles, rfl, rfl, unemployed, fun grant member => ?_⟩
  rw [only grant member]
  exact ⟨rfl, rfl, rfl⟩

theorem inviteStaffWrite_ok {db next : AccessDb} {runtime : Runtime} {actingStaffId : Nat}
    {addresses : Addresses} {roleIds : List Nat} {choice : AccessChoice} {tasks : List AccessTask}
    (success : PlatformService.inviteStaffWrite runtime actingStaffId addresses roleIds choice db =
      .ok (tasks, next)) :
    db.findExisting runtime addresses = none ∧
      tasks = challenge db.identities.nextId none .employeeInvite addresses ∧
      ∃ staffRoles, next =
        { db with
          identities := db.identities.insert
            (AccessDb.newIdentity addresses.email addresses.mobile
              (runtime.hashPassword choice.random choice.random))
          staff := db.staff.insert
            { identityId := db.identities.nextId
              hasAllEnterpriseAccess := false
              status := .invited }
          staffRoles := staffRoles } := by
  unfold PlatformService.inviteStaffWrite at success
  split at success
  · contradiction
  · next absent =>
      obtain ⟨⟨identityId, first⟩, identity, success⟩ := bind_eq_ok.mp success
      obtain ⟨rfl, rfl⟩ := AccessDb.createIdentity_ok identity
      obtain ⟨⟨staffId, second⟩, staff, done⟩ := bind_eq_ok.mp success
      obtain ⟨-, rfl, rfl⟩ := AccessDb.createStaff_ok staff
      obtain ⟨rfl, rfl⟩ := Prod.mk.inj (Except.ok.inj done)
      refine ⟨by simpa using absent, rfl, ?_⟩
      split
      · exact ⟨_, rfl⟩
      · exact ⟨_, rfl⟩

theorem inviteStaffWrite_unstaffed {db next : AccessDb} {runtime : Runtime}
    {actingStaffId : Nat} {addresses : Addresses} {roleIds : List Nat} {choice : AccessChoice}
    {tasks : List AccessTask}
    (success : PlatformService.inviteStaffWrite runtime actingStaffId addresses roleIds choice db =
      .ok (tasks, next)) : db.findAnyStaffByIdentity db.identities.nextId = none := by
  unfold PlatformService.inviteStaffWrite at success
  split at success
  · contradiction
  · obtain ⟨⟨identityId, first⟩, identity, success⟩ := bind_eq_ok.mp success
    obtain ⟨rfl, rfl⟩ := AccessDb.createIdentity_ok identity
    obtain ⟨⟨staffId, second⟩, staff, -⟩ := bind_eq_ok.mp success
    exact (AccessDb.createStaff_ok staff).1

/-! ### Statuses and acceptances -/

theorem setStatusWrite_ok {db next : AccessDb} {enterpriseId employeeId : Nat}
    {source status : EmployeeStatus} {tasks : List AccessTask}
    (success : EmployeesService.setStatusWrite enterpriseId employeeId source status db =
      .ok (tasks, next)) :
    tasks = [] ∧
      (∃ employee, db.employees.get? employeeId = some employee ∧
        employee.enterpriseId = enterpriseId ∧ employee.status = source) ∧
      next = { db with
        employees := db.employees.update employeeId fun employee =>
          { employee with status := status } } := by
  obtain ⟨-, -, success⟩ := bind_eq_ok.mp success
  split at success
  · contradiction
  · next changed =>
      obtain ⟨rfl, rfl⟩ := Prod.mk.inj (Except.ok.inj success)
      exact ⟨rfl, AccessDb.setEmployeeStatus_ok changed⟩

theorem setStaffStatusWrite_ok {db next : AccessDb} {target : StaffTarget} {status : StaffStatus}
    {tasks : List AccessTask}
    (success : PlatformService.setStaffStatusWrite target status db = .ok (tasks, next)) :
    tasks = [] ∧
      (∃ member, db.staff.get? target.id = some member ∧ member.status = target.status) ∧
      next = { db with
        staff := db.staff.update target.id fun member => { member with status := status } } := by
  obtain ⟨-, -, success⟩ := bind_eq_ok.mp success
  split at success
  · contradiction
  · next changed =>
      obtain ⟨rfl, rfl⟩ := Prod.mk.inj (Except.ok.inj success)
      exact ⟨rfl, AccessDb.setStaffStatus_ok changed⟩

theorem setPassword_frame (runtime : Runtime) (identity : Stored IdentityRow)
    (verifiedDestination newPassword : String) (choice : AccessChoice) (db : AccessDb) :
    ∃ identities, AuthService.setPassword runtime identity verifiedDestination newPassword choice
      db = { db with identities := identities } := by
  unfold AuthService.setPassword
  simp only
  split
  · exact ⟨_, rfl⟩
  · exact ⟨_, rfl⟩

theorem activate_frame (identityId : Nat) (enterpriseId : Option Nat) (now : Int)
    (db : AccessDb) :
    ∃ employees staff, AuthService.activate identityId enterpriseId now db =
      { db with employees := employees, staff := staff } := by
  unfold AuthService.activate
  cases enterpriseId with
  | some enterpriseId =>
      simp only
      split
      · split
        · exact ⟨_, db.staff, rfl⟩
        · exact ⟨db.employees, db.staff, rfl⟩
      · exact ⟨db.employees, db.staff, rfl⟩
  | none =>
      simp only
      split
      · split
        · exact ⟨db.employees, _, rfl⟩
        · exact ⟨db.employees, db.staff, rfl⟩
      · exact ⟨db.employees, db.staff, rfl⟩

/-! ### The writes that reach roles -/

inductive WritesRoles : AccessTask → Prop where
  | signup (slug businessEmail : String) (owner : Addresses) (password : String) :
      WritesRoles (.account (.signupWrite slug businessEmail owner password))
  | create (enterpriseId : Nat) (request : RoleRequest) :
      WritesRoles (.role (.createWrite enterpriseId request))
  | update (enterpriseId roleId : Nat) (request : RoleRequest) :
      WritesRoles (.role (.updateWrite enterpriseId roleId request))
  | archive (enterpriseId roleId : Nat) : WritesRoles (.role (.archiveWrite enterpriseId roleId))

theorem statement_roles {runtime : Runtime} {choice : AccessChoice} {task : AccessTask}
    {db next : AccessDb} {tasks : List AccessTask}
    (success : task.statement runtime choice db = .ok (tasks, next)) :
    WritesRoles task ∨ (next.roles = db.roles ∧ next.rolePermissions = db.rolePermissions) := by
  cases task with
  | role task =>
      obtain ⟨⟨roleTasks, after⟩, step, done⟩ := bind_eq_ok.mp success
      obtain ⟨-, rfl⟩ := Prod.mk.inj (Except.ok.inj done)
      by_cases reading : task.writes = false
      · rw [role_step_reads reading step]
        exact .inr ⟨rfl, rfl⟩
      · cases task with
        | createWrite enterpriseId request => exact .inl (.create enterpriseId request)
        | updateWrite enterpriseId roleId request =>
            exact .inl (.update enterpriseId roleId request)
        | archiveWrite enterpriseId roleId => exact .inl (.archive enterpriseId roleId)
        | setRolesWrite enterpriseId actingEmployeeId employeeId roles =>
            obtain ⟨-, grants, rfl, -⟩ := setRolesWrite_ok step
            exact .inr ⟨rfl, rfl⟩
        | _ => exact absurd rfl reading
  | verification task =>
      obtain ⟨⟨outcome, after⟩, step, done⟩ := bind_eq_ok.mp success
      obtain ⟨verifications, recent, rfl⟩ := verification_step_frame step
      cases outcome with
      | continues left =>
          obtain ⟨-, rfl⟩ := Prod.mk.inj (Except.ok.inj done)
          exact .inr ⟨rfl, rfl⟩
      | verified proven following =>
          obtain ⟨-, rfl⟩ := Prod.mk.inj (Except.ok.inj done)
          exact .inr ⟨rfl, rfl⟩
  | account task =>
      by_cases reading : task.writes = false
      · rw [account_step_reads reading success]
        exact .inr ⟨rfl, rfl⟩
      · cases task with
        | signupWrite slug businessEmail owner password => exact .inl (.signup slug _ owner _)
        | createWrite enterpriseId actingEmployeeId addresses role =>
            obtain ⟨identityId, identities, added, -, -, rfl, -⟩ := createEmployeeWrite_ok success
            exact .inr ⟨rfl, rfl⟩
        | setStatusWrite enterpriseId employeeId source status =>
            obtain ⟨-, -, rfl⟩ := setStatusWrite_ok success
            exact .inr ⟨rfl, rfl⟩
        | setStaffStatusWrite target status =>
            obtain ⟨-, -, rfl⟩ := setStaffStatusWrite_ok success
            exact .inr ⟨rfl, rfl⟩
        | inviteStaffWrite actingStaffId addresses roleIds =>
            obtain ⟨-, -, staffRoles, rfl⟩ := inviteStaffWrite_ok success
            exact .inr ⟨rfl, rfl⟩
        | markVerified identityId credential =>
            obtain ⟨-, rfl⟩ := Prod.mk.inj (Except.ok.inj success)
            exact .inr ⟨rfl, rfl⟩
        | completeInviteWrite identity enterpriseId verifiedDestination newPassword =>
            obtain ⟨-, rfl⟩ := Prod.mk.inj (Except.ok.inj success)
            obtain ⟨identities, set⟩ := setPassword_frame runtime identity verifiedDestination
              newPassword choice db
            obtain ⟨employees, staff, same⟩ := activate_frame identity.id enterpriseId choice.now
              { db with identities := identities }
            rw [set, same]
            exact .inr ⟨rfl, rfl⟩
        | _ => exact absurd rfl reading

/-! ### What every run keeps -/

def OwnerBuiltIn (db : AccessDb) (enterpriseId : Nat) : Prop :=
  ∃ id role, db.roles.get? id = some role ∧ role.enterpriseId = some enterpriseId ∧
    role.isSystem = true ∧ role.name = SystemRole.owner.text

/-- Every grant names an employee of its business, as its foreign key demands. -/
def GrantsKnown (db : AccessDb) : Prop :=
  ∀ grant ∈ db.employeeRoles, ∃ employee, db.employees.get? grant.employeeId = some employee ∧
    employee.enterpriseId = grant.enterpriseId

def SystemKept (db next : AccessDb) : Prop :=
  ∀ id role, db.roles.get? id = some role → role.isSystem = true →
    next.roles.get? id = some role

def EmployeesKept (db next : AccessDb) : Prop :=
  ∀ id employee, db.employees.get? id = some employee → ∃ later,
    next.employees.get? id = some later ∧ later.enterpriseId = employee.enterpriseId ∧
      later.identityId = employee.identityId

theorem OwnerBuiltIn.kept {db next : AccessDb} {enterpriseId : Nat} (kept : SystemKept db next)
    (owner : OwnerBuiltIn db enterpriseId) : OwnerBuiltIn next enterpriseId := by
  obtain ⟨id, role, found, ours, system, name⟩ := owner
  exact ⟨id, role, kept id role found system, ours, system, name⟩

theorem SystemKept.of_update {db : AccessDb} {roleId : Nat} {change : RoleRow → RoleRow}
    {role : RoleRow} (found : db.roles.get? roleId = some role) (custom : role.isSystem = false)
    {id : Nat} {other : RoleRow} (there : db.roles.get? id = some other)
    (system : other.isSystem = true) :
    (db.roles.update roleId change).get? id = some other := by
  rw [Table.get?_update_of_ne _ _, there]
  rintro rfl
  rw [found] at there
  obtain rfl := Option.some.inj there
  rw [custom] at system
  contradiction

theorem role_step_system {runtime : Runtime} {task : RoleTask} {db next : AccessDb}
    {tasks : List RoleTask} (success : RolesService.step runtime task db = .ok (tasks, next)) :
    SystemKept db next := by
  intro id role there system
  by_cases reading : task.writes = false
  · rwa [role_step_reads reading success]
  · cases task with
    | createWrite enterpriseId request =>
        obtain ⟨-, -, ⟨rows, rfl⟩, -⟩ := createWrite_ok success
        exact Table.get?_insert_of_some _ there
    | updateWrite enterpriseId roleId request =>
        obtain ⟨⟨edited, found, -, custom⟩, -, -, ⟨rows, rfl⟩, -⟩ := updateWrite_ok success
        exact SystemKept.of_update found custom there system
    | archiveWrite enterpriseId roleId =>
        obtain ⟨⟨archived, found, -, custom⟩, -, rfl⟩ := archiveWrite_ok success
        exact SystemKept.of_update found custom there system
    | setRolesWrite enterpriseId actingEmployeeId employeeId roles =>
        obtain ⟨-, grants, rfl, -⟩ := setRolesWrite_ok success
        exact there
    | _ => exact absurd rfl reading

structure AccountStep (db next : AccessDb) : Prop where
  roles : ∀ id role, db.roles.get? id = some role → next.roles.get? id = some role
  grows : db.enterprises.nextId ≤ next.enterprises.nextId
  enterprises : ∀ enterpriseId < next.enterprises.nextId,
    enterpriseId < db.enterprises.nextId ∨ OwnerBuiltIn next enterpriseId
  employees : EmployeesKept db next
  grants : ∀ grant ∈ next.employeeRoles, grant ∈ db.employeeRoles ∨
    ∃ employee, next.employees.get? grant.employeeId = some employee ∧
      employee.enterpriseId = grant.enterpriseId
  permissions : next.permissions = db.permissions
  trail : ∃ recent, next.trail = recent ++ db.trail

theorem AccountStep.refl (db : AccessDb) : AccountStep db db where
  roles _ _ found := found
  grows := Nat.le_refl _
  enterprises _ known := .inl known
  employees _ employee found := ⟨employee, found, rfl, rfl⟩
  grants _ member := .inl member
  permissions := rfl
  trail := ⟨[], rfl⟩

theorem EmployeesKept.insert (db : AccessDb) (employee : EmployeeRow) :
    ∀ id old, db.employees.get? id = some old → ∃ later,
      (db.employees.insert employee).get? id = some later ∧
        later.enterpriseId = old.enterpriseId ∧ later.identityId = old.identityId :=
  fun _ old found => ⟨old, Table.get?_insert_of_some _ found, rfl, rfl⟩

theorem EmployeesKept.update (employees : Table EmployeeRow) (employeeId : Nat)
    {change : EmployeeRow → EmployeeRow}
    (same : ∀ employee, (change employee).enterpriseId = employee.enterpriseId ∧
      (change employee).identityId = employee.identityId) :
    ∀ id old, employees.get? id = some old → ∃ later,
      (employees.update employeeId change).get? id = some later ∧
        later.enterpriseId = old.enterpriseId ∧ later.identityId = old.identityId := by
  intro id old found
  rw [Table.get?_update]
  split
  · rw [found]
    exact ⟨change old, rfl, same old⟩
  · exact ⟨old, found, rfl, rfl⟩

theorem activate_employees (identityId : Nat) (enterpriseId : Option Nat) (now : Int)
    (db : AccessDb) :
    EmployeesKept db (AuthService.activate identityId enterpriseId now db) := by
  intro id old found
  unfold AuthService.activate
  cases enterpriseId with
  | none =>
      simp only
      repeat' split
      all_goals exact ⟨old, found, rfl, rfl⟩
  | some enterpriseId =>
      simp only
      split
      · split
        · refine EmployeesKept.update db.employees _ (fun employee => ?_) id old found
          split <;> exact ⟨rfl, rfl⟩
        · exact ⟨old, found, rfl, rfl⟩
      · exact ⟨old, found, rfl, rfl⟩

theorem account_step {runtime : Runtime} {choice : AccessChoice} {task : AccountTask}
    {db next : AccessDb} {tasks : List AccessTask}
    (success : accountStep runtime choice task db = .ok (tasks, next)) : AccountStep db next := by
  by_cases reading : task.writes = false
  · rw [account_step_reads reading success]
    exact .refl db
  · cases task with
    | signupWrite slug businessEmail owner password =>
        obtain ⟨-, roles, rows, added, rfl, kept, builtIn, only⟩ := signupWrite_ok success
        refine ⟨kept, by simp, fun enterpriseId known => ?_, EmployeesKept.insert db _, ?_, rfl, [], rfl⟩
        · rw [Table.nextId_insert] at known
          rcases Nat.lt_succ_iff_lt_or_eq.mp known with old | rfl
          · exact .inl old
          · exact .inr builtIn
        · intro grant member
          rcases List.mem_append.mp member with old | new
          · exact .inl old
          · obtain ⟨enterprise, employee⟩ := only grant new
            rw [enterprise, employee]
            exact .inr ⟨_, Table.get?_insert_self _ _, rfl⟩
    | createWrite enterpriseId actingEmployeeId addresses role =>
        obtain ⟨identityId, identities, added, -, -, rfl, -, only⟩ :=
          createEmployeeWrite_ok success
        refine ⟨fun _ _ found => found, Nat.le_refl _, fun _ known => .inl known,
          EmployeesKept.insert db _, ?_, rfl, [_], rfl⟩
        intro grant member
        rcases List.mem_append.mp member with old | new
        · exact .inl old
        · obtain ⟨enterprise, employee, -⟩ := only grant new
          rw [enterprise, employee]
          exact .inr ⟨_, Table.get?_insert_self _ _, rfl⟩
    | setStatusWrite enterpriseId employeeId source status =>
        obtain ⟨-, -, rfl⟩ := setStatusWrite_ok success
        exact ⟨fun _ _ found => found, Nat.le_refl _, fun _ known => .inl known,
          EmployeesKept.update db.employees _ fun _ => ⟨rfl, rfl⟩, fun _ member => .inl member,
          rfl, [], rfl⟩
    | setStaffStatusWrite target status =>
        obtain ⟨-, -, rfl⟩ := setStaffStatusWrite_ok success
        exact { AccountStep.refl db with }
    | inviteStaffWrite actingStaffId addresses roleIds =>
        obtain ⟨-, -, staffRoles, rfl⟩ := inviteStaffWrite_ok success
        exact { AccountStep.refl db with }
    | markVerified identityId credential =>
        obtain ⟨-, rfl⟩ := Prod.mk.inj (Except.ok.inj success)
        exact { AccountStep.refl db with }
    | completeInviteWrite identity enterpriseId verifiedDestination newPassword =>
        obtain ⟨-, rfl⟩ := Prod.mk.inj (Except.ok.inj success)
        obtain ⟨identities, set⟩ := setPassword_frame runtime identity verifiedDestination
          newPassword choice db
        rw [set]
        have kept := activate_employees identity.id enterpriseId choice.now
          { db with identities := identities }
        obtain ⟨employees, staff, same⟩ := activate_frame identity.id enterpriseId choice.now
          { db with identities := identities }
        rw [same] at kept ⊢
        exact ⟨fun _ _ found => found, Nat.le_refl _, fun _ known => .inl known, kept,
          fun _ member => .inl member, rfl, [_], rfl⟩
    | _ => exact absurd rfl reading

/-- What every run of every call keeps: each business has its owner role, and each
grant its employee. -/
structure WellFormed (db : AccessDb) : Prop where
  owners : ∀ enterpriseId < db.enterprises.nextId, OwnerBuiltIn db enterpriseId
  grants : GrantsKnown db

theorem WellFormed.statement {runtime : Runtime} {choice : AccessChoice} {task : AccessTask}
    {db next : AccessDb} {tasks : List AccessTask} (wellFormed : WellFormed db)
    (success : task.statement runtime choice db = .ok (tasks, next)) : WellFormed next := by
  cases task with
  | role task =>
      obtain ⟨⟨roleTasks, after⟩, step, done⟩ := bind_eq_ok.mp success
      obtain ⟨-, rfl⟩ := Prod.mk.inj (Except.ok.inj done)
      have system := role_step_system step
      by_cases reading : task.writes = false
      · rwa [role_step_reads reading step]
      · cases task with
        | createWrite enterpriseId request =>
            obtain ⟨-, -, ⟨rows, rfl⟩, -⟩ := createWrite_ok step
            exact ⟨fun id known => (wellFormed.owners id known).kept system, wellFormed.grants⟩
        | updateWrite enterpriseId roleId request =>
            obtain ⟨-, -, -, ⟨rows, rfl⟩, -⟩ := updateWrite_ok step
            exact ⟨fun id known => (wellFormed.owners id known).kept system, wellFormed.grants⟩
        | archiveWrite enterpriseId roleId =>
            obtain ⟨-, -, rfl⟩ := archiveWrite_ok step
            exact ⟨fun id known => (wellFormed.owners id known).kept system, wellFormed.grants⟩
        | setRolesWrite enterpriseId actingEmployeeId employeeId roles =>
            obtain ⟨-, grants, rfl, origin⟩ := setRolesWrite_ok step
            refine ⟨fun id known => (wellFormed.owners id known).kept system, ?_⟩
            intro grant member
            rcases origin grant member with ⟨old, -⟩ | ⟨rfl, rfl, -, there⟩
            · exact wellFormed.grants grant old
            · exact there
        | _ => exact absurd rfl reading
  | verification task =>
      obtain ⟨⟨outcome, after⟩, step, done⟩ := bind_eq_ok.mp success
      obtain ⟨verifications, recent, rfl⟩ := verification_step_frame step
      cases outcome with
      | continues left =>
          obtain ⟨-, rfl⟩ := Prod.mk.inj (Except.ok.inj done)
          exact ⟨wellFormed.owners, wellFormed.grants⟩
      | verified proven following =>
          obtain ⟨-, rfl⟩ := Prod.mk.inj (Except.ok.inj done)
          exact ⟨wellFormed.owners, wellFormed.grants⟩
  | account task =>
      have step := account_step success
      refine ⟨fun id known => ?_, fun grant member => ?_⟩
      · rcases step.enterprises id known with old | new
        · exact (wellFormed.owners id old).kept fun roleId role found _ =>
            step.roles roleId role found
        · exact new
      · rcases step.grants grant member with old | new
        · obtain ⟨employee, found, ours⟩ := wellFormed.grants grant old
          obtain ⟨later, there, same, -⟩ := step.employees _ employee found
          exact ⟨later, there, same.trans ours⟩
        · exact new

theorem statement_enterprises {runtime : Runtime} {choice : AccessChoice} {task : AccessTask}
    {db next : AccessDb} {tasks : List AccessTask}
    (success : task.statement runtime choice db = .ok (tasks, next)) :
    db.enterprises.nextId ≤ next.enterprises.nextId := by
  cases task with
  | role task =>
      obtain ⟨⟨roleTasks, after⟩, step, done⟩ := bind_eq_ok.mp success
      obtain ⟨-, rfl⟩ := Prod.mk.inj (Except.ok.inj done)
      obtain ⟨roles, rows, grants, recent, rfl⟩ := role_step_frame step
      exact Nat.le_refl _
  | verification task =>
      obtain ⟨⟨outcome, after⟩, step, done⟩ := bind_eq_ok.mp success
      obtain ⟨verifications, recent, rfl⟩ := verification_step_frame step
      cases outcome with
      | continues left =>
          obtain ⟨-, rfl⟩ := Prod.mk.inj (Except.ok.inj done)
          exact Nat.le_refl _
      | verified proven following =>
          obtain ⟨-, rfl⟩ := Prod.mk.inj (Except.ok.inj done)
          exact Nat.le_refl _
  | account task => exact (account_step success).grows

theorem wellFormed_seeded (permissions : Table PermissionRow) (templates : Table RoleRow)
    (grants : List RolePermissionRow) : WellFormed (.seeded permissions templates grants) where
  owners enterpriseId known := absurd known (Nat.not_lt_zero enterpriseId)
  grants _ member := absurd member List.not_mem_nil

theorem reached_wellFormed {runtime : Runtime}
    {allowed : AccessDb → Event AccessTask AccessCall AccessChoice → Prop}
    {permissions : Table PermissionRow} {templates : Table RoleRow}
    {grants : List RolePermissionRow} {pool : Pool AccessDb AccessTask}
    (reached : (accessMachine runtime).PoolReaches allowed
      (.seeded permissions templates grants) pool) : WellFormed pool.shared :=
  (access_invariant WellFormed (fun _ _ => True) (fun _ _ _ _ _ _ => trivial)
    (fun _ _ _ _ _ wellFormed _ _ success =>
      ⟨wellFormed.statement success, fun _ _ => trivial, fun _ _ => trivial⟩)
    (wellFormed_seeded permissions templates grants) reached).1

end UnifiedService.Access
