import UnifiedService.Access.Service

/-! What the repositories can do to the database: the exact successes of each
writing statement, and which tables a step of each service leaves alone. -/

set_option autoImplicit false

namespace UnifiedService.Access

open UnifiedService.Library

namespace AccessDb

@[simp] theorem record_trail (db : AccessDb) (event : AccessEvent) :
    (db.record event).trail = event :: db.trail := rfl

/-! ### Accounts -/

theorem createIdentity_ok {db next : AccessDb} {runtime : Runtime} {email mobile : Option String}
    {passwordHash : String} {id : Nat}
    (created : db.createIdentity runtime email mobile passwordHash = .ok (id, next)) :
    id = db.identities.nextId ∧
      next = { db with
        identities := db.identities.insert (newIdentity email mobile passwordHash) } := by
  unfold createIdentity at created
  split at created
  · contradiction
  · split at created
    · contradiction
    · obtain ⟨rfl, rfl⟩ := Prod.mk.inj (Except.ok.inj created)
      exact ⟨rfl, rfl⟩

theorem createEmployee_ok {db next : AccessDb} {identityId enterpriseId id : Nat}
    {status : EmployeeStatus} {invitedByEmployeeId : Option Nat} {now : Int}
    (created : db.createEmployee identityId enterpriseId status invitedByEmployeeId now =
      .ok (id, next)) :
    db.findEmployeeByIdentity enterpriseId identityId = none ∧ id = db.employees.nextId ∧
      next = { db with
        employees := db.employees.insert
          (newEmployee identityId enterpriseId status invitedByEmployeeId now) } := by
  unfold createEmployee at created
  split at created
  · contradiction
  · next absent =>
      obtain ⟨rfl, rfl⟩ := Prod.mk.inj (Except.ok.inj created)
      exact ⟨by simpa using absent, rfl, rfl⟩

theorem createStaff_ok {db next : AccessDb} {identityId id : Nat} {hasAllEnterpriseAccess : Bool}
    {status : StaffStatus}
    (created : db.createStaff identityId hasAllEnterpriseAccess status = .ok (id, next)) :
    db.findAnyStaffByIdentity identityId = none ∧ id = db.staff.nextId ∧
      next = { db with
        staff := db.staff.insert { identityId, hasAllEnterpriseAccess, status } } := by
  unfold createStaff at created
  split at created
  · contradiction
  · next absent =>
      obtain ⟨rfl, rfl⟩ := Prod.mk.inj (Except.ok.inj created)
      exact ⟨by simpa using absent, rfl, rfl⟩

theorem setEmployeeStatus_ok {db next : AccessDb} {enterpriseId employeeId : Nat}
    {source target : EmployeeStatus}
    (changed : db.setEmployeeStatus enterpriseId employeeId source target = (true, next)) :
    (∃ employee, db.employees.get? employeeId = some employee ∧
        employee.enterpriseId = enterpriseId ∧ employee.status = source) ∧
      next = { db with
        employees := db.employees.update employeeId fun employee =>
          { employee with status := target } } := by
  unfold setEmployeeStatus at changed
  split at changed
  · next there =>
      obtain ⟨employee, found, ours⟩ := (Option.any_eq_true _ _).mp there
      rw [Bool.and_eq_true, beq_iff_eq, beq_iff_eq] at ours
      exact ⟨⟨employee, found, ours⟩, (Prod.mk.inj changed).2.symm⟩
  · simp at changed

theorem setStaffStatus_ok {db next : AccessDb} {staffId : Nat} {source target : StaffStatus}
    (changed : db.setStaffStatus staffId source target = (true, next)) :
    (∃ member, db.staff.get? staffId = some member ∧ member.status = source) ∧
      next = { db with
        staff := db.staff.update staffId fun member => { member with status := target } } := by
  unfold setStaffStatus at changed
  split at changed
  · next there =>
      obtain ⟨member, found, same⟩ := (Option.any_eq_true _ _).mp there
      exact ⟨⟨member, found, beq_iff_eq.mp same⟩, (Prod.mk.inj changed).2.symm⟩
  · simp at changed

/-! ### Roles -/

theorem nameTaken_eq_false {db : AccessDb} {enterpriseId : Nat} {name : String}
    {exceptId : Option Nat} (free : db.nameTaken enterpriseId name exceptId = false)
    {id : Nat} {role : RoleRow} (found : db.roles.get? id = some role)
    (ours : role.enterpriseId = some enterpriseId) (named : role.name = name) :
    exceptId = some id := by
  have listed : (⟨id, role⟩ : Stored RoleRow) ∈ db.roles.select fun role =>
      role.enterpriseId == some enterpriseId && role.name == name :=
    Table.mem_select.mpr ⟨found, by simp [ours, named]⟩
  have excused := (List.any_eq_false.mp free) _ listed
  rw [Bool.not_eq_true, bne_eq_false_iff_eq] at excused
  exact excused.symm

theorem insertRole_ok {db next : AccessDb} {enterpriseId id : Nat} {role : RoleRow}
    (inserted : db.insertRole enterpriseId role = .ok (id, next)) :
    db.nameTaken enterpriseId role.name none = false ∧ id = db.roles.nextId ∧
      next = { db with roles := db.roles.insert { role with enterpriseId := some enterpriseId } } := by
  unfold insertRole at inserted
  split at inserted
  · contradiction
  · next free =>
      obtain ⟨rfl, rfl⟩ := Prod.mk.inj (Except.ok.inj inserted)
      exact ⟨by simpa using free, rfl, rfl⟩

theorem roleEditable_eq_true {db : AccessDb} {enterpriseId roleId : Nat}
    (editable : db.roleEditable enterpriseId roleId = true) :
    ∃ role, db.roles.get? roleId = some role ∧ role.enterpriseId = some enterpriseId ∧
      role.isSystem = false := by
  obtain ⟨role, found, ours⟩ := (Option.any_eq_true _ _).mp editable
  exact ⟨role, found, by simpa using ours⟩

theorem updateRole_ok {db next : AccessDb} {enterpriseId roleId : Nat} {name : String}
    {description : Option String} {level : Int}
    (updated : db.updateRole enterpriseId roleId name description level = .ok (true, next)) :
    db.roleEditable enterpriseId roleId = true ∧
      db.nameTaken enterpriseId name (some roleId) = false ∧
      next = { db with
        roles := db.roles.update roleId fun role =>
          { role with name := name, description := description, level := level } } := by
  unfold updateRole at updated
  split at updated
  · simp at updated
  · next editable =>
      split at updated
      · contradiction
      · next free =>
          refine ⟨by simpa using editable, by simpa using free, ?_⟩
          exact (Prod.mk.inj (Except.ok.inj updated)).2.symm

theorem archiveRole_ok {db next : AccessDb} {enterpriseId roleId : Nat}
    (archived : db.archiveRole enterpriseId roleId = (true, next)) :
    db.roleEditable enterpriseId roleId = true ∧
      next = { db with
        roles := db.roles.update roleId fun role => { role with status := .archived } } := by
  unfold archiveRole at archived
  split at archived
  · simp at archived
  · next editable => exact ⟨by simpa using editable, (Prod.mk.inj archived).2.symm⟩

theorem grantToEmployee_ok {db next : AccessDb} {grant : EmployeeRoleRow}
    (granted : db.grantToEmployee grant = .ok next) :
    next = db ∨
      (next = { db with employeeRoles := db.employeeRoles ++ [grant] } ∧
        ∃ employee, db.employees.get? grant.employeeId = some employee ∧
          employee.enterpriseId = grant.enterpriseId) := by
  unfold grantToEmployee at granted
  split at granted
  · exact .inl (Except.ok.inj granted).symm
  · split at granted
    · contradiction
    · next employed =>
        split at granted
        · contradiction
        · refine .inr ⟨(Except.ok.inj granted).symm, ?_⟩
          have there : (db.employees.get? grant.employeeId).any (fun employee =>
              employee.enterpriseId == grant.enterpriseId) = true := by simpa using employed
          obtain ⟨employee, found, ours⟩ := (Option.any_eq_true _ _).mp there
          exact ⟨employee, found, beq_iff_eq.mp ours⟩

theorem foldlM_grantToEmployee_ok {grants : List EmployeeRoleRow} {db next : AccessDb}
    (granted : grants.foldlM grantToEmployee db = .ok next) :
    ∃ added, next = { db with employeeRoles := db.employeeRoles ++ added } ∧
      ∀ grant ∈ added, grant ∈ grants ∧ ∃ employee,
        db.employees.get? grant.employeeId = some employee ∧
          employee.enterpriseId = grant.enterpriseId := by
  induction grants generalizing db with
  | nil =>
      obtain rfl := Except.ok.inj granted
      exact ⟨[], by simp, by simp⟩
  | cons grant rest ih =>
      rw [List.foldlM_cons] at granted
      obtain ⟨middle, first, after⟩ := bind_eq_ok.mp granted
      obtain ⟨added, rfl, fresh⟩ := ih after
      rcases grantToEmployee_ok first with rfl | ⟨rfl, employed⟩
      · refine ⟨added, rfl, fun other member => ?_⟩
        obtain ⟨listed, there⟩ := fresh other member
        exact ⟨List.mem_cons_of_mem grant listed, there⟩
      · refine ⟨grant :: added, by simp, fun other member => ?_⟩
        rcases List.mem_cons.mp member with rfl | later
        · exact ⟨List.mem_cons_self, employed⟩
        · obtain ⟨listed, there⟩ := fresh other later
          exact ⟨List.mem_cons_of_mem grant listed, there⟩

theorem replaceEmployeeRoles_ok {db next : AccessDb} {enterpriseId employeeId : Nat}
    {roleIds : List Nat} {grantedByEmployeeId : Nat}
    (replaced : db.replaceEmployeeRoles enterpriseId employeeId roleIds grantedByEmployeeId =
      .ok next) :
    ∃ grants, next = { db with employeeRoles := grants } ∧
      ∀ grant ∈ grants,
        (grant ∈ db.employeeRoles ∧
          ¬(grant.enterpriseId = enterpriseId ∧ grant.employeeId = employeeId)) ∨
        (grant.enterpriseId = enterpriseId ∧ grant.employeeId = employeeId ∧
          grant.roleId ∈ roleIds ∧
          ∃ employee, db.employees.get? employeeId = some employee ∧
            employee.enterpriseId = enterpriseId) := by
  obtain ⟨added, rfl, fresh⟩ := foldlM_grantToEmployee_ok replaced
  refine ⟨_, rfl, fun grant member => ?_⟩
  rcases List.mem_append.mp member with old | new
  · left
    obtain ⟨listed, other⟩ := List.mem_filter.mp old
    refine ⟨listed, fun ours => ?_⟩
    simp [ours] at other
  · right
    obtain ⟨listed, there⟩ := fresh grant new
    obtain ⟨roleId, wanted, rfl⟩ := List.mem_map.mp listed
    exact ⟨rfl, rfl, wanted, there⟩

theorem foldl_insertRolePermission (grants : List RolePermissionRow) (db : AccessDb) :
    ∃ rows, grants.foldl insertRolePermission db = { db with rolePermissions := rows } ∧
      ∀ row ∈ rows, row ∈ db.rolePermissions ∨ row ∈ grants := by
  induction grants generalizing db with
  | nil => exact ⟨db.rolePermissions, rfl, fun row member => .inl member⟩
  | cons grant rest ih =>
      obtain ⟨rows, same, origin⟩ := ih (db.insertRolePermission grant)
      have first : ∃ rows, db.insertRolePermission grant = { db with rolePermissions := rows } ∧
          ∀ row ∈ rows, row ∈ db.rolePermissions ∨ row = grant := by
        unfold insertRolePermission
        split
        · exact ⟨db.rolePermissions, rfl, fun row member => .inl member⟩
        · refine ⟨_, rfl, fun row member => ?_⟩
          rcases List.mem_append.mp member with old | new
          · exact .inl old
          · exact .inr (List.mem_singleton.mp new)
      obtain ⟨middle, firstSame, firstOrigin⟩ := first
      rw [firstSame] at same origin
      refine ⟨rows, by rw [List.foldl_cons, firstSame, same], fun row member => ?_⟩
      rcases origin row member with old | later
      · rcases firstOrigin row old with older | rfl
        · exact .inl older
        · exact .inr List.mem_cons_self
      · exact .inr (List.mem_cons_of_mem grant later)

/-- Replacing a role's permissions leaves every other table and every other role's
grants, and gives the role only permissions that were asked for. -/
theorem replaceRolePermissions_eq (db : AccessDb) (enterpriseId roleId : Nat)
    (permissionCodes : List String) :
    ∃ rows, db.replaceRolePermissions enterpriseId roleId permissionCodes =
        { db with rolePermissions := rows } ∧
      ∀ row ∈ rows, (row ∈ db.rolePermissions ∧
          (row.roleId = roleId → ¬(db.roles.get? roleId).any fun role =>
            role.enterpriseId == some enterpriseId)) ∨
        (row.roleId = roleId ∧ ∃ permission, db.permissions.get? row.permissionId =
          some permission ∧ permission.code ∈ permissionCodes) := by
  unfold replaceRolePermissions
  split
  · obtain ⟨rows, same, origin⟩ := foldl_insertRolePermission
      ((db.permissions.select fun permission =>
        permissionCodes.contains permission.code && permission.status == .active &&
          permission.scope != .staff).map fun permission =>
            { roleId := roleId, enterpriseId := none, permissionId := permission.id })
      { db with rolePermissions := db.rolePermissions.filter fun grant => grant.roleId != roleId }
    refine ⟨rows, same, fun row member => ?_⟩
    rcases origin row member with old | new
    · obtain ⟨listed, other⟩ := List.mem_filter.mp old
      exact .inl ⟨listed, fun ours => by simp [ours] at other⟩
    · obtain ⟨permission, wanted, rfl⟩ := List.mem_map.mp new
      obtain ⟨found, asked⟩ := Table.mem_select.mp wanted
      simp only [Bool.and_eq_true, List.contains_iff_mem] at asked
      exact .inr ⟨rfl, permission.row, found, asked.1.1⟩
  · next elsewhere => exact ⟨db.rolePermissions, rfl, fun row member =>
      .inl ⟨member, fun _ => elsewhere⟩⟩

theorem mem_roleCodes {db : AccessDb} {roleId : Nat} {code : String} :
    code ∈ db.roleCodes roleId ↔
      ∃ id permission, db.permissions.get? id = some permission ∧ permission.status = .active ∧
        permission.code = code ∧
        ∃ grant ∈ db.rolePermissions, grant.roleId = roleId ∧ grant.permissionId = id := by
  constructor
  · intro member
    obtain ⟨permission, listed, rfl⟩ := List.mem_map.mp member
    obtain ⟨wanted, granted⟩ := List.mem_filter.mp listed
    obtain ⟨found, active⟩ := Table.mem_select.mp wanted
    obtain ⟨grant, there, same⟩ := List.any_eq_true.mp granted
    rw [Bool.and_eq_true, beq_iff_eq, beq_iff_eq] at same
    exact ⟨permission.id, permission.row, found, beq_iff_eq.mp active, rfl, grant, there, same⟩
  · rintro ⟨id, permission, found, active, rfl, grant, there, same⟩
    refine List.mem_map.mpr ⟨⟨id, permission⟩, List.mem_filter.mpr ⟨?_, ?_⟩, rfl⟩
    · exact Table.mem_select.mpr ⟨found, by simp [active]⟩
    · exact List.any_eq_true.mpr ⟨grant, there, by simp [same.1, same.2]⟩

theorem mem_heldRoles {db : AccessDb} {enterpriseId employeeId : Nat} {role : Stored RoleRow} :
    role ∈ db.heldRoles enterpriseId employeeId ↔
      db.roles.get? role.id = some role.row ∧ role.row.enterpriseId = some enterpriseId ∧
        role.row.status = .active ∧
        ∃ grant ∈ db.employeeRoles, grant.enterpriseId = enterpriseId ∧
          grant.employeeId = employeeId ∧ grant.roleId = role.id := by
  simp only [heldRoles, List.mem_filter, Table.mem_select, List.any_eq_true, Bool.and_eq_true,
    beq_iff_eq, and_assoc]

theorem replaceRolePermissions_codes {db : AccessDb} {enterpriseId roleId : Nat}
    {permissionCodes : List String} {other : Nat} {code : String}
    (granted : code ∈ (db.replaceRolePermissions enterpriseId roleId permissionCodes).roleCodes
      other) :
    (other = roleId → (∃ role, db.roles.get? roleId = some role ∧
      role.enterpriseId = some enterpriseId) → code ∈ permissionCodes) ∧
    (other ≠ roleId → code ∈ db.roleCodes other) := by
  obtain ⟨rows, same, origin⟩ :=
    db.replaceRolePermissions_eq enterpriseId roleId permissionCodes
  rw [same] at granted
  obtain ⟨id, permission, found, active, named, grant, there, ours, names⟩ :=
    mem_roleCodes.mp granted
  constructor
  · rintro rfl ⟨role, roleFound, roleOurs⟩
    rcases origin grant there with ⟨_, elsewhere⟩ | ⟨_, asked, askedFound, wanted⟩
    · exact absurd (by simp [roleFound, roleOurs]) (elsewhere ours)
    · rw [names, found] at askedFound
      obtain rfl := Option.some.inj askedFound
      exact named ▸ wanted
  · intro different
    rcases origin grant there with ⟨old, _⟩ | ⟨new, _⟩
    · exact mem_roleCodes.mpr ⟨id, permission, found, active, named, grant, old, ours, names⟩
    · exact absurd (ours.symm.trans new) different

theorem createRole_ok {db next : AccessDb} {enterpriseId id : Nat} {name : String}
    {description : Option String} {level : Int}
    (created : db.createRole enterpriseId name description level = .ok (id, next)) :
    db.nameTaken enterpriseId name none = false ∧ id = db.roles.nextId ∧
      next = { db with
        roles := db.roles.insert
          { enterpriseId := some enterpriseId
            scope := .enterprise
            name := name
            description := description
            isSystem := false
            status := .active
            level := level } } :=
  insertRole_ok created

end AccessDb

/-! ### Steps that only read -/

def RoleTask.writes : RoleTask → Bool
  | .createWrite _ _ | .updateWrite _ _ _ | .archiveWrite _ _ | .setRolesWrite _ _ _ _ => true
  | _ => false

def AccountTask.writes : AccountTask → Bool
  | .signupWrite _ _ _ _ | .createWrite _ _ _ _ | .setStatusWrite _ _ _ _
  | .setStaffStatusWrite _ _ | .inviteStaffWrite _ _ _ | .markVerified _ _
  | .completeInviteWrite _ _ _ _ => true
  | _ => false

theorem role_step_reads {runtime : Runtime} {task : RoleTask} {db next : AccessDb}
    {tasks : List RoleTask} (reading : task.writes = false)
    (success : RolesService.step runtime task db = .ok (tasks, next)) : next = db := by
  cases task with
  | create enterpriseId actingEmployeeId request =>
      obtain ⟨_, _, done⟩ := bind_eq_ok.mp success
      exact (Prod.mk.inj (Except.ok.inj done)).2.symm
  | createCount enterpriseId request =>
      simp only [RolesService.step, RolesService.createCount] at success
      split at success
      · contradiction
      · exact (Prod.mk.inj (Except.ok.inj success)).2.symm
  | createExisting enterpriseId request =>
      simp only [RolesService.step, RolesService.createExisting] at success
      split at success
      · contradiction
      · exact (Prod.mk.inj (Except.ok.inj success)).2.symm
  | createTemplate enterpriseId request =>
      simp only [RolesService.step, RolesService.createTemplate] at success
      split at success
      · contradiction
      · exact (Prod.mk.inj (Except.ok.inj success)).2.symm
  | createWrite enterpriseId request => contradiction
  | update enterpriseId actingEmployeeId roleId request =>
      exact (Prod.mk.inj (Except.ok.inj success)).2.symm
  | updateFind enterpriseId authority roleId request =>
      simp only [RolesService.step, RolesService.updateFind] at success
      split at success
      · contradiction
      · obtain ⟨_, _, rest⟩ := bind_eq_ok.mp success
        obtain ⟨_, _, done⟩ := bind_eq_ok.mp rest
        exact (Prod.mk.inj (Except.ok.inj done)).2.symm
  | updateClash enterpriseId roleId request =>
      simp only [RolesService.step, RolesService.updateClash] at success
      split at success
      · contradiction
      · exact (Prod.mk.inj (Except.ok.inj success)).2.symm
  | updateWrite enterpriseId roleId request => contradiction
  | archive enterpriseId actingEmployeeId roleId =>
      exact (Prod.mk.inj (Except.ok.inj success)).2.symm
  | archiveFind enterpriseId authority roleId =>
      simp only [RolesService.step, RolesService.archiveFind] at success
      split at success
      · contradiction
      · obtain ⟨_, _, rest⟩ := bind_eq_ok.mp success
        split at rest
        · contradiction
        · exact (Prod.mk.inj (Except.ok.inj rest)).2.symm
  | archiveWrite enterpriseId roleId => contradiction
  | setEmployeeRoles enterpriseId actingEmployeeId employeeId roleIds =>
      exact (Prod.mk.inj (Except.ok.inj success)).2.symm
  | setRolesEmployee enterpriseId authority employeeId roleIds =>
      simp only [RolesService.step, RolesService.setRolesEmployee] at success
      split at success
      · contradiction
      · exact (Prod.mk.inj (Except.ok.inj success)).2.symm
  | setRolesLevel enterpriseId authority employeeId roleIds =>
      simp only [RolesService.step, RolesService.setRolesLevel] at success
      split at success
      · contradiction
      · exact (Prod.mk.inj (Except.ok.inj success)).2.symm
  | setRolesFind enterpriseId authority employeeId roleIds =>
      simp only [RolesService.step, RolesService.setRolesFind] at success
      split at success
      · contradiction
      · obtain ⟨_, _, done⟩ := bind_eq_ok.mp success
        exact (Prod.mk.inj (Except.ok.inj done)).2.symm
  | setRolesWrite enterpriseId actingEmployeeId employeeId roles => contradiction

theorem account_step_reads {runtime : Runtime} {choice : AccessChoice} {task : AccountTask}
    {db next : AccessDb} {tasks : List AccessTask} (reading : task.writes = false)
    (success : accountStep runtime choice task db = .ok (tasks, next)) : next = db := by
  cases task with
  | signup request =>
      simp only [accountStep, EnterpriseOnboardingService.signup] at success
      repeat' split at success
      all_goals first
        | contradiction
        | exact (Prod.mk.inj (Except.ok.inj success)).2.symm
  | createEmployee enterpriseId actingEmployeeId request =>
      simp only [accountStep, EmployeesService.create] at success
      repeat' split at success
      all_goals first
        | contradiction
        | exact (Prod.mk.inj (Except.ok.inj success)).2.symm
  | createAuthority enterpriseId actingEmployeeId addresses role =>
      simp only [accountStep, EmployeesService.createAuthority] at success
      split at success
      · contradiction
      · exact (Prod.mk.inj (Except.ok.inj success)).2.symm
  | inviteStaff actingStaffId request =>
      simp only [accountStep, PlatformService.inviteStaff] at success
      split at success
      · contradiction
      · obtain ⟨_, _, done⟩ := bind_eq_ok.mp success
        exact (Prod.mk.inj (Except.ok.inj done)).2.symm
  | setStatus enterpriseId actingEmployeeId employeeId status =>
      simp only [accountStep, EmployeesService.setStatus] at success
      split at success
      · contradiction
      · exact (Prod.mk.inj (Except.ok.inj success)).2.symm
  | setStatusAuthority enterpriseId actingEmployeeId employeeId employee status =>
      exact (Prod.mk.inj (Except.ok.inj success)).2.symm
  | setStatusLevel enterpriseId authority employeeId employee status =>
      simp only [accountStep, EmployeesService.setStatusLevel] at success
      repeat' split at success
      all_goals first
        | contradiction
        | exact (Prod.mk.inj (Except.ok.inj success)).2.symm
  | setStaffStatus actingStaffId staffId status =>
      simp only [accountStep, PlatformService.setStaffStatus] at success
      repeat' split at success
      all_goals first
        | contradiction
        | exact (Prod.mk.inj (Except.ok.inj success)).2.symm
  | resend address purpose =>
      obtain ⟨_, _, done⟩ := bind_eq_ok.mp success
      exact (Prod.mk.inj (Except.ok.inj done)).2.symm
  | verifyLogin verificationRefId code => exact (Prod.mk.inj (Except.ok.inj success)).2.symm
  | completeVerifiedLogin identityId verifiedDestination =>
      simp only [accountStep, AuthService.completeVerifiedLogin] at success
      repeat' split at success
      all_goals first
        | contradiction
        | exact (Prod.mk.inj (Except.ok.inj success)).2.symm
  | acceptInvite request =>
      obtain ⟨_, _, done⟩ := bind_eq_ok.mp success
      exact (Prod.mk.inj (Except.ok.inj done)).2.symm
  | completeInvite identityId enterpriseId verifiedDestination newPassword =>
      simp only [accountStep, AuthService.completeInvite] at success
      split at success
      · contradiction
      · exact (Prod.mk.inj (Except.ok.inj success)).2.symm
  | signupWrite slug businessEmail owner password => contradiction
  | createWrite enterpriseId actingEmployeeId addresses role => contradiction
  | setStatusWrite enterpriseId employeeId source status => contradiction
  | setStaffStatusWrite target status => contradiction
  | inviteStaffWrite actingStaffId addresses roleIds => contradiction
  | markVerified identityId credential => contradiction
  | completeInviteWrite identity enterpriseId verifiedDestination newPassword => contradiction

/-! ### Steps that write roles -/

def RoleRequest.newRow (request : RoleRequest) (enterpriseId : Nat) : RoleRow where
  enterpriseId := some enterpriseId
  scope := .enterprise
  name := request.name
  description := request.description
  isSystem := false
  status := .active
  level := request.level

def RoleRequest.edited (request : RoleRequest) (role : RoleRow) : RoleRow :=
  { role with name := request.name, description := request.description, level := request.level }

def CodesWritten (db next : AccessDb) (roleId : Nat) (permissions : List String) : Prop :=
  ∀ other code, code ∈ next.roleCodes other →
    (other = roleId → code ∈ permissions) ∧ (other ≠ roleId → code ∈ db.roleCodes other)

theorem createWrite_ok {db next : AccessDb} {enterpriseId : Nat} {request : RoleRequest}
    {tasks : List RoleTask}
    (success : RolesService.createWrite enterpriseId request db = .ok (tasks, next)) :
    db.nameTaken enterpriseId request.name none = false ∧ tasks = [] ∧
      (∃ rows, next = { db with
        roles := db.roles.insert (request.newRow enterpriseId), rolePermissions := rows }) ∧
      CodesWritten db next db.roles.nextId request.permissions := by
  obtain ⟨⟨roleId, middle⟩, created, done⟩ := bind_eq_ok.mp success
  obtain ⟨free, rfl, rfl⟩ := AccessDb.createRole_ok created
  obtain ⟨rfl, rfl⟩ := Prod.mk.inj (Except.ok.inj done)
  refine ⟨free, rfl, ?_, fun other code granted => ?_⟩
  · obtain ⟨rows, same, -⟩ := AccessDb.replaceRolePermissions_eq
      { db with roles := db.roles.insert (request.newRow enterpriseId) } enterpriseId
      db.roles.nextId request.permissions
    exact ⟨rows, same⟩
  · obtain ⟨own, rest⟩ := AccessDb.replaceRolePermissions_codes granted
    exact ⟨fun here => own here ⟨_, Table.get?_insert_self _ _, rfl⟩, rest⟩

theorem updateWrite_ok {db next : AccessDb} {enterpriseId roleId : Nat} {request : RoleRequest}
    {tasks : List RoleTask}
    (success : RolesService.updateWrite enterpriseId roleId request db = .ok (tasks, next)) :
    (∃ role, db.roles.get? roleId = some role ∧ role.enterpriseId = some enterpriseId ∧
        role.isSystem = false) ∧
      db.nameTaken enterpriseId request.name (some roleId) = false ∧ tasks = [] ∧
      (∃ rows, next = { db with
        roles := db.roles.update roleId request.edited, rolePermissions := rows }) ∧
      CodesWritten db next roleId request.permissions := by
  obtain ⟨⟨affected, middle⟩, updated, done⟩ := bind_eq_ok.mp success
  cases affected with
  | false => contradiction
  | true =>
      obtain ⟨editable, free, rfl⟩ := AccessDb.updateRole_ok updated
      obtain ⟨rfl, rfl⟩ := Prod.mk.inj (Except.ok.inj done)
      obtain ⟨role, found, ours, custom⟩ := AccessDb.roleEditable_eq_true editable
      refine ⟨⟨role, found, ours, custom⟩, free, rfl, ?_, fun other code granted => ?_⟩
      · obtain ⟨rows, same, -⟩ := AccessDb.replaceRolePermissions_eq
          { db with roles := db.roles.update roleId request.edited } enterpriseId roleId
          request.permissions
        exact ⟨rows, same⟩
      · obtain ⟨own, rest⟩ := AccessDb.replaceRolePermissions_codes granted
        refine ⟨fun here => own here ⟨request.edited role, ?_, ours⟩, rest⟩
        show (db.roles.update roleId request.edited).get? roleId = _
        rw [Table.get?_update_self, found]
        rfl

theorem archiveWrite_ok {db next : AccessDb} {enterpriseId roleId : Nat} {tasks : List RoleTask}
    (success : RolesService.archiveWrite enterpriseId roleId db = .ok (tasks, next)) :
    (∃ role, db.roles.get? roleId = some role ∧ role.enterpriseId = some enterpriseId ∧
        role.isSystem = false) ∧ tasks = [] ∧
      next = { db with
        roles := db.roles.update roleId fun role => { role with status := .archived } } := by
  unfold RolesService.archiveWrite at success
  split at success
  · contradiction
  · next middle archived =>
      obtain ⟨rfl, rfl⟩ := Prod.mk.inj (Except.ok.inj success)
      obtain ⟨editable, same⟩ := AccessDb.archiveRole_ok archived
      exact ⟨AccessDb.roleEditable_eq_true editable, rfl, same⟩

theorem setRolesWrite_ok {db next : AccessDb} {enterpriseId actingEmployeeId employeeId : Nat}
    {roles : List FoundRole} {tasks : List RoleTask}
    (success : RolesService.setRolesWrite enterpriseId actingEmployeeId employeeId roles db =
      .ok (tasks, next)) :
    tasks = [] ∧ ∃ grants,
      next = { db with
        employeeRoles := grants
        trail := .rolesReplaced enterpriseId employeeId actingEmployeeId :: db.trail } ∧
      ∀ grant ∈ grants,
        (grant ∈ db.employeeRoles ∧
          ¬(grant.enterpriseId = enterpriseId ∧ grant.employeeId = employeeId)) ∨
        (grant.enterpriseId = enterpriseId ∧ grant.employeeId = employeeId ∧
          grant.roleId ∈ roles.map (·.id) ∧
          ∃ employee, db.employees.get? employeeId = some employee ∧
            employee.enterpriseId = enterpriseId) := by
  simp only [RolesService.setRolesWrite] at success
  split at success
  · contradiction
  · obtain ⟨middle, replaced, done⟩ := bind_eq_ok.mp success
    obtain ⟨grants, rfl, origin⟩ := AccessDb.replaceEmployeeRoles_ok replaced
    obtain ⟨rfl, rfl⟩ := Prod.mk.inj (Except.ok.inj done)
    exact ⟨rfl, grants, rfl, origin⟩

theorem role_step_frame {runtime : Runtime} {task : RoleTask} {db next : AccessDb}
    {tasks : List RoleTask} (success : RolesService.step runtime task db = .ok (tasks, next)) :
    ∃ roles rolePermissions employeeRoles recent, next =
      { db with
        roles := roles
        rolePermissions := rolePermissions
        employeeRoles := employeeRoles
        trail := recent ++ db.trail } := by
  by_cases reading : task.writes = false
  · obtain rfl := role_step_reads reading success
    exact ⟨next.roles, next.rolePermissions, next.employeeRoles, [], rfl⟩
  · cases task with
    | createWrite enterpriseId request =>
        obtain ⟨-, -, ⟨rows, rfl⟩, -⟩ := createWrite_ok success
        exact ⟨_, rows, db.employeeRoles, [], rfl⟩
    | updateWrite enterpriseId roleId request =>
        obtain ⟨-, -, -, ⟨rows, rfl⟩, -⟩ := updateWrite_ok success
        exact ⟨_, rows, db.employeeRoles, [], rfl⟩
    | archiveWrite enterpriseId roleId =>
        obtain ⟨-, -, rfl⟩ := archiveWrite_ok success
        exact ⟨_, db.rolePermissions, db.employeeRoles, [], rfl⟩
    | setRolesWrite enterpriseId actingEmployeeId employeeId roles =>
        obtain ⟨-, grants, rfl, -⟩ := setRolesWrite_ok success
        exact ⟨db.roles, db.rolePermissions, grants, [_], rfl⟩
    | _ => exact absurd rfl reading

/-! ### Steps of the verification service -/

@[simp] theorem AccessDb.nextId_supersedeLive (db : AccessDb) (input : IssueVerificationInput)
    (now : Int) : (db.supersedeLive input now).verifications.nextId = db.verifications.nextId := by
  simp [AccessDb.supersedeLive, Table.nextId]

theorem issue_ok {runtime : Runtime} {input : IssueVerificationInput} {resendOf : Option Nat}
    {choice : AccessChoice} {db next : AccessDb} {outcome : VerificationOutcome}
    (success : VerificationService.issue runtime input resendOf choice db = .ok (outcome, next)) :
    outcome = .continues (resendOf.toList.map .recordResend) ∧
      next = { db with
        verifications := (db.supersedeLive input choice.now).verifications.insert
          (AccessDb.newVerification input
            (runtime.hashSecret (mintSecret runtime input.verificationKind.config.secretShape
              choice.random)) choice.now)
        trail := .sent db.verifications.nextId input.destination
          (mintSecret runtime input.verificationKind.config.secretShape choice.random) ::
            db.trail } := by
  obtain ⟨⟨id, middle⟩, created, done⟩ := bind_eq_ok.mp success
  unfold AccessDb.createVerification at created
  split at created
  · contradiction
  · obtain ⟨rfl, rfl⟩ := Prod.mk.inj (Except.ok.inj created)
    obtain ⟨rfl, rfl⟩ := Prod.mk.inj (Except.ok.inj done)
    exact ⟨rfl, by simp [AccessDb.record, AccessDb.supersedeLive, Table.nextId]⟩

theorem spendAttempt_ok {db next : AccessDb} {id attempts : Nat}
    (spent : db.spendAttempt id = (some attempts, next)) :
    ∃ row, db.verifications.get? id = some row ∧ row.attemptCount < row.maxAttempts ∧
      attempts = row.attemptCount + 1 ∧
      next = { db with
        verifications := db.verifications.update id fun row =>
          { row with attemptCount := row.attemptCount + 1 } } := by
  unfold AccessDb.spendAttempt at spent
  split at spent
  · cases spent
  · next row found =>
      split at spent
      · next budget =>
          obtain ⟨same, rfl⟩ := Prod.mk.inj spent
          exact ⟨row, found, budget, (Option.some.inj same).symm, rfl⟩
      · cases spent

theorem consume_ok {db next : AccessDb} {id : Nat} {now : Int}
    (consumed : db.consume id now = (true, next)) :
    ∃ row, db.verifications.get? id = some row ∧ AccessDb.isLive row = true ∧
      next = { db with
        verifications := db.verifications.update id fun row =>
          { row with consumedAt := some now } } := by
  unfold AccessDb.consume at consumed
  split at consumed
  · next there =>
      obtain ⟨row, found, live⟩ := (Option.any_eq_true _ _).mp there
      exact ⟨row, found, live, (Prod.mk.inj consumed).2.symm⟩
  · cases consumed

theorem verification_step_frame {runtime : Runtime} {choice : AccessChoice}
    {task : VerificationTask} {db next : AccessDb} {outcome : VerificationOutcome}
    (success : VerificationService.step runtime choice task db = .ok (outcome, next)) :
    ∃ verifications recent, next =
      { db with verifications := verifications, trail := recent ++ db.trail } := by
  cases task with
  | assertWithinDestinationCap input resendOf =>
      simp only [VerificationService.step, VerificationService.assertWithinDestinationCap]
        at success
      split at success
      · contradiction
      · exact ⟨db.verifications, [], (Prod.mk.inj (Except.ok.inj success)).2.symm⟩
  | issue input resendOf =>
      obtain ⟨-, rfl⟩ := issue_ok success
      exact ⟨_, [_], rfl⟩
  | resend destination kind deliveryChannel =>
      simp only [VerificationService.step, VerificationService.resend] at success
      repeat' split at success
      all_goals exact ⟨db.verifications, [], (Prod.mk.inj (Except.ok.inj success)).2.symm⟩
  | recordResend id => exact ⟨_, [], (Prod.mk.inj (Except.ok.inj success)).2.symm⟩
  | verifyByDestination destination submitted kind next =>
      simp only [VerificationService.step, VerificationService.verifyByDestination] at success
      split at success
      · contradiction
      · exact ⟨db.verifications, [], (Prod.mk.inj (Except.ok.inj success)).2.symm⟩
  | verify id submitted kind next =>
      simp only [VerificationService.step, VerificationService.verify] at success
      repeat' split at success
      all_goals first
        | contradiction
        | exact ⟨db.verifications, [], (Prod.mk.inj (Except.ok.inj success)).2.symm⟩
  | spendAttempt verification submitted next =>
      simp only [VerificationService.step, VerificationService.spendAttempt] at success
      split at success
      · contradiction
      · next attempts spent same =>
          obtain ⟨-, rfl⟩ := Prod.mk.inj (Except.ok.inj success)
          obtain ⟨-, -, -, -, rfl⟩ := spendAttempt_ok same
          exact ⟨_, [], rfl⟩
  | compareSecret verification attempts submitted next =>
      simp only [VerificationService.step, VerificationService.compareSecret] at success
      repeat' split at success
      all_goals first
        | contradiction
        | exact ⟨db.verifications, [], (Prod.mk.inj (Except.ok.inj success)).2.symm⟩
  | consume verification next =>
      simp only [VerificationService.step, VerificationService.consume] at success
      split at success
      · contradiction
      · next consumed same =>
          obtain ⟨-, rfl⟩ := Prod.mk.inj (Except.ok.inj success)
          obtain ⟨-, -, -, rfl⟩ := consume_ok same
          exact ⟨_, [_], rfl⟩

end UnifiedService.Access
