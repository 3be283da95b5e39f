import UnifiedService.Access.Removals
import UnifiedService.Access.DatabaseProperties

/-! Never the last one out: however re-rolings and suspensions interleave, statement by
statement, a business keeps an active owner and the platform an active admin. -/

set_option autoImplicit false

namespace UnifiedService.Access

open UnifiedService.Library

/-! ### Owners and platform admins -/

def AccessDb.OwnerRole (db : AccessDb) (enterpriseId roleId : Nat) : Prop :=
  ∃ row, db.roles.get? roleId = some row ∧ row.enterpriseId = some enterpriseId ∧
    row.status = .active ∧ row.name = SystemRole.owner.text

def AccessDb.HoldsOwner (db : AccessDb) (enterpriseId employeeId : Nat) : Prop :=
  ∃ grant ∈ db.employeeRoles, grant.enterpriseId = enterpriseId ∧
    grant.employeeId = employeeId ∧ db.OwnerRole enterpriseId grant.roleId

def AccessDb.ActiveOwner (db : AccessDb) (enterpriseId employeeId : Nat) : Prop :=
  (∃ employee, db.employees.get? employeeId = some employee ∧
    employee.enterpriseId = enterpriseId ∧ employee.status = .active) ∧
  db.HoldsOwner enterpriseId employeeId

def AccessDb.ActiveAdmin (db : AccessDb) (staffId : Nat) : Prop :=
  ∃ member, db.staff.get? staffId = some member ∧ member.status = .active ∧
    member.hasAllEnterpriseAccess = true

theorem AccessDb.listRoleNames_owner {db : AccessDb} {enterpriseId employeeId : Nat} :
    (db.listRoleNamesForEmployee enterpriseId employeeId).contains SystemRole.owner.text = true ↔
      db.HoldsOwner enterpriseId employeeId := by
  rw [List.contains_iff_mem, AccessDb.listRoleNamesForEmployee, List.mem_map]
  constructor
  · rintro ⟨role, held, named⟩
    obtain ⟨found, ours, active, grant, member, enterprise, employee, same⟩ :=
      AccessDb.mem_heldRoles.mp held
    exact ⟨grant, member, enterprise, employee, role.row, same ▸ found, ours, active, named⟩
  · rintro ⟨grant, member, enterprise, employee, row, found, ours, active, named⟩
    exact ⟨⟨grant.roleId, row⟩, AccessDb.mem_heldRoles.mpr
      ⟨found, ours, active, grant, member, enterprise, employee, rfl⟩, named⟩

theorem AccessDb.countOtherActiveOwners_ne_zero {db : AccessDb} {enterpriseId employeeId : Nat}
    (counted : db.countOtherActiveOwners enterpriseId employeeId ≠ 0) :
    ∃ other, db.ActiveOwner enterpriseId other ∧ other ≠ employeeId := by
  obtain ⟨employee, listed, passes⟩ := List.countP_pos_iff.mp (Nat.pos_of_ne_zero counted)
  obtain ⟨found, active⟩ := Table.mem_select.mp listed
  simp only [Bool.and_eq_true, beq_iff_eq, bne_iff_ne] at active passes
  exact ⟨employee.id, ⟨⟨employee.row, found, active.1, active.2⟩,
    listRoleNames_owner.mp passes.2⟩, passes.1⟩

theorem AccessDb.countOtherActivePlatformAdmins_ne_zero {db : AccessDb} {staffId : Nat}
    (counted : db.countOtherActivePlatformAdmins staffId ≠ 0) :
    ∃ other, db.ActiveAdmin other ∧ other ≠ staffId := by
  obtain ⟨member, listed, different⟩ := List.countP_pos_iff.mp (Nat.pos_of_ne_zero counted)
  obtain ⟨found, active⟩ := Table.mem_select.mp listed
  simp only [Bool.and_eq_true, beq_iff_eq, bne_iff_ne] at active different
  exact ⟨member.id, ⟨member.row, found, active.1, active.2⟩, different⟩

/-- The groups that must not run empty: the owners of each business, and the admins. -/
inductive AuthorityGroup where
  | owners (enterpriseId : Nat)
  | admins
  deriving DecidableEq, Repr

def authorityGroups : GuardedGroups AccessDb AuthorityGroup Nat LockedRow where
  member db
    | .owners enterpriseId, employeeId => db.ActiveOwner enterpriseId employeeId
    | .admins, staffId => db.ActiveAdmin staffId
  guard db
    | .owners enterpriseId => db.lockOwnerRole enterpriseId
    | .admins => db.lockPlatformAdmins
  guard_ne_nil db group one member := by
    cases group with
    | owners enterpriseId =>
        obtain ⟨-, grant, -, -, -, row, found, ours, -, named⟩ := member
        have listed : (⟨grant.roleId, row⟩ : Stored RoleRow) ∈ db.roles.select fun role =>
            role.enterpriseId == some enterpriseId && role.name == SystemRole.owner.text :=
          Table.mem_select.mpr ⟨found, by simp [ours, named]⟩
        exact List.ne_nil_of_mem (List.mem_map.mpr ⟨_, listed, rfl⟩)
    | admins =>
        obtain ⟨row, found, -, admin⟩ := member
        have listed : (⟨one, row⟩ : Stored StaffRow) ∈
            db.staff.select (·.hasAllEnterpriseAccess) :=
          Table.mem_select.mpr ⟨found, admin⟩
        exact List.ne_nil_of_mem (List.mem_map.mpr ⟨_, listed, rfl⟩)

/-! ### What the schema enforces -/

/-- `roles_enterprise_name_uniq`, and the foreign key of a grant to a role of its business. -/
structure AccessDb.Constrained (db : AccessDb) : Prop where
  names : ∀ id other row same, db.roles.get? id = some row → db.roles.get? other = some same →
    row.enterpriseId.isSome = true → row.enterpriseId = same.enterpriseId →
    row.name = same.name → id = other
  grants : ∀ grant ∈ db.employeeRoles, ∀ row, db.roles.get? grant.roleId = some row →
    row.enterpriseId = some grant.enterpriseId

theorem AccessDb.Constrained.ownerRole_unique {db : AccessDb} {enterpriseId roleId other : Nat}
    (constrained : db.Constrained) (role : db.OwnerRole enterpriseId roleId)
    (again : db.OwnerRole enterpriseId other) : roleId = other := by
  obtain ⟨row, found, ours, -, named⟩ := role
  obtain ⟨same, there, oursToo, -, namedToo⟩ := again
  exact constrained.names roleId other row same found there (by simp [ours])
    (ours.trans oursToo.symm) (named.trans namedToo.symm)

structure SameFrame (db next : AccessDb) : Prop where
  roles : next.roles = db.roles
  employees : ∀ id row, next.employees.get? id = some row → ∃ old,
    db.employees.get? id = some old ∧ old.enterpriseId = row.enterpriseId
  staff : ∀ id row, next.staff.get? id = some row → ∃ old,
    db.staff.get? id = some old ∧ old.hasAllEnterpriseAccess = row.hasAllEnterpriseAccess

theorem SameFrame.ownerRole {db next : AccessDb} {enterpriseId roleId : Nat}
    (frame : SameFrame db next) :
    next.OwnerRole enterpriseId roleId ↔ db.OwnerRole enterpriseId roleId := by
  unfold AccessDb.OwnerRole
  rw [frame.roles]

/-- No commit of these transactions adds a row to a guard. -/
theorem SameFrame.guards {db next : AccessDb} (frame : SameFrame db next)
    (group : AuthorityGroup) :
    authorityGroups.guard next group ⊆ authorityGroups.guard db group := by
  cases group with
  | owners enterpriseId =>
      show next.lockOwnerRole enterpriseId ⊆ db.lockOwnerRole enterpriseId
      unfold AccessDb.lockOwnerRole
      rw [frame.roles]
      exact List.Subset.refl _
  | admins =>
      intro row listed
      obtain ⟨member, admin, rfl⟩ := List.mem_map.mp listed
      obtain ⟨found, access⟩ := Table.mem_select.mp admin
      obtain ⟨old, there, same⟩ := frame.staff _ _ found
      exact List.mem_map.mpr ⟨⟨member.id, old⟩,
        Table.mem_select.mpr ⟨there, same.trans access⟩, rfl⟩

/-! ### What each statement relies on -/

section Ready

variable (needed : AuthorityGroup → Prop)

def SetRolesInput.NamesOwner (db : AccessDb) (input : SetRolesInput) : Prop :=
  RolesService.keepsOwner input.roles = true →
    ∃ role ∈ input.roles, db.OwnerRole input.enterpriseId role.id

def SetRolesInput.Allowed (db : AccessDb) (input : SetRolesInput) (locks : List LockedRow) :
    Prop :=
  RolesService.keepsOwner input.roles = false →
    authorityGroups.MayRemove needed db (.owners input.enterpriseId) input.employeeId locks

/-- A re-roling that keeps the owner grants again what it deletes of the owner role. -/
def SetRolesInput.Regrants (db : AccessDb) (input : SetRolesInput) (deleted : List Nat)
    (inserted : List EmployeeRoleRow) : Prop :=
  RolesService.keepsOwner input.roles = true → ∀ roleId ∈ deleted,
    db.OwnerRole input.enterpriseId roleId → ∃ grant ∈ inserted,
      grant.enterpriseId = input.enterpriseId ∧ grant.employeeId = input.employeeId ∧
        grant.roleId = roleId

def SetStatusInput.Allowed (db : AccessDb) (input : SetStatusInput) (locks : List LockedRow) :
    Prop :=
  input.target ≠ .active →
    authorityGroups.MayRemove needed db (.owners input.enterpriseId) input.employeeId locks

def SetStatusInput.Ours (db : AccessDb) (input : SetStatusInput) : Prop :=
  ∀ row, db.employees.get? input.employeeId = some row → row.enterpriseId = input.enterpriseId

def SetStaffStatusInput.Allowed (db : AccessDb) (input : SetStaffStatusInput)
    (locks : List LockedRow) : Prop :=
  input.target ≠ .active → input.staff.hasAllEnterpriseAccess = true →
    authorityGroups.MayRemove needed db .admins input.staff.id locks

def SetStaffStatusInput.Matches (db : AccessDb) (input : SetStaffStatusInput) : Prop :=
  ∀ row, db.staff.get? input.staff.id = some row →
    row.hasAllEnterpriseAccess = input.staff.hasAllEnterpriseAccess

def RemovalReady (db : AccessDb) : RemovalState → List LockedRow → Prop
  | .rolesLock input, _ => input.NamesOwner db
  | .rolesPrevious input, locks =>
      input.NamesOwner db ∧ (RolesService.keepsOwner input.roles = false →
        db.lockOwnerRole input.enterpriseId ⊆ locks)
  | .rolesCount input, locks =>
      RolesService.keepsOwner input.roles = false ∧ db.lockOwnerRole input.enterpriseId ⊆ locks
  | .rolesDelete input, locks | .rolesInsert input _, locks =>
      input.NamesOwner db ∧ input.Allowed needed db locks
  | .rolesCommit input deleted inserted, locks =>
      input.Allowed needed db locks ∧ input.Regrants db deleted inserted ∧
        ∀ grant ∈ inserted, ∃ row, db.roles.get? grant.roleId = some row ∧
          row.enterpriseId = some grant.enterpriseId
  | .statusLock _, _ => True
  | .statusNames input, locks | .statusCount input, locks =>
      db.lockOwnerRole input.enterpriseId ⊆ locks
  | .statusUpdate input, locks => input.Allowed needed db locks
  | .statusCommit input, locks => input.Allowed needed db locks ∧ input.Ours db
  | .staffLock input, _ => input.Matches db
  | .staffCount input, locks => input.Matches db ∧ db.lockPlatformAdmins ⊆ locks
  | .staffUpdate input, locks | .staffCommit input, locks =>
      input.Matches db ∧ input.Allowed needed db locks

structure AuthorityKept (db : AccessDb) : Prop where
  constrained : db.Constrained
  inhabited : ∀ group, needed group → ∃ one, authorityGroups.member db group one

end Ready

section Statements

variable {needed : AuthorityGroup → Prop} {db : AccessDb} {locks : List LockedRow}

theorem AuthorityKept.mayRemove_other (kept : AuthorityKept needed db)
    {enterpriseId employeeId : Nat} (holding : db.lockOwnerRole enterpriseId ⊆ locks)
    (other : ¬ db.HoldsOwner enterpriseId employeeId) :
    authorityGroups.MayRemove needed db (.owners enterpriseId) employeeId locks := by
  refine ⟨holding, fun need => ?_⟩
  obtain ⟨one, member⟩ := kept.inhabited _ need
  exact ⟨one, member, fun same => other (same ▸ member.2)⟩

theorem mayRemove_counted {enterpriseId employeeId : Nat}
    (holding : db.lockOwnerRole enterpriseId ⊆ locks)
    (counted : ¬ (db.countOtherActiveOwners enterpriseId employeeId == 0) = true) :
    authorityGroups.MayRemove needed db (.owners enterpriseId) employeeId locks :=
  ⟨holding, fun _ => AccessDb.countOtherActiveOwners_ne_zero (by simpa using counted)⟩

/-- Every grant asked for is there after an INSERT, and what it adds fits its role. -/
theorem foldlM_grantToEmployee_has {grants : List EmployeeRoleRow} {db next : AccessDb}
    (granted : grants.foldlM AccessDb.grantToEmployee db = .ok next) :
    ∃ added, next = { db with employeeRoles := db.employeeRoles ++ added } ∧
      (∀ grant ∈ grants, ∃ there ∈ db.employeeRoles ++ added,
        there.employeeId = grant.employeeId ∧ there.roleId = grant.roleId) ∧
      ∀ grant ∈ added, grant ∈ grants ∧ ∃ row, db.roles.get? grant.roleId = some row ∧
        row.enterpriseId = some grant.enterpriseId := by
  induction grants generalizing db with
  | nil =>
      obtain rfl := Except.ok.inj granted
      exact ⟨[], by simp, by simp, by simp⟩
  | cons grant rest ih =>
      rw [List.foldlM_cons] at granted
      obtain ⟨middle, first, after⟩ := bind_eq_ok.mp granted
      obtain ⟨added, rfl, has, fits⟩ := ih after
      unfold AccessDb.grantToEmployee at first
      split at first
      · next there =>
          obtain rfl := Except.ok.inj first
          obtain ⟨other, member, same⟩ := List.any_eq_true.mp there
          simp only [Bool.and_eq_true, beq_iff_eq] at same
          refine ⟨added, rfl, fun wanted listed => ?_, fun new member => ?_⟩
          · rcases List.mem_cons.mp listed with rfl | later
            · exact ⟨other, List.mem_append_left _ member, same⟩
            · exact has wanted later
          · obtain ⟨listed, fit⟩ := fits new member
            exact ⟨List.mem_cons_of_mem grant listed, fit⟩
      · split at first
        · contradiction
        · split at first
          · contradiction
          · next employed known =>
              obtain rfl := Except.ok.inj first
              simp only [Bool.not_eq_true, Bool.not_eq_false', Option.any_eq_true,
                beq_iff_eq] at known
              refine ⟨grant :: added, by simp, fun wanted listed => ?_, fun new member => ?_⟩
              · rcases List.mem_cons.mp listed with rfl | later
                · exact ⟨wanted, by simp, rfl, rfl⟩
                · obtain ⟨there, member, same⟩ := has wanted later
                  exact ⟨there, by simpa using member, same⟩
              · rcases List.mem_cons.mp member with rfl | later
                · exact ⟨List.mem_cons_self, known⟩
                · obtain ⟨listed, fit⟩ := fits new later
                  exact ⟨List.mem_cons_of_mem grant listed, fit⟩

theorem insertedGrants_ok {input : SetRolesInput} {deleted : List Nat}
    {inserted : List EmployeeRoleRow} (constrained : db.Constrained)
    (added : db.insertedGrants input deleted = .ok inserted) :
    (∀ grant ∈ inserted, ∃ row, db.roles.get? grant.roleId = some row ∧
      row.enterpriseId = some grant.enterpriseId) ∧
    ∀ role ∈ input.roles, role.id ∈ deleted →
      (∃ row, db.roles.get? role.id = some row ∧ row.enterpriseId = some input.enterpriseId) →
      ∃ grant ∈ inserted, grant.enterpriseId = input.enterpriseId ∧
        grant.employeeId = input.employeeId ∧ grant.roleId = role.id := by
  obtain ⟨next, folded, done⟩ := bind_eq_ok.mp added
  obtain ⟨rows, rfl, has, fits⟩ := foldlM_grantToEmployee_has folded
  obtain rfl : inserted = rows := by simpa using (Except.ok.inj done).symm
  refine ⟨fun grant member => (fits grant member).2, fun role wanted gone known => ?_⟩
  obtain ⟨there, member, employee, same⟩ := has _ (List.mem_map.mpr ⟨role, wanted, rfl⟩)
  rcases List.mem_append.mp member with left | new
  -- A grant of a deleted role is none of the employee's, so it fits another business.
  · obtain ⟨listed, spared⟩ := List.mem_filter.mp left
    obtain ⟨row, found, ours⟩ := known
    have enterprise := constrained.grants there listed row (same ▸ found)
    rw [ours, Option.some.injEq] at enterprise
    simp [enterprise.symm, employee, same, gone] at spared
  · obtain ⟨listed, -⟩ := fits there new
    obtain ⟨asked, -, rfl⟩ := List.mem_map.mp listed
    exact ⟨_, new, rfl, rfl, same⟩

theorem removal_continues {state next : RemovalState} {choice : RemovalChoice}
    (kept : AuthorityKept needed db) (ready : RemovalReady needed db state locks)
    (result : state.statement db choice = .continues next) :
    RemovalReady needed db next (locks ++ state.takes db choice) := by
  have widen : ∀ {rows : List LockedRow}, rows ⊆ locks →
      rows ⊆ locks ++ state.takes db choice := fun held =>
    List.Subset.trans held (List.subset_append_left _ _)
  have wider : ∀ {group : AuthorityGroup} {target : Nat},
      authorityGroups.MayRemove needed db group target locks →
      authorityGroups.MayRemove needed db group target (locks ++ state.takes db choice) :=
    fun may => ⟨widen may.holding, may.another⟩
  cases state with
  | rolesLock input =>
      obtain rfl := Outcome.continues.inj result
      refine ⟨ready, fun taken => ?_⟩
      simp only [RemovalState.takes, taken, Bool.false_eq_true, if_false]
      exact List.subset_append_right _ _
  | rolesPrevious input =>
      obtain ⟨names, holding⟩ := ready
      simp only [RemovalState.statement] at result
      split at result
      · next guarded =>
          obtain rfl := Outcome.continues.inj result
          simp only [Bool.and_eq_true, Bool.not_eq_true'] at guarded
          exact ⟨guarded.1, widen (holding guarded.1)⟩
      · next unguarded =>
          obtain rfl := Outcome.continues.inj result
          refine ⟨names, fun taken => wider (kept.mayRemove_other (holding taken) fun owner =>
            unguarded ?_)⟩
          rw [taken, AccessDb.listRoleNames_owner.mpr owner]
          rfl
  | rolesCount input =>
      obtain ⟨taken, holding⟩ := ready
      simp only [RemovalState.statement] at result
      split at result
      · contradiction
      · next counted =>
          obtain rfl := Outcome.continues.inj result
          refine ⟨fun keeps => ?_, fun _ => wider (mayRemove_counted holding counted)⟩
          rw [taken] at keeps
          contradiction
  | rolesDelete input =>
      obtain rfl := Outcome.continues.inj result
      exact ⟨ready.1, fun taken => wider (ready.2 taken)⟩
  | rolesInsert input deleted =>
      simp only [RemovalState.statement] at result
      split at result
      · contradiction
      · next inserted added =>
          obtain rfl := Outcome.continues.inj result
          obtain ⟨fits, again⟩ := insertedGrants_ok kept.constrained added
          refine ⟨fun taken => wider (ready.2 taken), fun keeps roleId gone owner => ?_, fits⟩
          obtain ⟨role, wanted, named⟩ := ready.1 keeps
          obtain rfl := kept.constrained.ownerRole_unique owner named
          obtain ⟨row, found, ours, -⟩ := owner
          exact again role wanted gone ⟨row, found, ours⟩
  | rolesCommit input deleted inserted => contradiction
  | statusLock input =>
      obtain rfl := Outcome.continues.inj result
      exact List.subset_append_right _ _
  | statusNames input =>
      simp only [RemovalState.statement] at result
      split at result
      · obtain rfl := Outcome.continues.inj result
        exact widen ready
      · next other =>
          obtain rfl := Outcome.continues.inj result
          exact fun _ => wider (kept.mayRemove_other ready fun owner =>
            other (AccessDb.listRoleNames_owner.mpr owner))
  | statusCount input =>
      simp only [RemovalState.statement] at result
      split at result
      · contradiction
      · next counted =>
          obtain rfl := Outcome.continues.inj result
          exact fun _ => wider (mayRemove_counted ready counted)
  | statusUpdate input =>
      simp only [RemovalState.statement] at result
      split at result
      · next found =>
          obtain rfl := Outcome.continues.inj result
          refine ⟨fun ends => wider (ready ends), fun row there => ?_⟩
          simp only [there, Option.any_some, Bool.and_eq_true, beq_iff_eq] at found
          exact found.1
      · contradiction
  | statusCommit input => contradiction
  | staffLock input =>
      obtain rfl := Outcome.continues.inj result
      exact ⟨ready, List.subset_append_right _ _⟩
  | staffCount input =>
      simp only [RemovalState.statement] at result
      split at result
      · contradiction
      · next counted =>
          obtain rfl := Outcome.continues.inj result
          exact ⟨ready.1, fun _ _ => wider ⟨ready.2, fun _ =>
            AccessDb.countOtherActivePlatformAdmins_ne_zero counted⟩⟩
  | staffUpdate input =>
      simp only [RemovalState.statement] at result
      split at result
      · obtain rfl := Outcome.continues.inj result
        exact ⟨ready.1, fun ends admin => wider (ready.2 ends admin)⟩
      · contradiction
  | staffCommit input => contradiction

def RemovalState.removes : RemovalState → Option (AuthorityGroup × Nat)
  | .rolesCommit input _ _ =>
      if RolesService.keepsOwner input.roles then none
      else some (.owners input.enterpriseId, input.employeeId)
  | .statusCommit input =>
      if input.target = .active then none
      else some (.owners input.enterpriseId, input.employeeId)
  | .staffCommit input =>
      if input.target = .active ∨ input.staff.hasAllEnterpriseAccess = false then none
      else some (.admins, input.staff.id)
  | _ => none

structure RemovalCommit (needed : AuthorityGroup → Prop) (db next : AccessDb)
    (removed : Option (AuthorityGroup × Nat)) (locks : List LockedRow) : Prop where
  frame : SameFrame db next
  constrained : next.Constrained
  members : ∀ group one, authorityGroups.member db group one → removed ≠ some (group, one) →
    authorityGroups.member next group one
  allowed : ∀ group target, removed = some (group, target) →
    authorityGroups.MayRemove needed db group target locks

theorem RemovalCommit.removes {next : AccessDb} {removed : Option (AuthorityGroup × Nat)}
    (commit : RemovalCommit needed db next removed locks) :
    authorityGroups.Removes db next removed where
  guards := commit.frame.guards
  members := commit.members

theorem rolesCommit_effect {input : SetRolesInput} {deleted : List Nat}
    {inserted : List EmployeeRoleRow} (constrained : db.Constrained)
    (ready : RemovalReady needed db (.rolesCommit input deleted inserted) locks) :
    RemovalCommit needed db (db.commitRoles input deleted inserted)
      (RemovalState.rolesCommit input deleted inserted).removes locks := by
  obtain ⟨allowed, regrants, fits⟩ := ready
  refine ⟨⟨rfl, fun _ row found => ⟨row, found, rfl⟩, fun _ row found => ⟨row, found, rfl⟩⟩,
    ⟨constrained.names, fun grant member row found => ?_⟩, fun group one member spared => ?_,
    fun group target named => ?_⟩
  · rcases List.mem_append.mp member with old | new
    · exact constrained.grants grant (List.mem_of_mem_filter old) row found
    · obtain ⟨same, there, ours⟩ := fits grant new
      rwa [Option.some.inj (found.symm.trans there)]
  · cases group with
    | admins => exact member
    | owners enterpriseId =>
        obtain ⟨active, grant, listed, enterprise, employee, role⟩ := member
        refine ⟨active, ?_⟩
        by_cases stays : grant ∈ db.withoutRoles input deleted
        · exact ⟨grant, List.mem_append_left _ stays, enterprise, employee, role⟩
        · have gone : (grant.enterpriseId = input.enterpriseId ∧
              grant.employeeId = input.employeeId) ∧ grant.roleId ∈ deleted := by
            simpa [AccessDb.withoutRoles, listed] using stays
          obtain ⟨⟨ours, target⟩, removed⟩ := gone
          cases keeps : RolesService.keepsOwner input.roles with
          | false => simp [RemovalState.removes, keeps, ← ours, ← target, enterprise, employee]
              at spared
          | true =>
              obtain ⟨new, added, newEnterprise, newEmployee, same⟩ :=
                regrants keeps grant.roleId removed (ours.symm.trans enterprise ▸ role)
              exact ⟨new, List.mem_append_right _ added,
                newEnterprise.trans (ours.symm.trans enterprise),
                newEmployee.trans (target.symm.trans employee), same ▸ role⟩
  · simp only [RemovalState.removes] at named
    split at named
    · contradiction
    · next taken =>
        obtain ⟨rfl, rfl⟩ := Prod.mk.inj (Option.some.inj named)
        exact allowed (by simpa using taken)

theorem statusCommit_effect {input : SetStatusInput} (constrained : db.Constrained)
    (ready : RemovalReady needed db (.statusCommit input) locks) :
    RemovalCommit needed db
      { db with
        employees := db.employees.update input.employeeId fun employee =>
          { employee with status := input.target } }
      (RemovalState.statusCommit input).removes locks := by
  obtain ⟨allowed, ours⟩ := ready
  refine ⟨⟨rfl, fun id row found => ?_, fun _ row found => ⟨row, found, rfl⟩⟩,
    ⟨constrained.names, constrained.grants⟩, fun group one member spared => ?_,
    fun group target named => ?_⟩
  · rw [Table.get?_update] at found
    split at found
    · obtain ⟨old, there, rfl⟩ := Option.map_eq_some_iff.mp found
      exact ⟨old, there, rfl⟩
    · exact ⟨row, found, rfl⟩
  · cases group with
    | admins => exact member
    | owners enterpriseId =>
        obtain ⟨⟨employee, found, enterprise, active⟩, holds⟩ := member
        refine ⟨?_, holds⟩
        by_cases same : input.employeeId = one
        · subst same
          have mine := (ours employee found).symm.trans enterprise
          have reinstates : input.target = .active := by
            by_contra ends
            simp [RemovalState.removes, ends, mine] at spared
          exact ⟨{ employee with status := input.target }, by simp [found], enterprise, reinstates⟩
        · exact ⟨employee, by rw [Table.get?_update_of_ne _ _ same, found], enterprise, active⟩
  · simp only [RemovalState.removes] at named
    split at named
    · contradiction
    · next ends =>
        obtain ⟨rfl, rfl⟩ := Prod.mk.inj (Option.some.inj named)
        exact allowed ends

theorem staffCommit_effect {input : SetStaffStatusInput} (constrained : db.Constrained)
    (ready : RemovalReady needed db (.staffCommit input) locks) :
    RemovalCommit needed db
      { db with
        staff := db.staff.update input.staff.id fun member =>
          { member with status := input.target } }
      (RemovalState.staffCommit input).removes locks := by
  obtain ⟨same, allowed⟩ := ready
  refine ⟨⟨rfl, fun _ row found => ⟨row, found, rfl⟩, fun id row found => ?_⟩,
    ⟨constrained.names, constrained.grants⟩, fun group one member spared => ?_,
    fun group target named => ?_⟩
  · rw [Table.get?_update] at found
    split at found
    · obtain ⟨old, there, rfl⟩ := Option.map_eq_some_iff.mp found
      exact ⟨old, there, rfl⟩
    · exact ⟨row, found, rfl⟩
  · cases group with
    | owners enterpriseId => exact member
    | admins =>
        obtain ⟨row, found, active, admin⟩ := member
        by_cases target : input.staff.id = one
        · subst target
          have access := (same row found).symm.trans admin
          have reinstates : input.target = .active := by
            by_contra ends
            simp [RemovalState.removes, ends, access] at spared
          exact ⟨{ row with status := input.target }, by simp [found], reinstates, admin⟩
        · exact ⟨row, by rw [Table.get?_update_of_ne _ _ target, found], active, admin⟩
  · simp only [RemovalState.removes] at named
    split at named
    · contradiction
    · next ends =>
        obtain ⟨rfl, rfl⟩ := Prod.mk.inj (Option.some.inj named)
        rw [not_or, Bool.not_eq_false] at ends
        exact allowed ends.1 ends.2

theorem removal_commits {state : RemovalState} {choice : RemovalChoice} {next : AccessDb}
    (kept : AuthorityKept needed db) (ready : RemovalReady needed db state locks)
    (result : state.statement db choice = .commits next) :
    RemovalCommit needed db next state.removes locks := by
  cases state with
  | rolesCommit input deleted inserted =>
      obtain rfl := Outcome.commits.inj result
      exact rolesCommit_effect kept.constrained ready
  | statusCommit input =>
      obtain rfl := Outcome.commits.inj result
      exact statusCommit_effect kept.constrained ready
  | staffCommit input =>
      obtain rfl := Outcome.commits.inj result
      exact staffCommit_effect kept.constrained ready
  | _ =>
      simp only [RemovalState.statement] at result
      repeat' split at result
      all_goals contradiction

theorem RemovalCommit.kept {next : AccessDb} {removed : Option (AuthorityGroup × Nat)}
    (kept : AuthorityKept needed db) (commit : RemovalCommit needed db next removed locks) :
    AuthorityKept needed next where
  constrained := commit.constrained
  inhabited := commit.removes.inhabited commit.allowed kept.inhabited

theorem RemovalCommit.namesOwner {next : AccessDb} {removed : Option (AuthorityGroup × Nat)}
    (commit : RemovalCommit needed db next removed locks) {input : SetRolesInput}
    (names : input.NamesOwner db) : input.NamesOwner next := by
  intro keeps
  obtain ⟨role, wanted, owner⟩ := names keeps
  exact ⟨role, wanted, commit.frame.ownerRole.mpr owner⟩

theorem RemovalCommit.matches {next : AccessDb} {removed : Option (AuthorityGroup × Nat)}
    (commit : RemovalCommit needed db next removed locks) {input : SetStaffStatusInput}
    (same : input.Matches db) : input.Matches next := by
  intro row found
  obtain ⟨old, there, access⟩ := commit.frame.staff _ row found
  exact access.symm.trans (same old there)

/-- What another transaction relies on outlives a commit. -/
theorem RemovalCommit.ready {next : AccessDb} {removed : Option (AuthorityGroup × Nat)}
    {otherLocks : List LockedRow} (commit : RemovalCommit needed db next removed locks)
    (disjoint : locks.Disjoint otherLocks) {state : RemovalState}
    (ready : RemovalReady needed db state otherLocks) :
    RemovalReady needed next state otherLocks := by
  have still : ∀ {group : AuthorityGroup} {target : Nat},
      authorityGroups.MayRemove needed db group target otherLocks →
      authorityGroups.MayRemove needed next group target otherLocks := fun may =>
    may.kept commit.removes commit.allowed disjoint
  have held : ∀ group : AuthorityGroup, authorityGroups.guard db group ⊆ otherLocks →
      authorityGroups.guard next group ⊆ otherLocks := fun group holding =>
    List.Subset.trans (commit.frame.guards group) holding
  cases state with
  | rolesLock input => exact commit.namesOwner ready
  | rolesPrevious input =>
      exact ⟨commit.namesOwner ready.1, fun taken => held (.owners _) (ready.2 taken)⟩
  | rolesCount input => exact ⟨ready.1, held (.owners _) ready.2⟩
  | rolesDelete input => exact ⟨commit.namesOwner ready.1, fun taken => still (ready.2 taken)⟩
  | rolesInsert input deleted =>
      exact ⟨commit.namesOwner ready.1, fun taken => still (ready.2 taken)⟩
  | rolesCommit input deleted inserted =>
      obtain ⟨allowed, regrants, fits⟩ := ready
      refine ⟨fun taken => still (allowed taken), fun keeps roleId gone owner => ?_, ?_⟩
      · exact regrants keeps roleId gone (commit.frame.ownerRole.mp owner)
      · rwa [commit.frame.roles]
  | statusLock input => trivial
  | statusNames input => exact held (.owners _) ready
  | statusCount input => exact held (.owners _) ready
  | statusUpdate input => exact fun ends => still (ready ends)
  | statusCommit input =>
      refine ⟨fun ends => still (ready.1 ends), fun row found => ?_⟩
      obtain ⟨old, there, same⟩ := commit.frame.employees _ row found
      exact same.symm.trans (ready.2 old there)
  | staffLock input => exact commit.matches ready
  | staffCount input => exact ⟨commit.matches ready.1, held .admins ready.2⟩
  | staffUpdate input =>
      exact ⟨commit.matches ready.1, fun ends admin => still (ready.2 ends admin)⟩
  | staffCommit input =>
      exact ⟨commit.matches ready.1, fun ends admin => still (ready.2 ends admin)⟩

theorem removals_advance {server : RemovalServer} {id : Nat} {choice : RemovalChoice}
    (keeps : server.Keeps (AuthorityKept needed) (RemovalReady needed)) :
    (server.advance removals id choice).Keeps (AuthorityKept needed) (RemovalReady needed) := by
  refine Server.Keeps.advance ?_ ?_ keeps
  · intro db state locks choice next kept ready result
    simp only [removals] at result
    split at result
    · contradiction
    · exact removal_continues kept ready result
  · intro db state locks choice next kept ready result
    simp only [removals] at result
    split at result
    · contradiction
    · have commit := removal_commits kept ready result
      exact ⟨commit.kept kept, fun _ _ disjoint waiting => commit.ready disjoint waiting⟩

end Statements

/-! ### Transactions alone -/

theorem withoutRoles_deletedRoles (db : AccessDb) (input : SetRolesInput) :
    db.withoutRoles input (db.deletedRoles input []) =
      db.employeeRoles.filter fun grant =>
        !(grant.enterpriseId == input.enterpriseId && grant.employeeId == input.employeeId) := by
  refine List.filter_congr fun grant listed => ?_
  cases ours : grant.enterpriseId == input.enterpriseId && grant.employeeId == input.employeeId with
  | false => rfl
  | true =>
      have gone : grant.roleId ∈ db.deletedRoles input [] :=
        List.mem_map.mpr ⟨grant, List.mem_filter.mpr ⟨listed, by simp [ours]⟩, rfl⟩
      simp [gone]

theorem conditionalWrite_toOption (result : Bool × AccessDb) :
    (match result with
      | (false, _) => none
      | (true, next) => some next) =
    ((match result with
      | (false, _) => .error (.app .concurrentModification [])
      | (true, db) => pure ([], db) :
      Except AccessError (List AccessTask × AccessDb)).toOption.map Prod.snd) := by
  obtain ⟨changed, next⟩ := result
  cases changed <;> rfl

section Alone

variable {choice : RemovalChoice} (db : AccessDb) (quiet : choice.fails = false)

include quiet

theorem removals_statement (state : RemovalState) :
    removals.statement db state choice = state.statement db choice := by
  simp [removals, quiet]

theorem rolesDelete_alone (sees : choice.unseen = []) (input : SetRolesInput) (fuel : Nat) :
    removals.alone choice (fuel + 3) db (.rolesDelete input) =
      ((db.replaceEmployeeRoles input.enterpriseId input.employeeId (input.roles.map (·.id))
        input.actingEmployeeId).toOption.map fun next =>
          next.record (.rolesReplaced input.enterpriseId input.employeeId
            input.actingEmployeeId)) := by
  have deletes : removals.statement db (.rolesDelete input) choice =
      .continues (.rolesInsert input (db.deletedRoles input [])) := by
    rw [removals_statement db quiet, RemovalState.statement, sees]
  have replaces : db.replaceEmployeeRoles input.enterpriseId input.employeeId
      (input.roles.map (·.id)) input.actingEmployeeId = input.grants.foldlM
        AccessDb.grantToEmployee
        { db with employeeRoles := db.withoutRoles input (db.deletedRoles input []) } := by
    simp only [AccessDb.replaceEmployeeRoles, withoutRoles_deletedRoles, SetRolesInput.grants,
      List.map_map, Function.comp_def]
  rw [TransactionProgram.alone_continues deletes, replaces]
  cases folded : input.grants.foldlM AccessDb.grantToEmployee
      { db with employeeRoles := db.withoutRoles input (db.deletedRoles input []) } with
  | error error =>
      have throws : removals.statement db (.rolesInsert input (db.deletedRoles input [])) choice =
          .throws := by
        simp [removals_statement db quiet, RemovalState.statement, AccessDb.insertedGrants, folded,
          bind, Except.bind]
      exact TransactionProgram.alone_throws throws (fuel + 1)
  | ok next =>
      obtain ⟨added, rfl, -⟩ := foldlM_grantToEmployee_has folded
      have inserts : removals.statement db (.rolesInsert input (db.deletedRoles input []))
          choice = .continues (.rolesCommit input (db.deletedRoles input []) added) := by
        simp [removals_statement db quiet, RemovalState.statement, AccessDb.insertedGrants, folded,
          bind, Except.bind, pure, Except.pure]
      rw [TransactionProgram.alone_continues inserts]
      exact TransactionProgram.alone_commits (removals_statement db quiet _) fuel

/-- A re-roling run alone commits what its one-step write would. -/
theorem setRolesWrite_alone (sees : choice.unseen = [])
    (enterpriseId actingEmployeeId employeeId : Nat) (roles : List FoundRole) :
    removals.alone choice 6 db
        (.rolesLock { enterpriseId, actingEmployeeId, employeeId, roles }) =
      ((RolesService.setRolesWrite enterpriseId actingEmployeeId employeeId roles
        db).toOption.map Prod.snd) := by
  let input : SetRolesInput := { enterpriseId, actingEmployeeId, employeeId, roles }
  have written : ∀ result : Except AccessError AccessDb,
      (result.toOption.map fun next =>
        next.record (.rolesReplaced enterpriseId employeeId actingEmployeeId)) =
      ((do
        let db ← result
        pure ([], db.record (.rolesReplaced enterpriseId employeeId actingEmployeeId)) :
        Except AccessError (List RoleTask × AccessDb)).toOption.map Prod.snd) := by
    intro result
    cases result <;> rfl
  rw [TransactionProgram.alone_continues (removals_statement db quiet (.rolesLock input))]
  unfold RolesService.setRolesWrite
  cases guarded : !RolesService.keepsOwner roles &&
      (db.listRoleNamesForEmployee enterpriseId employeeId).contains SystemRole.owner.text with
  | false =>
      have previous : removals.statement db (.rolesPrevious input) choice =
          .continues (.rolesDelete input) := by
        rw [removals_statement db quiet, RemovalState.statement, guarded]
        rfl
      rw [TransactionProgram.alone_continues previous, rolesDelete_alone db quiet sees input 1,
        written]
      simp only [guarded, Bool.false_and, Bool.false_eq_true, if_false]
      rfl
  | true =>
      have previous : removals.statement db (.rolesPrevious input) choice =
          .continues (.rolesCount input) := by
        rw [removals_statement db quiet, RemovalState.statement, guarded]
        rfl
      rw [TransactionProgram.alone_continues previous]
      cases counted : db.countOtherActiveOwners enterpriseId employeeId == 0 with
      | false =>
          have counts : removals.statement db (.rolesCount input) choice =
              .continues (.rolesDelete input) := by
            rw [removals_statement db quiet, RemovalState.statement, counted]
            rfl
          rw [TransactionProgram.alone_continues counts, rolesDelete_alone db quiet sees input 0,
            written]
          simp only [Bool.and_false, Bool.false_eq_true, if_false]
          rfl
      | true =>
          have counts : removals.statement db (.rolesCount input) choice = .throws := by
            rw [removals_statement db quiet, RemovalState.statement, counted]
            rfl
          rw [TransactionProgram.alone_throws counts]
          simp only [guarded, Bool.and_true, if_true]
          rfl

theorem statusUpdate_alone (input : SetStatusInput) (fuel : Nat) :
    removals.alone choice (fuel + 2) db (.statusUpdate input) =
      (match db.setEmployeeStatus input.enterpriseId input.employeeId input.source
          input.target with
        | (false, _) => none
        | (true, next) => some next) := by
  unfold AccessDb.setEmployeeStatus
  cases found : (db.employees.get? input.employeeId).any fun employee =>
      employee.enterpriseId == input.enterpriseId && employee.status == input.source with
  | false =>
      have throws : removals.statement db (.statusUpdate input) choice = .throws := by
        rw [removals_statement db quiet, RemovalState.statement, found]
        rfl
      exact TransactionProgram.alone_throws throws (fuel + 1)
  | true =>
      have updates : removals.statement db (.statusUpdate input) choice =
          .continues (.statusCommit input) := by
        rw [removals_statement db quiet, RemovalState.statement, found]
        rfl
      rw [TransactionProgram.alone_continues updates]
      exact TransactionProgram.alone_commits (removals_statement db quiet _) fuel

/-- A status change run alone commits what its one-step write would. -/
theorem setStatusWrite_alone (enterpriseId employeeId : Nat) (source target : EmployeeStatus)
    {state : RemovalState}
    (opens : opensTransaction (.account (.setStatusWrite enterpriseId employeeId source target)) =
      some state) :
    removals.alone choice 5 db state =
      ((EmployeesService.setStatusWrite enterpriseId employeeId source target
        db).toOption.map Prod.snd) := by
  let input : SetStatusInput := { enterpriseId, employeeId, source, target }
  obtain rfl := Option.some.inj opens
  unfold EmployeesService.setStatusWrite EmployeesService.assertNotLastOwner
  by_cases ends : target = .suspended
  · rw [if_pos ends, if_pos ends]
    rw [TransactionProgram.alone_continues (removals_statement db quiet (.statusLock input))]
    cases owner : (db.listRoleNamesForEmployee enterpriseId employeeId).contains
        SystemRole.owner.text with
    | false =>
        have names : removals.statement db (.statusNames input) choice =
            .continues (.statusUpdate input) := by
          rw [removals_statement db quiet, RemovalState.statement, owner]
          rfl
        rw [TransactionProgram.alone_continues names, statusUpdate_alone db quiet input 1]
        exact conditionalWrite_toOption _
    | true =>
        have names : removals.statement db (.statusNames input) choice =
            .continues (.statusCount input) := by
          rw [removals_statement db quiet, RemovalState.statement, owner]
          rfl
        rw [TransactionProgram.alone_continues names]
        cases counted : db.countOtherActiveOwners enterpriseId employeeId == 0 with
        | false =>
            have counts : removals.statement db (.statusCount input) choice =
                .continues (.statusUpdate input) := by
              rw [removals_statement db quiet, RemovalState.statement, counted]
              rfl
            rw [TransactionProgram.alone_continues counts, statusUpdate_alone db quiet input 0]
            exact conditionalWrite_toOption _
        | true =>
            have counts : removals.statement db (.statusCount input) choice = .throws := by
              rw [removals_statement db quiet, RemovalState.statement, counted]
              rfl
            rw [TransactionProgram.alone_throws counts]
            rfl
  · rw [if_neg ends, if_neg ends, statusUpdate_alone db quiet input 3]
    exact conditionalWrite_toOption _

theorem staffUpdate_alone (input : SetStaffStatusInput) (fuel : Nat) :
    removals.alone choice (fuel + 2) db (.staffUpdate input) =
      (match db.setStaffStatus input.staff.id input.staff.status input.target with
        | (false, _) => none
        | (true, next) => some next) := by
  unfold AccessDb.setStaffStatus
  cases found : (db.staff.get? input.staff.id).any fun member =>
      member.status == input.staff.status with
  | false =>
      have throws : removals.statement db (.staffUpdate input) choice = .throws := by
        rw [removals_statement db quiet, RemovalState.statement, found]
        rfl
      exact TransactionProgram.alone_throws throws (fuel + 1)
  | true =>
      have updates : removals.statement db (.staffUpdate input) choice =
          .continues (.staffCommit input) := by
        rw [removals_statement db quiet, RemovalState.statement, found]
        rfl
      rw [TransactionProgram.alone_continues updates]
      exact TransactionProgram.alone_commits (removals_statement db quiet _) fuel

/-- A staff status change run alone commits what its one-step write would. -/
theorem setStaffStatusWrite_alone (staff : StaffTarget) (target : StaffStatus)
    {state : RemovalState}
    (opens : opensTransaction (.account (.setStaffStatusWrite staff target)) = some state) :
    removals.alone choice 4 db state =
      ((PlatformService.setStaffStatusWrite staff target db).toOption.map Prod.snd) := by
  let input : SetStaffStatusInput := { staff, target }
  obtain rfl := Option.some.inj opens
  unfold PlatformService.setStaffStatusWrite PlatformService.assertNotLastAdmin
  by_cases ends : target = .suspended ∧ staff.hasAllEnterpriseAccess = true
  · rw [if_pos ends]
    rw [TransactionProgram.alone_continues (removals_statement db quiet (.staffLock input))]
    by_cases counted : db.countOtherActivePlatformAdmins staff.id = 0
    · have counts : removals.statement db (.staffCount input) choice = .throws := by
        rw [removals_statement db quiet, RemovalState.statement, if_pos counted]
      rw [TransactionProgram.alone_throws counts, if_pos ⟨ends.1, ends.2, counted⟩]
      rfl
    · have counts : removals.statement db (.staffCount input) choice =
          .continues (.staffUpdate input) := by
        rw [removals_statement db quiet, RemovalState.statement, if_neg counted]
      rw [TransactionProgram.alone_continues counts, staffUpdate_alone db quiet input 0,
        if_neg fun last => counted last.2.2]
      exact conditionalWrite_toOption _
  · rw [if_neg ends, staffUpdate_alone db quiet input 2, if_neg fun last => ends ⟨last.1, last.2.1⟩]
    exact conditionalWrite_toOption _

end Alone

/-! ### Whole calls -/

def removalCalls (_ : RemovalServer) : Event RemovalTask AccessCall RemovalChoice → Prop
  | .opened (.setEmployeeRoles _ _ _ _) => True
  | .opened (.setStatus _ _ _ status) => status ≠ .invited
  | .opened (.setStaffStatus _ _ status) => status ≠ .invited
  | .opened _ => False
  | .ran _ _ => True

def RemovalRead (db : AccessDb) : AccessTask → Prop
  | .role (.setEmployeeRoles _ _ _ _) | .role (.setRolesEmployee _ _ _ _)
  | .role (.setRolesLevel _ _ _ _) | .role (.setRolesFind _ _ _ _) => True
  | .role (.setRolesWrite enterpriseId actingEmployeeId employeeId roles) =>
      SetRolesInput.NamesOwner db { enterpriseId, actingEmployeeId, employeeId, roles }
  | .account (.setStatus _ _ _ status) | .account (.setStatusAuthority _ _ _ _ status)
  | .account (.setStatusLevel _ _ _ _ status) | .account (.setStatusWrite _ _ _ status)
  | .account (.setStaffStatus _ _ status) => status ≠ .invited
  | .account (.setStaffStatusWrite staff target) =>
      target ≠ .invited ∧ SetStaffStatusInput.Matches db { staff, target }
  | _ => False

theorem RemovalRead.frame {db next : AccessDb} (frame : SameFrame db next) {task : AccessTask}
    (read : RemovalRead db task) : RemovalRead next task := by
  cases task with
  | verification task => exact read
  | role task =>
      cases task with
      | setRolesWrite enterpriseId actingEmployeeId employeeId roles =>
          intro keeps
          obtain ⟨role, wanted, owner⟩ := read keeps
          exact ⟨role, wanted, frame.ownerRole.mpr owner⟩
      | _ => exact read
  | account task =>
      cases task with
      | setStaffStatusWrite staff target =>
          refine ⟨read.1, fun row found => ?_⟩
          obtain ⟨old, there, access⟩ := frame.staff _ row found
          exact access.symm.trans (read.2 old there)
      | _ => exact read

theorem findManyRoles_namesOwner (db : AccessDb)
    (enterpriseId actingEmployeeId employeeId : Nat) (roleIds : List Nat) :
    SetRolesInput.NamesOwner db
      { enterpriseId, actingEmployeeId, employeeId
        roles := db.findManyRoles enterpriseId roleIds } := by
  intro keeps
  obtain ⟨role, listed, named⟩ := List.any_eq_true.mp keeps
  obtain ⟨stored, wanted, rfl⟩ := List.mem_map.mp listed
  obtain ⟨found, ours⟩ := Table.mem_select.mp (List.mem_filter.mp wanted).1
  simp only [Bool.and_eq_true, beq_iff_eq] at ours
  exact ⟨_, List.mem_map.mpr ⟨stored, wanted, rfl⟩, stored.row, found, ours.1, ours.2,
    beq_iff_eq.mp named⟩

theorem findStaffTarget_matches {db : AccessDb} {staffId : Nat} {staff : StaffTarget}
    {target : StaffStatus} (found : db.findStaffTarget staffId = some staff) :
    SetStaffStatusInput.Matches db { staff, target } := by
  obtain ⟨member, there, named⟩ := Option.bind_eq_some_iff.mp found
  obtain ⟨identity, -, rfl⟩ := Option.map_eq_some_iff.mp named
  intro row again
  rw [Option.some.inj (there.symm.trans again)]

theorem removal_reads {runtime : Runtime} {choice : AccessChoice} {task : AccessTask}
    {db next : AccessDb} {tasks : List AccessTask} (read : RemovalRead db task)
    (ahead : opensTransaction task = none)
    (success : task.statement runtime choice db = .ok (tasks, next)) :
    next = db ∧ ∀ left ∈ tasks, RemovalRead db left := by
  cases task with
  | verification task => exact read.elim
  | role task =>
      obtain ⟨⟨left, after⟩, step, done⟩ := bind_eq_ok.mp success
      obtain ⟨rfl, rfl⟩ := Prod.mk.inj (Except.ok.inj done)
      cases task with
      | setEmployeeRoles enterpriseId actingEmployeeId employeeId roleIds =>
          obtain ⟨rfl, rfl⟩ := Prod.mk.inj (Except.ok.inj step)
          exact ⟨rfl, by simp [RemovalRead]⟩
      | setRolesEmployee enterpriseId authority employeeId roleIds =>
          simp only [RolesService.step, RolesService.setRolesEmployee] at step
          split at step
          · contradiction
          · obtain ⟨rfl, rfl⟩ := Prod.mk.inj (Except.ok.inj step)
            exact ⟨rfl, by simp [RemovalRead]⟩
      | setRolesLevel enterpriseId authority employeeId roleIds =>
          simp only [RolesService.step, RolesService.setRolesLevel] at step
          split at step
          · contradiction
          · obtain ⟨rfl, rfl⟩ := Prod.mk.inj (Except.ok.inj step)
            exact ⟨rfl, by simp [RemovalRead]⟩
      | setRolesFind enterpriseId authority employeeId roleIds =>
          simp only [RolesService.step, RolesService.setRolesFind] at step
          split at step
          · contradiction
          · obtain ⟨_, -, done⟩ := bind_eq_ok.mp step
            obtain ⟨rfl, rfl⟩ := Prod.mk.inj (Except.ok.inj done)
            refine ⟨rfl, fun waiting member => ?_⟩
            rw [List.map_singleton, List.mem_singleton] at member
            rw [member]
            exact findManyRoles_namesOwner db enterpriseId authority.employeeId employeeId roleIds
      | setRolesWrite enterpriseId actingEmployeeId employeeId roles => contradiction
      | _ => exact read.elim
  | account task =>
      cases task with
      | setStatus enterpriseId actingEmployeeId employeeId status =>
          simp only [AccessTask.statement, accountStep, EmployeesService.setStatus] at success
          split at success
          · contradiction
          · obtain ⟨rfl, rfl⟩ := Prod.mk.inj (Except.ok.inj success)
            exact ⟨rfl, by simpa [RemovalRead] using read⟩
      | setStatusAuthority enterpriseId actingEmployeeId employeeId employee status =>
          obtain ⟨rfl, rfl⟩ := Prod.mk.inj (Except.ok.inj success)
          exact ⟨rfl, by simpa [RemovalRead] using read⟩
      | setStatusLevel enterpriseId authority employeeId employee status =>
          simp only [AccessTask.statement, accountStep, EmployeesService.setStatusLevel] at success
          split at success
          · contradiction
          · split at success
            · contradiction
            · obtain ⟨rfl, rfl⟩ := Prod.mk.inj (Except.ok.inj success)
              exact ⟨rfl, by simpa [RemovalRead] using read⟩
      | setStaffStatus actingStaffId staffId status =>
          simp only [AccessTask.statement, accountStep, PlatformService.setStaffStatus] at success
          split at success
          · contradiction
          · next staff found =>
              split at success
              · contradiction
              · split at success
                · contradiction
                · obtain ⟨rfl, rfl⟩ := Prod.mk.inj (Except.ok.inj success)
                  refine ⟨rfl, fun waiting member => ?_⟩
                  rw [List.mem_singleton.mp member]
                  exact ⟨read, findStaffTarget_matches found⟩
      | setStatusWrite enterpriseId employeeId source status => contradiction
      | setStaffStatusWrite staff target => contradiction
      | _ => exact read.elim

theorem removal_opens {needed : AuthorityGroup → Prop} {db : AccessDb} {task : AccessTask}
    {state : RemovalState} (read : RemovalRead db task)
    (opens : opensTransaction task = some state) : RemovalReady needed db state [] := by
  cases task with
  | verification task => exact read.elim
  | role task =>
      cases task with
      | setRolesWrite enterpriseId actingEmployeeId employeeId roles =>
          obtain rfl := Option.some.inj opens
          exact read
      | _ => contradiction
  | account task =>
      cases task with
      | setStatusWrite enterpriseId employeeId source target =>
          obtain rfl := Option.some.inj opens
          split
          · trivial
          · next stays =>
              intro ends
              cases target with
              | invited => exact absurd rfl read
              | active => exact absurd rfl ends
              | suspended => exact absurd rfl stays
      | setStaffStatusWrite staff target =>
          obtain rfl := Option.some.inj opens
          split
          · exact read.2
          · next free =>
              refine ⟨read.2, fun ends admin => ?_⟩
              cases target with
              | invited => exact absurd rfl read.1
              | active => exact absurd rfl ends
              | suspended => exact absurd ⟨rfl, admin⟩ free
      | _ => contradiction

def RemovalTask.Waits (server : RemovalServer) : RemovalTask → Prop
  | .read task => RemovalRead server.store task
  | .transaction _ => True

/-- Nobody is the last one out: from any database that satisfies its constraints, in
every order of the statements of any number of re-rolings and status changes, a business
that had an active owner has one after every commit, and so has the platform an admin. -/
theorem never_the_last_one_out (runtime : Runtime) (start : AccessDb)
    (constrained : start.Constrained) (pool : Pool RemovalServer RemovalTask)
    (reached : (removalMachine runtime).PoolReaches removalCalls (.idle start) pool) :
    (∀ enterpriseId, (∃ employeeId, start.ActiveOwner enterpriseId employeeId) →
      ∃ employeeId, pool.shared.store.ActiveOwner enterpriseId employeeId) ∧
    ((∃ staffId, start.ActiveAdmin staffId) → ∃ staffId, pool.shared.store.ActiveAdmin staffId) := by
  let needed (group : AuthorityGroup) : Prop := ∃ one, authorityGroups.member start group one
  suffices kept : pool.shared.Keeps (AuthorityKept needed) (RemovalReady needed) from
    ⟨fun enterpriseId some => kept.store.inhabited (.owners enterpriseId) some,
      kept.store.inhabited .admins⟩
  refine ((removalMachine runtime).pool_invariant
    (fun server => server.Keeps (AuthorityKept needed) (RemovalReady needed)) RemovalTask.Waits
    (.idle ⟨constrained, fun _ need => need⟩) ?_ ?_ reached).1
  · intro server call _ permitted task member
    cases call <;> simp only [removalCalls] at permitted
    all_goals
      obtain ⟨task, opened, rfl⟩ := List.mem_map.mp member
      rw [List.mem_singleton.mp opened]
    · trivial
    · exact permitted
    · exact permitted
  · intro server task choice keeps waiting _
    cases task with
    | transaction id =>
        have frame : SameFrame server.store (server.advance removals id choice).store := by
          rcases Server.advance_store removals server id choice with same | ⟨running, found, commits⟩
          · rw [same]
            exact ⟨rfl, fun _ row found => ⟨row, found, rfl⟩, fun _ row found => ⟨row, found, rfl⟩⟩
          · simp only [removals] at commits
            split at commits
            · contradiction
            · exact (removal_commits keeps.store (keeps.transactions id running found)
                commits).frame
        refine ⟨removals_advance keeps, fun next member => ?_, fun other ready => ?_⟩
        · simp only [removalMachine, removalStep] at member
          split at member
          · rw [List.mem_singleton.mp member]
            trivial
          · exact absurd member List.not_mem_nil
        · cases other with
          | transaction other => trivial
          | read task => exact RemovalRead.frame frame ready
    | read task =>
        cases opens : opensTransaction task with
        | some state =>
            simp only [removalMachine, removalStep, opens]
            refine ⟨keeps.begin (removal_opens waiting opens), by simp [RemovalTask.Waits], fun other ready => ?_⟩
            cases other with
            | transaction other => trivial
            | read task => exact ready
        | none =>
            simp only [removalMachine, removalStep, opens]
            rcases accessStep_cases runtime server.store task choice.access with
              ⟨tasks, next, success, same⟩ | same
            · obtain ⟨rfl, left⟩ := removal_reads waiting opens success
              rw [same]
              refine ⟨keeps, fun next member => ?_, fun _ ready => ready⟩
              obtain ⟨task, listed, rfl⟩ := List.mem_map.mp member
              exact left task listed
            · rw [same]
              exact ⟨keeps, by simp, fun _ ready => ready⟩

/-- A business with two active owners, and a platform with two active admins. -/
def twoOfEach : AccessDb where
  permissions := .empty
  enterprises := ⟨[{ slug := "shop", email := "shop@shop.example" }]⟩
  identities := ⟨List.replicate 4 (AccessDb.newIdentity none none "argon2id")⟩
  employees := ⟨[AccessDb.newEmployee 0 0 .active none 0, AccessDb.newEmployee 1 0 .active none 0]⟩
  staff := ⟨[{ identityId := 2, hasAllEnterpriseAccess := true, status := .active },
    { identityId := 3, hasAllEnterpriseAccess := true, status := .active }]⟩
  roles := ⟨[{ systemTemplate .owner .enterprise with enterpriseId := some 0 }]⟩
  rolePermissions := []
  employeeRoles :=
    [{ enterpriseId := 0, employeeId := 0, roleId := 0, grantedByEmployeeId := none },
      { enterpriseId := 0, employeeId := 1, roleId := 0, grantedByEmployeeId := none }]
  staffRoles := []
  verifications := .empty
  trail := []

theorem twoOfEach_constrained : twoOfEach.Constrained where
  names id other row same found there _ _ _ := by
    have bound := Table.get?_lt found
    have otherBound := Table.get?_lt there
    simp only [twoOfEach, Table.nextId, List.length_singleton] at bound otherBound
    omega
  grants grant member row found := by
    simp only [twoOfEach, List.mem_cons, List.not_mem_nil, or_false] at member
    rcases member with rfl | rfl
    · obtain rfl := Option.some.inj found
      rfl
    · obtain rfl := Option.some.inj found
      rfl

def plainTurns (process count : Nat) : List (AccessCall ⊕ (Nat × RemovalChoice)) :=
  List.replicate count
    (.inr (process, { access := { now := 0, random := "" }, unseen := [], fails := false }))

def suspendEachOther : List (AccessCall ⊕ (Nat × RemovalChoice)) :=
  [.inl (.setStatus 0 0 1 .suspended), .inl (.setStatus 0 1 0 .suspended),
    .inl (.setStaffStatus 0 1 .suspended), .inl (.setStaffStatus 1 0 .suspended)] ++
    plainTurns 0 4 ++ plainTurns 1 4 ++ plainTurns 2 2 ++ plainTurns 3 2 ++
    plainTurns 0 2 ++ plainTurns 1 1 ++ plainTurns 0 3 ++ plainTurns 1 3 ++
    plainTurns 2 1 ++ plainTurns 3 1 ++ plainTurns 2 3 ++ plainTurns 3 2

instance (server : RemovalServer) (event : Event RemovalTask AccessCall RemovalChoice) :
    Decidable (removalCalls server event) :=
  match event with
  | .opened call => by cases call <;> unfold removalCalls <;> infer_instance
  | .ran _ _ => inferInstanceAs (Decidable True)

/-- Of two owners and two admins who suspend each other at once, one of each stays. -/
theorem never_the_last_one_out_each_other :
    ∃ pool : Pool RemovalServer RemovalTask,
      pool.shared.store.employees.rows.map (·.status) = [.active, .suspended] ∧
      pool.shared.store.staff.rows.map (·.status) = [.active, .suspended] ∧
      pool.processes = [[], [], [], []] ∧
      (∃ employeeId, pool.shared.store.ActiveOwner 0 employeeId) ∧
      ∃ staffId, pool.shared.store.ActiveAdmin staffId := by
  have runs : ((removalMachine plainRuntime).playPool
      (fun server event => decide (removalCalls server event)) ⟨.idle twoOfEach, []⟩
      suspendEachOther).any (fun pool =>
        pool.shared.store.employees.rows.map (·.status) == [.active, .suspended] &&
        pool.shared.store.staff.rows.map (·.status) == [.active, .suspended] &&
        pool.processes == [[], [], [], []]) = true := by
    decide +kernel
  obtain ⟨pool, played, done⟩ := (Option.any_eq_true _ _).mp runs
  simp only [Bool.and_eq_true, beq_iff_eq] at done
  have reached := (removalMachine plainRuntime).playPool_sound (fun _ _ => of_decide_eq_true) played
  have stays := never_the_last_one_out plainRuntime twoOfEach twoOfEach_constrained pool reached
  refine ⟨pool, done.1.1, done.1.2, done.2, stays.1 0 ⟨0, ⟨_, rfl, rfl, rfl⟩, _,
    List.mem_cons_self, rfl, rfl, _, rfl, rfl, rfl, rfl⟩, stays.2 ⟨0, _, rfl, rfl, rfl⟩⟩

end UnifiedService.Access
