import UnifiedService.Library.ReadCommitted
import UnifiedService.Access.Service

/-! The transactions that can take an owner or a platform admin away, statement by
statement: re-roling an employee, and suspending an employee or a staff member. The
reads ahead of a transaction are the steps of its call. -/

set_option autoImplicit false

namespace UnifiedService.Access

open UnifiedService.Library

/-- A row a transaction can lock: by asking for it, or by writing it. -/
inductive LockedRow where
  | role (id : Nat)
  | grant (employeeId roleId : Nat)
  | employee (id : Nat)
  | staff (id : Nat)
  deriving DecidableEq, Repr

/-- What the environment decides at a step: clock and random text of the call's reads,
the roles whose grants a DELETE that had to wait did not see, and whether the database
gives the transaction up. -/
structure RemovalChoice where
  access : AccessChoice
  unseen : List Nat
  fails : Bool
  deriving DecidableEq, Repr

structure SetRolesInput where
  enterpriseId : Nat
  actingEmployeeId : Nat
  employeeId : Nat
  roles : List FoundRole
  deriving DecidableEq, Repr

def SetRolesInput.grants (input : SetRolesInput) : List EmployeeRoleRow :=
  input.roles.map fun role =>
    { enterpriseId := input.enterpriseId
      employeeId := input.employeeId
      roleId := role.id
      grantedByEmployeeId := some input.actingEmployeeId }

structure SetStatusInput where
  enterpriseId : Nat
  employeeId : Nat
  source : EmployeeStatus
  target : EmployeeStatus
  deriving DecidableEq, Repr

structure SetStaffStatusInput where
  staff : StaffTarget
  target : StaffStatus
  deriving DecidableEq, Repr

inductive RemovalState where
  | rolesLock (input : SetRolesInput)
  | rolesPrevious (input : SetRolesInput)
  | rolesCount (input : SetRolesInput)
  | rolesDelete (input : SetRolesInput)
  | rolesInsert (input : SetRolesInput) (deleted : List Nat)
  | rolesCommit (input : SetRolesInput) (deleted : List Nat) (inserted : List EmployeeRoleRow)
  | statusLock (input : SetStatusInput)
  | statusNames (input : SetStatusInput)
  | statusCount (input : SetStatusInput)
  | statusUpdate (input : SetStatusInput)
  | statusCommit (input : SetStatusInput)
  | staffLock (input : SetStaffStatusInput)
  | staffCount (input : SetStaffStatusInput)
  | staffUpdate (input : SetStaffStatusInput)
  | staffCommit (input : SetStaffStatusInput)
  deriving DecidableEq, Repr

namespace AccessDb

/-- `lockOwnerRole`: the owner role of a business, whatever its status. -/
def lockOwnerRole (db : AccessDb) (enterpriseId : Nat) : List LockedRow :=
  (db.roles.select fun role =>
    role.enterpriseId == some enterpriseId && role.name == SystemRole.owner.text).map
      fun role => .role role.id

def lockPlatformAdmins (db : AccessDb) : List LockedRow :=
  (db.staff.select (·.hasAllEnterpriseAccess)).map fun member => .staff member.id

def deletedRoles (db : AccessDb) (input : SetRolesInput) (unseen : List Nat) : List Nat :=
  (db.employeeRoles.filter fun grant =>
    grant.enterpriseId == input.enterpriseId && grant.employeeId == input.employeeId &&
      !unseen.contains grant.roleId).map (·.roleId)

def withoutRoles (db : AccessDb) (input : SetRolesInput) (deleted : List Nat) :
    List EmployeeRoleRow :=
  db.employeeRoles.filter fun grant =>
    !(grant.enterpriseId == input.enterpriseId && grant.employeeId == input.employeeId &&
      deleted.contains grant.roleId)

def insertedGrants (db : AccessDb) (input : SetRolesInput) (deleted : List Nat) :
    Except AccessError (List EmployeeRoleRow) := do
  let visible := db.withoutRoles input deleted
  let db ← input.grants.foldlM grantToEmployee { db with employeeRoles := visible }
  pure (db.employeeRoles.drop visible.length)

def commitRoles (db : AccessDb) (input : SetRolesInput) (deleted : List Nat)
    (inserted : List EmployeeRoleRow) : AccessDb :=
  { db with
    employeeRoles := db.withoutRoles input deleted ++ inserted
    trail := .rolesReplaced input.enterpriseId input.employeeId input.actingEmployeeId ::
      db.trail }

end AccessDb

def EmployeeRoleRow.locked (grant : EmployeeRoleRow) : LockedRow :=
  .grant grant.employeeId grant.roleId

def RemovalState.takes (db : AccessDb) (choice : RemovalChoice) : RemovalState → List LockedRow
  | .rolesLock input =>
      if RolesService.keepsOwner input.roles then [] else db.lockOwnerRole input.enterpriseId
  | .rolesDelete input =>
      (db.deletedRoles input choice.unseen).map fun roleId => .grant input.employeeId roleId
  | .rolesInsert input deleted =>
      ((db.insertedGrants input deleted).toOption.getD []).map (·.locked)
  | .statusLock input => db.lockOwnerRole input.enterpriseId
  | .statusUpdate input => [.employee input.employeeId]
  | .staffLock _ => db.lockPlatformAdmins
  | .staffUpdate input => [.staff input.staff.id]
  | .rolesPrevious _ | .rolesCount _ | .rolesCommit _ _ _ | .statusNames _ | .statusCount _
  | .statusCommit _ | .staffCount _ | .staffCommit _ => []

/-- The rows a statement waits for. An INSERT waits for every pair it names, also one
that turns out to be there already. -/
def RemovalState.waits (db : AccessDb) (choice : RemovalChoice) (state : RemovalState) :
    List LockedRow :=
  state.takes db choice ++
    match state with
    | .rolesInsert input _ => input.roles.map fun role => .grant input.employeeId role.id
    | _ => []

def RemovalState.statement (db : AccessDb) (choice : RemovalChoice) :
    RemovalState → Outcome AccessDb RemovalState
  | .rolesLock input => .continues (.rolesPrevious input)
  | .rolesPrevious input =>
      -- The roles held before, read after the lock.
      if !RolesService.keepsOwner input.roles &&
          (db.listRoleNamesForEmployee input.enterpriseId input.employeeId).contains
            SystemRole.owner.text then
        .continues (.rolesCount input)
      else .continues (.rolesDelete input)
  | .rolesCount input =>
      if db.countOtherActiveOwners input.enterpriseId input.employeeId == 0 then .throws
      else .continues (.rolesDelete input)
  | .rolesDelete input => .continues (.rolesInsert input (db.deletedRoles input choice.unseen))
  | .rolesInsert input deleted =>
      match db.insertedGrants input deleted with
      | .error _ => .throws
      | .ok inserted => .continues (.rolesCommit input deleted inserted)
  | .rolesCommit input deleted inserted => .commits (db.commitRoles input deleted inserted)
  | .statusLock input => .continues (.statusNames input)
  | .statusNames input =>
      if (db.listRoleNamesForEmployee input.enterpriseId input.employeeId).contains
          SystemRole.owner.text then
        .continues (.statusCount input)
      else .continues (.statusUpdate input)
  | .statusCount input =>
      if db.countOtherActiveOwners input.enterpriseId input.employeeId == 0 then .throws
      else .continues (.statusUpdate input)
  | .statusUpdate input =>
      -- No row in the status that was read: nothing is written, and the call throws.
      if (db.employees.get? input.employeeId).any fun employee =>
          employee.enterpriseId == input.enterpriseId && employee.status == input.source then
        .continues (.statusCommit input)
      else .throws
  | .statusCommit input =>
      .commits
        { db with
          employees := db.employees.update input.employeeId fun employee =>
            { employee with status := input.target } }
  | .staffLock input => .continues (.staffCount input)
  | .staffCount input =>
      if db.countOtherActivePlatformAdmins input.staff.id = 0 then .throws
      else .continues (.staffUpdate input)
  | .staffUpdate input =>
      if (db.staff.get? input.staff.id).any fun member => member.status == input.staff.status then
        .continues (.staffCommit input)
      else .throws
  | .staffCommit input =>
      .commits
        { db with
          staff := db.staff.update input.staff.id fun member =>
            { member with status := input.target } }

def removals : TransactionProgram AccessDb RemovalState LockedRow RemovalChoice where
  waits db state choice := state.waits db choice
  takes db state choice := state.takes db choice
  statement db state choice := if choice.fails then .throws else state.statement db choice
  takes_waits _ _ _ := List.subset_append_left _ _

def opensTransaction : AccessTask → Option RemovalState
  | .role (.setRolesWrite enterpriseId actingEmployeeId employeeId roles) =>
      some (.rolesLock { enterpriseId, actingEmployeeId, employeeId, roles })
  | .account (.setStatusWrite enterpriseId employeeId source target) =>
      let input := { enterpriseId, employeeId, source, target }
      some (if target = .suspended then .statusLock input else .statusUpdate input)
  | .account (.setStaffStatusWrite staff target) =>
      let input := { staff, target }
      some (if target = .suspended ∧ staff.hasAllEnterpriseAccess = true then .staffLock input
        else .staffUpdate input)
  | _ => none

/-- The steps of a call: its reads, and the statements of the transaction it opens. -/
inductive RemovalTask where
  | read (task : AccessTask)
  | transaction (id : Nat)
  deriving DecidableEq, Repr

abbrev RemovalServer := Server AccessDb RemovalState LockedRow

def removalStep (runtime : Runtime) (server : RemovalServer) (task : RemovalTask)
    (choice : RemovalChoice) : RemovalServer × List RemovalTask :=
  match task with
  | .read task =>
      match opensTransaction task with
      | some state => (server.begin state, [.transaction server.transactions.nextId])
      | none =>
          let (db, tasks) := accessStep runtime server.store task choice.access
          ({ server with store := db }, tasks.map .read)
  | .transaction id =>
      let server := server.advance removals id choice
      (server, if server.isOpen id then [.transaction id] else [])

def removalMachine (runtime : Runtime) :
    Machine RemovalServer RemovalTask AccessCall RemovalChoice where
  opening call := call.opening.map .read
  run := removalStep runtime

end UnifiedService.Access
