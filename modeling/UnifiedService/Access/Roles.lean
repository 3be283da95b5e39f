import UnifiedService.Access.Database

/-! Roles as a business defines them for itself: create, update, archive, and who
holds what. Every read and every transaction is a step of its own. -/

set_option autoImplicit false

namespace UnifiedService.Access

open UnifiedService.Library

/-- The body of a create or an update: an edit replaces the role wholesale. -/
structure RoleRequest where
  name : String
  description : Option String
  level : Int
  permissions : List String
  deriving DecidableEq, Repr

def refuse (field issue : String) : AccessError :=
  .app .permissionDenied [{ field, issue }]

def assertMayDefine (authority : ActorAuthority) (level : Int) (permissions : List String)
    (isSystem : Bool) : Except AccessError Unit :=
  match mayDefineRole authority level permissions isSystem with
  | some denial => .error (refuse "permissions" (explainDenial denial))
  | none => .ok ()

def assertMayAssign (authority : ActorAuthority) : List FoundRole → Except AccessError Unit
  | [] => .ok ()
  | role :: rest =>
      match mayAssignRole authority role.toTargetRole with
      | some denial => .error (refuse "roleRefIds" s!"{role.name}: {explainDenial denial}")
      | none => assertMayAssign authority rest

def nameExists : AccessError :=
  .app .validationFailed [{ field := "name", issue := "a role with this name already exists" }]

/-- The steps of the role calls. What was read travels along as it was read. -/
inductive RoleTask where
  | create (enterpriseId actingEmployeeId : Nat) (request : RoleRequest)
  | createCount (enterpriseId : Nat) (request : RoleRequest)
  | createExisting (enterpriseId : Nat) (request : RoleRequest)
  | createTemplate (enterpriseId : Nat) (request : RoleRequest)
  | createWrite (enterpriseId : Nat) (request : RoleRequest)
  | update (enterpriseId actingEmployeeId roleId : Nat) (request : RoleRequest)
  | updateFind (enterpriseId : Nat) (authority : ActorAuthority) (roleId : Nat)
      (request : RoleRequest)
  | updateClash (enterpriseId roleId : Nat) (request : RoleRequest)
  | updateWrite (enterpriseId roleId : Nat) (request : RoleRequest)
  | archive (enterpriseId actingEmployeeId roleId : Nat)
  | archiveFind (enterpriseId : Nat) (authority : ActorAuthority) (roleId : Nat)
  | archiveWrite (enterpriseId roleId : Nat)
  | setEmployeeRoles (enterpriseId actingEmployeeId employeeId : Nat) (roleIds : List Nat)
  | setRolesEmployee (enterpriseId : Nat) (authority : ActorAuthority) (employeeId : Nat)
      (roleIds : List Nat)
  | setRolesLevel (enterpriseId : Nat) (authority : ActorAuthority) (employeeId : Nat)
      (roleIds : List Nat)
  | setRolesFind (enterpriseId : Nat) (authority : ActorAuthority) (employeeId : Nat)
      (roleIds : List Nat)
  | setRolesWrite (enterpriseId actingEmployeeId employeeId : Nat) (roles : List FoundRole)
  deriving DecidableEq, Repr

abbrev RoleStatement := Statement AccessDb AccessError (List RoleTask)

namespace RolesService

/-! ### Create -/

def create (enterpriseId actingEmployeeId : Nat) (request : RoleRequest) : RoleStatement :=
  fun db => do
    assertMayDefine (db.authorityOf enterpriseId actingEmployeeId) request.level
      request.permissions false
    pure ([.createCount enterpriseId request], db)

/-- The cap comes before the name, so a business at the ceiling is told the real reason. -/
def createCount (enterpriseId : Nat) (request : RoleRequest) : RoleStatement := fun db =>
  if maxRolesPerEnterprise ≤ db.countRoles enterpriseId then
    .error (.app .validationFailed
      [{ field := "name"
         issue := s!"a business may define at most {maxRolesPerEnterprise} roles — " ++
           "archive one that is no longer used" }])
  else .ok ([.createExisting enterpriseId request], db)

def createExisting (enterpriseId : Nat) (request : RoleRequest) : RoleStatement := fun db =>
  if (db.findRoleByName enterpriseId request.name).isSome then .error nameExists
  else .ok ([.createTemplate enterpriseId request], db)

/-- The names of the templates are reserved, whatever their case. -/
def createTemplate (runtime : Runtime) (enterpriseId : Nat) (request : RoleRequest) :
    RoleStatement := fun db =>
  if db.isSystemTemplateName runtime request.name then
    .error (.app .validationFailed
      [{ field := "name"
         issue := "this name belongs to a built-in role and cannot be reused — choose another" }])
  else .ok ([.createWrite enterpriseId request], db)

def createWrite (enterpriseId : Nat) (request : RoleRequest) : RoleStatement := fun db => do
  let (roleId, db) ← db.createRole enterpriseId request.name request.description request.level
  pure ([], db.replaceRolePermissions enterpriseId roleId request.permissions)

/-! ### Update -/

def update (enterpriseId actingEmployeeId roleId : Nat) (request : RoleRequest) :
    RoleStatement := fun db =>
  .ok ([.updateFind enterpriseId (db.authorityOf enterpriseId actingEmployeeId) roleId request],
    db)

def updateFind (enterpriseId : Nat) (authority : ActorAuthority) (roleId : Nat)
    (request : RoleRequest) : RoleStatement := fun db =>
  match db.findAnyRole enterpriseId roleId with
  | none => .error (.app .roleNotFound [])
  | some role => do
      assertMayDefine authority role.level role.permissionCodes role.isSystem
      assertMayDefine authority request.level request.permissions role.isSystem
      pure ([.updateClash enterpriseId roleId request], db)

/-- The name must be free, but no template's name is reserved against an edit. -/
def updateClash (enterpriseId roleId : Nat) (request : RoleRequest) : RoleStatement := fun db =>
  if (db.findRoleByName enterpriseId request.name).any fun clash => clash.id != roleId then
    .error nameExists
  else .ok ([.updateWrite enterpriseId roleId request], db)

def updateWrite (enterpriseId roleId : Nat) (request : RoleRequest) : RoleStatement :=
  fun db => do
    let (affected, db) ← db.updateRole enterpriseId roleId request.name request.description
      request.level
    if affected then
      pure ([], db.replaceRolePermissions enterpriseId roleId request.permissions)
    else .error (.app .permissionDenied [])

/-! ### Archive -/

def archive (enterpriseId actingEmployeeId roleId : Nat) : RoleStatement := fun db =>
  .ok ([.archiveFind enterpriseId (db.authorityOf enterpriseId actingEmployeeId) roleId], db)

def archiveFind (enterpriseId : Nat) (authority : ActorAuthority) (roleId : Nat) :
    RoleStatement := fun db =>
  match db.findAnyRole enterpriseId roleId with
  | none => .error (.app .roleNotFound [])
  | some role => do
      assertMayDefine authority role.level role.permissionCodes role.isSystem
      if 0 < db.holderCount enterpriseId roleId then
        .error (.app .validationFailed
          [{ field := "refId"
             issue := s!"{db.holderCount enterpriseId roleId} person(s) still hold this role; " ++
               "move them first" }])
      else pure ([.archiveWrite enterpriseId roleId], db)

def archiveWrite (enterpriseId roleId : Nat) : RoleStatement := fun db =>
  match db.archiveRole enterpriseId roleId with
  | (false, _) => .error (.app .permissionDenied [])
  | (true, db) => .ok ([], db)

/-! ### Who holds what -/

def setEmployeeRoles (enterpriseId actingEmployeeId employeeId : Nat) (roleIds : List Nat) :
    RoleStatement := fun db =>
  .ok ([.setRolesEmployee enterpriseId (db.authorityOf enterpriseId actingEmployeeId) employeeId
    roleIds], db)

def setRolesEmployee (enterpriseId : Nat) (authority : ActorAuthority) (employeeId : Nat)
    (roleIds : List Nat) : RoleStatement := fun db =>
  match db.findAnyEmployee enterpriseId employeeId with
  | none => .error (.app .employeeNotFound [])
  | some _ => .ok ([.setRolesLevel enterpriseId authority employeeId roleIds], db)

/-- You may only re-role somebody you outrank, and never yourself. -/
def setRolesLevel (enterpriseId : Nat) (authority : ActorAuthority) (employeeId : Nat)
    (roleIds : List Nat) : RoleStatement := fun db =>
  match mayModifyEmployee authority
      ⟨employeeId, db.highestLevelForEmployee enterpriseId employeeId⟩ with
  | some denial => .error (refuse "employeeRefId" (explainDenial denial))
  | none => .ok ([.setRolesFind enterpriseId authority employeeId roleIds], db)

def setRolesFind (enterpriseId : Nat) (authority : ActorAuthority) (employeeId : Nat)
    (roleIds : List Nat) : RoleStatement := fun db =>
  let roles := db.findManyRoles enterpriseId roleIds
  if roles.length ≠ roleIds.length then .error (.app .roleNotFound [])
  else do
    assertMayAssign authority roles
    pure ([.setRolesWrite enterpriseId authority.employeeId employeeId roles], db)

def keepsOwner (roles : List FoundRole) : Bool :=
  roles.any fun role => role.name == SystemRole.owner.text

/-- The last owner stays an owner, decided inside the transaction. -/
def setRolesWrite (enterpriseId actingEmployeeId employeeId : Nat) (roles : List FoundRole) :
    RoleStatement := fun db =>
  let previous := db.listRoleNamesForEmployee enterpriseId employeeId
  if !keepsOwner roles && previous.contains SystemRole.owner.text &&
      db.countOtherActiveOwners enterpriseId employeeId == 0 then
    .error (.app .validationFailed
      [{ field := "roleRefIds"
         issue := "this is the last owner; make somebody else an owner first" }])
  else do
    let db ← db.replaceEmployeeRoles enterpriseId employeeId (roles.map (·.id)) actingEmployeeId
    pure ([], db.record (.rolesReplaced enterpriseId employeeId actingEmployeeId))

def step (runtime : Runtime) : RoleTask → RoleStatement
  | .create enterpriseId actingEmployeeId request => create enterpriseId actingEmployeeId request
  | .createCount enterpriseId request => createCount enterpriseId request
  | .createExisting enterpriseId request => createExisting enterpriseId request
  | .createTemplate enterpriseId request => createTemplate runtime enterpriseId request
  | .createWrite enterpriseId request => createWrite enterpriseId request
  | .update enterpriseId actingEmployeeId roleId request =>
      update enterpriseId actingEmployeeId roleId request
  | .updateFind enterpriseId authority roleId request =>
      updateFind enterpriseId authority roleId request
  | .updateClash enterpriseId roleId request => updateClash enterpriseId roleId request
  | .updateWrite enterpriseId roleId request => updateWrite enterpriseId roleId request
  | .archive enterpriseId actingEmployeeId roleId => archive enterpriseId actingEmployeeId roleId
  | .archiveFind enterpriseId authority roleId => archiveFind enterpriseId authority roleId
  | .archiveWrite enterpriseId roleId => archiveWrite enterpriseId roleId
  | .setEmployeeRoles enterpriseId actingEmployeeId employeeId roleIds =>
      setEmployeeRoles enterpriseId actingEmployeeId employeeId roleIds
  | .setRolesEmployee enterpriseId authority employeeId roleIds =>
      setRolesEmployee enterpriseId authority employeeId roleIds
  | .setRolesLevel enterpriseId authority employeeId roleIds =>
      setRolesLevel enterpriseId authority employeeId roleIds
  | .setRolesFind enterpriseId authority employeeId roleIds =>
      setRolesFind enterpriseId authority employeeId roleIds
  | .setRolesWrite enterpriseId actingEmployeeId employeeId roles =>
      setRolesWrite enterpriseId actingEmployeeId employeeId roles

end RolesService

end UnifiedService.Access
