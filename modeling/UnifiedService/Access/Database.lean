import UnifiedService.Library.Table
import UnifiedService.Library.Transaction
import UnifiedService.Access.Authority
import UnifiedService.Access.Credentials

/-! The tables of identities, employments, staff, roles and verifications, and
what the repositories ask of them. A row's reference is its serial key. -/

set_option autoImplicit false

namespace UnifiedService.Access

open UnifiedService.Library

structure EnterpriseRow where
  slug : String
  email : String
  deriving DecidableEq, Repr

structure IdentityRow where
  email : Option String
  mobile : Option String
  passwordHash : String
  emailVerifiedAt : Option Int
  mobileVerifiedAt : Option Int
  failedLoginCount : Nat
  lockedUntil : Option Int
  deriving DecidableEq, Repr

/-- A row of `enterprise_employees`. -/
structure EmployeeRow where
  identityId : Nat
  enterpriseId : Nat
  employeeKind : EmployeeKind
  status : EmployeeStatus
  invitedByEmployeeId : Option Nat
  invitedAt : Option Int
  joinedAt : Option Int
  deriving DecidableEq, Repr

structure StaffRow where
  identityId : Nat
  hasAllEnterpriseAccess : Bool
  status : StaffStatus
  deriving DecidableEq, Repr

structure RoleRow where
  enterpriseId : Option Nat
  scope : RoleScope
  name : String
  description : Option String
  isSystem : Bool
  status : RoleStatus
  level : Int
  deriving DecidableEq, Repr

structure PermissionRow where
  code : String
  scope : PermissionScope
  status : PermissionStatus
  deriving DecidableEq, Repr

structure RolePermissionRow where
  roleId : Nat
  enterpriseId : Option Nat
  permissionId : Nat
  deriving DecidableEq, Repr

structure EmployeeRoleRow where
  enterpriseId : Nat
  employeeId : Nat
  roleId : Nat
  grantedByEmployeeId : Option Nat
  deriving DecidableEq, Repr

structure StaffRoleRow where
  staffId : Nat
  roleId : Nat
  grantedByStaffId : Option Nat
  deriving DecidableEq, Repr

structure VerificationRow where
  subjectKind : VerificationSubjectKind
  identityId : Option Nat
  enterpriseId : Option Nat
  customerId : Option Nat
  verificationKind : VerificationKind
  deliveryChannel : DeliveryChannel
  destination : String
  secretHash : String
  expiresAt : Int
  maxAttempts : Nat
  attemptCount : Nat
  resendCount : Nat
  createdAt : Int
  lastSentAt : Option Int
  consumedAt : Option Int
  supersededAt : Option Int
  deriving DecidableEq, Repr

structure FoundRole extends TargetRole where
  id : Nat
  deriving DecidableEq, Repr

inductive Credential where
  | email | mobile
  deriving DecidableEq, Repr

structure StaffTarget where
  id : Nat
  identityId : Nat
  status : StaffStatus
  hasAllEnterpriseAccess : Bool
  everAccepted : Bool
  deriving DecidableEq, Repr

inductive AccessEvent where
  | invited (enterpriseId employeeId actingEmployeeId : Nat)
  | rolesReplaced (enterpriseId employeeId actingEmployeeId : Nat)
  | sent (verificationId : Nat) (destination secret : String)
  | verified (verificationId : Nat) (identityId : Option Nat) (destination : String)
  | inviteCompleted (identityId : Nat) (enterpriseId : Option Nat) (verifiedDestination : String)
  deriving DecidableEq, Repr

/-- The database. The permission catalogue is fixed, and the trail is newest first. -/
structure AccessDb where
  permissions : Table PermissionRow
  enterprises : Table EnterpriseRow
  identities : Table IdentityRow
  employees : Table EmployeeRow
  staff : Table StaffRow
  roles : Table RoleRow
  rolePermissions : List RolePermissionRow
  employeeRoles : List EmployeeRoleRow
  staffRoles : List StaffRoleRow
  verifications : Table VerificationRow
  trail : List AccessEvent
  deriving DecidableEq, Repr

namespace AccessDb

def seeded (permissions : Table PermissionRow) (templates : Table RoleRow)
    (grants : List RolePermissionRow) : AccessDb where
  permissions := permissions
  enterprises := .empty
  identities := .empty
  employees := .empty
  staff := .empty
  roles := templates
  rolePermissions := grants
  employeeRoles := []
  staffRoles := []
  verifications := .empty
  trail := []

def record (db : AccessDb) (event : AccessEvent) : AccessDb :=
  { db with trail := event :: db.trail }

/-! ### Identities -/

def findByEmail (db : AccessDb) (runtime : Runtime) (normalizedEmail : String) :
    Option (Stored IdentityRow) :=
  db.identities.find? fun identity => identity.email.map runtime.lower == some normalizedEmail

def findByMobile (db : AccessDb) (canonicalMobile : String) : Option (Stored IdentityRow) :=
  db.identities.find? fun identity => identity.mobile == some canonicalMobile

def findIdentity (db : AccessDb) (id : Nat) : Option IdentityRow := db.identities.get? id

def newIdentity (email mobile : Option String) (passwordHash : String) : IdentityRow where
  email := email
  mobile := mobile
  passwordHash := passwordHash
  emailVerifiedAt := none
  mobileVerifiedAt := none
  failedLoginCount := 0
  lockedUntil := none

/-- Inserts an identity, unless `identities_email_uniq` or `identities_mobile_uniq`
finds its address taken. -/
def createIdentity (db : AccessDb) (runtime : Runtime) (email mobile : Option String)
    (passwordHash : String) : Except AccessError (Nat × AccessDb) :=
  if db.identities.rows.any fun identity =>
      email.isSome && identity.email.map runtime.lower == email.map runtime.lower then
    .error (.uniqueViolation "identities_email_uniq")
  else if db.identities.rows.any fun identity =>
      mobile.isSome && identity.mobile == mobile then
    .error (.uniqueViolation "identities_mobile_uniq")
  else
    .ok (db.identities.nextId,
      { db with identities := db.identities.insert (newIdentity email mobile passwordHash) })

def updatePasswordHash (db : AccessDb) (id : Nat) (passwordHash : String) : AccessDb :=
  { db with
    identities := db.identities.update id fun identity =>
      { identity with passwordHash := passwordHash, failedLoginCount := 0, lockedUntil := none } }

/-- Stamps the credential that was just proven. Never overwrites the other one. -/
def markCredentialVerified (db : AccessDb) (id : Nat) (credential : Credential) (now : Int) :
    AccessDb :=
  { db with
    identities := db.identities.update id fun identity =>
      match credential with
      | .email => { identity with emailVerifiedAt := identity.emailVerifiedAt.or (some now) }
      | .mobile => { identity with mobileVerifiedAt := identity.mobileVerifiedAt.or (some now) } }

/-! ### Employments and staff -/

def findEmployeeByIdentity (db : AccessDb) (enterpriseId identityId : Nat) :
    Option (Stored EmployeeRow) :=
  db.employees.find? fun employee =>
    employee.enterpriseId == enterpriseId && employee.identityId == identityId

def findAnyEmployee (db : AccessDb) (enterpriseId employeeId : Nat) : Option EmployeeRow :=
  (db.employees.get? employeeId).filter fun employee => employee.enterpriseId == enterpriseId

def newEmployee (identityId enterpriseId : Nat) (status : EmployeeStatus)
    (invitedByEmployeeId : Option Nat) (now : Int) : EmployeeRow where
  identityId := identityId
  enterpriseId := enterpriseId
  employeeKind := .business
  status := status
  invitedByEmployeeId := invitedByEmployeeId
  invitedAt := if status = .invited then some now else none
  joinedAt := if status = .active then some now else none

def createEmployee (db : AccessDb) (identityId enterpriseId : Nat) (status : EmployeeStatus)
    (invitedByEmployeeId : Option Nat) (now : Int) : Except AccessError (Nat × AccessDb) :=
  if (db.findEmployeeByIdentity enterpriseId identityId).isSome then
    .error (.uniqueViolation "enterprise_employees_enterprise_identity_uniq")
  else
    .ok (db.employees.nextId,
      { db with
        employees := db.employees.insert
          (newEmployee identityId enterpriseId status invitedByEmployeeId now) })

/-- invited -> active, on accepting an invite. -/
def activateEmployee (db : AccessDb) (employeeId enterpriseId : Nat) (now : Int) : AccessDb :=
  { db with
    employees := db.employees.update employeeId fun employee =>
      if employee.enterpriseId = enterpriseId ∧ employee.status = .invited then
        { employee with status := .active, joinedAt := employee.joinedAt.or (some now) }
      else employee }

/-- Moves an employment between statuses, conditional on the one it is in, and says
whether it did. `joined_at` is not touched. -/
def setEmployeeStatus (db : AccessDb) (enterpriseId employeeId : Nat)
    (source target : EmployeeStatus) : Bool × AccessDb :=
  if (db.employees.get? employeeId).any fun employee =>
      employee.enterpriseId == enterpriseId && employee.status == source then
    (true,
      { db with
        employees := db.employees.update employeeId fun employee =>
          { employee with status := target } })
  else (false, db)

def findAnyStaffByIdentity (db : AccessDb) (identityId : Nat) : Option (Stored StaffRow) :=
  db.staff.find? fun member => member.identityId == identityId

def createStaff (db : AccessDb) (identityId : Nat) (hasAllEnterpriseAccess : Bool)
    (status : StaffStatus) : Except AccessError (Nat × AccessDb) :=
  if (db.findAnyStaffByIdentity identityId).isSome then
    .error (.uniqueViolation "staff_members_identity_uniq")
  else
    .ok (db.staff.nextId,
      { db with
        staff := db.staff.insert
          { identityId := identityId
            hasAllEnterpriseAccess := hasAllEnterpriseAccess
            status := status } })

def activateStaff (db : AccessDb) (staffId : Nat) : AccessDb :=
  { db with
    staff := db.staff.update staffId fun member =>
      if member.status = .invited then { member with status := .active } else member }

/-- What a status change needs to know about the staff member it is acting on. -/
def findStaffTarget (db : AccessDb) (staffId : Nat) : Option StaffTarget :=
  (db.staff.get? staffId).bind fun member =>
    (db.identities.get? member.identityId).map fun identity =>
      { id := staffId
        identityId := member.identityId
        status := member.status
        hasAllEnterpriseAccess := member.hasAllEnterpriseAccess
        -- The stand-in for an employee's `joined_at`: accepting marks a credential verified.
        everAccepted := identity.emailVerifiedAt.isSome || identity.mobileVerifiedAt.isSome }

/-- Conditional on the status they are in, so two admins cannot both win. -/
def setStaffStatus (db : AccessDb) (staffId : Nat) (source target : StaffStatus) :
    Bool × AccessDb :=
  if (db.staff.get? staffId).any fun member => member.status == source then
    (true,
      { db with
        staff := db.staff.update staffId fun member => { member with status := target } })
  else (false, db)

def countOtherActivePlatformAdmins (db : AccessDb) (excludingStaffId : Nat) : Nat :=
  (db.staff.select fun member =>
    member.status == .active && member.hasAllEnterpriseAccess).countP fun member =>
      member.id != excludingStaffId

def listStaffRoleOptions (db : AccessDb) : List (Stored RoleRow) :=
  db.roles.select fun role =>
    role.enterpriseId.isNone && role.scope == .staff && role.status == .active

def replaceStaffRoles (db : AccessDb) (staffId : Nat) (roleIds : List Nat)
    (grantedByStaffId : Option Nat) : AccessDb :=
  { db with
    staffRoles := (db.staffRoles.filter fun grant => grant.staffId != staffId) ++
      roleIds.map fun roleId => { staffId, roleId, grantedByStaffId } }

/-! ### Roles -/

/-- What a role grants: the active permissions among its grants, each once. -/
def roleCodes (db : AccessDb) (roleId : Nat) : List String :=
  ((db.permissions.select fun permission => permission.status == .active).filter
    fun permission => db.rolePermissions.any fun grant =>
      grant.roleId == roleId && grant.permissionId == permission.id).map (·.row.code)

def targetRole (db : AccessDb) (role : Stored RoleRow) : TargetRole where
  name := role.row.name
  level := role.row.level
  isSystem := role.row.isSystem
  permissionCodes := db.roleCodes role.id

def foundRole (db : AccessDb) (role : Stored RoleRow) : FoundRole :=
  { db.targetRole role with id := role.id }

def holderCount (db : AccessDb) (enterpriseId roleId : Nat) : Nat :=
  db.employeeRoles.countP fun grant =>
    grant.roleId == roleId && grant.enterpriseId == enterpriseId

def findAnyRole (db : AccessDb) (enterpriseId roleId : Nat) : Option FoundRole :=
  ((db.roles.get? roleId).filter fun role => role.enterpriseId == some enterpriseId).map
    fun role => db.foundRole ⟨roleId, role⟩

def findActiveRole (db : AccessDb) (enterpriseId roleId : Nat) : Option FoundRole :=
  ((db.roles.get? roleId).filter fun role =>
    role.enterpriseId == some enterpriseId && role.status == .active).map
      fun role => db.foundRole ⟨roleId, role⟩

/-- Several active roles by reference. Missing ones simply do not appear. -/
def findManyRoles (db : AccessDb) (enterpriseId : Nat) (roleIds : List Nat) : List FoundRole :=
  ((db.roles.select fun role =>
    role.enterpriseId == some enterpriseId && role.status == .active).filter fun role =>
      roleIds.contains role.id).map db.foundRole

def findRoleByName (db : AccessDb) (enterpriseId : Nat) (name : String) :
    Option (Stored RoleRow) :=
  db.roles.find? fun role => role.enterpriseId == some enterpriseId && role.name == name

def isSystemTemplateName (db : AccessDb) (runtime : Runtime) (name : String) : Bool :=
  db.roles.rows.any fun role =>
    role.enterpriseId.isNone && role.isSystem && runtime.lower role.name == runtime.lower name

def countRoles (db : AccessDb) (enterpriseId : Nat) : Nat :=
  db.roles.count fun role => role.enterpriseId == some enterpriseId

/-- Whether a name is taken, as `roles_enterprise_name_uniq` sees it. Names compare
exactly, and archived roles keep theirs. -/
def nameTaken (db : AccessDb) (enterpriseId : Nat) (name : String) (exceptId : Option Nat) :
    Bool :=
  (db.roles.select fun role =>
    role.enterpriseId == some enterpriseId && role.name == name).any
      fun role => some role.id != exceptId

def insertRole (db : AccessDb) (enterpriseId : Nat) (role : RoleRow) :
    Except AccessError (Nat × AccessDb) :=
  if db.nameTaken enterpriseId role.name none then
    .error (.uniqueViolation "roles_enterprise_name_uniq")
  else
    .ok (db.roles.nextId,
      { db with roles := db.roles.insert { role with enterpriseId := some enterpriseId } })

/-- Creates a role the business owns. `is_system` is not a parameter. -/
def createRole (db : AccessDb) (enterpriseId : Nat) (name : String) (description : Option String)
    (level : Int) : Except AccessError (Nat × AccessDb) :=
  db.insertRole enterpriseId
    { enterpriseId := some enterpriseId
      scope := .enterprise
      name := name
      description := description
      isSystem := false
      status := .active
      level := level }

/-- Whether an edit reaches the row: a business's own, never one of the system's. -/
def roleEditable (db : AccessDb) (enterpriseId roleId : Nat) : Bool :=
  (db.roles.get? roleId).any fun role => role.enterpriseId == some enterpriseId && !role.isSystem

def updateRole (db : AccessDb) (enterpriseId roleId : Nat) (name : String)
    (description : Option String) (level : Int) : Except AccessError (Bool × AccessDb) :=
  if !db.roleEditable enterpriseId roleId then .ok (false, db)
  else if db.nameTaken enterpriseId name (some roleId) then
    .error (.uniqueViolation "roles_enterprise_name_uniq")
  else
    .ok (true,
      { db with
        roles := db.roles.update roleId fun role =>
          { role with name := name, description := description, level := level } })

/-- Archives a role. Not a delete: the grants pointing at it stay. -/
def archiveRole (db : AccessDb) (enterpriseId roleId : Nat) : Bool × AccessDb :=
  if !db.roleEditable enterpriseId roleId then (false, db)
  else
    (true,
      { db with roles := db.roles.update roleId fun role => { role with status := .archived } })

/-- Adds a grant, unless the pair is there: `ON CONFLICT DO NOTHING`. -/
def insertRolePermission (db : AccessDb) (grant : RolePermissionRow) : AccessDb :=
  if db.rolePermissions.any fun other =>
      other.roleId == grant.roleId && other.permissionId == grant.permissionId then db
  else { db with rolePermissions := db.rolePermissions ++ [grant] }

/-- Replaces a role's permissions with exactly this set, as far as the codes are
active and not reserved for staff. The tenant of the grants stays unnamed. -/
def replaceRolePermissions (db : AccessDb) (enterpriseId roleId : Nat)
    (permissionCodes : List String) : AccessDb :=
  if (db.roles.get? roleId).any fun role => role.enterpriseId == some enterpriseId then
    let kept := db.rolePermissions.filter fun grant => grant.roleId != roleId
    let granted := (db.permissions.select fun permission =>
      permissionCodes.contains permission.code && permission.status == .active &&
        permission.scope != .staff).map fun permission =>
          { roleId := roleId, enterpriseId := none, permissionId := permission.id }
    granted.foldl insertRolePermission { db with rolePermissions := kept }
  else db

/-- Grants a role to an employee, unless they hold it. Both foreign keys run through
the enterprise, so an employee of one business never gets another's role. -/
def grantToEmployee (db : AccessDb) (grant : EmployeeRoleRow) : Except AccessError AccessDb :=
  if db.employeeRoles.any fun other =>
      other.employeeId == grant.employeeId && other.roleId == grant.roleId then .ok db
  else if !(db.employees.get? grant.employeeId).any fun employee =>
      employee.enterpriseId == grant.enterpriseId then
    .error (.foreignKeyViolation "employee_roles_employee_fk")
  else if !(db.roles.get? grant.roleId).any fun role =>
      role.enterpriseId == some grant.enterpriseId then
    .error (.foreignKeyViolation "employee_roles_role_fk")
  else .ok { db with employeeRoles := db.employeeRoles ++ [grant] }

def replaceEmployeeRoles (db : AccessDb) (enterpriseId employeeId : Nat) (roleIds : List Nat)
    (grantedByEmployeeId : Nat) : Except AccessError AccessDb :=
  let kept := db.employeeRoles.filter fun grant =>
    !(grant.enterpriseId == enterpriseId && grant.employeeId == employeeId)
  (roleIds.map fun roleId =>
    { enterpriseId, employeeId, roleId, grantedByEmployeeId := some grantedByEmployeeId }).foldlM
      grantToEmployee { db with employeeRoles := kept }

def heldRoles (db : AccessDb) (enterpriseId employeeId : Nat) : List (Stored RoleRow) :=
  (db.roles.select fun role =>
    role.enterpriseId == some enterpriseId && role.status == .active).filter fun role =>
      db.employeeRoles.any fun grant =>
        grant.enterpriseId == enterpriseId && grant.employeeId == employeeId &&
          grant.roleId == role.id

def authorityOf (db : AccessDb) (enterpriseId employeeId : Nat) : ActorAuthority where
  employeeId := employeeId
  level := highestRoleLevel ((db.heldRoles enterpriseId employeeId).map (·.row.level))
  roleNames := (db.heldRoles enterpriseId employeeId).map (·.row.name)
  permissionCodes :=
    (db.heldRoles enterpriseId employeeId).flatMap fun role => db.roleCodes role.id

def highestLevelForEmployee (db : AccessDb) (enterpriseId employeeId : Nat) : Option Int :=
  highestRoleLevel ((db.heldRoles enterpriseId employeeId).map (·.row.level))

def listRoleNamesForEmployee (db : AccessDb) (enterpriseId employeeId : Nat) : List String :=
  (db.heldRoles enterpriseId employeeId).map (·.row.name)

def countOtherActiveOwners (db : AccessDb) (enterpriseId excludingEmployeeId : Nat) : Nat :=
  (db.employees.select fun employee =>
    employee.enterpriseId == enterpriseId && employee.status == .active).countP fun employee =>
      employee.id != excludingEmployeeId &&
        (db.listRoleNamesForEmployee enterpriseId employee.id).contains SystemRole.owner.text

def systemTemplates (db : AccessDb) : List (Stored RoleRow) :=
  db.roles.select fun role =>
    role.enterpriseId.isNone && role.scope == .enterprise && role.isSystem

def insertSystemRoles (enterpriseId : Nat) :
    List (Stored RoleRow) → AccessDb → Except AccessError (List (String × Nat) × AccessDb)
  | [], db => .ok ([], db)
  | template :: rest, db => do
      let (id, db) ← db.insertRole enterpriseId
        { template.row with isSystem := true, status := .active }
      let (ids, db) ← insertSystemRoles enterpriseId rest db
      pure ((template.row.name, id) :: ids, db)

/-- The grants each system role of a business takes over from its template. The
business is named from the new role, never from the template. -/
def templateGrants (db : AccessDb) (enterpriseId : Nat) : List RolePermissionRow :=
  (db.roles.select fun role => role.enterpriseId == some enterpriseId && role.isSystem).flatMap
    fun role =>
      (db.roles.select fun template =>
        template.enterpriseId.isNone && template.name == role.row.name &&
          template.scope == role.row.scope && template.isSystem).flatMap fun template =>
            (db.rolePermissions.filter fun grant => grant.roleId == template.id).map fun grant =>
              { roleId := role.id
                enterpriseId := role.row.enterpriseId
                permissionId := grant.permissionId }

def instantiateSystemRoles (db : AccessDb) (enterpriseId : Nat) :
    Except AccessError (List (String × Nat) × AccessDb) := do
  let (created, db) ← insertSystemRoles enterpriseId db.systemTemplates db
  pure (created, (db.templateGrants enterpriseId).foldl insertRolePermission db)

def grantOwner (db : AccessDb) (enterpriseId employeeId : Nat) (roleIds : List (String × Nat)) :
    Except AccessError AccessDb :=
  match roleIds.lookup SystemRole.owner.text with
  | none => .error .ownerTemplateMissing
  | some roleId =>
      db.grantToEmployee { enterpriseId, employeeId, roleId, grantedByEmployeeId := none }

end AccessDb

end UnifiedService.Access
