import UnifiedService.Access.Roles
import UnifiedService.Access.Verification

/-! How people come to have an account: a business signs up, a colleague or a
staff member is invited, and whoever is invited sets their own password. -/

set_option autoImplicit false

namespace UnifiedService.Access

open UnifiedService.Library

structure AddressInput where
  email : Option String
  mobile : Option MobileInput
  deriving DecidableEq, Repr

structure Addresses where
  email : Option String
  mobile : Option String
  deriving DecidableEq, Repr

def present (text : Option String) : Option String := text.filter fun text => text != ""

def AddressInput.normalize (runtime : Runtime) (input : AddressInput) : Addresses where
  email := input.email.map (normalizeEmail runtime)
  mobile := input.mobile.bind (normalizeMobile runtime)

/-- Where an invitation or a first code goes: the email before the mobile. -/
def Addresses.destination (addresses : Addresses) : Option String :=
  addresses.email.or addresses.mobile

def Addresses.deliveryChannel (addresses : Addresses) : DeliveryChannel :=
  if (present addresses.email).isSome then .email else .sms

/-- The identity a person already has: found by the email, and failing that by
the mobile. -/
def AccessDb.findExisting (db : AccessDb) (runtime : Runtime) (addresses : Addresses) :
    Option (Stored IdentityRow) :=
  ((present addresses.email).bind (db.findByEmail runtime)).or
    ((present addresses.mobile).bind db.findByMobile)

structure SignupRequest where
  /-- The slug asked for, or the one found available for the name. -/
  slug : String
  businessEmail : String
  businessMobile : Option MobileInput
  owner : AddressInput
  password : String
  deriving DecidableEq, Repr

structure CreateEmployeeRequest where
  address : AddressInput
  roleRefId : Nat
  deriving DecidableEq, Repr

/-- `CreateEmployeeRequestSchema`. -/
def CreateEmployeeRequest.accepted (runtime : Runtime) (request : CreateEmployeeRequest) : Bool :=
  credentialsAccepted runtime request.address.email request.address.mobile

structure StaffInviteRequest where
  address : AddressInput
  roleRefIds : List Nat
  deriving DecidableEq, Repr

structure AcceptInviteRequest where
  address : AddressInput
  code : String
  password : String
  deriving DecidableEq, Repr

inductive AccountTask where
  | signup (request : SignupRequest)
  | signupWrite (slug businessEmail : String) (owner : Addresses) (password : String)
  | createEmployee (enterpriseId actingEmployeeId : Nat) (request : CreateEmployeeRequest)
  | createAuthority (enterpriseId actingEmployeeId : Nat) (addresses : Addresses)
      (role : FoundRole)
  | createWrite (enterpriseId actingEmployeeId : Nat) (addresses : Addresses) (role : FoundRole)
  | inviteStaff (actingStaffId : Nat) (request : StaffInviteRequest)
  | inviteStaffWrite (actingStaffId : Nat) (addresses : Addresses) (roleIds : List Nat)
  | setStatus (enterpriseId actingEmployeeId employeeId : Nat) (status : EmployeeStatus)
  | setStatusAuthority (enterpriseId actingEmployeeId employeeId : Nat) (employee : EmployeeRow)
      (status : EmployeeStatus)
  | setStatusLevel (enterpriseId : Nat) (authority : ActorAuthority) (employeeId : Nat)
      (employee : EmployeeRow) (status : EmployeeStatus)
  | setStatusWrite (enterpriseId employeeId : Nat) (source status : EmployeeStatus)
  | setStaffStatus (actingStaffId staffId : Nat) (status : StaffStatus)
  | setStaffStatusWrite (target : StaffTarget) (status : StaffStatus)
  | resend (address : AddressInput) (purpose : VerificationKind)
  | verifyLogin (verificationRefId : Nat) (code : String)
  | completeVerifiedLogin (identityId : Nat) (verifiedDestination : String)
  | markVerified (identityId : Nat) (credential : Credential)
  | acceptInvite (request : AcceptInviteRequest)
  | completeInvite (identityId : Nat) (enterpriseId : Option Nat)
      (verifiedDestination newPassword : String)
  | completeInviteWrite (identity : Stored IdentityRow) (enterpriseId : Option Nat)
      (verifiedDestination newPassword : String)
  deriving DecidableEq, Repr

inductive AccessTask where
  | role (task : RoleTask)
  | verification (task : VerificationTask)
  | account (task : AccountTask)
  deriving DecidableEq, Repr

abbrev AccountStatement := Statement AccessDb AccessError (List AccessTask)

/-- The challenge a person is sent once their rows are committed. Without a
destination the call ends there. -/
def challenge (identityId : Nat) (enterpriseId : Option Nat) (kind : VerificationKind)
    (addresses : Addresses) : List AccessTask :=
  (present addresses.destination).toList.map fun destination =>
    .verification (.assertWithinDestinationCap
      { subjectKind := .identity
        identityId := some identityId
        customerId := none
        enterpriseId := enterpriseId
        verificationKind := kind
        destination := destination
        deliveryChannel := addresses.deliveryChannel } none)

namespace EnterpriseOnboardingService

def unparseableEmail (field : String) : AccessError :=
  .app .invalidEmail [{ field, issue := "unparseable" }]

def invalidMobile (field : String) : AccessError :=
  .app .invalidMobile [{ field, issue := "not valid for the country given" }]

/-- Normalisation happens once, before anything reaches a repository. -/
def signup (runtime : Runtime) (request : SignupRequest) : AccountStatement := fun db =>
  let owner := request.owner.normalize runtime
  let businessEmail := normalizeEmail runtime request.businessEmail
  if owner.email.any fun email => !isValidEmail email then .error (unparseableEmail "owner.email")
  else if request.owner.mobile.isSome && owner.mobile.isNone then
    .error (invalidMobile "owner.mobile")
  else if owner.email.isNone && owner.mobile.isNone then .error (.app .credentialRequired [])
  else if !isValidEmail businessEmail then .error (unparseableEmail "business.email")
  else if request.businessMobile.any fun mobile => (normalizeMobile runtime mobile).isNone then
    .error (invalidMobile "business.mobile")
  else .ok ([.account (.signupWrite request.slug businessEmail owner request.password)], db)

def createEnterprise (runtime : Runtime) (slug email : String) (db : AccessDb) :
    Except AccessError (Nat × AccessDb) :=
  if db.enterprises.rows.any fun enterprise => enterprise.slug == slug then
    .error (.uniqueViolation "enterprises_slug_uniq")
  else if db.enterprises.rows.any fun enterprise =>
      runtime.lower enterprise.email == runtime.lower email then
    .error (.uniqueViolation "enterprises_email_uniq")
  else
    .ok (db.enterprises.nextId, { db with enterprises := db.enterprises.insert { slug, email } })

/-- One transaction creates the enterprise, the owner's identity and employment,
and the enterprise's own copies of the system roles, then grants the owner role. -/
def signupWrite (runtime : Runtime) (slug businessEmail : String) (owner : Addresses)
    (password : String) (choice : AccessChoice) : AccountStatement := fun db => do
  let (enterpriseId, db) ← createEnterprise runtime slug businessEmail db
  let (identityId, db) ← db.createIdentity runtime owner.email owner.mobile
    (runtime.hashPassword password choice.random)
  let (employeeId, db) ← db.createEmployee identityId enterpriseId .active none choice.now
  let (roleIds, db) ← db.instantiateSystemRoles enterpriseId
  let db ← db.grantOwner enterpriseId employeeId roleIds
  pure (challenge identityId (some enterpriseId) .firstLogin owner, db)

end EnterpriseOnboardingService

namespace EmployeesService

def create (runtime : Runtime) (enterpriseId actingEmployeeId : Nat)
    (request : CreateEmployeeRequest) : AccountStatement := fun db =>
  let addresses := request.address.normalize runtime
  if request.address.mobile.isSome && addresses.mobile.isNone then
    .error (.app .invalidMobile [])
  else if (present addresses.email).isNone && (present addresses.mobile).isNone then
    .error (.app .credentialRequired [])
  else
    match db.findActiveRole enterpriseId request.roleRefId with
    | none => .error (.app .roleNotFound [])
    | some role =>
        .ok ([.account (.createAuthority enterpriseId actingEmployeeId addresses role)], db)

def createAuthority (enterpriseId actingEmployeeId : Nat) (addresses : Addresses)
    (role : FoundRole) : AccountStatement := fun db =>
  match mayAssignRole (db.authorityOf enterpriseId actingEmployeeId) role.toTargetRole with
  | some denial => .error (refuse "roleRefId" (explainDenial denial))
  | none => .ok ([.account (.createWrite enterpriseId actingEmployeeId addresses role)], db)

/-- Reuses the identity of a person who has one, unless they work here already. -/
def identityFor (runtime : Runtime) (enterpriseId : Nat) (addresses : Addresses)
    (choice : AccessChoice) (db : AccessDb) : Except AccessError (Nat × AccessDb) :=
  match db.findExisting runtime addresses with
  | some existing =>
      if (db.findEmployeeByIdentity enterpriseId existing.id).isSome then
        .error (.app .employeeAlreadyExists [])
      else .ok (existing.id, db)
  | none =>
      db.createIdentity runtime addresses.email addresses.mobile
        (runtime.hashPassword choice.random choice.random)

/-- One transaction finds or makes the identity, employs it as invited, and grants
exactly the one role. The invitation goes out afterwards. -/
def createWrite (runtime : Runtime) (enterpriseId actingEmployeeId : Nat) (addresses : Addresses)
    (role : FoundRole) (choice : AccessChoice) : AccountStatement := fun db => do
  let (identityId, db) ← identityFor runtime enterpriseId addresses choice db
  let (employeeId, db) ← db.createEmployee identityId enterpriseId .invited
    (some actingEmployeeId) choice.now
  let db ← db.grantToEmployee
    { enterpriseId, employeeId, roleId := role.id, grantedByEmployeeId := some actingEmployeeId }
  pure (challenge identityId (some enterpriseId) .employeeInvite addresses,
    db.record (.invited enterpriseId employeeId actingEmployeeId))

/-! ### Suspending and reinstating -/

def setStatus (enterpriseId actingEmployeeId employeeId : Nat) (status : EmployeeStatus) :
    AccountStatement := fun db =>
  match db.findAnyEmployee enterpriseId employeeId with
  | none => .error (.app .employeeNotFound [])
  | some employee =>
      .ok ([.account (.setStatusAuthority enterpriseId actingEmployeeId employeeId employee
        status)], db)

def setStatusAuthority (enterpriseId actingEmployeeId employeeId : Nat) (employee : EmployeeRow)
    (status : EmployeeStatus) : AccountStatement := fun db =>
  .ok ([.account (.setStatusLevel enterpriseId (db.authorityOf enterpriseId actingEmployeeId)
    employeeId employee status)], db)

/-- Nobody acts on themselves or upwards, and no administrator stands in for an
acceptance. -/
def setStatusLevel (enterpriseId : Nat) (authority : ActorAuthority) (employeeId : Nat)
    (employee : EmployeeRow) (status : EmployeeStatus) : AccountStatement := fun db =>
  match mayModifyEmployee authority
      ⟨employeeId, db.highestLevelForEmployee enterpriseId employeeId⟩ with
  | some denial => .error (refuse "refId" (explainDenial denial))
  | none =>
      match mayChangeStatus employee.status status employee.joinedAt.isSome with
      | some denial =>
          .error (.app .invalidStateTransition
            [{ field := "status", issue := explainStatusDenial denial }])
      | none =>
          .ok ([.account (.setStatusWrite enterpriseId employeeId employee.status status)], db)

def assertNotLastOwner (db : AccessDb) (enterpriseId employeeId : Nat) :
    Except AccessError Unit :=
  if (db.listRoleNamesForEmployee enterpriseId employeeId).contains SystemRole.owner.text &&
      db.countOtherActiveOwners enterpriseId employeeId == 0 then
    .error (.app .validationFailed
      [{ field := "refId"
         issue := "this is the last owner; make somebody else an owner first" }])
  else .ok ()

/-- The check and the write in one transaction, conditional on the status that was read. -/
def setStatusWrite (enterpriseId employeeId : Nat) (source status : EmployeeStatus) :
    AccountStatement := fun db => do
  (if status = .suspended then assertNotLastOwner db enterpriseId employeeId else .ok ())
  match db.setEmployeeStatus enterpriseId employeeId source status with
  | (false, _) => .error (.app .concurrentModification [])
  | (true, db) => pure ([], db)

end EmployeesService

namespace PlatformService

def resolveStaffRoles (db : AccessDb) (roleRefIds : List Nat) : Except AccessError (List Nat) :=
  let wanted := db.listStaffRoleOptions.filter fun option => roleRefIds.contains option.id
  if wanted.length ≠ roleRefIds.length then .error (.app .roleNotFound [])
  else .ok (wanted.map (·.id))

def inviteStaff (runtime : Runtime) (actingStaffId : Nat) (request : StaffInviteRequest) :
    AccountStatement := fun db => do
  let named := { request.address with email := present request.address.email }
  let addresses := named.normalize runtime
  if (present addresses.email).isNone && (present addresses.mobile).isNone then
    .error (.app .credentialRequired [])
  else
    let roleIds ← resolveStaffRoles db request.roleRefIds
    pure ([.account (.inviteStaffWrite actingStaffId addresses roleIds)], db)

/-- A staff account is always a new identity: an address in use is refused outright. -/
def inviteStaffWrite (runtime : Runtime) (actingStaffId : Nat) (addresses : Addresses)
    (roleIds : List Nat) (choice : AccessChoice) : AccountStatement := fun db => do
  if (db.findExisting runtime addresses).isSome then
    .error (.app .employeeAlreadyExists
      [{ field := if (present addresses.email).isSome then "email" else "mobile"
         issue := "that address is already in use" }])
  else
    let (identityId, db) ← db.createIdentity runtime addresses.email addresses.mobile
      (runtime.hashPassword choice.random choice.random)
    let (staffId, db) ← db.createStaff identityId false .invited
    let db := if roleIds.isEmpty then db
      else db.replaceStaffRoles staffId roleIds (some actingStaffId)
    pure (challenge identityId none .employeeInvite addresses, db)

/-! ### Suspending and reinstating -/

def setStaffStatus (actingStaffId staffId : Nat) (status : StaffStatus) : AccountStatement :=
  fun db =>
    match db.findStaffTarget staffId with
    | none => .error (.app .employeeNotFound [])
    | some target =>
        if target.id = actingStaffId then
          .error (refuse "refId" "you cannot change your own status")
        else
          match mayChangeStatus target.status status target.everAccepted with
          | some denial =>
              .error (.app .invalidStateTransition
                [{ field := "status", issue := explainStatusDenial denial }])
          | none => .ok ([.account (.setStaffStatusWrite target status)], db)

def assertNotLastAdmin (db : AccessDb) (target : StaffTarget) (status : StaffStatus) :
    Except AccessError Unit :=
  if status = .suspended ∧ target.hasAllEnterpriseAccess = true ∧
      db.countOtherActivePlatformAdmins target.id = 0 then
    .error (.app .validationFailed
      [{ field := "refId"
         issue := "this is the last active platform admin; there would be no way back in" }])
  else .ok ()

def setStaffStatusWrite (target : StaffTarget) (status : StaffStatus) : AccountStatement :=
  fun db => do
    assertNotLastAdmin db target status
    match db.setStaffStatus target.id target.status status with
    | (false, _) => .error (.app .concurrentModification [])
    | (true, db) => pure ([], db)

end PlatformService

namespace AuthService

def requestedDestination (runtime : Runtime) (address : AddressInput) :
    Except AccessError String :=
  let destination :=
    match address.email with
    | some email => some (normalizeEmail runtime email)
    | none => address.mobile.bind (normalizeMobile runtime)
  match present destination with
  | some destination => .ok destination
  | none => .error (.app .invalidMobile [])

def resend (runtime : Runtime) (address : AddressInput) (purpose : VerificationKind) :
    AccountStatement := fun db => do
  let destination ← requestedDestination runtime address
  pure ([.verification (.resend destination purpose
    (if address.email.isSome then .email else .sms))], db)

def acceptInvite (runtime : Runtime) (request : AcceptInviteRequest) : AccountStatement :=
  fun db => do
    let destination ← requestedDestination runtime request.address
    pure ([.verification (.verifyByDestination destination request.code .employeeInvite
      (.completeInvite request.password))], db)

def verifyLogin (verificationRefId : Nat) (code : String) : AccountStatement := fun db =>
  .ok ([.verification (.verify verificationRefId code .firstLogin .completeVerifiedLogin)], db)

/-- What a verified challenge leads to. One without an identity leads nowhere. -/
def afterVerified (verification : VerificationRow) : OnVerified → List AccessTask
  | .completeInvite newPassword =>
      verification.identityId.toList.map fun identityId =>
        .account (.completeInvite identityId verification.enterpriseId verification.destination
          newPassword)
  | .completeVerifiedLogin =>
      verification.identityId.toList.map fun identityId =>
        .account (.completeVerifiedLogin identityId verification.destination)

def completeInvite (identityId : Nat) (enterpriseId : Option Nat)
    (verifiedDestination newPassword : String) : AccountStatement := fun db =>
  match db.findIdentity identityId with
  | none => .error (.app .authInvalidCredentials [])
  | some identity =>
      .ok ([.account (.completeInviteWrite ⟨identityId, identity⟩ enterpriseId
        verifiedDestination newPassword)], db)

/-- The column is chosen by matching the destination that was actually proven. -/
def provenCredential (identity : IdentityRow) (verifiedDestination : String) :
    Option Credential :=
  if identity.email = some verifiedDestination then some .email
  else if identity.mobile = some verifiedDestination then some .mobile
  else none

/-- Stamps the credential that was just proven, unless the account is locked. -/
def completeVerifiedLogin (identityId : Nat) (verifiedDestination : String) (now : Int) :
    AccountStatement := fun db =>
  match db.findIdentity identityId with
  | none => .error (.app .authInvalidCredentials [])
  | some identity =>
      if identity.lockedUntil.any fun lockedUntil => now < lockedUntil then
        .error (.app .authAccountLocked [])
      else
        .ok ((provenCredential identity verifiedDestination).toList.map fun credential =>
          .account (.markVerified identityId credential), db)

def markVerified (identityId : Nat) (credential : Credential) (now : Int) : AccountStatement :=
  fun db => .ok ([], db.markCredentialVerified identityId credential now)

/-- Activates the employment that waits in the business, or the staff row where no
business is named. -/
def activate (identityId : Nat) (enterpriseId : Option Nat) (now : Int) (db : AccessDb) :
    AccessDb :=
  match enterpriseId with
  | some enterpriseId =>
      match db.findEmployeeByIdentity enterpriseId identityId with
      | some employment =>
          if employment.row.status = .invited then
            db.activateEmployee employment.id enterpriseId now
          else db
      | none => db
  | none =>
      match db.findAnyStaffByIdentity identityId with
      | some member => if member.row.status = .invited then db.activateStaff member.id else db
      | none => db

/-- The password is replaced, and the credential that was proven is stamped. -/
def setPassword (runtime : Runtime) (identity : Stored IdentityRow)
    (verifiedDestination newPassword : String) (choice : AccessChoice) (db : AccessDb) :
    AccessDb :=
  let db := db.updatePasswordHash identity.id (runtime.hashPassword newPassword choice.random)
  match provenCredential identity.row verifiedDestination with
  | some credential => db.markCredentialVerified identity.id credential choice.now
  | none => db

/-- The password is set and the employment activated together. The identity is the
one that was read, and the password replaced is its own. -/
def completeInviteWrite (runtime : Runtime) (identity : Stored IdentityRow)
    (enterpriseId : Option Nat) (verifiedDestination newPassword : String)
    (choice : AccessChoice) : AccountStatement := fun db =>
  let db := setPassword runtime identity verifiedDestination newPassword choice db
  .ok ([], (activate identity.id enterpriseId choice.now db).record
    (.inviteCompleted identity.id enterpriseId verifiedDestination))

end AuthService

def accountStep (runtime : Runtime) (choice : AccessChoice) : AccountTask → AccountStatement
  | .signup request => EnterpriseOnboardingService.signup runtime request
  | .signupWrite slug businessEmail owner password =>
      EnterpriseOnboardingService.signupWrite runtime slug businessEmail owner password choice
  | .createEmployee enterpriseId actingEmployeeId request =>
      EmployeesService.create runtime enterpriseId actingEmployeeId request
  | .createAuthority enterpriseId actingEmployeeId addresses role =>
      EmployeesService.createAuthority enterpriseId actingEmployeeId addresses role
  | .createWrite enterpriseId actingEmployeeId addresses role =>
      EmployeesService.createWrite runtime enterpriseId actingEmployeeId addresses role choice
  | .inviteStaff actingStaffId request =>
      PlatformService.inviteStaff runtime actingStaffId request
  | .inviteStaffWrite actingStaffId addresses roleIds =>
      PlatformService.inviteStaffWrite runtime actingStaffId addresses roleIds choice
  | .setStatus enterpriseId actingEmployeeId employeeId status =>
      EmployeesService.setStatus enterpriseId actingEmployeeId employeeId status
  | .setStatusAuthority enterpriseId actingEmployeeId employeeId employee status =>
      EmployeesService.setStatusAuthority enterpriseId actingEmployeeId employeeId employee status
  | .setStatusLevel enterpriseId authority employeeId employee status =>
      EmployeesService.setStatusLevel enterpriseId authority employeeId employee status
  | .setStatusWrite enterpriseId employeeId source status =>
      EmployeesService.setStatusWrite enterpriseId employeeId source status
  | .setStaffStatus actingStaffId staffId status =>
      PlatformService.setStaffStatus actingStaffId staffId status
  | .setStaffStatusWrite target status => PlatformService.setStaffStatusWrite target status
  | .resend address purpose => AuthService.resend runtime address purpose
  | .verifyLogin verificationRefId code => AuthService.verifyLogin verificationRefId code
  | .completeVerifiedLogin identityId verifiedDestination =>
      AuthService.completeVerifiedLogin identityId verifiedDestination choice.now
  | .markVerified identityId credential =>
      AuthService.markVerified identityId credential choice.now
  | .acceptInvite request => AuthService.acceptInvite runtime request
  | .completeInvite identityId enterpriseId verifiedDestination newPassword =>
      AuthService.completeInvite identityId enterpriseId verifiedDestination newPassword
  | .completeInviteWrite identity enterpriseId verifiedDestination newPassword =>
      AuthService.completeInviteWrite runtime identity enterpriseId verifiedDestination
        newPassword choice

end UnifiedService.Access
