import Mathlib.Data.List.Sort
import UnifiedService.Access.Service

/-! Sessions and access tokens: the calls that mint a token, statement by statement, beside
the calls that change people and end their sessions. -/

set_option autoImplicit false

namespace UnifiedService.Access

open UnifiedService.Library

/-- What this service takes from the hash functions, the token library and the deployment. -/
structure SessionRuntime extends Runtime where
  verifyPassword : String → String → Bool
  hashOpaqueToken : String → String
  /-- The identity a selection token names, while its signature and lifetime hold. -/
  verifySelectionToken : String → Int → Option Nat
  refreshTtlDays : Int

inductive ActorKind where
  | employee | staff | system
  deriving DecidableEq, Repr

/-- A row of `sessions`. There is no status column. -/
structure SessionRow where
  id : Nat
  identityId : Nat
  refreshTokenHash : String
  createdAt : Int
  expiresAt : Int
  revokedAt : Option Int
  deriving DecidableEq, Repr

structure EmploymentSummary where
  employeeId : Nat
  enterpriseId : Nat
  employeeKind : EmployeeKind
  deriving DecidableEq, Repr

structure StaffSummary where
  staffId : Nat
  hasAllEnterpriseAccess : Bool
  deriving DecidableEq, Repr

structure EmploymentStanding where
  employments : Nat
  active : Nat
  deriving DecidableEq, Repr

structure AccessTokenClaims where
  identityId : Nat
  enterpriseId : Option Nat
  employeeId : Option Nat
  staffId : Option Nat
  actorKind : ActorKind
  isImpersonated : Bool
  deriving DecidableEq, Repr

/-- What is disabled or soft-deleted. No call of the services does either. -/
structure Withdrawn where
  identities : List Nat
  enterprises : List Nat
  employees : List Nat
  staff : List Nat
  deriving DecidableEq, Repr

inductive MintPath where
  | session
  | refresh (refreshToken : String)
  | switchEnterprise
  deriving DecidableEq, Repr

/-- The database at the time of its last statement. `issued` lists every hash a session was
created under, and `minted` every access token, newest first. -/
structure SessionDb where
  access : AccessDb
  withdrawn : Withdrawn
  sessions : List SessionRow
  nextSessionId : Nat
  issued : List String
  minted : List (MintPath × AccessTokenClaims)
  now : Int
  deriving DecidableEq, Repr

inductive SessionError where
  | authInvalidCredentials
  | authAccountDisabled
  | authAccountLocked (retryAfterSeconds : Int)
  | authNoActiveEmployment
  | authSessionRevoked
  | authTokenInvalid
  | enterpriseNotFound
  | invalidEmail
  | invalidMobile
  | credentialRequired
  | uniqueViolation (index : String)
  | access (error : AccessError)
  deriving DecidableEq, Repr

def maxFailedLogins : Nat := 5

def loginLockDurationMs : Int := 15 * minuteMs

def maxSessionsPerIdentity : Nat := 10

def SessionRow.isLive (session : SessionRow) (now : Int) : Bool :=
  session.revokedAt.isNone && decide (now < session.expiresAt)

def SessionRow.revokeAt (now : Int) (session : SessionRow) : SessionRow :=
  { session with revokedAt := session.revokedAt.or (some now) }

/-- `ORDER BY created_at DESC, id DESC`. -/
def SessionRow.before (first second : SessionRow) : Prop :=
  second.createdAt < first.createdAt ∨
    second.createdAt = first.createdAt ∧ second.id ≤ first.id

instance : DecidableRel SessionRow.before := fun _ _ => inferInstanceAs (Decidable (_ ∨ _))

namespace SessionDb

/-! ### People -/

def findIdentity (db : SessionDb) (id : Nat) : Option IdentityRow := db.access.findIdentity id

/-- `findByRefId` of the enterprises. -/
def findEnterprise (db : SessionDb) (enterpriseRefId : Nat) : Option EnterpriseRow :=
  if enterpriseRefId ∈ db.withdrawn.enterprises then none
  else db.access.enterprises.get? enterpriseRefId

/-- The employments a query sees: those that are not soft-deleted. -/
def employmentsOf (db : SessionDb) (identityId : Nat) : List (Stored EmployeeRow) :=
  (db.access.employees.select fun employee => employee.identityId == identityId).filter
    fun employee => !db.withdrawn.employees.contains employee.id

def isActiveEmployment (db : SessionDb) (employee : EmployeeRow) : Bool :=
  employee.status == .active && (db.findEnterprise employee.enterpriseId).isSome

def employmentSummary (employee : Stored EmployeeRow) : EmploymentSummary where
  employeeId := employee.id
  enterpriseId := employee.row.enterpriseId
  employeeKind := employee.row.employeeKind

/-- The order of the list decides nothing here. -/
def listActiveByIdentity (db : SessionDb) (identityId : Nat) : List EmploymentSummary :=
  ((db.employmentsOf identityId).filter fun employee =>
    db.isActiveEmployment employee.row).map employmentSummary

def findActiveEmployment (db : SessionDb) (identityId enterpriseId : Nat) :
    Option EmploymentSummary :=
  ((db.employmentsOf identityId).find? fun employee =>
    employee.row.enterpriseId == enterpriseId && db.isActiveEmployment employee.row).map
      employmentSummary

def hasActiveEmploymentElsewhere (db : SessionDb) (identityId excludingEnterpriseId : Nat) :
    Bool :=
  (db.employmentsOf identityId).any fun employee =>
    employee.row.enterpriseId != excludingEnterpriseId && db.isActiveEmployment employee.row

def countStandingForIdentity (db : SessionDb) (identityId : Nat) : EmploymentStanding where
  employments := (db.employmentsOf identityId).length
  active := (db.employmentsOf identityId).countP fun employee =>
    db.isActiveEmployment employee.row

def findActiveStaff (db : SessionDb) (identityId : Nat) : Option StaffSummary :=
  ((db.access.staff.select fun member =>
    member.identityId == identityId && member.status == .active).find? fun member =>
      !db.withdrawn.staff.contains member.id).map fun member =>
        { staffId := member.id, hasAllEnterpriseAccess := member.row.hasAllEnterpriseAccess }

/-- Neither extends a lock that is running, nor carries a count past one that has ended. -/
def recordFailedLogin (db : SessionDb) (id : Nat) : SessionDb :=
  { db with
    access :=
      { db.access with
        identities := db.access.identities.update id fun identity =>
          let failed := if identity.lockedUntil.any fun lockedUntil => lockedUntil ≤ db.now then 1
            else identity.failedLoginCount + 1
          { identity with
            failedLoginCount := failed
            lockedUntil :=
              if identity.lockedUntil.any fun lockedUntil => db.now < lockedUntil then
                identity.lockedUntil
              else if maxFailedLogins ≤ failed then some (db.now + loginLockDurationMs)
              else none } } }

def recordSuccessfulLogin (db : SessionDb) (id : Nat) : SessionDb :=
  { db with
    access :=
      { db.access with
        identities := db.access.identities.update id fun identity =>
          { identity with failedLoginCount := 0, lockedUntil := none } } }

/-! ### Sessions -/

def findLiveByTokenHash (db : SessionDb) (refreshTokenHash : String) : Option SessionRow :=
  db.sessions.find? fun session =>
    session.refreshTokenHash == refreshTokenHash && session.isLive db.now

/-- Inserts a session, unless `sessions_refresh_token_hash_uniq` finds its hash taken. -/
def createSession (db : SessionDb) (identityId : Nat) (refreshTokenHash : String)
    (expiresAt : Int) : Except SessionError SessionDb :=
  if db.sessions.any fun session => session.refreshTokenHash == refreshTokenHash then
    .error (.uniqueViolation "sessions_refresh_token_hash_uniq")
  else
    .ok
      { db with
        sessions := db.sessions ++
          [{ id := db.nextSessionId
             identityId := identityId
             refreshTokenHash := refreshTokenHash
             createdAt := db.now
             expiresAt := expiresAt
             revokedAt := none }]
        nextSessionId := db.nextSessionId + 1
        issued := refreshTokenHash :: db.issued }

def revokeWhere (db : SessionDb) (wanted : SessionRow → Bool) : SessionDb :=
  { db with
    sessions := db.sessions.map fun session =>
      if wanted session then session.revokeAt db.now else session }

def revoke (db : SessionDb) (id : Nat) : SessionDb := db.revokeWhere fun session => session.id == id

def revokeAllForIdentity (db : SessionDb) (identityId : Nat) : SessionDb :=
  db.revokeWhere fun session => session.identityId == identityId

def revokeBeyondNewest (db : SessionDb) (identityId keep : Nat) : SessionDb :=
  let live := (db.sessions.filter fun session =>
    session.identityId == identityId && session.isLive db.now).insertionSort SessionRow.before
  let evicted := (live.drop keep).map (·.id)
  db.revokeWhere fun session => evicted.contains session.id

/-- Hard-deletes up to a limit of the sessions a sweep asks for. Which of them is open. -/
def deleteSessions (db : SessionDb) (wanted : SessionRow → Bool) (limit : Nat)
    (picked : List Nat) : SessionDb :=
  { db with
    sessions := db.sessions.filter fun session =>
      !(wanted session && (picked.take limit).contains session.id) }

end SessionDb

/-! ### Steps -/

structure LoginRequest where
  address : AddressInput
  password : String
  deriving DecidableEq, Repr

/-- What a call that changes people has left to do once its own steps have succeeded. -/
inductive Afterwards where
  | nothing
  | suspension (enterpriseId : Nat) (employee : EmployeeRow)
  | revokeAll (identityId : Nat)
  | completeInvited (identityId : Nat)
  | completeLogin (identityId : Nat)
  deriving DecidableEq, Repr

structure RefreshCall where
  refreshToken : String
  enterpriseRefId : Option Nat
  session : SessionRow
  deriving DecidableEq, Repr

/-- The steps of all calls: the statements, and the minting of a token. -/
inductive SessionTask where
  | access (task : AccessTask) (others : List AccessTask) (next : Afterwards)
  | suspension (enterpriseId : Nat) (employee : EmployeeRow)
  | login (request : LoginRequest)
  | recordFailedLogin (identityId : Nat)
  | completeInvited (identityId : Nat)
  | completeLogin (identityId : Nat)
  | loginStaff (identityId : Nat) (employments : List EmploymentSummary)
  | recordSuccessfulLogin (identityId : Nat) (employments : List EmploymentSummary)
      (staff : Option StaffSummary)
  | createSession (identityId : Nat) (employment : Option EmploymentSummary)
      (staffId : Option Nat)
  | revokeBeyondNewest (identityId : Nat) (employment : Option EmploymentSummary)
      (staffId : Option Nat)
  | selectEnterprise (selectionToken : String) (enterpriseRefId : Nat)
  | selectFindEnterprise (identityId enterpriseRefId : Nat)
  | selectEmployment (identityId enterpriseId : Nat)
  | selectStaff (identityId : Nat) (employment : EmploymentSummary)
  | refresh (refreshToken : String) (enterpriseRefId : Option Nat)
  | refreshIdentity (call : RefreshCall)
  | refreshStaff (call : RefreshCall)
  | refreshEnterprise (call : RefreshCall) (staff : Option StaffSummary) (enterpriseRefId : Nat)
  | refreshEmployment (call : RefreshCall) (staff : Option StaffSummary) (enterpriseId : Nat)
  | refreshStanding (call : RefreshCall) (staff : Option StaffSummary)
  | switchEnterprise (identityId enterpriseRefId : Nat)
  | switchEmployment (identityId enterpriseId : Nat)
  | switchStaff (identityId enterpriseId : Nat) (employment : Option EmploymentSummary)
  | mint (path : MintPath) (claims : AccessTokenClaims)
  | logout (refreshToken : String)
  | revoke (sessionId : Nat)
  | revokeAll (identityId : Nat)
  | refuse (error : SessionError)
  | sweepExpired (cutoff : Int) (limit : Nat) (expired revoked : List Nat)
  | sweepRevoked (cutoff : Int) (limit : Nat) (picked : List Nat)
  | operate (people : AccessDb) (withdrawn : Withdrawn)
  deriving DecidableEq, Repr

/-- The calls. An operator, the bootstrap and whatever else writes the tables of people may
leave them as they like. -/
inductive SessionCall where
  | access (call : AccessCall)
  | login (request : LoginRequest)
  | selectEnterprise (selectionToken : String) (enterpriseRefId : Nat)
  | refresh (refreshToken : String) (enterpriseRefId : Option Nat)
  | switchEnterprise (identityId enterpriseRefId : Nat)
  | logout (refreshToken : String)
  | signOutEverywhere (identityId : Nat)
  | sweep (cutoff : Int) (limit : Nat) (expired revoked : List Nat)
  | operate (people : AccessDb) (withdrawn : Withdrawn)
  deriving DecidableEq, Repr

def Afterwards.tasks : Afterwards → List SessionTask
  | .nothing => []
  | .suspension enterpriseId employee => [.suspension enterpriseId employee]
  | .revokeAll identityId => [.revokeAll identityId]
  | .completeInvited identityId => [.completeInvited identityId]
  | .completeLogin identityId => [.completeLogin identityId]

def accessTasks (tasks : List AccessTask) (next : Afterwards) : List SessionTask :=
  match tasks with
  | [] => next.tasks
  | task :: others => [.access task others next]

/-- What comes after the call, as far as one of its steps settles it. -/
def Afterwards.follow (next : Afterwards) : AccessTask → Afterwards
  | .account (.setStatusLevel enterpriseId _ _ employee status) =>
      -- Only somebody who worked here is signed out.
      if status = .suspended ∧ employee.joinedAt.isSome = true then
        .suspension enterpriseId employee
      else .nothing
  | .account (.setStaffStatusWrite target status) =>
      if status = .suspended ∧ target.everAccepted = true then .revokeAll target.identityId
      else .nothing
  | .account (.completeInvite identityId _ _ _) => .completeInvited identityId
  | .account (.completeVerifiedLogin identityId _) => .completeLogin identityId
  | _ => next

def SessionCall.opening : SessionCall → List SessionTask
  | .access call => accessTasks call.opening .nothing
  | .login request => [.login request]
  | .selectEnterprise selectionToken enterpriseRefId =>
      [.selectEnterprise selectionToken enterpriseRefId]
  | .refresh refreshToken enterpriseRefId => [.refresh refreshToken enterpriseRefId]
  | .switchEnterprise identityId enterpriseRefId => [.switchEnterprise identityId enterpriseRefId]
  | .logout refreshToken => [.logout refreshToken]
  | .signOutEverywhere identityId => [.revokeAll identityId]
  | .sweep cutoff limit expired revoked => [.sweepExpired cutoff limit expired revoked]
  | .operate people withdrawn => [.operate people withdrawn]

abbrev SessionStatement := Statement SessionDb SessionError (List SessionTask)

namespace AuthService

def resolveActorKind (employment : Option EmploymentSummary) (staffId : Option Nat) : ActorKind :=
  if employment.isSome then .employee else if staffId.isSome then .staff else .system

def isImpersonated (employment : Option EmploymentSummary) (staffId enterpriseId : Option Nat) :
    Bool :=
  staffId.isSome && employment.isNone && enterpriseId.isSome

def claimsOf (identityId : Nat) (employment : Option EmploymentSummary) (staffId : Option Nat) :
    AccessTokenClaims where
  identityId := identityId
  enterpriseId := employment.map (·.enterpriseId)
  employeeId := employment.map (·.employeeId)
  staffId := staffId
  actorKind := resolveActorKind employment staffId
  isImpersonated := isImpersonated employment staffId (employment.map (·.enterpriseId))

def assertLoginable (db : SessionDb) (id : Nat) (identity : IdentityRow) :
    Except SessionError Unit :=
  if id ∈ db.withdrawn.identities then .error .authAccountDisabled
  else
    match identity.lockedUntil.filter fun lockedUntil => db.now < lockedUntil with
    | some lockedUntil => .error (.authAccountLocked (-((db.now - lockedUntil) / 1000)))
    | none => .ok ()

def loginable (db : SessionDb) (id : Nat) : Except SessionError IdentityRow :=
  match db.findIdentity id with
  | none => .error .authInvalidCredentials
  | some identity => (assertLoginable db id identity).map fun _ => identity

def resolveCredential (runtime : Runtime) (address : AddressInput) :
    Except SessionError (Credential × String) :=
  match address.email, address.mobile with
  | some email, _ =>
      let normalized := normalizeEmail runtime email
      if isValidEmail normalized then .ok (.email, normalized) else .error .invalidEmail
  | none, some mobile =>
      match normalizeMobile runtime mobile with
      | some canonical => .ok (.mobile, canonical)
      | none => .error .invalidMobile
  | none, none => .error .credentialRequired

def needsVerification (identity : IdentityRow) : Credential → Bool
  | .email => identity.emailVerifiedAt.isNone
  | .mobile => identity.mobileVerifiedAt.isNone

def firstLoginChallenge (identityId : Nat) (credential : Credential) (destination : String) :
    List SessionTask :=
  [.access
    (.verification (.assertWithinDestinationCap
      { subjectKind := .identity
        identityId := some identityId
        customerId := none
        enterpriseId := none
        verificationKind := .firstLogin
        destination := destination
        deliveryChannel := match credential with | .email => .email | .mobile => .sms } none))
    [] .nothing]

def login (runtime : SessionRuntime) (request : LoginRequest) : SessionStatement := fun db => do
  let (credential, value) ← resolveCredential runtime.toRuntime request.address
  let found := match credential with
    | .email => db.access.findByEmail runtime.toRuntime value
    | .mobile => db.access.findByMobile value
  match found with
  | none => .error .authInvalidCredentials
  | some identity =>
      let locked := identity.row.lockedUntil.any fun lockedUntil => db.now < lockedUntil
      let passwordOk := runtime.verifyPassword identity.row.passwordHash request.password
      if locked && !passwordOk then .error .authInvalidCredentials
      else if !passwordOk then pure ([.recordFailedLogin identity.id], db)
      else
        assertLoginable db identity.id identity.row
        if needsVerification identity.row credential then
          pure (firstLoginChallenge identity.id credential value, db)
        else pure ([.completeLogin identity.id], db)

/-- One employment is entered, of several the person picks one with a selection token. -/
def completeLogin (identityId : Nat) (employments : List EmploymentSummary)
    (staff : Option StaffSummary) : SessionStatement := fun db =>
  let db := db.recordSuccessfulLogin identityId
  match employments with
  | [] =>
      match staff with
      | some staff => .ok ([.createSession identityId none (some staff.staffId)], db)
      -- The login stays recorded: these statements are no transaction.
      | none => .ok ([.refuse .authNoActiveEmployment], db)
  | [only] => .ok ([.createSession identityId (some only) (staff.map (·.staffId))], db)
  | _ :: _ :: _ => .ok ([], db)

def selectEnterprise (runtime : SessionRuntime) (selectionToken : String)
    (enterpriseRefId : Nat) : SessionStatement := fun db => do
  match runtime.verifySelectionToken selectionToken db.now with
  | none => .error .authTokenInvalid
  | some identityId =>
      let _ ← loginable db identityId
      pure ([.selectFindEnterprise identityId enterpriseRefId], db)

def selectEmployment (identityId enterpriseId : Nat) : SessionStatement := fun db =>
  match db.findActiveEmployment identityId enterpriseId with
  | none => .error .authNoActiveEmployment
  | some employment => .ok ([.selectStaff identityId employment], db)

def findEnterprise (enterpriseRefId : Nat) (next : SessionTask) : SessionStatement := fun db =>
  match db.findEnterprise enterpriseRefId with
  | none => .error .enterpriseNotFound
  | some _ => .ok ([next], db)

def createSession (runtime : SessionRuntime) (identityId : Nat)
    (employment : Option EmploymentSummary) (staffId : Option Nat) (refreshToken : String) :
    SessionStatement := fun db => do
  let db ← db.createSession identityId (runtime.hashOpaqueToken refreshToken)
    (db.now + runtime.refreshTtlDays * dayMs)
  pure ([.revokeBeyondNewest identityId employment staffId], db)

/-! #### Refreshing -/

def refreshMint (call : RefreshCall) (employment : Option EmploymentSummary)
    (staff : Option StaffSummary) : SessionTask :=
  .mint (.refresh call.refreshToken)
    (claimsOf call.session.identityId employment (staff.map (·.staffId)))

def hasReach (staff : Option StaffSummary) : Bool := staff.any (·.hasAllEnterpriseAccess)

/-- What a refresh without an employment does next: platform reach is not asked further. -/
def assertStandingNotRevoked (call : RefreshCall) (staff : Option StaffSummary) :
    List SessionTask :=
  if hasReach staff then [refreshMint call none staff] else [.refreshStanding call staff]

def refresh (runtime : SessionRuntime) (refreshToken : String) (enterpriseRefId : Option Nat) :
    SessionStatement := fun db =>
  match db.findLiveByTokenHash (runtime.hashOpaqueToken refreshToken) with
  | none => .error .authSessionRevoked
  | some session => .ok ([.refreshIdentity { refreshToken, enterpriseRefId, session }], db)

def refreshIdentity (call : RefreshCall) : SessionStatement := fun db => do
  let _ ← loginable db call.session.identityId
  pure ([.refreshStaff call], db)

def refreshStaff (call : RefreshCall) : SessionStatement := fun db =>
  let staff := db.findActiveStaff call.session.identityId
  match call.enterpriseRefId with
  | some enterpriseRefId => .ok ([.refreshEnterprise call staff enterpriseRefId], db)
  | none => .ok (assertStandingNotRevoked call staff, db)

def refreshEmployment (call : RefreshCall) (staff : Option StaffSummary) (enterpriseId : Nat) :
    SessionStatement := fun db =>
  match db.findActiveEmployment call.session.identityId enterpriseId with
  | some employment => .ok ([refreshMint call (some employment) staff], db)
  | none =>
      if hasReach staff then .ok (assertStandingNotRevoked call staff, db)
      else .error .authNoActiveEmployment

/-- Every employment on record inactive: the sessions end, and the refresh is refused. -/
def refreshStanding (call : RefreshCall) (staff : Option StaffSummary) : SessionStatement :=
  fun db =>
    let standing := db.countStandingForIdentity call.session.identityId
    if 0 < standing.employments ∧ standing.active = 0 then
      .ok ([.revokeAll call.session.identityId, .refuse .authNoActiveEmployment], db)
    else .ok ([refreshMint call none staff], db)

/-! #### Switching -/

def switchStaff (identityId enterpriseId : Nat) (employment : Option EmploymentSummary) :
    SessionStatement := fun db =>
  let staff := db.findActiveStaff identityId
  match employment with
  | some employment =>
      .ok ([.mint .switchEnterprise
        (claimsOf identityId (some employment) (staff.map (·.staffId)))], db)
  | none =>
      match staff.filter (·.hasAllEnterpriseAccess) with
      | none => .error .authNoActiveEmployment
      | some staff =>
          .ok ([.mint .switchEnterprise
            { identityId := identityId
              enterpriseId := some enterpriseId
              employeeId := none
              staffId := some staff.staffId
              actorKind := .staff
              isImpersonated := true }], db)

def logout (runtime : SessionRuntime) (refreshToken : String) : SessionStatement := fun db =>
  match db.findLiveByTokenHash (runtime.hashOpaqueToken refreshToken) with
  | none => .ok ([], db)
  | some session => .ok ([.revoke session.id], db)

end AuthService

def mayContinue (db : SessionDb) : AccessTask → Except SessionError Unit
  | .account (.completeVerifiedLogin identityId _) =>
      (AuthService.loginable db identityId).map fun _ => ()
  | _ => .ok ()

/-- Setting a password ends every session, in the same transaction. -/
def endSessions (db : SessionDb) : AccessTask → SessionDb
  | .account (.completeInviteWrite identity _ _ _) => db.revokeAllForIdentity identity.id
  | _ => db

def accessStatement (runtime : Runtime) (choice : AccessChoice) (task : AccessTask)
    (others : List AccessTask) (next : Afterwards) : SessionStatement := fun db => do
  mayContinue db task
  let (tasks, people) ← (task.statement runtime choice db.access).mapError .access
  pure (accessTasks (tasks ++ others) (next.follow task),
    endSessions { db with access := people } task)

def SessionTask.statement (runtime : SessionRuntime) (choice : AccessChoice) :
    SessionTask → SessionStatement
  | .access task others next => accessStatement runtime.toRuntime choice task others next
  | .suspension enterpriseId employee => fun db =>
      -- A session belongs to the person: it stays while they work somewhere else.
      if db.hasActiveEmploymentElsewhere employee.identityId enterpriseId then .ok ([], db)
      else .ok ([.revokeAll employee.identityId], db)
  | .login request => AuthService.login runtime request
  | .recordFailedLogin identityId => fun db =>
      .ok ([.refuse .authInvalidCredentials], db.recordFailedLogin identityId)
  | .completeInvited identityId => fun db => do
      let _ ← AuthService.loginable db identityId
      pure ([.completeLogin identityId], db)
  | .completeLogin identityId => fun db =>
      .ok ([.loginStaff identityId (db.listActiveByIdentity identityId)], db)
  | .loginStaff identityId employments => fun db =>
      .ok ([.recordSuccessfulLogin identityId employments (db.findActiveStaff identityId)], db)
  | .recordSuccessfulLogin identityId employments staff =>
      AuthService.completeLogin identityId employments staff
  | .createSession identityId employment staffId =>
      AuthService.createSession runtime identityId employment staffId choice.random
  | .revokeBeyondNewest identityId employment staffId => fun db =>
      .ok ([.mint .session (AuthService.claimsOf identityId employment staffId)],
        db.revokeBeyondNewest identityId maxSessionsPerIdentity)
  | .selectEnterprise selectionToken enterpriseRefId =>
      AuthService.selectEnterprise runtime selectionToken enterpriseRefId
  | .selectFindEnterprise identityId enterpriseRefId =>
      AuthService.findEnterprise enterpriseRefId (.selectEmployment identityId enterpriseRefId)
  | .selectEmployment identityId enterpriseId =>
      AuthService.selectEmployment identityId enterpriseId
  | .selectStaff identityId employment => fun db =>
      .ok ([.createSession identityId (some employment)
        ((db.findActiveStaff identityId).map (·.staffId))], db)
  | .refresh refreshToken enterpriseRefId =>
      AuthService.refresh runtime refreshToken enterpriseRefId
  | .refreshIdentity call => AuthService.refreshIdentity call
  | .refreshStaff call => AuthService.refreshStaff call
  | .refreshEnterprise call staff enterpriseRefId =>
      AuthService.findEnterprise enterpriseRefId (.refreshEmployment call staff enterpriseRefId)
  | .refreshEmployment call staff enterpriseId =>
      AuthService.refreshEmployment call staff enterpriseId
  | .refreshStanding call staff => AuthService.refreshStanding call staff
  | .switchEnterprise identityId enterpriseRefId =>
      AuthService.findEnterprise enterpriseRefId (.switchEmployment identityId enterpriseRefId)
  | .switchEmployment identityId enterpriseId => fun db =>
      .ok ([.switchStaff identityId enterpriseId
        (db.findActiveEmployment identityId enterpriseId)], db)
  | .switchStaff identityId enterpriseId employment =>
      AuthService.switchStaff identityId enterpriseId employment
  | .mint path claims => fun db => .ok ([], { db with minted := (path, claims) :: db.minted })
  | .logout refreshToken => AuthService.logout runtime refreshToken
  | .revoke sessionId => fun db => .ok ([], db.revoke sessionId)
  | .revokeAll identityId => fun db => .ok ([], db.revokeAllForIdentity identityId)
  | .refuse error => fun _ => .error error
  | .sweepExpired cutoff limit expired revoked => fun db =>
      .ok ([.sweepRevoked cutoff limit revoked],
        db.deleteSessions
          (fun session => session.revokedAt.isNone && decide (session.expiresAt < cutoff)) limit
          expired)
  | .sweepRevoked cutoff limit picked => fun db =>
      .ok ([], db.deleteSessions
        (fun session => session.revokedAt.any fun revokedAt => revokedAt < cutoff) limit picked)
  | .operate people withdrawn => fun db => .ok ([], { db with access := people, withdrawn })

/-- One step, at the time it is taken. A throw ends its call and writes nothing. -/
def sessionStep (runtime : SessionRuntime) (db : SessionDb) (task : SessionTask)
    (choice : AccessChoice) : SessionDb × List SessionTask :=
  match transact (task.statement runtime choice) { db with now := choice.now } with
  | (.ok tasks, db) => (db, tasks)
  | (.error _, db) => (db, [])

def sessionMachine (runtime : SessionRuntime) :
    Machine SessionDb SessionTask SessionCall AccessChoice where
  opening := SessionCall.opening
  run := sessionStep runtime

/-- The clock does not go back, and a hash of a random token is never reused. -/
def timely (runtime : SessionRuntime) (db : SessionDb) :
    Event SessionTask SessionCall AccessChoice → Bool
  | .opened _ => true
  | .ran (.createSession _ _ _) choice =>
      decide (db.now ≤ choice.now) && !db.issued.contains (runtime.hashOpaqueToken choice.random)
  | .ran _ choice => decide (db.now ≤ choice.now)

end UnifiedService.Access
