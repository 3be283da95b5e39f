import Mathlib.Data.Int.Notation

/-! The words of the identity, role and verification tables, and the errors the
services over them throw. -/

set_option autoImplicit false

namespace UnifiedService.Access

/-- The three states an employment and a staff member share: created, proven,
switched off. -/
inductive LifecycleStatus where
  | invited | active | suspended
  deriving DecidableEq, Repr

def LifecycleStatus.text : LifecycleStatus → String
  | .invited => "invited"
  | .active => "active"
  | .suspended => "suspended"

abbrev EmployeeStatus := LifecycleStatus

abbrev StaffStatus := LifecycleStatus

inductive EmployeeKind where
  | business | support
  deriving DecidableEq, Repr

inductive RoleScope where
  | enterprise | staff
  deriving DecidableEq, Repr

inductive RoleStatus where
  | active | archived
  deriving DecidableEq, Repr

/-- A permission of scope `both` is assignable in either scope. -/
inductive PermissionScope where
  | enterprise | staff | both
  deriving DecidableEq, Repr

inductive PermissionStatus where
  | active | deprecated
  deriving DecidableEq, Repr

inductive VerificationKind where
  | firstLogin | emailVerification | mobileVerification | passwordReset | employeeInvite
  | identifierChange | customerMobileVerification | customerEmailVerification
  deriving DecidableEq, Repr

inductive VerificationSubjectKind where
  | identity | customer
  deriving DecidableEq, Repr

inductive VerificationSecretShape where
  | numericCode | token
  deriving DecidableEq, Repr

inductive DeliveryChannel where
  | email | sms | whatsApp
  deriving DecidableEq, Repr

inductive SystemRole where
  | owner | manager | agent | viewer | support | ops
  deriving DecidableEq, Repr

def SystemRole.text : SystemRole → String
  | .owner => "owner"
  | .manager => "manager"
  | .agent => "agent"
  | .viewer => "viewer"
  | .support => "support"
  | .ops => "ops"

/-- `ROLE_LEVEL` and `SYSTEM_ROLE_LEVELS`. Higher means more authority. -/
def SystemRole.level : SystemRole → Int
  | .owner => 100
  | .manager => 70
  | .agent => 40
  | .viewer => 10
  | .support => 40
  | .ops => 70

/-- The highest level anyone may create: only the seed produces an owner's. -/
def maxCreatableRoleLevel : Int := SystemRole.owner.level - 1

def maxRolesPerEnterprise : Nat := 50

/-- An employee's authority: the highest level among the roles they hold, and none
for an employee without roles. -/
def highestRoleLevel (levels : List Int) : Option Int := levels.max?

structure VerificationKindConfig where
  secretShape : VerificationSecretShape
  secretSize : Nat
  expiryMs : Int
  maxAttempts : Nat
  resendCooldownMs : Int
  hourlyDestinationCap : Nat
  deriving DecidableEq, Repr

def minuteMs : Int := 60000

def hourMs : Int := 60 * minuteMs

def dayMs : Int := 24 * hourMs

def codeConfig (expiryMs : Int) : VerificationKindConfig where
  secretShape := .numericCode
  secretSize := 6
  expiryMs := expiryMs
  maxAttempts := 5
  resendCooldownMs := 60000
  hourlyDestinationCap := 5

def tokenConfig (expiryMs : Int) : VerificationKindConfig where
  secretShape := .token
  secretSize := 32
  expiryMs := expiryMs
  maxAttempts := 3
  resendCooldownMs := 5 * minuteMs
  hourlyDestinationCap := 3

def VerificationKind.config : VerificationKind → VerificationKindConfig
  | .firstLogin => codeConfig (10 * minuteMs)
  | .emailVerification => codeConfig (24 * hourMs)
  | .mobileVerification => codeConfig (10 * minuteMs)
  | .identifierChange => codeConfig (10 * minuteMs)
  | .passwordReset => tokenConfig (30 * minuteMs)
  | .employeeInvite => codeConfig (7 * dayMs)
  | .customerMobileVerification => codeConfig (10 * minuteMs)
  | .customerEmailVerification => codeConfig (24 * hourMs)

inductive ErrorCode where
  | permissionDenied | roleNotFound | employeeNotFound | employeeAlreadyExists | validationFailed
  | credentialRequired | invalidEmail | invalidMobile | verificationNotFound | authCodeExpired
  | authCodeAttemptsExceeded | authCodeInvalid | authCodeAlreadyUsed | authResendTooSoon
  | authInvalidCredentials | authAccountLocked | invalidStateTransition | concurrentModification
  deriving DecidableEq, Repr

structure ErrorDetail where
  field : String
  issue : String
  deriving DecidableEq, Repr

/-- What a statement or service of these tables can throw. A throw inside a
transaction rolls every statement of that transaction back. -/
inductive AccessError where
  | app (code : ErrorCode) (details : List ErrorDetail)
  | uniqueViolation (index : String)
  | foreignKeyViolation (constraint : String)
  | ownerTemplateMissing
  deriving DecidableEq, Repr

def AccessError.message : AccessError → Option String
  | .ownerTemplateMissing =>
      some (s!"system role \"{SystemRole.owner.text}\" template is missing — " ++
        "run the seed before signup")
  | .app _ _ | .uniqueViolation _ | .foreignKeyViolation _ => none

end UnifiedService.Access
