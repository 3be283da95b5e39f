import UnifiedService.Library.Machine
import UnifiedService.Access.Accounts

/-! The access services as one machine: the calls people make, and the steps of
any number of them interleaving over one database. -/

set_option autoImplicit false

namespace UnifiedService.Access

open UnifiedService.Library

inductive AccessCall where
  | createRole (enterpriseId actingEmployeeId : Nat) (request : RoleRequest)
  | updateRole (enterpriseId actingEmployeeId roleId : Nat) (request : RoleRequest)
  | archiveRole (enterpriseId actingEmployeeId roleId : Nat)
  | setEmployeeRoles (enterpriseId actingEmployeeId employeeId : Nat) (roleIds : List Nat)
  | createEmployee (enterpriseId actingEmployeeId : Nat) (request : CreateEmployeeRequest)
  | setStatus (enterpriseId actingEmployeeId employeeId : Nat) (status : EmployeeStatus)
  | signup (request : SignupRequest)
  | inviteStaff (actingStaffId : Nat) (request : StaffInviteRequest)
  | setStaffStatus (actingStaffId staffId : Nat) (status : StaffStatus)
  | resend (address : AddressInput) (purpose : VerificationKind)
  | verifyLogin (verificationRefId : Nat) (code : String)
  | acceptInvite (request : AcceptInviteRequest)
  deriving DecidableEq, Repr

def AccessCall.opening : AccessCall → List AccessTask
  | .createRole enterpriseId actingEmployeeId request =>
      [.role (.create enterpriseId actingEmployeeId request)]
  | .updateRole enterpriseId actingEmployeeId roleId request =>
      [.role (.update enterpriseId actingEmployeeId roleId request)]
  | .archiveRole enterpriseId actingEmployeeId roleId =>
      [.role (.archive enterpriseId actingEmployeeId roleId)]
  | .setEmployeeRoles enterpriseId actingEmployeeId employeeId roleIds =>
      [.role (.setEmployeeRoles enterpriseId actingEmployeeId employeeId roleIds)]
  | .createEmployee enterpriseId actingEmployeeId request =>
      [.account (.createEmployee enterpriseId actingEmployeeId request)]
  | .setStatus enterpriseId actingEmployeeId employeeId status =>
      [.account (.setStatus enterpriseId actingEmployeeId employeeId status)]
  | .signup request => [.account (.signup request)]
  | .inviteStaff actingStaffId request => [.account (.inviteStaff actingStaffId request)]
  | .setStaffStatus actingStaffId staffId status =>
      [.account (.setStaffStatus actingStaffId staffId status)]
  | .resend address purpose => [.account (.resend address purpose)]
  | .verifyLogin verificationRefId code => [.account (.verifyLogin verificationRefId code)]
  | .acceptInvite request => [.account (.acceptInvite request)]

def AccessTask.statement (runtime : Runtime) (choice : AccessChoice) :
    AccessTask → AccountStatement
  | .role task => fun db => do
      let (tasks, db) ← RolesService.step runtime task db
      pure (tasks.map .role, db)
  | .verification task => fun db => do
      let (outcome, db) ← VerificationService.step runtime choice task db
      match outcome with
      | .continues tasks => pure (tasks.map .verification, db)
      | .verified proven next => pure (AuthService.afterVerified proven next, db)
  | .account task => accountStep runtime choice task

/-- One step: a read or one transaction. A throw ends its call and changes nothing. -/
def accessStep (runtime : Runtime) (db : AccessDb) (task : AccessTask) (choice : AccessChoice) :
    AccessDb × List AccessTask :=
  match transact (task.statement runtime choice) db with
  | (.ok tasks, db) => (db, tasks)
  | (.error _, db) => (db, [])

def accessMachine (runtime : Runtime) : Machine AccessDb AccessTask AccessCall AccessChoice where
  opening := AccessCall.opening
  run := accessStep runtime

/-- A step is either a success of its statement, or leaves everything as it was. -/
theorem accessStep_cases (runtime : Runtime) (db : AccessDb) (task : AccessTask)
    (choice : AccessChoice) :
    (∃ tasks next, task.statement runtime choice db = .ok (tasks, next) ∧
      accessStep runtime db task choice = (next, tasks)) ∨
    accessStep runtime db task choice = (db, []) := by
  unfold accessStep
  cases result : task.statement runtime choice db with
  | error error =>
      right
      rw [transact_of_error result]
  | ok outcome =>
      obtain ⟨tasks, next⟩ := outcome
      left
      refine ⟨tasks, next, rfl, ?_⟩
      rw [transact_of_ok result]

section Invariants

variable {runtime : Runtime} {allowed : AccessDb → Event AccessTask AccessCall AccessChoice → Prop}

/-- To keep an invariant along any run it is enough that every success keeps it, and
keeps what the pending tasks rely on. -/
theorem access_invariant_from (holds : AccessDb → Prop) (ready : AccessDb → AccessTask → Prop)
    (opens : ∀ db call, holds db → allowed db (.opened call) →
      ∀ task ∈ call.opening, ready db task)
    (succeeds : ∀ db task choice tasks next, holds db → ready db task →
      allowed db (.ran task choice) → task.statement runtime choice db = .ok (tasks, next) →
      holds next ∧ (∀ task ∈ tasks, ready next task) ∧
        ∀ other, ready db other → ready next other)
    {start pool : Pool AccessDb AccessTask} (initially : holds start.shared)
    (waits : ∀ process ∈ start.processes, ∀ task ∈ process, ready start.shared task)
    (reached : Relation.ReflTransGen ((accessMachine runtime).PoolStep allowed) start pool) :
    holds pool.shared ∧
      ∀ process ∈ pool.processes, ∀ task ∈ process, ready pool.shared task := by
  refine (accessMachine runtime).pool_invariant_from holds ready opens ?_ initially waits reached
  intro db task choice holding waiting permitted
  show holds (accessStep runtime db task choice).1 ∧ _
  rcases accessStep_cases runtime db task choice with ⟨tasks, next, success, same⟩ | same
  · have kept := succeeds db task choice tasks next holding waiting permitted success
    simpa only [accessMachine, same] using kept
  · simpa only [accessMachine, same] using
      ⟨holding, fun task member => absurd member List.not_mem_nil, fun other waits => waits⟩

theorem access_invariant (holds : AccessDb → Prop) (ready : AccessDb → AccessTask → Prop)
    (opens : ∀ db call, holds db → allowed db (.opened call) →
      ∀ task ∈ call.opening, ready db task)
    (succeeds : ∀ db task choice tasks next, holds db → ready db task →
      allowed db (.ran task choice) → task.statement runtime choice db = .ok (tasks, next) →
      holds next ∧ (∀ task ∈ tasks, ready next task) ∧
        ∀ other, ready db other → ready next other)
    {start : AccessDb} {pool : Pool AccessDb AccessTask} (initially : holds start)
    (reached : (accessMachine runtime).PoolReaches allowed start pool) :
    holds pool.shared ∧
      ∀ process ∈ pool.processes, ∀ task ∈ process, ready pool.shared task :=
  access_invariant_from holds ready opens succeeds initially (by simp) reached

end Invariants

/-! ### A small deployment -/

def plainRuntime : Runtime where
  nfc := id
  toLowerCase := id
  toUpperCase := id
  lower := id
  parsePhoneNumber number _ := some { number, isValid := true, country := some "IN" }
  hashSecret secret := "hmac " ++ secret
  hashPassword password salt := "argon2id " ++ salt ++ " " ++ password
  realtimeEnabled := true
  staticCode := "000000"

theorem plainRuntime_lowerAgrees : plainRuntime.LowerAgrees := fun _ => rfl

def systemTemplate (role : SystemRole) (scope : RoleScope) : RoleRow where
  enterpriseId := none
  scope := scope
  name := role.text
  description := none
  isSystem := true
  status := .active
  level := role.level

def smallDeployment : AccessDb :=
  .seeded ⟨[{ code := "roles.manage", scope := .enterprise, status := .active }]⟩
    ⟨[systemTemplate .owner .enterprise, systemTemplate .manager .enterprise]⟩
    [{ roleId := 0, enterpriseId := none, permissionId := 0 },
      { roleId := 1, enterpriseId := none, permissionId := 0 }]

def atEmail (email : String) : AddressInput where
  email := some email
  mobile := none

def signUp (slug ownerEmail : String) : AccessCall :=
  .signup
    { slug, businessEmail := ownerEmail, businessMobile := none, owner := atEmail ownerEmail
      password := "owner" }

def turns (process count : Nat) (now : Int) (random : String) :
    List (AccessCall ⊕ (Nat × AccessChoice)) :=
  List.replicate count (.inr (process, { now, random }))

end UnifiedService.Access
