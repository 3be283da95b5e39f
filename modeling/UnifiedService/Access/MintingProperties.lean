import UnifiedService.Access.Sessions

/-! Who a token is minted for: standing found by the request that mints it, and a session
that is still alive when the request looks it up. -/

set_option autoImplicit false

namespace UnifiedService.Access

open UnifiedService.Library

/-! ### Standing -/

def SessionDb.HasActiveEmployment (db : SessionDb) (identityId enterpriseId : Nat) : Prop :=
  ∃ id employee, db.access.employees.get? id = some employee ∧ id ∉ db.withdrawn.employees ∧
    employee.identityId = identityId ∧ employee.enterpriseId = enterpriseId ∧
    employee.status = .active ∧ enterpriseId ∉ db.withdrawn.enterprises ∧
    (db.access.enterprises.get? enterpriseId).isSome = true

def SessionDb.HasEmployment (db : SessionDb) (identityId : Nat) : Prop :=
  ∃ id employee, db.access.employees.get? id = some employee ∧ id ∉ db.withdrawn.employees ∧
    employee.identityId = identityId

def SessionDb.HasReach (db : SessionDb) (identityId : Nat) : Prop :=
  ∃ id member, db.access.staff.get? id = some member ∧ id ∉ db.withdrawn.staff ∧
    member.identityId = identityId ∧ member.status = .active ∧
    member.hasAllEnterpriseAccess = true

namespace SessionDb

variable {db : SessionDb} {identityId enterpriseId : Nat}

theorem mem_employmentsOf {employee : Stored EmployeeRow} :
    employee ∈ db.employmentsOf identityId ↔
      db.access.employees.get? employee.id = some employee.row ∧
        employee.row.identityId = identityId ∧ employee.id ∉ db.withdrawn.employees := by
  simp [employmentsOf, Table.mem_select, and_assoc]

theorem isActiveEmployment_iff {employee : EmployeeRow} :
    db.isActiveEmployment employee = true ↔
      employee.status = .active ∧ employee.enterpriseId ∉ db.withdrawn.enterprises ∧
        (db.access.enterprises.get? employee.enterpriseId).isSome = true := by
  unfold isActiveEmployment findEnterprise
  split <;> simp_all

theorem hasActiveEmployment_of {employee : Stored EmployeeRow}
    (member : employee ∈ db.employmentsOf identityId)
    (active : db.isActiveEmployment employee.row = true) :
    db.HasActiveEmployment identityId employee.row.enterpriseId := by
  obtain ⟨found, own, kept⟩ := mem_employmentsOf.mp member
  obtain ⟨status, there, enterprise⟩ := isActiveEmployment_iff.mp active
  exact ⟨employee.id, employee.row, found, kept, own, rfl, status, there, enterprise⟩

theorem listActiveByIdentity_sound {employment : EmploymentSummary}
    (listed : employment ∈ db.listActiveByIdentity identityId) :
    db.HasActiveEmployment identityId employment.enterpriseId := by
  obtain ⟨employee, member, rfl⟩ := List.mem_map.mp listed
  obtain ⟨own, active⟩ := List.mem_filter.mp member
  exact hasActiveEmployment_of own active

theorem findActiveEmployment_sound {employment : EmploymentSummary}
    (found : db.findActiveEmployment identityId enterpriseId = some employment) :
    employment.enterpriseId = enterpriseId ∧
      db.HasActiveEmployment identityId employment.enterpriseId := by
  obtain ⟨employee, first, rfl⟩ := Option.map_eq_some_iff.mp found
  have wanted := List.find?_some first
  rw [Bool.and_eq_true, beq_iff_eq] at wanted
  exact ⟨wanted.1, hasActiveEmployment_of (List.mem_of_find?_eq_some first) wanted.2⟩

theorem findActiveStaff_sound {staff : StaffSummary}
    (found : db.findActiveStaff identityId = some staff)
    (reach : staff.hasAllEnterpriseAccess = true) : db.HasReach identityId := by
  obtain ⟨member, first, rfl⟩ := Option.map_eq_some_iff.mp found
  have kept := List.find?_some first
  obtain ⟨there, wanted⟩ := Table.mem_select.mp (List.mem_of_find?_eq_some first)
  rw [Bool.and_eq_true, beq_iff_eq, beq_iff_eq] at wanted
  exact ⟨member.id, member.row, there, by simpa using kept, wanted.1, wanted.2, reach⟩

/-- What the two counts tell: whoever has employments on record has an active one. -/
theorem countStandingForIdentity_sound
    (passes : ¬(0 < (db.countStandingForIdentity identityId).employments ∧
      (db.countStandingForIdentity identityId).active = 0))
    (employed : db.HasEmployment identityId) :
    ∃ enterpriseId, db.HasActiveEmployment identityId enterpriseId := by
  obtain ⟨id, row, found, kept, own⟩ := employed
  have listed : ⟨id, row⟩ ∈ db.employmentsOf identityId := mem_employmentsOf.mpr ⟨found, own, kept⟩
  have some : 0 < (db.countStandingForIdentity identityId).employments :=
    List.length_pos_of_mem listed
  have counted : 0 < (db.countStandingForIdentity identityId).active :=
    Nat.pos_of_ne_zero fun zero => passes ⟨some, zero⟩
  obtain ⟨employee, member, active⟩ := List.countP_pos_iff.mp counted
  exact ⟨employee.row.enterpriseId, hasActiveEmployment_of member active⟩

end SessionDb

/-- A token entitled to a business may go to whoever works there or reaches everywhere. -/
def SessionDb.MayEnter (db : SessionDb) (identityId enterpriseId : Nat) : Prop :=
  db.HasActiveEmployment identityId enterpriseId ∨ db.HasReach identityId

/-- A refresh may serve whoever has no employment on record, an active one, or reach. -/
def SessionDb.MayRefresh (db : SessionDb) (identityId : Nat) : Prop :=
  db.HasEmployment identityId →
    (∃ enterpriseId, db.HasActiveEmployment identityId enterpriseId) ∨ db.HasReach identityId

/-! ### What a step hands on -/

def SessionTask.asksStanding : SessionTask → Bool
  | .completeLogin _ | .selectEmployment _ _ | .switchEmployment _ _ | .switchStaff _ _ _
  | .refreshStaff _ | .refreshEmployment _ _ _ | .refreshStanding _ _ => true
  | _ => false

def SessionTask.scopes : SessionTask → List (Nat × Nat)
  | .loginStaff identityId employments | .recordSuccessfulLogin identityId employments _ =>
      employments.map fun employment => (identityId, employment.enterpriseId)
  | .createSession identityId employment _ | .revokeBeyondNewest identityId employment _
  | .switchStaff identityId _ employment =>
      employment.toList.map fun employment => (identityId, employment.enterpriseId)
  | .selectStaff identityId employment => [(identityId, employment.enterpriseId)]
  | .mint _ claims => claims.enterpriseId.toList.map fun enterpriseId =>
      (claims.identityId, enterpriseId)
  | _ => []

def SessionTask.granted : SessionTask → Option Nat
  | .refreshEnterprise call staff _ | .refreshEmployment call staff _ =>
      if AuthService.hasReach staff then some call.session.identityId else none
  | .mint (.refresh _) claims => some claims.identityId
  | _ => none

def SessionTask.refreshes : SessionTask → Option String
  | .refreshIdentity call | .refreshStaff call | .refreshEnterprise call _ _
  | .refreshEmployment call _ _ | .refreshStanding call _ => some call.refreshToken
  | .mint (.refresh refreshToken) _ => some refreshToken
  | _ => none

theorem accessTasks_plain {tasks : List AccessTask} {next : Afterwards} {task : SessionTask}
    (member : task ∈ accessTasks tasks next) :
    task.scopes = [] ∧ task.granted = none ∧ task.refreshes = none := by
  cases tasks with
  | nil =>
      cases next <;> simp only [accessTasks, Afterwards.tasks, List.mem_singleton,
        List.not_mem_nil] at member <;> subst member <;> exact ⟨rfl, rfl, rfl⟩
  | cons first others =>
      obtain rfl := List.mem_singleton.mp member
      exact ⟨rfl, rfl, rfl⟩

theorem opening_plain {call : SessionCall} {task : SessionTask} (member : task ∈ call.opening) :
    task.scopes = [] ∧ task.granted = none ∧ task.refreshes = none := by
  cases call with
  | access call => exact accessTasks_plain member
  | _ =>
      obtain rfl := List.mem_singleton.mp member
      exact ⟨rfl, rfl, rfl⟩

def SessionDb.HasLive (db : SessionDb) (refreshTokenHash : String) : Prop :=
  ∃ session ∈ db.sessions, session.refreshTokenHash = refreshTokenHash ∧
    session.revokedAt = none ∧ db.now < session.expiresAt

structure Handed (runtime : SessionRuntime) (db : SessionDb) (task next : SessionTask) :
    Prop where
  scopes : ∀ identityId enterpriseId, (identityId, enterpriseId) ∈ next.scopes →
    (identityId, enterpriseId) ∈ task.scopes ∨
      task.asksStanding = true ∧ db.MayEnter identityId enterpriseId
  granted : ∀ identityId, next.granted = some identityId →
    task.granted = some identityId ∨ task.asksStanding = true ∧ db.MayRefresh identityId
  refreshes : ∀ refreshToken, next.refreshes = some refreshToken →
    task.refreshes = some refreshToken ∨
      (∃ enterpriseRefId, task = .refresh refreshToken enterpriseRefId) ∧
        db.HasLive (runtime.hashOpaqueToken refreshToken)

namespace Handed

variable {runtime : SessionRuntime} {db : SessionDb} {task next : SessionTask}

theorem of_plain (plain : next.scopes = [] ∧ next.granted = none ∧ next.refreshes = none) :
    Handed runtime db task next := by
  obtain ⟨scopes, granted, refreshes⟩ := plain
  constructor
  · intro identityId enterpriseId member
    rw [scopes] at member
    exact absurd member List.not_mem_nil
  · intro identityId same
    rw [granted] at same
    contradiction
  · intro refreshToken same
    rw [refreshes] at same
    contradiction

theorem of_scopes (plain : next.granted = none ∧ next.refreshes = none)
    (scopes : ∀ pair ∈ next.scopes, pair ∈ task.scopes ∨
      task.asksStanding = true ∧ db.MayEnter pair.1 pair.2) : Handed runtime db task next := by
  obtain ⟨granted, refreshes⟩ := plain
  constructor
  · intro identityId enterpriseId member
    exact scopes _ member
  · intro identityId same
    rw [granted] at same
    contradiction
  · intro refreshToken same
    rw [refreshes] at same
    contradiction

theorem of_mint {call : RefreshCall} {employment : Option EmploymentSummary}
    {staff : Option StaffSummary} (same : task.refreshes = some call.refreshToken)
    (works : ∀ found, employment = some found → task.asksStanding = true ∧
      db.HasActiveEmployment call.session.identityId found.enterpriseId)
    (standing : task.granted = some call.session.identityId ∨
      task.asksStanding = true ∧ db.MayRefresh call.session.identityId) :
    Handed runtime db task (AuthService.refreshMint call employment staff) := by
  constructor
  · intro identityId enterpriseId member
    cases employment with
    | none => exact absurd member List.not_mem_nil
    | some found =>
        obtain ⟨rfl, rfl⟩ := Prod.mk.inj (List.mem_singleton.mp member)
        obtain ⟨asks, active⟩ := works found rfl
        exact .inr ⟨asks, .inl active⟩
  · intro identityId granted
    obtain rfl := Option.some.inj granted
    exact standing
  · intro refreshToken refreshed
    obtain rfl := Option.some.inj refreshed
    exact .inl same

end Handed

section Steps

variable {runtime : SessionRuntime} {choice : AccessChoice} {db after : SessionDb}
  {task next : SessionTask} {tasks : List SessionTask}

theorem access_hands {step : AccessTask} {others : List AccessTask} {afterwards : Afterwards}
    (success : accessStatement runtime.toRuntime choice step others afterwards db =
      .ok (tasks, after)) (member : next ∈ tasks) : Handed runtime db task next := by
  unfold accessStatement at success
  obtain ⟨_, -, rest⟩ := bind_eq_ok.mp success
  obtain ⟨⟨left, people⟩, -, last⟩ := bind_eq_ok.mp rest
  obtain ⟨rfl, -⟩ := Prod.mk.inj (Except.ok.inj last)
  exact .of_plain (accessTasks_plain member)

theorem findEnterprise_hands {enterpriseRefId : Nat} {onward : SessionTask}
    (success : AuthService.findEnterprise enterpriseRefId onward db = .ok (tasks, after))
    (member : next ∈ tasks) : next = onward := by
  unfold AuthService.findEnterprise at success
  split at success
  · contradiction
  · obtain ⟨rfl, -⟩ := Prod.mk.inj (Except.ok.inj success)
    exact List.mem_singleton.mp member

theorem login_hands {request : LoginRequest}
    (success : AuthService.login runtime request db = .ok (tasks, after))
    (member : next ∈ tasks) : Handed runtime db task next := by
  unfold AuthService.login at success
  obtain ⟨⟨credential, value⟩, -, rest⟩ := bind_eq_ok.mp success
  simp only at rest
  split at rest
  · contradiction
  · split at rest
    · contradiction
    · split at rest
      · obtain ⟨rfl, -⟩ := Prod.mk.inj (Except.ok.inj rest)
        obtain rfl := List.mem_singleton.mp member
        exact .of_plain ⟨rfl, rfl, rfl⟩
      · obtain ⟨_, -, last⟩ := bind_eq_ok.mp rest
        split at last
        · obtain ⟨rfl, -⟩ := Prod.mk.inj (Except.ok.inj last)
          obtain rfl := List.mem_singleton.mp member
          exact .of_plain ⟨rfl, rfl, rfl⟩
        · obtain ⟨rfl, -⟩ := Prod.mk.inj (Except.ok.inj last)
          obtain rfl := List.mem_singleton.mp member
          exact .of_plain ⟨rfl, rfl, rfl⟩

theorem completeLogin_hands {identityId : Nat} {employments : List EmploymentSummary}
    {staff : Option StaffSummary}
    (success : AuthService.completeLogin identityId employments staff db = .ok (tasks, after))
    (member : next ∈ tasks) :
    Handed runtime db (.recordSuccessfulLogin identityId employments staff) next := by
  unfold AuthService.completeLogin at success
  simp only at success
  split at success
  · split at success
    · obtain ⟨rfl, -⟩ := Prod.mk.inj (Except.ok.inj success)
      obtain rfl := List.mem_singleton.mp member
      exact .of_plain ⟨rfl, rfl, rfl⟩
    · obtain ⟨rfl, -⟩ := Prod.mk.inj (Except.ok.inj success)
      obtain rfl := List.mem_singleton.mp member
      exact .of_plain ⟨rfl, rfl, rfl⟩
  · obtain ⟨rfl, -⟩ := Prod.mk.inj (Except.ok.inj success)
    obtain rfl := List.mem_singleton.mp member
    exact .of_scopes ⟨rfl, rfl⟩ fun pair entitled => .inl entitled
  · obtain ⟨rfl, -⟩ := Prod.mk.inj (Except.ok.inj success)
    exact absurd member List.not_mem_nil

theorem switchStaff_hands {identityId enterpriseId : Nat} {employment : Option EmploymentSummary}
    (success : AuthService.switchStaff identityId enterpriseId employment db = .ok (tasks, after))
    (member : next ∈ tasks) :
    Handed runtime db (.switchStaff identityId enterpriseId employment) next := by
  unfold AuthService.switchStaff at success
  simp only at success
  split at success
  · obtain ⟨rfl, -⟩ := Prod.mk.inj (Except.ok.inj success)
    obtain rfl := List.mem_singleton.mp member
    exact .of_scopes ⟨rfl, rfl⟩ fun pair entitled => .inl entitled
  · split at success
    · contradiction
    · next staff found =>
        obtain ⟨rfl, -⟩ := Prod.mk.inj (Except.ok.inj success)
        obtain rfl := List.mem_singleton.mp member
        obtain ⟨there, reach⟩ := Option.filter_eq_some_iff.mp found
        refine .of_scopes ⟨rfl, rfl⟩ fun pair entitled => .inr ⟨rfl, ?_⟩
        obtain rfl := List.mem_singleton.mp entitled
        exact .inr (SessionDb.findActiveStaff_sound there reach)

/-! #### A refresh -/

theorem hasReach_sound {identityId : Nat}
    (reach : AuthService.hasReach (db.findActiveStaff identityId) = true) :
    db.HasReach identityId := by
  obtain ⟨staff, found, full⟩ := (Option.any_eq_true _ _).mp reach
  exact SessionDb.findActiveStaff_sound found full

theorem refresh_hands {refreshToken : String} {enterpriseRefId : Option Nat}
    (success : AuthService.refresh runtime refreshToken enterpriseRefId db = .ok (tasks, after))
    (member : next ∈ tasks) : Handed runtime db (.refresh refreshToken enterpriseRefId) next := by
  unfold AuthService.refresh at success
  split at success
  · contradiction
  · next session found =>
      obtain ⟨rfl, -⟩ := Prod.mk.inj (Except.ok.inj success)
      obtain rfl := List.mem_singleton.mp member
      have wanted := List.find?_some found
      simp only [SessionRow.isLive, Bool.and_eq_true, beq_iff_eq, Option.isNone_iff_eq_none,
        decide_eq_true_eq] at wanted
      constructor
      · intro identityId enterpriseId entitled
        exact absurd entitled List.not_mem_nil
      · intro identityId granted
        contradiction
      · intro refreshed same
        obtain rfl := Option.some.inj same
        exact .inr ⟨⟨enterpriseRefId, rfl⟩, session, List.mem_of_find?_eq_some found, wanted⟩

theorem refreshIdentity_hands {call : RefreshCall}
    (success : AuthService.refreshIdentity call db = .ok (tasks, after))
    (member : next ∈ tasks) : Handed runtime db (.refreshIdentity call) next := by
  unfold AuthService.refreshIdentity at success
  obtain ⟨_, -, last⟩ := bind_eq_ok.mp success
  obtain ⟨rfl, -⟩ := Prod.mk.inj (Except.ok.inj last)
  obtain rfl := List.mem_singleton.mp member
  constructor
  · intro identityId enterpriseId entitled
    exact absurd entitled List.not_mem_nil
  · intro identityId granted
    contradiction
  · intro refreshToken same
    exact .inl same

theorem assertStandingNotRevoked_hands {call : RefreshCall} {staff : Option StaffSummary}
    (refreshing : task.refreshes = some call.refreshToken)
    (reach : AuthService.hasReach staff = true → task.granted = some call.session.identityId ∨
      task.asksStanding = true ∧ db.MayRefresh call.session.identityId)
    (member : next ∈ AuthService.assertStandingNotRevoked call staff) :
    Handed runtime db task next := by
  unfold AuthService.assertStandingNotRevoked at member
  split at member
  · next full =>
      obtain rfl := List.mem_singleton.mp member
      exact .of_mint refreshing (fun found impossible => nomatch impossible) (reach full)
  · obtain rfl := List.mem_singleton.mp member
    constructor
    · intro identityId enterpriseId entitled
      exact absurd entitled List.not_mem_nil
    · intro identityId granted
      contradiction
    · intro refreshToken same
      obtain rfl := Option.some.inj same
      exact .inl refreshing

theorem refreshStaff_hands {call : RefreshCall}
    (success : AuthService.refreshStaff call db = .ok (tasks, after))
    (member : next ∈ tasks) : Handed runtime db (.refreshStaff call) next := by
  have reaches : AuthService.hasReach (db.findActiveStaff call.session.identityId) = true →
      db.MayRefresh call.session.identityId := fun reach _ => .inr (hasReach_sound reach)
  unfold AuthService.refreshStaff at success
  simp only at success
  split at success
  · obtain ⟨rfl, -⟩ := Prod.mk.inj (Except.ok.inj success)
    obtain rfl := List.mem_singleton.mp member
    constructor
    · intro identityId enterpriseId entitled
      exact absurd entitled List.not_mem_nil
    · intro identityId granted
      rw [SessionTask.granted] at granted
      split at granted
      · next reach =>
          obtain rfl := Option.some.inj granted
          exact .inr ⟨rfl, reaches reach⟩
      · contradiction
    · intro refreshToken same
      exact .inl same
  · obtain ⟨rfl, -⟩ := Prod.mk.inj (Except.ok.inj success)
    exact assertStandingNotRevoked_hands rfl (fun reach => .inr ⟨rfl, reaches reach⟩) member

theorem refreshEmployment_hands {call : RefreshCall} {staff : Option StaffSummary}
    {enterpriseId : Nat}
    (success : AuthService.refreshEmployment call staff enterpriseId db = .ok (tasks, after))
    (member : next ∈ tasks) :
    Handed runtime db (.refreshEmployment call staff enterpriseId) next := by
  unfold AuthService.refreshEmployment at success
  split at success
  · next employment found =>
      obtain ⟨rfl, -⟩ := Prod.mk.inj (Except.ok.inj success)
      obtain rfl := List.mem_singleton.mp member
      obtain ⟨-, active⟩ := SessionDb.findActiveEmployment_sound found
      refine .of_mint rfl (fun other same => ?_) (.inr ⟨rfl, fun _ => .inl ⟨_, active⟩⟩)
      obtain rfl := Option.some.inj same
      exact ⟨rfl, active⟩
  · split at success
    · next reach =>
        obtain ⟨rfl, -⟩ := Prod.mk.inj (Except.ok.inj success)
        exact assertStandingNotRevoked_hands rfl (fun _ => .inl (if_pos reach)) member
    · contradiction

theorem refreshStanding_hands {call : RefreshCall} {staff : Option StaffSummary}
    (success : AuthService.refreshStanding call staff db = .ok (tasks, after))
    (member : next ∈ tasks) : Handed runtime db (.refreshStanding call staff) next := by
  unfold AuthService.refreshStanding at success
  simp only at success
  split at success
  · obtain ⟨rfl, -⟩ := Prod.mk.inj (Except.ok.inj success)
    rcases List.mem_cons.mp member with rfl | last
    · exact .of_plain ⟨rfl, rfl, rfl⟩
    · obtain rfl := List.mem_singleton.mp last
      exact .of_plain ⟨rfl, rfl, rfl⟩
  · next passes =>
      obtain ⟨rfl, -⟩ := Prod.mk.inj (Except.ok.inj success)
      obtain rfl := List.mem_singleton.mp member
      exact .of_mint rfl (fun found impossible => nomatch impossible)
        (.inr ⟨rfl, fun employed =>
          .inl (SessionDb.countStandingForIdentity_sound passes employed)⟩)

/-- Whatever a statement leads to takes for granted only what was handed to it or found. -/
theorem statement_hands (success : task.statement runtime choice db = .ok (tasks, after))
    (member : next ∈ tasks) : Handed runtime db task next := by
  cases task with
  | access step others afterwards => exact access_hands success member
  | suspension enterpriseId employee =>
      simp only [SessionTask.statement] at success
      split at success
      · obtain ⟨rfl, -⟩ := Prod.mk.inj (Except.ok.inj success)
        exact absurd member List.not_mem_nil
      · obtain ⟨rfl, -⟩ := Prod.mk.inj (Except.ok.inj success)
        obtain rfl := List.mem_singleton.mp member
        exact .of_plain ⟨rfl, rfl, rfl⟩
  | login request => exact login_hands success member
  | completeInvited identityId =>
      obtain ⟨_, -, last⟩ := bind_eq_ok.mp success
      obtain ⟨rfl, -⟩ := Prod.mk.inj (Except.ok.inj last)
      obtain rfl := List.mem_singleton.mp member
      exact .of_plain ⟨rfl, rfl, rfl⟩
  | completeLogin identityId =>
      obtain ⟨rfl, -⟩ := Prod.mk.inj (Except.ok.inj success)
      obtain rfl := List.mem_singleton.mp member
      refine .of_scopes ⟨rfl, rfl⟩ fun pair entitled => .inr ⟨rfl, ?_⟩
      obtain ⟨employment, listed, rfl⟩ := List.mem_map.mp entitled
      exact .inl (SessionDb.listActiveByIdentity_sound listed)
  | loginStaff identityId employments =>
      obtain ⟨rfl, -⟩ := Prod.mk.inj (Except.ok.inj success)
      obtain rfl := List.mem_singleton.mp member
      exact .of_scopes ⟨rfl, rfl⟩ fun pair entitled => .inl entitled
  | recordSuccessfulLogin identityId employments staff =>
      exact completeLogin_hands success member
  | createSession identityId employment staffId =>
      obtain ⟨_, -, last⟩ := bind_eq_ok.mp success
      obtain ⟨rfl, -⟩ := Prod.mk.inj (Except.ok.inj last)
      obtain rfl := List.mem_singleton.mp member
      exact .of_scopes ⟨rfl, rfl⟩ fun pair entitled => .inl entitled
  | revokeBeyondNewest identityId employment staffId =>
      obtain ⟨rfl, -⟩ := Prod.mk.inj (Except.ok.inj success)
      obtain rfl := List.mem_singleton.mp member
      refine .of_scopes ⟨rfl, rfl⟩ fun pair entitled => .inl ?_
      cases employment with
      | none => exact absurd entitled List.not_mem_nil
      | some employment => exact entitled
  | selectEnterprise selectionToken enterpriseRefId =>
      simp only [SessionTask.statement, AuthService.selectEnterprise] at success
      split at success
      · contradiction
      · obtain ⟨_, -, last⟩ := bind_eq_ok.mp success
        obtain ⟨rfl, -⟩ := Prod.mk.inj (Except.ok.inj last)
        obtain rfl := List.mem_singleton.mp member
        exact .of_plain ⟨rfl, rfl, rfl⟩
  | selectFindEnterprise identityId enterpriseRefId =>
      obtain rfl := findEnterprise_hands success member
      exact .of_plain ⟨rfl, rfl, rfl⟩
  | selectEmployment identityId enterpriseId =>
      simp only [SessionTask.statement, AuthService.selectEmployment] at success
      split at success
      · contradiction
      · next employment found =>
          obtain ⟨rfl, -⟩ := Prod.mk.inj (Except.ok.inj success)
          obtain rfl := List.mem_singleton.mp member
          refine .of_scopes ⟨rfl, rfl⟩ fun pair entitled => .inr ⟨rfl, ?_⟩
          obtain rfl := List.mem_singleton.mp entitled
          exact .inl (SessionDb.findActiveEmployment_sound found).2
  | selectStaff identityId employment =>
      obtain ⟨rfl, -⟩ := Prod.mk.inj (Except.ok.inj success)
      obtain rfl := List.mem_singleton.mp member
      exact .of_scopes ⟨rfl, rfl⟩ fun pair entitled => .inl entitled
  | refresh refreshToken enterpriseRefId => exact refresh_hands success member
  | refreshIdentity call => exact refreshIdentity_hands success member
  | refreshStaff call => exact refreshStaff_hands success member
  | refreshEnterprise call staff enterpriseRefId =>
      obtain rfl := findEnterprise_hands success member
      constructor
      · intro identityId enterpriseId entitled
        exact absurd entitled List.not_mem_nil
      · intro identityId granted
        exact .inl granted
      · intro refreshToken same
        exact .inl same
  | refreshEmployment call staff enterpriseId => exact refreshEmployment_hands success member
  | refreshStanding call staff => exact refreshStanding_hands success member
  | switchEnterprise identityId enterpriseRefId =>
      obtain rfl := findEnterprise_hands success member
      exact .of_plain ⟨rfl, rfl, rfl⟩
  | switchEmployment identityId enterpriseId =>
      obtain ⟨rfl, -⟩ := Prod.mk.inj (Except.ok.inj success)
      obtain rfl := List.mem_singleton.mp member
      refine .of_scopes ⟨rfl, rfl⟩ fun pair entitled => .inr ⟨rfl, ?_⟩
      obtain ⟨employment, listed, rfl⟩ := List.mem_map.mp entitled
      exact .inl (SessionDb.findActiveEmployment_sound (Option.mem_toList.mp listed)).2
  | switchStaff identityId enterpriseId employment => exact switchStaff_hands success member
  | logout refreshToken =>
      simp only [SessionTask.statement, AuthService.logout] at success
      split at success
      · obtain ⟨rfl, -⟩ := Prod.mk.inj (Except.ok.inj success)
        exact absurd member List.not_mem_nil
      · obtain ⟨rfl, -⟩ := Prod.mk.inj (Except.ok.inj success)
        obtain rfl := List.mem_singleton.mp member
        exact .of_plain ⟨rfl, rfl, rfl⟩
  | refuse error => contradiction
  | recordFailedLogin identityId | sweepExpired cutoff limit expired revoked =>
      obtain ⟨rfl, -⟩ := Prod.mk.inj (Except.ok.inj success)
      obtain rfl := List.mem_singleton.mp member
      exact .of_plain ⟨rfl, rfl, rfl⟩
  | mint path claims | revoke sessionId | revokeAll identityId | sweepRevoked cutoff limit picked
  | operate people withdrawn =>
      obtain ⟨rfl, -⟩ := Prod.mk.inj (Except.ok.inj success)
      exact absurd member List.not_mem_nil

end Steps

/-- A step is a success of its statement, at its time, or only lets the time pass. -/
theorem sessionStep_cases (runtime : SessionRuntime) (db : SessionDb) (task : SessionTask)
    (choice : AccessChoice) :
    (∃ tasks next, task.statement runtime choice { db with now := choice.now } =
        .ok (tasks, next) ∧ sessionStep runtime db task choice = (next, tasks)) ∨
      sessionStep runtime db task choice = ({ db with now := choice.now }, []) := by
  unfold sessionStep
  cases result : task.statement runtime choice { db with now := choice.now } with
  | error error =>
      right
      rw [transact_of_error result]
  | ok outcome =>
      obtain ⟨tasks, next⟩ := outcome
      left
      refine ⟨tasks, next, rfl, ?_⟩
      rw [transact_of_ok result]

theorem sessionStep_hands {runtime : SessionRuntime} {db : SessionDb} {task next : SessionTask}
    {choice : AccessChoice} (member : next ∈ (sessionStep runtime db task choice).2) :
    Handed runtime { db with now := choice.now } task next := by
  rcases sessionStep_cases runtime db task choice with ⟨tasks, after, success, same⟩ | same
  · rw [same] at member
    exact statement_hands success member
  · rw [same] at member
    exact absurd member List.not_mem_nil

/-! ### Sessions -/

structure SessionDb.Ages (db after : SessionDb) : Prop where
  now : after.now = db.now
  issued : after.issued = db.issued
  sessions : ∃ kept change, after.sessions = (db.sessions.filter kept).map change ∧
    ∀ session, (change session).refreshTokenHash = session.refreshTokenHash ∧
      (change session).expiresAt = session.expiresAt ∧
      (session.revokedAt ≠ none → (change session).revokedAt ≠ none)

namespace SessionDb

variable {db after : SessionDb}

theorem Ages.left (sessions : after.sessions = db.sessions) (issued : after.issued = db.issued)
    (now : after.now = db.now) : db.Ages after := by
  refine ⟨now, issued, fun _ => true, id, ?_, fun session => ⟨rfl, rfl, id⟩⟩
  rw [sessions, List.map_id, List.filter_true]

theorem Ages.revokeWhere (wanted : SessionRow → Bool) : db.Ages (db.revokeWhere wanted) := by
  refine ⟨rfl, rfl, fun _ => true, fun session =>
    if wanted session then session.revokeAt db.now else session, ?_, fun session => ?_⟩
  · rw [List.filter_true]
    rfl
  · dsimp only
    split
    · refine ⟨rfl, rfl, fun revoked same => revoked ?_⟩
      exact (Option.or_eq_none_iff.mp same).1
    · exact ⟨rfl, rfl, id⟩

theorem Ages.deleteSessions (wanted : SessionRow → Bool) (limit : Nat) (picked : List Nat) :
    db.Ages (db.deleteSessions wanted limit picked) := by
  refine ⟨rfl, rfl, fun session => !(wanted session && (picked.take limit).contains session.id),
    id, ?_, fun session => ⟨rfl, rfl, id⟩⟩
  rw [List.map_id]
  rfl

theorem createSession_ok {identityId : Nat} {refreshTokenHash : String} {expiresAt : Int}
    (created : db.createSession identityId refreshTokenHash expiresAt = .ok after) :
    refreshTokenHash ∉ db.sessions.map (·.refreshTokenHash) ∧ after.now = db.now ∧
      after.issued = refreshTokenHash :: db.issued ∧
      ∃ session, after.sessions = db.sessions ++ [session] ∧
        session.refreshTokenHash = refreshTokenHash := by
  unfold createSession at created
  split at created
  · contradiction
  · next unused =>
      obtain rfl := Except.ok.inj created
      refine ⟨fun taken => unused ?_, rfl, rfl, _, rfl, rfl⟩
      obtain ⟨session, member, same⟩ := List.mem_map.mp taken
      exact List.any_eq_true.mpr ⟨session, member, beq_iff_eq.mpr same⟩

end SessionDb

def SessionTask.reads : SessionTask → Bool
  | .suspension _ _ | .login _ | .completeInvited _ | .completeLogin _ | .loginStaff _ _
  | .selectEnterprise _ _ | .selectFindEnterprise _ _ | .selectEmployment _ _ | .selectStaff _ _
  | .refresh _ _ | .refreshIdentity _ | .refreshStaff _ | .refreshEnterprise _ _ _
  | .refreshEmployment _ _ _ | .refreshStanding _ _ | .switchEnterprise _ _
  | .switchEmployment _ _ | .switchStaff _ _ _ | .logout _ => true
  | _ => false

section Steps

variable {runtime : SessionRuntime} {choice : AccessChoice} {db after : SessionDb}
  {task : SessionTask} {tasks : List SessionTask}

theorem access_ages {step : AccessTask} {others : List AccessTask} {afterwards : Afterwards}
    (success : accessStatement runtime.toRuntime choice step others afterwards db =
      .ok (tasks, after)) : db.Ages after := by
  unfold accessStatement at success
  obtain ⟨_, -, rest⟩ := bind_eq_ok.mp success
  obtain ⟨⟨left, people⟩, -, last⟩ := bind_eq_ok.mp rest
  obtain ⟨-, rfl⟩ := Prod.mk.inj (Except.ok.inj last)
  unfold endSessions
  split
  · next identity _ _ _ =>
      have ages : SessionDb.Ages { db with access := people } _ :=
        .revokeWhere fun session => session.identityId == identity.id
      exact ⟨ages.now, ages.issued, ages.sessions⟩
  · exact .left rfl rfl rfl

theorem login_reads {request : LoginRequest}
    (success : AuthService.login runtime request db = .ok (tasks, after)) : after = db := by
  obtain ⟨⟨credential, value⟩, -, rest⟩ := bind_eq_ok.mp success
  simp only at rest
  split at rest <;> grind [pure_eq_ok, bind_eq_ok]

theorem statement_reads (success : task.statement runtime choice db = .ok (tasks, after))
    (reads : task.reads = true) : after = db := by
  cases task with
  | login request => exact login_reads success
  | completeInvited identityId =>
      simp only [SessionTask.statement] at success
      grind [pure_eq_ok, bind_eq_ok]
  | selectEnterprise selectionToken enterpriseRefId =>
      simp only [SessionTask.statement, AuthService.selectEnterprise] at success
      grind [pure_eq_ok, bind_eq_ok]
  | refreshIdentity call =>
      simp only [SessionTask.statement, AuthService.refreshIdentity] at success
      grind [pure_eq_ok, bind_eq_ok]
  | _ =>
      first
        | contradiction
        | simp only [SessionTask.statement, AuthService.findEnterprise,
            AuthService.selectEmployment, AuthService.refresh, AuthService.refreshStaff,
            AuthService.refreshEmployment, AuthService.refreshStanding, AuthService.switchStaff,
            AuthService.logout] at success
          grind

theorem statement_sessions (success : task.statement runtime choice db = .ok (tasks, after)) :
    (∃ identityId employment staffId, task = .createSession identityId employment staffId ∧
      ∃ expiresAt, db.createSession identityId (runtime.hashOpaqueToken choice.random) expiresAt =
        .ok after) ∨ db.Ages after := by
  cases task with
  | access step others afterwards => exact .inr (access_ages success)
  | createSession identityId employment staffId =>
      obtain ⟨created, inserted, last⟩ := bind_eq_ok.mp success
      obtain ⟨-, rfl⟩ := Prod.mk.inj (Except.ok.inj last)
      exact .inl ⟨identityId, employment, staffId, rfl, _, inserted⟩
  | recordFailedLogin identityId =>
      obtain ⟨-, rfl⟩ := Prod.mk.inj (Except.ok.inj success)
      exact .inr (.left rfl rfl rfl)
  | recordSuccessfulLogin identityId employments staff =>
      simp only [SessionTask.statement, AuthService.completeLogin] at success
      have same : after = db.recordSuccessfulLogin identityId := by grind
      rw [same]
      exact .inr (.left rfl rfl rfl)
  | revokeBeyondNewest identityId employment staffId =>
      obtain ⟨-, rfl⟩ := Prod.mk.inj (Except.ok.inj success)
      exact .inr (.revokeWhere _)
  | mint path claims | operate people withdrawn =>
      obtain ⟨-, rfl⟩ := Prod.mk.inj (Except.ok.inj success)
      exact .inr (.left rfl rfl rfl)
  | revoke sessionId | revokeAll identityId =>
      obtain ⟨-, rfl⟩ := Prod.mk.inj (Except.ok.inj success)
      exact .inr (.revokeWhere _)
  | sweepExpired cutoff limit expired revoked | sweepRevoked cutoff limit picked =>
      obtain ⟨-, rfl⟩ := Prod.mk.inj (Except.ok.inj success)
      exact .inr (.deleteSessions _ _ _)
  | refuse error => contradiction
  | _ =>
      obtain rfl := statement_reads success rfl
      exact .inr (.left rfl rfl rfl)

end Steps

structure SessionDb.Consistent (db : SessionDb) : Prop where
  unique : (db.sessions.map (·.refreshTokenHash)).Nodup
  known : ∀ session ∈ db.sessions, session.refreshTokenHash ∈ db.issued

structure SessionDb.Ended (refreshTokenHash : String) (db : SessionDb) : Prop where
  issued : refreshTokenHash ∈ db.issued
  dead : ∀ session ∈ db.sessions, session.refreshTokenHash = refreshTokenHash →
    session.revokedAt ≠ none ∨ session.expiresAt ≤ db.now

namespace SessionDb

variable {db after : SessionDb} {refreshTokenHash : String}

theorem Ended.not_live (ended : db.Ended refreshTokenHash) : ¬db.HasLive refreshTokenHash := by
  intro ⟨session, member, same, unrevoked, alive⟩
  rcases ended.dead session member same with revoked | expired
  · exact revoked unrevoked
  · omega

theorem Consistent.ended (consistent : db.Consistent) {session : SessionRow}
    (member : session ∈ db.sessions)
    (finished : session.revokedAt ≠ none ∨ session.expiresAt ≤ db.now) :
    db.Ended session.refreshTokenHash := by
  constructor
  · exact consistent.known session member
  · intro other there same
    obtain rfl := List.inj_on_of_nodup_map consistent.unique there member same
    exact finished

theorem Consistent.ages (consistent : db.Consistent) (ages : db.Ages after) :
    after.Consistent := by
  obtain ⟨kept, change, sessions, keeps⟩ := ages.sessions
  have hashes : after.sessions.map (·.refreshTokenHash) =
      (db.sessions.filter kept).map (·.refreshTokenHash) := by
    rw [sessions, List.map_map]
    exact List.map_congr_left fun session _ => (keeps session).1
  constructor
  · rw [hashes]
    exact consistent.unique.sublist (List.filter_sublist.map _)
  · intro session member
    rw [sessions] at member
    obtain ⟨old, there, rfl⟩ := List.mem_map.mp member
    rw [(keeps old).1, ages.issued]
    exact consistent.known old (List.mem_of_mem_filter there)

theorem Consistent.created (consistent : db.Consistent) {identityId : Nat} {expiresAt : Int}
    (created : db.createSession identityId refreshTokenHash expiresAt = .ok after) :
    after.Consistent := by
  obtain ⟨unused, -, issued, session, sessions, same⟩ := createSession_ok created
  constructor
  · rw [sessions, List.map_append, List.nodup_append]
    refine ⟨consistent.unique, List.nodup_singleton _, fun old there new last => ?_⟩
    rw [List.map_singleton, List.mem_singleton] at last
    intro equal
    exact unused (by rwa [equal, last, same] at there)
  · intro other member
    rw [issued]
    rw [sessions] at member
    rcases List.mem_append.mp member with old | new
    · exact List.mem_cons_of_mem _ (consistent.known other old)
    · rw [List.mem_singleton.mp new, same]
      exact List.mem_cons_self

theorem Ended.ages (ended : db.Ended refreshTokenHash) (ages : db.Ages after) :
    after.Ended refreshTokenHash := by
  obtain ⟨kept, change, sessions, keeps⟩ := ages.sessions
  constructor
  · rw [ages.issued]
    exact ended.issued
  · intro session member same
    rw [sessions] at member
    obtain ⟨old, there, rfl⟩ := List.mem_map.mp member
    obtain ⟨hash, expires, revokes⟩ := keeps old
    rw [expires, ages.now]
    rw [hash] at same
    exact (ended.dead old (List.mem_of_mem_filter there) same).imp_left revokes

theorem Ended.created (ended : db.Ended refreshTokenHash) {identityId : Nat} {expiresAt : Int}
    {fresh : String} (never : fresh ∉ db.issued)
    (created : db.createSession identityId fresh expiresAt = .ok after) :
    after.Ended refreshTokenHash := by
  obtain ⟨-, now, issued, session, sessions, hash⟩ := createSession_ok created
  constructor
  · rw [issued]
    exact List.mem_cons_of_mem _ ended.issued
  · intro other member same
    rw [sessions] at member
    rw [now]
    rcases List.mem_append.mp member with old | new
    · exact ended.dead other old same
    · rw [List.mem_singleton.mp new, hash] at same
      exact absurd (same ▸ ended.issued) never

theorem Ended.later (ended : db.Ended refreshTokenHash) {now : Int} (later : db.now ≤ now) :
    Ended refreshTokenHash { db with now } :=
  ⟨ended.issued, fun session member same =>
    (ended.dead session member same).imp_right fun expired => expired.trans later⟩

end SessionDb

section Steps

variable {runtime : SessionRuntime} {db : SessionDb} {task : SessionTask} {choice : AccessChoice}

theorem timely_ran (passes : timely runtime db (.ran task choice) = true) :
    db.now ≤ choice.now ∧ ∀ identityId employment staffId,
      task = .createSession identityId employment staffId →
        runtime.hashOpaqueToken choice.random ∉ db.issued := by
  unfold timely at passes
  split at passes
  · contradiction
  · next same =>
      obtain ⟨rfl, rfl⟩ := Event.ran.inj same
      rw [Bool.and_eq_true, decide_eq_true_eq, Bool.not_eq_true', List.contains_eq_mem,
        decide_eq_false_iff_not] at passes
      exact ⟨passes.1, fun _ _ _ _ => passes.2⟩
  · next other same =>
      obtain ⟨rfl, rfl⟩ := Event.ran.inj same
      refine ⟨decide_eq_true_eq.mp passes, fun identityId employment staffId creates => ?_⟩
      exact absurd creates (other identityId employment staffId)

theorem sessionStep_consistent (consistent : db.Consistent) :
    (sessionStep runtime db task choice).1.Consistent := by
  have timed : SessionDb.Consistent { db with now := choice.now } :=
    ⟨consistent.unique, consistent.known⟩
  rcases sessionStep_cases runtime db task choice with ⟨tasks, after, success, same⟩ | same
  · rw [same]
    rcases statement_sessions success with ⟨_, _, _, -, expiresAt, created⟩ | ages
    · exact timed.created created
    · exact timed.ages ages
  · rw [same]
    exact timed

theorem sessionStep_ended {refreshTokenHash : String} (ended : db.Ended refreshTokenHash)
    (passes : timely runtime db (.ran task choice) = true) :
    (sessionStep runtime db task choice).1.Ended refreshTokenHash := by
  obtain ⟨later, fresh⟩ := timely_ran passes
  have timed := ended.later later
  rcases sessionStep_cases runtime db task choice with ⟨tasks, after, success, same⟩ | same
  · rw [same]
    rcases statement_sessions success with ⟨_, _, _, creates, expiresAt, created⟩ | ages
    · exact timed.created (fresh _ _ _ creates) created
    · exact timed.ages ages
  · rw [same]
    exact timed

end Steps

/-! ### Runs -/

/-- The runs of the service: any number of calls, interleaved in any order. -/
def SessionSteps (runtime : SessionRuntime) :
    Pool SessionDb SessionTask → Pool SessionDb SessionTask → Prop :=
  Relation.ReflTransGen ((sessionMachine runtime).PoolStep fun db event =>
    timely runtime db event = true)

section Runs

variable {runtime : SessionRuntime} {start pool : Pool SessionDb SessionTask}

theorem run_consistent (consistent : start.shared.Consistent)
    (reached : SessionSteps runtime start pool) : pool.shared.Consistent :=
  ((sessionMachine runtime).pool_invariant_from (fun db => db.Consistent) (fun _ _ => True)
    (fun _ _ _ _ _ _ => trivial)
    (fun _ _ _ holding _ _ =>
      ⟨sessionStep_consistent holding, fun _ _ => trivial, fun _ _ => trivial⟩)
    consistent (fun _ _ _ _ => trivial) reached).1

theorem run_ended {refreshTokenHash : String} (ended : start.shared.Ended refreshTokenHash)
    (reached : SessionSteps runtime start pool) : pool.shared.Ended refreshTokenHash :=
  ((sessionMachine runtime).pool_invariant_from (SessionDb.Ended refreshTokenHash)
    (fun _ _ => True) (fun _ _ _ _ _ _ => trivial)
    (fun _ _ _ holding _ passes =>
      ⟨sessionStep_ended holding passes, fun _ _ => trivial, fun _ _ => trivial⟩)
    ended (fun _ _ _ _ => trivial) reached).1

def FoundStanding (runtime : SessionRuntime) (index : Nat) (standing : SessionDb → Prop)
    (start pool : Pool SessionDb SessionTask) : Prop :=
  (sessionMachine runtime).Found (fun db event => timely runtime db event = true)
    (fun task db => task.asksStanding = true ∧ standing db) index start pool

def HasLookedUp (refreshToken : String) (index : Nat) (pool : Pool SessionDb SessionTask) : Prop :=
  ∃ process, pool.processes[index]? = some process ∧
    ∃ task ∈ process, task.refreshes = some refreshToken

variable {index : Nat} {path : MintPath} {claims : AccessTokenClaims} {rest : List SessionTask}

theorem nothing_pending (fresh : start.processes = []) (carries : SessionTask → Prop) :
    ∀ process, start.processes[index]? = some process → ∀ task ∈ process, ¬carries task := by
  intro process found
  rw [fresh, List.getElem?_nil] at found
  contradiction

theorem scope_found (fresh : start.processes = []) (reached : SessionSteps runtime start pool)
    (minting : pool.processes[index]? = some (.mint path claims :: rest)) {enterpriseId : Nat}
    (entitled : claims.enterpriseId = some enterpriseId) :
    FoundStanding runtime index (fun db => db.MayEnter claims.identityId enterpriseId)
      start pool := by
  refine (sessionMachine runtime).pool_carried
    (fun task => (claims.identityId, enterpriseId) ∈ task.scopes) _ ?_ ?_
    (nothing_pending fresh _) reached minting List.mem_cons_self ?_
  · intro db call _ task member carried
    rw [(opening_plain member).1] at carried
    exact absurd carried List.not_mem_nil
  · intro db task choice _ next member carried
    exact (sessionStep_hands member).scopes _ _ carried
  · rw [SessionTask.scopes, entitled]
    exact List.mem_cons_self

theorem refresh_found (fresh : start.processes = []) (reached : SessionSteps runtime start pool)
    {refreshToken : String}
    (minting : pool.processes[index]? = some (.mint (.refresh refreshToken) claims :: rest)) :
    FoundStanding runtime index (fun db => db.MayRefresh claims.identityId) start pool := by
  refine (sessionMachine runtime).pool_carried
    (fun task => task.granted = some claims.identityId) _ ?_ ?_
    (nothing_pending fresh _) reached minting List.mem_cons_self rfl
  · intro db call _ task member carried
    rw [(opening_plain member).2.1] at carried
    contradiction
  · intro db task choice _ next member carried
    exact (sessionStep_hands member).granted _ carried

/-- Past the end of its session a refresh token finds nothing: whoever still mints had
looked it up before. -/
theorem ended_lookedUp {moment : Pool SessionDb SessionTask} {refreshToken : String}
    (ended : moment.shared.Ended (runtime.hashOpaqueToken refreshToken))
    (reached : SessionSteps runtime moment pool)
    (minting : pool.processes[index]? = some (.mint (.refresh refreshToken) claims :: rest)) :
    HasLookedUp refreshToken index moment := by
  by_contra unasked
  have carried := (sessionMachine runtime).pool_carried
    (fun task => task.refreshes = some refreshToken)
    (fun task db => ∃ now, db.now ≤ now ∧
      SessionDb.HasLive { db with now } (runtime.hashOpaqueToken refreshToken))
    (fun db call _ task member carried => by
      rw [(opening_plain member).2.2] at carried
      contradiction)
    (fun db task choice passes next member carried =>
      ((sessionStep_hands member).refreshes _ carried).imp_right fun looked =>
        ⟨choice.now, (timely_ran passes).1, looked.2⟩)
    (fun process found task member carried => unasked ⟨process, found, task, member, carried⟩)
    reached minting List.mem_cons_self rfl
  obtain ⟨looking, task, others, before, -, ⟨now, later, live⟩, -⟩ := carried
  exact ((run_ended ended before).later later).not_live live

/-- Every token scoped to a business goes to somebody whom its request found active there, or
reaching everywhere. A refresh is granted only to somebody whom it found with no employment on
record, an active one, or reach; and it is never granted when its session was revoked or had
expired before it looked the session up. -/
theorem minting_needs_standing (runtime : SessionRuntime) {start pool : Pool SessionDb SessionTask}
    (fresh : start.processes = []) (consistent : start.shared.Consistent)
    (reached : SessionSteps runtime start pool) {index : Nat} {path : MintPath}
    {claims : AccessTokenClaims} {rest : List SessionTask}
    (minting : pool.processes[index]? = some (.mint path claims :: rest)) :
    (∀ enterpriseId, claims.enterpriseId = some enterpriseId →
      FoundStanding runtime index (fun db => db.MayEnter claims.identityId enterpriseId)
        start pool) ∧
      ∀ refreshToken, path = .refresh refreshToken →
        FoundStanding runtime index (fun db => db.MayRefresh claims.identityId) start pool ∧
          ∀ moment, SessionSteps runtime start moment → SessionSteps runtime moment pool →
            ∀ session ∈ moment.shared.sessions,
              session.refreshTokenHash = runtime.hashOpaqueToken refreshToken →
              (session.revokedAt ≠ none ∨ session.expiresAt ≤ moment.shared.now) →
              HasLookedUp refreshToken index moment := by
  constructor
  · intro enterpriseId entitled
    exact scope_found fresh reached minting entitled
  · rintro refreshToken rfl
    constructor
    · exact refresh_found fresh reached minting
    · intro moment before after session member same finished
      have ended := (run_consistent consistent before).ended member finished
      rw [same] at ended
      exact ended_lookedUp ended after minting

end Runs

/-! ### A refresh -/

def plainSessions : SessionRuntime where
  toRuntime := plainRuntime
  verifyPassword passwordHash password := passwordHash == password
  hashOpaqueToken refreshToken := "sha256 " ++ refreshToken
  verifySelectionToken _ _ := none
  refreshTtlDays := 7

def ana : IdentityRow where
  email := some "ana@mail.example"
  mobile := none
  passwordHash := "secret"
  emailVerifiedAt := some 0
  mobileVerifiedAt := none
  failedLoginCount := 0
  lockedUntil := none

def oneEmployed : SessionDb where
  access :=
    { smallDeployment with
      enterprises := ⟨[{ slug := "shop", email := "shop@mail.example" }]⟩
      identities := ⟨[ana]⟩
      employees := ⟨[AccessDb.newEmployee 0 0 .active none 0]⟩ }
  withdrawn := { identities := [], enterprises := [], employees := [], staff := [] }
  sessions := []
  nextSessionId := 0
  issued := []
  minted := []
  now := 0

def signInAndRefresh : List (SessionCall ⊕ (Nat × AccessChoice)) :=
  .inl (.login ⟨atEmail "ana@mail.example", "secret"⟩) ::
    List.replicate 7 (.inr (0, { now := 1, random := "cookie" })) ++
  .inl (.refresh "cookie" (some 0)) ::
    List.replicate 5 (.inr (1, { now := 2, random := "" }))

/-- Ana's refresh ends in a token for the shop, where it found her active. -/
theorem refresh_for_the_shop :
    ∃ pool claims, SessionSteps plainSessions ⟨oneEmployed, []⟩ pool ∧
      pool.processes[1]? = some [.mint (.refresh "cookie") claims] ∧
      claims.enterpriseId = some 0 ∧
      FoundStanding plainSessions 1 (fun db => db.MayEnter claims.identityId 0)
        ⟨oneEmployed, []⟩ pool := by
  have runs : ((sessionMachine plainSessions).playPool (timely plainSessions) ⟨oneEmployed, []⟩
      signInAndRefresh).any (fun pool =>
        pool.processes[1]? == some [.mint (.refresh "cookie")
          ⟨0, some 0, some 0, none, .employee, false⟩]) = true := by
    decide +kernel
  obtain ⟨pool, played, minting⟩ := (Option.any_eq_true _ _).mp runs
  rw [beq_iff_eq] at minting
  have reached : SessionSteps plainSessions ⟨oneEmployed, []⟩ pool :=
    (sessionMachine plainSessions).playPool_sound (fun _ _ passed => passed) played
  have consistent : oneEmployed.Consistent :=
    ⟨List.nodup_nil, fun session member => absurd member List.not_mem_nil⟩
  exact ⟨pool, _, reached, minting, rfl,
    (minting_needs_standing plainSessions rfl consistent reached minting).1 0 rfl⟩

end UnifiedService.Access
