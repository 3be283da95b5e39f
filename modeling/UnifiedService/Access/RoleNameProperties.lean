import UnifiedService.Access.AccountProperties

/-! The names roles carry: a template's name stays free for the business to receive, as
long as no edit takes it. -/

set_option autoImplicit false

namespace UnifiedService.Access

open UnifiedService.Library

/-- The name is, case aside, a live template's. -/
def Reserved (runtime : Runtime) (roles : Table RoleRow) (name : String) : Prop :=
  ∃ id template, roles.get? id = some template ∧ template.enterpriseId = none ∧
    template.isSystem = true ∧ runtime.lower template.name = runtime.lower name

theorem isSystemTemplateName_iff {db : AccessDb} {runtime : Runtime} {name : String} :
    db.isSystemTemplateName runtime name = true ↔ Reserved runtime db.roles name := by
  unfold AccessDb.isSystemTemplateName
  rw [List.any_eq_true]
  constructor
  · rintro ⟨template, member, named⟩
    obtain ⟨id, found⟩ := Table.mem_rows_iff.mp member
    simp only [Bool.and_eq_true, Option.isNone_iff_eq_none, beq_iff_eq] at named
    exact ⟨id, template, found, named.1.1, named.1.2, named.2⟩
  · rintro ⟨id, template, found, unowned, system, named⟩
    exact ⟨template, Table.mem_rows_iff.mpr ⟨id, found⟩, by simp [unowned, system, named]⟩

/-- No custom role of a business has a template's name, and no two roles of one business
have the same. -/
structure NamesReceivable (runtime : Runtime) (roles : Table RoleRow) : Prop where
  custom : ∀ id role enterpriseId, roles.get? id = some role →
    role.enterpriseId = some enterpriseId → role.isSystem = false →
    ¬ Reserved runtime roles role.name
  distinct : ∀ id other role twin enterpriseId, roles.get? id = some role →
    roles.get? other = some twin → role.enterpriseId = some enterpriseId →
    twin.enterpriseId = some enterpriseId → role.name = twin.name → id = other

/-! ### What a write does to the names -/

def SameTemplates (before after : Table RoleRow) : Prop :=
  ∀ id template, template.enterpriseId = none →
    (after.get? id = some template ↔ before.get? id = some template)

section Writes

variable {runtime : Runtime} {db : AccessDb}

theorem SameTemplates.refl (roles : Table RoleRow) : SameTemplates roles roles :=
  fun _ _ _ => Iff.rfl

theorem SameTemplates.trans {before middle after : Table RoleRow}
    (first : SameTemplates before middle) (second : SameTemplates middle after) :
    SameTemplates before after :=
  fun id template unowned => (second id template unowned).trans (first id template unowned)

theorem SameTemplates.reserved_iff {before after : Table RoleRow} {name : String}
    (same : SameTemplates before after) :
    Reserved runtime after name ↔ Reserved runtime before name := by
  constructor
  · rintro ⟨id, template, found, unowned, rest⟩
    exact ⟨id, template, (same id template unowned).mp found, unowned, rest⟩
  · rintro ⟨id, template, found, unowned, rest⟩
    exact ⟨id, template, (same id template unowned).mpr found, unowned, rest⟩

theorem SameTemplates.insert (roles : Table RoleRow) {role : RoleRow} {enterpriseId : Nat}
    (ours : role.enterpriseId = some enterpriseId) :
    SameTemplates roles (roles.insert role) := by
  intro id template unowned
  constructor
  · intro found
    rw [Table.get?_insert] at found
    split at found
    · obtain rfl := Option.some.inj found
      rw [ours] at unowned
      contradiction
    · exact found
  · exact Table.get?_insert_of_some role

theorem SameTemplates.update {roles : Table RoleRow} {roleId enterpriseId : Nat}
    {role : RoleRow} {change : RoleRow → RoleRow} (found : roles.get? roleId = some role)
    (ours : role.enterpriseId = some enterpriseId)
    (stays : (change role).enterpriseId = some enterpriseId) :
    SameTemplates roles (roles.update roleId change) := by
  intro id template unowned
  by_cases here : id = roleId
  · subst here
    rw [Table.get?_update_self, found, Option.map_some]
    constructor
    · intro changed
      rw [← Option.some.inj changed, stays] at unowned
      contradiction
    · intro same
      rw [← Option.some.inj same, ours] at unowned
      contradiction
  · rw [Table.get?_update_of_ne _ _ (Ne.symm here)]

/-- A role whose name is free in its business can be added, unless it is a custom one
under a template's name. -/
theorem NamesReceivable.insert {role : RoleRow} {enterpriseId : Nat}
    (names : NamesReceivable runtime db.roles) (ours : role.enterpriseId = some enterpriseId)
    (free : db.nameTaken enterpriseId role.name none = false)
    (unreserved : role.isSystem = false → ¬ Reserved runtime db.roles role.name) :
    NamesReceivable runtime (db.roles.insert role) := by
  have same := SameTemplates.insert db.roles ours
  have fresh : ∀ id old, db.roles.get? id = some old → old.enterpriseId = some enterpriseId →
      old.name ≠ role.name := by
    intro id old found owned named
    cases AccessDb.nameTaken_eq_false free found owned named
  constructor
  · intro id other business found owned isCustom
    rw [same.reserved_iff]
    rw [Table.get?_insert] at found
    split at found
    · obtain rfl := Option.some.inj found
      exact unreserved isCustom
    · exact names.custom id other business found owned isCustom
  · intro id other first second business firstFound secondFound firstOwned secondOwned named
    rw [Table.get?_insert] at firstFound secondFound
    split at firstFound <;> split at secondFound
    · next here there => exact here.trans there.symm
    · obtain rfl := Option.some.inj firstFound
      obtain rfl := Option.some.inj (ours.symm.trans firstOwned)
      exact absurd named.symm (fresh other second secondFound secondOwned)
    · obtain rfl := Option.some.inj secondFound
      obtain rfl := Option.some.inj (ours.symm.trans secondOwned)
      exact absurd named (fresh id first firstFound firstOwned)
    · exact names.distinct id other first second business firstFound secondFound firstOwned
        secondOwned named

/-- A role can be rewritten in its business under a name no other role of it has, unless
it is a custom one and the name a template's. -/
theorem NamesReceivable.update {roleId enterpriseId : Nat} {role : RoleRow}
    {change : RoleRow → RoleRow} (names : NamesReceivable runtime db.roles)
    (found : db.roles.get? roleId = some role) (ours : role.enterpriseId = some enterpriseId)
    (stays : (change role).enterpriseId = some enterpriseId)
    (free : ∀ id old, db.roles.get? id = some old → old.enterpriseId = some enterpriseId →
      old.name = (change role).name → id = roleId)
    (unreserved : ¬ Reserved runtime db.roles (change role).name) :
    NamesReceivable runtime (db.roles.update roleId change) := by
  have same := SameTemplates.update found ours stays
  have rows : ∀ id row, (db.roles.update roleId change).get? id = some row →
      (id = roleId ∧ row = change role) ∨ (id ≠ roleId ∧ db.roles.get? id = some row) := by
    intro id row there
    by_cases here : id = roleId
    · subst here
      rw [Table.get?_update_self, found, Option.map_some] at there
      exact .inl ⟨rfl, (Option.some.inj there).symm⟩
    · rw [Table.get?_update_of_ne _ _ (Ne.symm here)] at there
      exact .inr ⟨here, there⟩
  constructor
  · intro id other business there owned isCustom
    rw [same.reserved_iff]
    rcases rows id other there with ⟨-, rfl⟩ | ⟨-, old⟩
    · exact unreserved
    · exact names.custom id other business old owned isCustom
  · intro id other first second business firstFound secondFound firstOwned secondOwned named
    rcases rows id first firstFound with ⟨rfl, rfl⟩ | ⟨-, firstOld⟩ <;>
      rcases rows other second secondFound with ⟨rfl, rfl⟩ | ⟨-, secondOld⟩
    · rfl
    · obtain rfl := Option.some.inj (stays.symm.trans firstOwned)
      exact (free other second secondOld secondOwned named.symm).symm
    · obtain rfl := Option.some.inj (stays.symm.trans secondOwned)
      exact free id first firstOld firstOwned named
    · exact names.distinct id other first second business firstOld secondOld firstOwned
        secondOwned named

end Writes

/-! ### Steps -/

section Steps

variable {runtime : Runtime}

/-- The templates copied at signup come as system roles, under names still free. -/
theorem insertSystemRoles_names {enterpriseId : Nat} {templates : List (Stored RoleRow)}
    {db next : AccessDb} {created : List (String × Nat)}
    (inserted : AccessDb.insertSystemRoles enterpriseId templates db = .ok (created, next))
    (names : NamesReceivable runtime db.roles) :
    NamesReceivable runtime next.roles ∧ SameTemplates db.roles next.roles := by
  induction templates generalizing db created with
  | nil =>
      obtain ⟨-, rfl⟩ := Prod.mk.inj (Except.ok.inj inserted)
      exact ⟨names, .refl db.roles⟩
  | cons template rest ih =>
      obtain ⟨⟨id, middle⟩, first, after⟩ := bind_eq_ok.mp inserted
      obtain ⟨⟨ids, last⟩, others, done⟩ := bind_eq_ok.mp after
      obtain ⟨-, rfl⟩ := Prod.mk.inj (Except.ok.inj done)
      obtain ⟨free, -, rfl⟩ := AccessDb.insertRole_ok first
      have added : NamesReceivable runtime (db.roles.insert { template.row with
          enterpriseId := some enterpriseId, isSystem := true, status := .active }) :=
        names.insert rfl free fun isCustom => by contradiction
      obtain ⟨kept, same⟩ := ih others added
      exact ⟨kept, (SameTemplates.insert db.roles rfl).trans same⟩

theorem signupWrite_names {slug businessEmail : String} {owner : Addresses} {password : String}
    {choice : AccessChoice} {db next : AccessDb} {tasks : List AccessTask}
    (names : NamesReceivable runtime db.roles)
    (success : EnterpriseOnboardingService.signupWrite runtime slug businessEmail owner password
      choice db = .ok (tasks, next)) :
    NamesReceivable runtime next.roles ∧ SameTemplates db.roles next.roles := by
  obtain ⟨⟨enterpriseId, first⟩, enterprise, success⟩ := bind_eq_ok.mp success
  obtain ⟨rfl, rfl⟩ := createEnterprise_ok enterprise
  obtain ⟨⟨identityId, second⟩, identity, success⟩ := bind_eq_ok.mp success
  obtain ⟨rfl, rfl⟩ := AccessDb.createIdentity_ok identity
  obtain ⟨⟨employeeId, third⟩, employee, success⟩ := bind_eq_ok.mp success
  obtain ⟨-, rfl, rfl⟩ := AccessDb.createEmployee_ok employee
  obtain ⟨⟨roleIds, fourth⟩, instantiated, success⟩ := bind_eq_ok.mp success
  obtain ⟨⟨ids, fifth⟩, inserted, filled⟩ := bind_eq_ok.mp instantiated
  obtain ⟨-, rfl⟩ := Prod.mk.inj (Except.ok.inj filled)
  obtain ⟨sixth, granted, done⟩ := bind_eq_ok.mp success
  obtain ⟨roleId, -, grants⟩ := grantOwner_ok granted
  obtain ⟨added, rfl, -⟩ := grantToEmployee_added grants
  obtain ⟨-, rfl⟩ := Prod.mk.inj (Except.ok.inj done)
  obtain ⟨rows, same, -⟩ := AccessDb.foldl_insertRolePermission
    (AccessDb.templateGrants fifth db.enterprises.nextId) fifth
  rw [same]
  have instantiated := insertSystemRoles_names inserted names
  exact instantiated

/-- An edit is about to give a custom role of a business a template's name. -/
def ReservedRename (runtime : Runtime) (db : AccessDb)
    (event : Event AccessTask AccessCall AccessChoice) : Prop :=
  ∃ enterpriseId roleId request choice,
    event = .ran (.role (.updateWrite enterpriseId roleId request)) choice ∧
      db.roleEditable enterpriseId roleId = true ∧
      db.nameTaken enterpriseId request.name (some roleId) = false ∧
      db.isSystemTemplateName runtime request.name = true

def NameChecked (runtime : Runtime) (db : AccessDb) : AccessTask → Prop
  | .role (.createWrite _ request) => ¬ Reserved runtime db.roles request.name
  | _ => True

theorem NameChecked.kept {db next : AccessDb} {task : AccessTask}
    (same : SameTemplates db.roles next.roles) (checked : NameChecked runtime db task) :
    NameChecked runtime next task := by
  unfold NameChecked at checked ⊢
  split
  · rwa [same.reserved_iff]
  · trivial

/-- Only a create that looked at the templates leads to the insert. -/
theorem role_step_checked {task : RoleTask} {db next : AccessDb} {tasks : List RoleTask}
    (success : RolesService.step runtime task db = .ok (tasks, next)) :
    ∀ following ∈ tasks, NameChecked runtime db (.role following) := by
  cases task with
  | createTemplate enterpriseId request =>
      simp only [RolesService.step, RolesService.createTemplate] at success
      split at success
      · contradiction
      · next unreserved =>
          obtain ⟨rfl, -⟩ := Prod.mk.inj (Except.ok.inj success)
          intro following member
          rw [List.mem_singleton.mp member]
          exact fun reserved => unreserved (isSystemTemplateName_iff.mpr reserved)
  | _ =>
      intro following member
      cases following with
      | createWrite enterpriseId request =>
          exfalso
          simp only [RolesService.step, RolesService.create, RolesService.createCount,
            RolesService.createExisting, RolesService.createWrite, RolesService.update,
            RolesService.updateFind, RolesService.updateClash, RolesService.updateWrite,
            RolesService.archive, RolesService.archiveFind, RolesService.archiveWrite,
            RolesService.setEmployeeRoles, RolesService.setRolesEmployee,
            RolesService.setRolesLevel, RolesService.setRolesFind,
            RolesService.setRolesWrite] at success
          repeat' first
            | split at success
            | (obtain ⟨_, _, success⟩ := bind_eq_ok.mp success)
          all_goals first
            | contradiction
            | (obtain ⟨rfl, -⟩ := Prod.mk.inj (Except.ok.inj success)
               simp at member)
      | _ => trivial

/-- A role call keeps the names, as long as it is no edit to a template's. -/
theorem role_step_names {task : RoleTask} {choice : AccessChoice} {db next : AccessDb}
    {tasks : List RoleTask} (names : NamesReceivable runtime db.roles)
    (checked : NameChecked runtime db (.role task))
    (permitted : ¬ ReservedRename runtime db (.ran (.role task) choice))
    (success : RolesService.step runtime task db = .ok (tasks, next)) :
    NamesReceivable runtime next.roles ∧ SameTemplates db.roles next.roles := by
  by_cases reading : task.writes = false
  · rw [role_step_reads reading success]
    exact ⟨names, .refl db.roles⟩
  · cases task with
    | createWrite enterpriseId request =>
        obtain ⟨free, -, ⟨rows, rfl⟩, -⟩ := createWrite_ok success
        exact ⟨names.insert rfl free fun _ => checked, .insert db.roles rfl⟩
    | updateWrite enterpriseId roleId request =>
        obtain ⟨⟨role, found, ours, isCustom⟩, free, -, ⟨rows, rfl⟩, -⟩ := updateWrite_ok success
        have unreserved : ¬ Reserved runtime db.roles request.name := by
          intro reserved
          refine permitted ⟨enterpriseId, roleId, request, choice, rfl, ?_, free,
            isSystemTemplateName_iff.mpr reserved⟩
          rw [AccessDb.roleEditable, found]
          simp [ours, isCustom]
        refine ⟨names.update found ours ours (fun id old there owned named => ?_) unreserved,
          .update found ours ours⟩
        exact (Option.some.inj (AccessDb.nameTaken_eq_false free there owned named)).symm
    | archiveWrite enterpriseId roleId =>
        obtain ⟨⟨role, found, ours, isCustom⟩, -, rfl⟩ := archiveWrite_ok success
        refine ⟨names.update found ours ours (fun id old there owned named => ?_)
          (names.custom roleId role enterpriseId found ours isCustom), .update found ours ours⟩
        exact names.distinct id roleId old role enterpriseId there found owned ours named
    | setRolesWrite enterpriseId actingEmployeeId employeeId roles =>
        obtain ⟨-, grants, rfl, -⟩ := setRolesWrite_ok success
        exact ⟨names, .refl db.roles⟩
    | _ => exact absurd rfl reading

theorem account_step_names {task : AccountTask} {choice : AccessChoice} {db next : AccessDb}
    {tasks : List AccessTask} (names : NamesReceivable runtime db.roles)
    (success : accountStep runtime choice task db = .ok (tasks, next)) :
    NamesReceivable runtime next.roles ∧ SameTemplates db.roles next.roles := by
  by_cases reading : task.writes = false
  · rw [account_step_reads reading success]
    exact ⟨names, .refl db.roles⟩
  · cases task with
    | signupWrite slug businessEmail owner password => exact signupWrite_names names success
    | createWrite enterpriseId actingEmployeeId addresses role =>
        obtain ⟨identityId, identities, added, -, -, rfl, -⟩ := createEmployeeWrite_ok success
        exact ⟨names, .refl db.roles⟩
    | setStatusWrite enterpriseId employeeId source status =>
        obtain ⟨-, -, rfl⟩ := setStatusWrite_ok success
        exact ⟨names, .refl db.roles⟩
    | setStaffStatusWrite target status =>
        obtain ⟨-, -, rfl⟩ := setStaffStatusWrite_ok success
        exact ⟨names, .refl db.roles⟩
    | inviteStaffWrite actingStaffId addresses roleIds =>
        obtain ⟨-, -, staffRoles, rfl⟩ := inviteStaffWrite_ok success
        exact ⟨names, .refl db.roles⟩
    | markVerified identityId credential =>
        obtain ⟨-, rfl⟩ := Prod.mk.inj (Except.ok.inj success)
        exact ⟨names, .refl db.roles⟩
    | completeInviteWrite identity enterpriseId verifiedDestination newPassword =>
        obtain ⟨-, rfl⟩ := Prod.mk.inj (Except.ok.inj success)
        obtain ⟨identities, set⟩ := setPassword_frame runtime identity verifiedDestination
          newPassword choice db
        obtain ⟨employees, staff, same⟩ := activate_frame identity.id enterpriseId choice.now
          { db with identities := identities }
        rw [set, same]
        exact ⟨names, .refl db.roles⟩
    | _ => exact absurd rfl reading

theorem account_step_checked {task : AccountTask} {choice : AccessChoice} {db next : AccessDb}
    {tasks : List AccessTask}
    (success : accountStep runtime choice task db = .ok (tasks, next)) :
    ∀ following ∈ tasks, NameChecked runtime db following := by
  intro following member
  cases following with
  | verification later => trivial
  | account later => trivial
  | role later =>
      exfalso
      cases task with
      | signupWrite slug businessEmail owner password =>
          obtain ⟨rfl, -⟩ := signupWrite_ok success
          simp [challenge] at member
      | _ =>
          simp only [accountStep, EnterpriseOnboardingService.signup, EmployeesService.create,
            EmployeesService.createAuthority, EmployeesService.createWrite,
            EmployeesService.setStatus, EmployeesService.setStatusAuthority,
            EmployeesService.setStatusLevel, EmployeesService.setStatusWrite,
            PlatformService.inviteStaff, PlatformService.inviteStaffWrite,
            PlatformService.setStaffStatus, PlatformService.setStaffStatusWrite,
            AuthService.resend, AuthService.verifyLogin, AuthService.completeVerifiedLogin,
            AuthService.markVerified, AuthService.acceptInvite, AuthService.completeInvite,
            AuthService.completeInviteWrite] at success
          repeat' first
            | split at success
            | (obtain ⟨_, _, success⟩ := bind_eq_ok.mp success)
          all_goals first
            | contradiction
            | (obtain ⟨rfl, -⟩ := Prod.mk.inj (Except.ok.inj success)
               simp [challenge] at member)

theorem statement_names {task : AccessTask} {choice : AccessChoice} {db next : AccessDb}
    {tasks : List AccessTask} (names : NamesReceivable runtime db.roles)
    (checked : NameChecked runtime db task)
    (permitted : ¬ ReservedRename runtime db (.ran task choice))
    (success : task.statement runtime choice db = .ok (tasks, next)) :
    NamesReceivable runtime next.roles ∧ SameTemplates db.roles next.roles ∧
      ∀ following ∈ tasks, NameChecked runtime db following := by
  cases task with
  | role task =>
      obtain ⟨⟨following, after⟩, step, done⟩ := bind_eq_ok.mp success
      obtain ⟨rfl, rfl⟩ := Prod.mk.inj (Except.ok.inj done)
      obtain ⟨kept, same⟩ := role_step_names names checked permitted step
      refine ⟨kept, same, fun later member => ?_⟩
      obtain ⟨own, listed, rfl⟩ := List.mem_map.mp member
      exact role_step_checked step own listed
  | verification task =>
      obtain ⟨⟨outcome, after⟩, step, done⟩ := bind_eq_ok.mp success
      obtain ⟨verifications, recent, rfl⟩ := verification_step_frame step
      cases outcome with
      | continues left =>
          obtain ⟨rfl, rfl⟩ := Prod.mk.inj (Except.ok.inj done)
          refine ⟨names, .refl db.roles, fun later member => ?_⟩
          obtain ⟨own, -, rfl⟩ := List.mem_map.mp member
          trivial
      | verified proven onward =>
          obtain ⟨rfl, rfl⟩ := Prod.mk.inj (Except.ok.inj done)
          refine ⟨names, .refl db.roles, fun later member => ?_⟩
          cases onward <;>
          · obtain ⟨identityId, -, rfl⟩ := List.mem_map.mp member
            trivial
  | account task =>
      obtain ⟨kept, same⟩ := account_step_names names success
      exact ⟨kept, same, account_step_checked success⟩

theorem updateWrite_eq {db : AccessDb} {enterpriseId roleId : Nat} {request : RoleRequest}
    (editable : db.roleEditable enterpriseId roleId = true)
    (free : db.nameTaken enterpriseId request.name (some roleId) = false) :
    RolesService.updateWrite enterpriseId roleId request db =
      .ok ([], AccessDb.replaceRolePermissions
        { db with roles := db.roles.update roleId request.edited } enterpriseId roleId
        request.permissions) := by
  simp only [RolesService.updateWrite, AccessDb.updateRole, editable, free, Bool.not_true,
    Bool.false_eq_true, if_false]
  rfl

/-- An edit keeps the names exactly when it is not the one that takes a template's. -/
theorem updateWrite_names_iff {db : AccessDb} {enterpriseId roleId : Nat}
    {request : RoleRequest} {choice : AccessChoice} (names : NamesReceivable runtime db.roles) :
    NamesReceivable runtime
        (accessStep runtime db (.role (.updateWrite enterpriseId roleId request)) choice).1.roles ↔
      ¬ ReservedRename runtime db
        (.ran (.role (.updateWrite enterpriseId roleId request)) choice) := by
  constructor
  · rintro kept ⟨_, _, _, _, here, editable, free, reserved⟩
    cases here
    have wrote := updateWrite_eq editable free
    obtain ⟨⟨role, found, ours, isCustom⟩, -, -, ⟨rows, same⟩, -⟩ := updateWrite_ok wrote
    have success : AccessTask.statement runtime choice
        (.role (.updateWrite enterpriseId roleId request)) db =
          .ok ([], { db with
            roles := db.roles.update roleId request.edited, rolePermissions := rows }) := by
      simp only [AccessTask.statement, RolesService.step, wrote, same]
      rfl
    rw [accessStep, transact_of_ok success] at kept
    refine kept.custom roleId (request.edited role) enterpriseId ?_ ours isCustom ?_
    · rw [Table.get?_update_self, found, Option.map_some]
    · rw [(SameTemplates.update found ours ours).reserved_iff]
      exact isSystemTemplateName_iff.mp reserved
  · intro permitted
    rcases accessStep_cases runtime db (.role (.updateWrite enterpriseId roleId request)) choice
      with ⟨tasks, next, success, same⟩ | same
    · rw [same]
      have checked : NameChecked runtime db (.role (.updateWrite enterpriseId roleId request)) :=
        trivial
      exact (statement_names names checked permitted success).1
    · rwa [same]

end Steps

/-- Built-in names stay receivable: from a seed that holds templates only, in every run
whose edits take no template's name, whatever else is called in between. -/
theorem names_stay_receivable (runtime : Runtime) (permissions : Table PermissionRow)
    (templates : Table RoleRow) (grants : List RolePermissionRow)
    (pool : Pool AccessDb AccessTask)
    (seeds : ∀ id template, templates.get? id = some template → template.enterpriseId = none)
    (reached : (accessMachine runtime).PoolReaches
      (fun db event => ¬ ReservedRename runtime db event)
      (.seeded permissions templates grants) pool) :
    NamesReceivable runtime pool.shared.roles := by
  refine (access_invariant (fun db => NamesReceivable runtime db.roles) (NameChecked runtime)
    ?_ ?_ ?_ reached).1
  · intro db call _ _ task opened
    cases call <;>
    · obtain rfl := List.mem_singleton.mp opened
      trivial
  · intro db task choice tasks next names checked permitted success
    obtain ⟨kept, same, left⟩ := statement_names names checked permitted success
    exact ⟨kept, fun following member => (left following member).kept same,
      fun other waits => waits.kept same⟩
  · constructor
    · intro id role enterpriseId found ours
      rw [seeds id role found] at ours
      contradiction
    · intro id other role twin enterpriseId found _ ours
      rw [seeds id role found] at ours
      contradiction

def foldingRuntime : Runtime :=
  { plainRuntime with lower := fun name => if name = "Manager" then "manager" else name }

theorem smallDeployment_templates (id : Nat) (template : RoleRow)
    (found : smallDeployment.roles.get? id = some template) : template.enterpriseId = none := by
  have member := Table.mem_rows_iff.mpr ⟨id, found⟩
  rcases List.mem_cons.mp member with rfl | later
  · rfl
  · rw [List.mem_singleton.mp later]
    rfl

def namedRole (name : String) : RoleRequest where
  name := name
  description := none
  level := 10
  permissions := []

def shopRenames (name : String) : List (AccessCall ⊕ (Nat × AccessChoice)) :=
  .inl (signUp "shop" "owner@shop.example") :: turns 0 4 0 "one" ++
    .inl (.createRole 0 0 (namedRole "helper")) :: turns 1 5 0 "two" ++
    .inl (.updateRole 0 0 4 (namedRole name)) :: turns 2 4 0 "three"

def renamesUnreserved (runtime : Runtime) (db : AccessDb) :
    Event AccessTask AccessCall AccessChoice → Bool
  | .ran (.role (.updateWrite _ _ request)) _ => !db.isSystemTemplateName runtime request.name
  | _ => true

theorem renamesUnreserved_sound {runtime : Runtime} {db : AccessDb}
    {event : Event AccessTask AccessCall AccessChoice}
    (passed : renamesUnreserved runtime db event = true) : ¬ ReservedRename runtime db event := by
  rintro ⟨enterpriseId, roleId, request, choice, rfl, -, -, reserved⟩
  simp [renamesUnreserved, reserved] at passed

/-- The shop renames its role to "assistant", and all names are in order. -/
theorem names_stay_receivable_assistant :
    ∃ pool : Pool AccessDb AccessTask,
      (pool.shared.roles.get? 4).map (·.name) = some "assistant" ∧
        NamesReceivable foldingRuntime pool.shared.roles := by
  have runs : ((accessMachine foldingRuntime).playPool (renamesUnreserved foldingRuntime)
      ⟨smallDeployment, []⟩ (shopRenames "assistant")).any (fun pool =>
        (pool.shared.roles.get? 4).map (·.name) == some "assistant") = true := by
    decide +kernel
  obtain ⟨pool, played, renamed⟩ := (Option.any_eq_true _ _).mp runs
  refine ⟨pool, beq_iff_eq.mp renamed, ?_⟩
  exact names_stay_receivable foldingRuntime _ _ _ pool smallDeployment_templates
    ((accessMachine foldingRuntime).playPool_sound (fun _ _ => renamesUnreserved_sound) played)

/-- An edit takes what a create is refused: the shop's own role ends up as "Manager". -/
theorem rename_takes_template_name :
    ¬ ∀ (runtime : Runtime) (permissions : Table PermissionRow) (templates : Table RoleRow)
      (grants : List RolePermissionRow) (pool : Pool AccessDb AccessTask),
      (∀ id template, templates.get? id = some template → template.enterpriseId = none) →
      (accessMachine runtime).PoolReaches (fun _ _ => True)
        (.seeded permissions templates grants) pool →
      NamesReceivable runtime pool.shared.roles := by
  intro claimed
  have runs : ((accessMachine foldingRuntime).playPool (fun _ _ => true)
      ⟨smallDeployment, []⟩ (shopRenames "Manager")).any (fun pool =>
        ((pool.shared.roles.get? 4).any fun role =>
          role.name == "Manager" && role.enterpriseId == some 0 && !role.isSystem) &&
        pool.shared.isSystemTemplateName foldingRuntime "Manager") = true := by
    decide +kernel
  obtain ⟨pool, played, renamed⟩ := (Option.any_eq_true _ _).mp runs
  rw [Bool.and_eq_true] at renamed
  obtain ⟨shown, reserved⟩ := renamed
  obtain ⟨role, found, named⟩ := (Option.any_eq_true _ _).mp shown
  simp only [Bool.and_eq_true, beq_iff_eq, Bool.not_eq_true'] at named
  have names := claimed foldingRuntime _ _ _ pool smallDeployment_templates
    ((accessMachine foldingRuntime).playPool_sound (fun _ _ _ => trivial) played)
  refine names.custom 4 role 0 found named.1.2 named.2 ?_
  rw [named.1.1]
  exact isSystemTemplateName_iff.mp reserved

end UnifiedService.Access
