import UnifiedService.Access.RoleNameProperties

/-! The tenant that a grant of a permission names. The copies made at signup name the business
of their role; what a role call writes names none, and its foreign key is off. -/

set_option autoImplicit false

namespace UnifiedService.Access

open UnifiedService.Library

def RolePermissionRow.NamesTenant (grant : RolePermissionRow) (roles : Table RoleRow) : Prop :=
  ∀ role enterpriseId, roles.get? grant.roleId = some role →
    role.enterpriseId = some enterpriseId → grant.enterpriseId = some enterpriseId

structure GrantsNamed (db : AccessDb) : Prop where
  known : ∀ grant ∈ db.rolePermissions, ∃ role, db.roles.get? grant.roleId = some role
  named : ∀ grant ∈ db.rolePermissions, grant.NamesTenant db.roles

def AccessDb.Grantable (db : AccessDb) (codes : List String) : Prop :=
  ∃ id permission, db.permissions.get? id = some permission ∧ permission.code ∈ codes ∧
    permission.status = .active ∧ permission.scope ≠ .staff

inductive GrantsByCall (db : AccessDb) : Event AccessTask AccessCall AccessChoice → Prop where
  | create {enterpriseId : Nat} {request : RoleRequest} (choice : AccessChoice)
      (free : db.nameTaken enterpriseId request.name none = false)
      (grants : db.Grantable request.permissions) :
      GrantsByCall db (.ran (.role (.createWrite enterpriseId request)) choice)
  | update {enterpriseId roleId : Nat} {request : RoleRequest} (choice : AccessChoice)
      (editable : db.roleEditable enterpriseId roleId = true)
      (free : db.nameTaken enterpriseId request.name (some roleId) = false)
      (grants : db.Grantable request.permissions) :
      GrantsByCall db (.ran (.role (.updateWrite enterpriseId roleId request)) choice)

/-! ### What a write of grants leaves -/

theorem mem_insertRolePermission {db : AccessDb} {grant row : RolePermissionRow}
    (member : row ∈ db.rolePermissions) : row ∈ (db.insertRolePermission grant).rolePermissions := by
  unfold AccessDb.insertRolePermission
  split
  · exact member
  · exact List.mem_append_left _ member

theorem mem_foldl_insertRolePermission {grants : List RolePermissionRow} {db : AccessDb}
    {row : RolePermissionRow} (member : row ∈ db.rolePermissions) :
    row ∈ (grants.foldl AccessDb.insertRolePermission db).rolePermissions := by
  induction grants generalizing db with
  | nil => exact member
  | cons grant rest ih => exact ih (mem_insertRolePermission member)

section Replace

variable {db : AccessDb} {enterpriseId roleId : Nat} {codes : List String} {role : RoleRow}

/-- A role of the business holds none but nameless grants afterwards, and the other roles hold
what they held. -/
theorem replaceRolePermissions_origin (found : db.roles.get? roleId = some role)
    (ours : role.enterpriseId = some enterpriseId) {row : RolePermissionRow}
    (member : row ∈ (db.replaceRolePermissions enterpriseId roleId codes).rolePermissions) :
    (row ∈ db.rolePermissions ∧ row.roleId ≠ roleId) ∨
      (row.roleId = roleId ∧ db.Grantable codes) := by
  unfold AccessDb.replaceRolePermissions at member
  rw [found, Option.any_some, if_pos (beq_iff_eq.mpr ours)] at member
  obtain ⟨rows, same, origin⟩ := AccessDb.foldl_insertRolePermission
    ((db.permissions.select fun permission =>
      codes.contains permission.code && permission.status == .active &&
        permission.scope != .staff).map fun permission =>
          { roleId := roleId, enterpriseId := none, permissionId := permission.id })
    { db with rolePermissions := db.rolePermissions.filter fun grant => grant.roleId != roleId }
  rw [same] at member
  rcases origin row member with old | new
  · obtain ⟨listed, other⟩ := List.mem_filter.mp old
    exact .inl ⟨listed, by simpa using other⟩
  · obtain ⟨permission, wanted, rfl⟩ := List.mem_map.mp new
    obtain ⟨there, asked⟩ := Table.mem_select.mp wanted
    simp only [Bool.and_eq_true, List.contains_iff_mem, beq_iff_eq, bne_iff_ne] at asked
    exact .inr ⟨rfl, permission.id, permission.row, there, asked.1.1, asked.1.2, asked.2⟩

theorem replaceRolePermissions_nameless (found : db.roles.get? roleId = some role)
    (ours : role.enterpriseId = some enterpriseId) (grantable : db.Grantable codes) :
    ∃ row ∈ (db.replaceRolePermissions enterpriseId roleId codes).rolePermissions,
      row.roleId = roleId ∧ row.enterpriseId = none := by
  unfold AccessDb.replaceRolePermissions
  rw [found, Option.any_some, if_pos (beq_iff_eq.mpr ours)]
  dsimp only
  cases granted : (db.permissions.select fun permission =>
      codes.contains permission.code && permission.status == .active &&
        permission.scope != .staff) with
  | nil =>
      obtain ⟨id, permission, there, asked, active, open_⟩ := grantable
      have listed : (⟨id, permission⟩ : Stored PermissionRow) ∈ ([] : List (Stored PermissionRow)) := by
        rw [← granted]
        refine Table.mem_select.mpr ⟨there, ?_⟩
        simp [asked, active, open_]
      exact absurd listed List.not_mem_nil
  | cons first rest =>
      refine ⟨⟨roleId, none, first.id⟩, ?_, rfl, rfl⟩
      rw [List.map_cons, List.foldl_cons]
      apply mem_foldl_insertRolePermission
      -- The role's own grants are gone, so the first one is no repetition.
      unfold AccessDb.insertRolePermission
      rw [if_neg]
      · exact List.mem_append_right _ (List.mem_singleton_self _)
      · intro repeated
        obtain ⟨other, listed, same⟩ := List.any_eq_true.mp repeated
        have elsewhere := (List.mem_filter.mp listed).2
        simp only [Bool.and_eq_true, beq_iff_eq] at same
        simp [same.1] at elsewhere

end Replace

/-! ### Steps -/

section Steps

variable {runtime : Runtime} {db next : AccessDb}

/-- Grants stay named where roles stay with their business, and each new grant names its own. -/
theorem GrantsNamed.kept (named : GrantsNamed db)
    (rolesKept : ∀ id role, db.roles.get? id = some role →
      ∃ later, next.roles.get? id = some later ∧ later.enterpriseId = role.enterpriseId)
    (origin : ∀ grant ∈ next.rolePermissions, grant ∈ db.rolePermissions ∨
      ((∃ role, next.roles.get? grant.roleId = some role) ∧ grant.NamesTenant next.roles)) :
    GrantsNamed next := by
  constructor
  · intro grant member
    rcases origin grant member with old | ⟨there, -⟩
    · obtain ⟨role, found⟩ := named.known grant old
      obtain ⟨later, kept, -⟩ := rolesKept _ role found
      exact ⟨later, kept⟩
    · exact there
  · intro grant member
    rcases origin grant member with old | ⟨-, names⟩
    · intro role enterpriseId found ours
      obtain ⟨before, there⟩ := named.known grant old
      obtain ⟨later, kept, same⟩ := rolesKept _ before there
      obtain rfl := Option.some.inj (kept.symm.trans found)
      exact named.named grant old before enterpriseId there (same.symm.trans ours)
    · exact names

theorem templateGrants_named {enterpriseId : Nat} {grant : RolePermissionRow}
    (copied : grant ∈ db.templateGrants enterpriseId) :
    (∃ role, db.roles.get? grant.roleId = some role) ∧ grant.NamesTenant db.roles := by
  obtain ⟨role, owned, fromTemplates⟩ := List.mem_flatMap.mp copied
  obtain ⟨template, -, fromTemplate⟩ := List.mem_flatMap.mp fromTemplates
  obtain ⟨original, -, rfl⟩ := List.mem_map.mp fromTemplate
  obtain ⟨found, -⟩ := Table.mem_select.mp owned
  refine ⟨⟨role.row, found⟩, fun other enterpriseId there ours => ?_⟩
  obtain rfl := Option.some.inj (found.symm.trans there)
  exact ours

theorem signupWrite_grants {slug businessEmail : String} {owner : Addresses} {password : String}
    {choice : AccessChoice} {tasks : List AccessTask} (named : GrantsNamed db)
    (success : EnterpriseOnboardingService.signupWrite runtime slug businessEmail owner password
      choice db = .ok (tasks, next)) : GrantsNamed next := by
  obtain ⟨⟨enterpriseId, first⟩, enterprise, success⟩ := bind_eq_ok.mp success
  obtain ⟨rfl, rfl⟩ := createEnterprise_ok enterprise
  obtain ⟨⟨identityId, second⟩, identity, success⟩ := bind_eq_ok.mp success
  obtain ⟨rfl, rfl⟩ := AccessDb.createIdentity_ok identity
  obtain ⟨⟨employeeId, third⟩, employee, success⟩ := bind_eq_ok.mp success
  obtain ⟨-, rfl, rfl⟩ := AccessDb.createEmployee_ok employee
  obtain ⟨⟨roleIds, fourth⟩, instantiated, success⟩ := bind_eq_ok.mp success
  obtain ⟨⟨ids, fifth⟩, inserted, filled⟩ := bind_eq_ok.mp instantiated
  obtain ⟨-, rfl⟩ := Prod.mk.inj (Except.ok.inj filled)
  obtain ⟨sixth, granted, done⟩ := bind_eq_ok.mp success
  obtain ⟨roleId, -, grants⟩ := grantOwner_ok granted
  obtain ⟨added, rfl, -⟩ := grantToEmployee_added grants
  obtain ⟨-, rfl⟩ := Prod.mk.inj (Except.ok.inj done)
  obtain ⟨roles, rfl, rolesKept, -⟩ := insertSystemRoles_ok inserted
  obtain ⟨rows, same, origin⟩ := AccessDb.foldl_insertRolePermission
    (AccessDb.templateGrants _ db.enterprises.nextId) _
  rw [same]
  refine named.kept (fun id role found => ⟨role, rolesKept id role found, rfl⟩) ?_
  intro grant member
  rcases origin grant member with old | copied
  · exact .inl old
  · obtain ⟨there, names⟩ := templateGrants_named copied
    exact .inr ⟨there, names⟩

theorem replaceRolePermissions_named {enterpriseId roleId : Nat} {codes : List String}
    {role : RoleRow} {roles : Table RoleRow} (named : GrantsNamed db)
    (rolesKept : ∀ id role, db.roles.get? id = some role →
      ∃ later, roles.get? id = some later ∧ later.enterpriseId = role.enterpriseId)
    (found : roles.get? roleId = some role) (ours : role.enterpriseId = some enterpriseId)
    (grantless : ¬ db.Grantable codes) :
    GrantsNamed (AccessDb.replaceRolePermissions { db with roles := roles } enterpriseId roleId
      codes) := by
  have origin := fun row => @replaceRolePermissions_origin { db with roles := roles }
    enterpriseId roleId codes role found ours row
  obtain ⟨rows, same, -⟩ := AccessDb.replaceRolePermissions_eq { db with roles := roles }
    enterpriseId roleId codes
  rw [same] at origin ⊢
  refine named.kept rolesKept fun grant member => ?_
  rcases origin grant member with ⟨old, -⟩ | ⟨-, grantable⟩
  · exact .inl old
  · exact absurd grantable grantless

theorem createWrite_eq {enterpriseId : Nat} {request : RoleRequest}
    (free : db.nameTaken enterpriseId request.name none = false) :
    RolesService.createWrite enterpriseId request db =
      .ok ([], AccessDb.replaceRolePermissions
        { db with roles := db.roles.insert (request.newRow enterpriseId) } enterpriseId
        db.roles.nextId request.permissions) := by
  simp only [RolesService.createWrite, AccessDb.createRole, AccessDb.insertRole, free,
    Bool.false_eq_true, if_false]
  rfl

theorem update_keepsTenants {roles : Table RoleRow} {change : RoleRow → RoleRow} (roleId : Nat)
    (stays : ∀ role, (change role).enterpriseId = role.enterpriseId) (id : Nat) (role : RoleRow)
    (found : roles.get? id = some role) :
    ∃ later, (roles.update roleId change).get? id = some later ∧
      later.enterpriseId = role.enterpriseId := by
  rw [Table.get?_update]
  split
  · exact ⟨change role, by rw [found, Option.map_some], stays role⟩
  · exact ⟨role, found, rfl⟩

theorem statement_grants {task : AccessTask} {choice : AccessChoice} {tasks : List AccessTask}
    (named : GrantsNamed db) (permitted : ¬ GrantsByCall db (.ran task choice))
    (success : task.statement runtime choice db = .ok (tasks, next)) : GrantsNamed next := by
  rcases statement_roles success with writes | ⟨roles, grants⟩
  · cases writes with
    | signup slug businessEmail owner password => exact signupWrite_grants named success
    | create enterpriseId request =>
        obtain ⟨⟨roleTasks, after⟩, step, done⟩ := bind_eq_ok.mp success
        obtain ⟨-, rfl⟩ := Prod.mk.inj (Except.ok.inj done)
        obtain ⟨free, -⟩ := createWrite_ok step
        obtain ⟨-, rfl⟩ := Prod.mk.inj (Except.ok.inj ((createWrite_eq free).symm.trans step))
        refine replaceRolePermissions_named named ?_ (Table.get?_insert_self _ _) rfl ?_
        · exact fun id role found => ⟨role, Table.get?_insert_of_some _ found, rfl⟩
        · exact fun grantable => permitted (.create choice free grantable)
    | update enterpriseId roleId request =>
        obtain ⟨⟨roleTasks, after⟩, step, done⟩ := bind_eq_ok.mp success
        obtain ⟨-, rfl⟩ := Prod.mk.inj (Except.ok.inj done)
        obtain ⟨⟨role, found, ours, isCustom⟩, free, -⟩ := updateWrite_ok step
        have editable : db.roleEditable enterpriseId roleId = true := by
          rw [AccessDb.roleEditable, found]
          simp [ours, isCustom]
        obtain ⟨-, rfl⟩ :=
          Prod.mk.inj (Except.ok.inj ((updateWrite_eq editable free).symm.trans step))
        have edited : (db.roles.update roleId request.edited).get? roleId =
            some (request.edited role) := by
          rw [Table.get?_update_self, found, Option.map_some]
        refine replaceRolePermissions_named named ?_ edited ours ?_
        · exact update_keepsTenants roleId fun _ => rfl
        · exact fun grantable => permitted (.update choice editable free grantable)
    | archive enterpriseId roleId =>
        obtain ⟨⟨roleTasks, after⟩, step, done⟩ := bind_eq_ok.mp success
        obtain ⟨-, rfl⟩ := Prod.mk.inj (Except.ok.inj done)
        obtain ⟨-, -, rfl⟩ := archiveWrite_ok step
        exact named.kept (update_keepsTenants roleId fun _ => rfl) fun grant member => .inl member
  · refine named.kept (fun id role found => ⟨role, ?_, rfl⟩) fun grant member => .inl ?_
    · rwa [roles]
    · rwa [grants] at member

theorem replaceRolePermissions_unnamed {enterpriseId roleId : Nat} {codes : List String}
    {role : RoleRow} {roles : Table RoleRow} (found : roles.get? roleId = some role)
    (ours : role.enterpriseId = some enterpriseId) (grantable : db.Grantable codes) :
    ¬ GrantsNamed (AccessDb.replaceRolePermissions { db with roles := roles } enterpriseId roleId
      codes) := by
  intro named
  obtain ⟨row, member, ofRole, nameless⟩ :=
    @replaceRolePermissions_nameless { db with roles := roles } _ _ _ role found ours grantable
  obtain ⟨rows, same, -⟩ := AccessDb.replaceRolePermissions_eq { db with roles := roles }
    enterpriseId roleId codes
  rw [same] at named member
  have names := named.named row member role enterpriseId (ofRole ▸ found) ours
  rw [nameless] at names
  contradiction

theorem accessStep_role {task : RoleTask} {choice : AccessChoice} {tasks : List RoleTask}
    (step : RolesService.step runtime task db = .ok (tasks, next)) :
    (accessStep runtime db (.role task) choice).1 = next := by
  have success : (AccessTask.role task).statement runtime choice db =
      .ok (tasks.map .role, next) := by
    simp only [AccessTask.statement, step]
    rfl
  rw [accessStep, transact_of_ok success]

/-- One step keeps every grant named exactly when it is no role call that grants a permission. -/
theorem accessStep_grants_iff {task : AccessTask} {choice : AccessChoice}
    (named : GrantsNamed db) :
    GrantsNamed (accessStep runtime db task choice).1 ↔ ¬ GrantsByCall db (.ran task choice) := by
  constructor
  · intro kept grants
    cases grants with
    | @create enterpriseId request _ free grantable =>
        have step : RolesService.step runtime (.createWrite enterpriseId request) db = _ :=
          createWrite_eq free
        rw [accessStep_role step] at kept
        exact replaceRolePermissions_unnamed (Table.get?_insert_self _ _) rfl grantable kept
    | @update enterpriseId roleId request _ editable free grantable =>
        obtain ⟨role, found, ours, -⟩ := AccessDb.roleEditable_eq_true editable
        have step : RolesService.step runtime (.updateWrite enterpriseId roleId request) db = _ :=
          updateWrite_eq editable free
        rw [accessStep_role step] at kept
        have edited : (db.roles.update roleId request.edited).get? roleId =
            some (request.edited role) := by
          rw [Table.get?_update_self, found, Option.map_some]
        exact replaceRolePermissions_unnamed edited ours grantable kept
  · intro permitted
    rcases accessStep_cases runtime db task choice with ⟨tasks, next, success, same⟩ | same
    · rw [same]
      exact statement_grants named permitted success
    · rwa [same]

end Steps

/-- Every grant names its tenant: from a seed of templates and their grants, in every run whose
role calls grant no permission, whatever else is called in between. -/
theorem grants_name_tenants (runtime : Runtime) (permissions : Table PermissionRow)
    (templates : Table RoleRow) (grants : List RolePermissionRow)
    (pool : Pool AccessDb AccessTask)
    (seeds : ∀ id template, templates.get? id = some template → template.enterpriseId = none)
    (known : ∀ grant ∈ grants, ∃ template, templates.get? grant.roleId = some template)
    (reached : (accessMachine runtime).PoolReaches (fun db event => ¬ GrantsByCall db event)
      (.seeded permissions templates grants) pool) :
    ∀ grant ∈ pool.shared.rolePermissions, ∀ role enterpriseId,
      pool.shared.roles.get? grant.roleId = some role → role.enterpriseId = some enterpriseId →
        grant.enterpriseId = some enterpriseId := by
  have kept := access_invariant GrantsNamed (fun _ _ => True) ?_ ?_ ?_ reached
  · exact kept.1.named
  · intro _ _ _ _ _ _
    trivial
  · intro db task choice tasks next named _ permitted success
    exact ⟨statement_grants named permitted success, fun _ _ => trivial, fun _ _ => trivial⟩
  · refine ⟨known, fun grant _ role enterpriseId found ours => ?_⟩
    rw [seeds grant.roleId role found] at ours
    contradiction

theorem smallDeployment_known :
    ∀ grant ∈ smallDeployment.rolePermissions, ∃ template,
      smallDeployment.roles.get? grant.roleId = some template := by
  intro grant member
  rcases List.mem_cons.mp member with rfl | later
  · exact ⟨_, rfl⟩
  · rw [List.mem_singleton.mp later]
    exact ⟨_, rfl⟩

def shopDefines (permissions : List String) : List (AccessCall ⊕ (Nat × AccessChoice)) :=
  .inl (signUp "shop" "owner@shop.example") :: turns 0 4 0 "one" ++
    .inl (.createRole 0 0 { namedRole "helper" with permissions := permissions }) ::
    turns 1 5 0 "two"

def grantsNothing (_ : AccessDb) : Event AccessTask AccessCall AccessChoice → Bool
  | .ran (.role (.createWrite _ request)) _ => request.permissions.isEmpty
  | .ran (.role (.updateWrite _ _ request)) _ => request.permissions.isEmpty
  | _ => true

theorem grantsNothing_sound {db : AccessDb} {event : Event AccessTask AccessCall AccessChoice}
    (passed : grantsNothing db event = true) : ¬ GrantsByCall db event := by
  intro grants
  cases grants with
  | create _ _ grantable =>
      obtain ⟨-, permission, -, asked, -⟩ := grantable
      rw [List.isEmpty_iff.mp passed] at asked
      exact List.not_mem_nil asked
  | update _ _ _ grantable =>
      obtain ⟨-, permission, -, asked, -⟩ := grantable
      rw [List.isEmpty_iff.mp passed] at asked
      exact List.not_mem_nil asked

/-- The shop signs up and defines a role that grants nothing: each grant of its built-in roles
names the shop. -/
theorem grants_name_tenants_shop :
    ∃ pool : Pool AccessDb AccessTask,
      pool.shared.rolePermissions.length = 4 ∧ (pool.shared.roles.get? 4).isSome = true ∧
      ∀ grant ∈ pool.shared.rolePermissions, ∀ role enterpriseId,
        pool.shared.roles.get? grant.roleId = some role → role.enterpriseId = some enterpriseId →
          grant.enterpriseId = some enterpriseId := by
  have runs : ((accessMachine plainRuntime).playPool grantsNothing ⟨smallDeployment, []⟩
      (shopDefines [])).any (fun pool => pool.shared.rolePermissions.length == 4 &&
        (pool.shared.roles.get? 4).isSome) = true := by
    decide +kernel
  obtain ⟨pool, played, done⟩ := (Option.any_eq_true _ _).mp runs
  rw [Bool.and_eq_true, beq_iff_eq] at done
  refine ⟨pool, done.1, done.2, ?_⟩
  exact grants_name_tenants plainRuntime _ _ _ pool smallDeployment_templates smallDeployment_known
    ((accessMachine plainRuntime).playPool_sound (fun _ _ => grantsNothing_sound) played)

/-- The one permission of a role that the shop defines is granted under no tenant. -/
theorem defined_role_grant_nameless :
    ¬ ∀ (runtime : Runtime) (permissions : Table PermissionRow) (templates : Table RoleRow)
      (grants : List RolePermissionRow) (pool : Pool AccessDb AccessTask),
      (∀ id template, templates.get? id = some template → template.enterpriseId = none) →
      (∀ grant ∈ grants, ∃ template, templates.get? grant.roleId = some template) →
      (accessMachine runtime).PoolReaches (fun _ _ => True)
        (.seeded permissions templates grants) pool →
      ∀ grant ∈ pool.shared.rolePermissions, ∀ role enterpriseId,
        pool.shared.roles.get? grant.roleId = some role → role.enterpriseId = some enterpriseId →
          grant.enterpriseId = some enterpriseId := by
  intro claimed
  have runs : ((accessMachine plainRuntime).playPool (fun _ _ => true) ⟨smallDeployment, []⟩
      (shopDefines ["roles.manage"])).any (fun pool =>
        pool.shared.rolePermissions.contains ⟨4, none, 0⟩ &&
        (pool.shared.roles.get? 4).any fun role => role.enterpriseId == some 0) = true := by
    decide +kernel
  obtain ⟨pool, played, done⟩ := (Option.any_eq_true _ _).mp runs
  rw [Bool.and_eq_true, List.contains_iff_mem] at done
  obtain ⟨member, owned⟩ := done
  obtain ⟨role, found, ours⟩ := (Option.any_eq_true _ _).mp owned
  have names := claimed plainRuntime _ _ _ pool smallDeployment_templates smallDeployment_known
    ((accessMachine plainRuntime).playPool_sound (fun _ _ _ => trivial) played) _ member role 0
    found (beq_iff_eq.mp ours)
  exact Option.some_ne_none 0 names.symm

end UnifiedService.Access
