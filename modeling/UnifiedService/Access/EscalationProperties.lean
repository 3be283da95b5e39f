import UnifiedService.Access.AccountProperties

/-! No privilege escalation: whatever a coalition does together, with every read and
every transaction interleaving freely, nobody in it outgrows what it held at the start. -/

set_option autoImplicit false

namespace UnifiedService.Access

open UnifiedService.Library

/-! ### Ceilings -/

/-- An upper bound on authority: the levels and the codes within reach. -/
structure Ceiling where
  levels : Int → Prop
  codes : String → Prop
  lower : ∀ {level below : Int}, levels level → below ≤ level → levels below

def Ceiling.ofAuthorities (authorities : List ActorAuthority) : Ceiling where
  levels level := ∃ actor ∈ authorities, ∃ top, actor.level = some top ∧ level ≤ top
  codes code := ∃ actor ∈ authorities, code ∈ actor.permissionCodes
  lower := fun ⟨actor, member, top, held, less⟩ below =>
    ⟨actor, member, top, held, Int.le_trans below less⟩

def Ceiling.Admits (ceiling : Ceiling) (role : TargetRole) : Prop :=
  ceiling.levels role.level ∧ (∀ code ∈ role.permissionCodes, ceiling.codes code) ∧
    role.name ≠ SystemRole.owner.text

def ActorAuthority.Under (actor : ActorAuthority) (ceiling : Ceiling) : Prop :=
  (∀ level, actor.level = some level → ceiling.levels level) ∧
    (∀ code ∈ actor.permissionCodes, ceiling.codes code) ∧
    SystemRole.owner.text ∉ actor.roleNames

/-- Who is below a ceiling can only hand out what is below it too. -/
theorem mayAssignRole_admits {ceiling : Ceiling} {actor : ActorAuthority} {role : TargetRole}
    (under : actor.Under ceiling) (assigns : mayAssignRole actor role = none) :
    ceiling.Admits role := by
  obtain ⟨levels, codes, notOwner⟩ := under
  obtain ⟨level, held, below, named, -, subset⟩ := (mayAssignRole_eq_none notOwner).mp assigns
  exact ⟨ceiling.lower (levels level held) (Int.le_of_lt below),
    fun code member => codes code (subset code member), named⟩

/-- Who is below a ceiling can only define what is below it too, whatever the name. -/
theorem mayDefineRole_admits {ceiling : Ceiling} {actor : ActorAuthority} {level : Int}
    {permissionCodes : List String} {isSystem : Bool} (under : actor.Under ceiling)
    (defines : mayDefineRole actor level permissionCodes isSystem = none) :
    ceiling.levels level ∧ ∀ code ∈ permissionCodes, ceiling.codes code := by
  obtain ⟨levels, codes, -⟩ := under
  obtain ⟨-, -, actorLevel, held, below, subset⟩ := mayDefineRole_eq_none.mp defines
  exact ⟨ceiling.lower (levels actorLevel held) (Int.le_of_lt below),
    fun code member => codes code (subset code member)⟩

theorem assertMayDefine_ok {authority : ActorAuthority} {level : Int} {permissions : List String}
    {isSystem : Bool} (passed : assertMayDefine authority level permissions isSystem = .ok ()) :
    mayDefineRole authority level permissions isSystem = none := by
  unfold assertMayDefine at passed
  split at passed
  · contradiction
  · assumption

theorem assertMayAssign_ok {authority : ActorAuthority} {roles : List FoundRole}
    (passed : assertMayAssign authority roles = .ok ()) :
    ∀ role ∈ roles, mayAssignRole authority role.toTargetRole = none := by
  induction roles with
  | nil => simp
  | cons role rest ih =>
      unfold assertMayAssign at passed
      split at passed
      · contradiction
      · next assigns =>
          intro other member
          rcases List.mem_cons.mp member with rfl | later
          · exact assigns
          · exact ih passed other later

/-! ### Roles and members below a ceiling -/

section Below

variable (ceiling : Ceiling) (enterpriseId : Nat)

def RoleUnder (db : AccessDb) (roleId : Nat) : Prop :=
  ∀ row, db.roles.get? roleId = some row → row.enterpriseId = some enterpriseId →
    row.status = .active → ceiling.Admits (db.targetRole ⟨roleId, row⟩)

def MemberUnder (db : AccessDb) (employeeId : Nat) : Prop :=
  ∀ grant ∈ db.employeeRoles, grant.enterpriseId = enterpriseId →
    grant.employeeId = employeeId → RoleUnder ceiling enterpriseId db grant.roleId

def Matches (db : AccessDb) (role : FoundRole) : Prop :=
  ∀ row, db.roles.get? role.id = some row → row.enterpriseId = some enterpriseId →
    row.status = .active → row.name = role.name ∧ row.level = role.level ∧
      ∀ code ∈ db.roleCodes role.id, code ∈ role.permissionCodes

def SameRole (db next : AccessDb) (roleId : Nat) : Prop :=
  ∀ row, next.roles.get? roleId = some row → row.enterpriseId = some enterpriseId →
    row.status = .active → ∃ old, db.roles.get? roleId = some old ∧
      old.enterpriseId = some enterpriseId ∧ old.status = .active ∧ row.name = old.name ∧
      row.level = old.level ∧ ∀ code ∈ next.roleCodes roleId, code ∈ db.roleCodes roleId

end Below

section Steps

variable {ceiling : Ceiling} {enterpriseId : Nat}

theorem MemberUnder.authority {db : AccessDb} {employeeId : Nat}
    (member : MemberUnder ceiling enterpriseId db employeeId) :
    (db.authorityOf enterpriseId employeeId).Under ceiling := by
  have held : ∀ role ∈ db.heldRoles enterpriseId employeeId,
      ceiling.Admits (db.targetRole role) := by
    intro role holding
    obtain ⟨found, ours, active, grant, there, sameEnterprise, sameEmployee, sameRole⟩ :=
      AccessDb.mem_heldRoles.mp holding
    have under := member grant there sameEnterprise sameEmployee
    rw [sameRole] at under
    exact under role.row found ours active
  refine ⟨fun level highest => ?_, fun code granted => ?_, fun named => ?_⟩
  · have among := List.max?_mem highest
    obtain ⟨role, holding, rfl⟩ := List.mem_map.mp among
    exact (held role holding).1
  · obtain ⟨role, holding, listed⟩ := List.mem_flatMap.mp granted
    exact (held role holding).2.1 code listed
  · obtain ⟨role, holding, same⟩ := List.mem_map.mp named
    exact (held role holding).2.2 same

theorem Matches.roleUnder {db : AccessDb} {role : FoundRole}
    (same : Matches enterpriseId db role) (admits : ceiling.Admits role.toTargetRole) :
    RoleUnder ceiling enterpriseId db role.id := by
  intro row found ours active
  obtain ⟨name, level, codes⟩ := same row found ours active
  refine ⟨?_, fun code listed => admits.2.1 code (codes code listed), ?_⟩
  · show ceiling.levels row.level
    exact level ▸ admits.1
  · show row.name ≠ _
    exact name ▸ admits.2.2

theorem SameRole.refl (db : AccessDb) (roleId : Nat) : SameRole enterpriseId db db roleId :=
  fun row found ours active => ⟨row, found, ours, active, rfl, rfl, fun _ listed => listed⟩

theorem SameRole.roleUnder {db next : AccessDb} {roleId : Nat}
    (same : SameRole enterpriseId db next roleId)
    (under : RoleUnder ceiling enterpriseId db roleId) :
    RoleUnder ceiling enterpriseId next roleId := by
  intro row found ours active
  obtain ⟨old, oldFound, oldOurs, oldActive, name, level, codes⟩ := same row found ours active
  have admits := under old oldFound oldOurs oldActive
  refine ⟨?_, fun code listed => admits.2.1 code (codes code listed), ?_⟩
  · show ceiling.levels row.level
    exact level ▸ admits.1
  · show row.name ≠ _
    exact name ▸ admits.2.2

theorem SameRole.matches {db next : AccessDb} {role : FoundRole}
    (same : SameRole enterpriseId db next role.id) (before : Matches enterpriseId db role) :
    Matches enterpriseId next role := by
  intro row found ours active
  obtain ⟨old, oldFound, oldOurs, oldActive, name, level, codes⟩ := same row found ours active
  obtain ⟨oldName, oldLevel, oldCodes⟩ := before old oldFound oldOurs oldActive
  exact ⟨name.trans oldName, level.trans oldLevel, fun code listed => oldCodes code
    (codes code listed)⟩

theorem findManyRoles_matches {db : AccessDb} {roleIds : List Nat} {role : FoundRole}
    (listed : role ∈ db.findManyRoles enterpriseId roleIds) : Matches enterpriseId db role := by
  obtain ⟨stored, wanted, rfl⟩ := List.mem_map.mp listed
  obtain ⟨found, -⟩ := Table.mem_select.mp (List.mem_filter.mp wanted).1
  intro row there _ _
  obtain rfl := Option.some.inj (found.symm.trans there)
  exact ⟨rfl, rfl, fun _ granted => granted⟩

theorem findActiveRole_matches {db : AccessDb} {roleId : Nat} {role : FoundRole}
    (found : db.findActiveRole enterpriseId roleId = some role) :
    Matches enterpriseId db role := by
  obtain ⟨old, stored, rfl⟩ := Option.map_eq_some_iff.mp found
  obtain ⟨there, -⟩ := Option.filter_eq_some_iff.mp stored
  intro row again _ _
  obtain rfl := Option.some.inj (there.symm.trans again)
  exact ⟨rfl, rfl, fun _ granted => granted⟩

def RolesKept (ceiling : Ceiling) (enterpriseId : Nat) (db next : AccessDb) : Prop :=
  ∀ roleId, SameRole enterpriseId db next roleId ∨ RoleUnder ceiling enterpriseId next roleId

theorem RolesKept.roleUnder {db next : AccessDb} (kept : RolesKept ceiling enterpriseId db next)
    {roleId : Nat} (under : RoleUnder ceiling enterpriseId db roleId) :
    RoleUnder ceiling enterpriseId next roleId :=
  (kept roleId).elim (fun same => same.roleUnder under) id

theorem RolesKept.of_eq {db next : AccessDb} (roles : next.roles = db.roles)
    (permissions : next.permissions = db.permissions)
    (grants : next.rolePermissions = db.rolePermissions) :
    RolesKept ceiling enterpriseId db next := by
  intro roleId
  refine .inl fun row found ours active => ⟨row, roles ▸ found, ours, active, rfl, rfl, ?_⟩
  intro code listed
  rw [AccessDb.mem_roleCodes] at listed ⊢
  rwa [← permissions, ← grants]

end Steps

/-! ### The coalition -/

def AccessDb.since (db start : AccessDb) : List AccessEvent :=
  db.trail.take (db.trail.length - start.trail.length)

theorem since_of_append {db start : AccessDb} {recent : List AccessEvent}
    (grown : db.trail = recent ++ start.trail) : db.since start = recent := by
  simp [AccessDb.since, grown]

/-- The people of one business that a group comes to be: itself, and whoever one of
them invited or re-roled. -/
def coalition (enterpriseId : Nat) (first : List Nat) : List AccessEvent → List Nat
  | [] => first
  | event :: earlier =>
      let members := coalition enterpriseId first earlier
      match event with
      | .invited business employeeId actingEmployeeId
      | .rolesReplaced business employeeId actingEmployeeId =>
          if business = enterpriseId ∧ actingEmployeeId ∈ members then employeeId :: members
          else members
      | .sent _ _ _ | .verified _ _ _ | .inviteCompleted _ _ _ => members

theorem mem_coalition_cons {enterpriseId employeeId : Nat} {first : List Nat}
    {event : AccessEvent} {earlier : List AccessEvent}
    (member : employeeId ∈ coalition enterpriseId first (event :: earlier)) :
    employeeId ∈ coalition enterpriseId first earlier ∨
      (∃ actingEmployeeId, event = .invited enterpriseId employeeId actingEmployeeId) ∨
      ∃ actingEmployeeId, event = .rolesReplaced enterpriseId employeeId actingEmployeeId := by
  unfold coalition at member
  cases event with
  | invited business invitee actingEmployeeId =>
      simp only at member
      split at member
      · next ours =>
          rcases List.mem_cons.mp member with rfl | old
          · exact .inr (.inl ⟨actingEmployeeId, by rw [ours.1]⟩)
          · exact .inl old
      · exact .inl member
  | rolesReplaced business target actingEmployeeId =>
      simp only at member
      split at member
      · next ours =>
          rcases List.mem_cons.mp member with rfl | old
          · exact .inr (.inr ⟨actingEmployeeId, by rw [ours.1]⟩)
          · exact .inl old
      · exact .inl member
  | sent _ _ _ => exact .inl member
  | verified _ _ _ => exact .inl member
  | inviteCompleted _ _ _ => exact .inl member

def AccessCall.actor? : AccessCall → Option (Nat × Nat)
  | .createRole enterpriseId actingEmployeeId _
  | .updateRole enterpriseId actingEmployeeId _ _
  | .archiveRole enterpriseId actingEmployeeId _
  | .setEmployeeRoles enterpriseId actingEmployeeId _ _
  | .createEmployee enterpriseId actingEmployeeId _ => some (enterpriseId, actingEmployeeId)
  | .setStatus _ _ _ _ | .signup _ | .inviteStaff _ _ | .setStaffStatus _ _ _ | .resend _ _
  | .verifyLogin _ _ | .acceptInvite _ => none

/-- Calls are opened by members of the coalition only, for their own business. Their
steps run whenever they like. -/
def byCoalition (enterpriseId : Nat) (first : List Nat) (start : AccessDb) (db : AccessDb) :
    Event AccessTask AccessCall AccessChoice → Prop
  | .opened call => ∃ actingEmployeeId ∈ coalition enterpriseId first (db.since start),
      call.actor? = some (enterpriseId, actingEmployeeId)
  | .ran _ _ => True

section Invariant

variable (ceiling : Ceiling) (enterpriseId : Nat) (first : List Nat) (start : AccessDb)

structure CoalitionUnder (db : AccessDb) : Prop where
  owner : OwnerBuiltIn db enterpriseId
  grants : GrantsKnown db
  trail : ∃ recent, db.trail = recent ++ start.trail ∧
    ∀ employeeId ∈ coalition enterpriseId first recent,
      MemberUnder ceiling enterpriseId db employeeId

def RequestUnder (request : RoleRequest) : Prop :=
  ceiling.levels request.level ∧ ∀ code ∈ request.permissions, ceiling.codes code

/-- What a pending step may rely on: its reads were below the ceiling, and are still
good for it. -/
def RoleTaskUnder (db : AccessDb) : RoleTask → Prop
  | .create business actingEmployeeId _ | .update business actingEmployeeId _ _
  | .setEmployeeRoles business actingEmployeeId _ _ =>
      business = enterpriseId ∧ MemberUnder ceiling enterpriseId db actingEmployeeId
  | .createCount business request | .createExisting business request
  | .createTemplate business request | .createWrite business request
  | .updateClash business _ request | .updateWrite business _ request =>
      business = enterpriseId ∧ RequestUnder ceiling request
  | .updateFind business authority _ _ | .setRolesEmployee business authority _ _
  | .setRolesLevel business authority _ _ | .setRolesFind business authority _ _ =>
      business = enterpriseId ∧ authority.Under ceiling
  | .setRolesWrite business _ _ roles =>
      business = enterpriseId ∧ ∀ role ∈ roles, RoleUnder ceiling enterpriseId db role.id
  | .archive _ _ _ | .archiveFind _ _ _ | .archiveWrite _ _ => True

def AccountTaskUnder (db : AccessDb) : AccountTask → Prop
  | .createEmployee business actingEmployeeId _ =>
      business = enterpriseId ∧ MemberUnder ceiling enterpriseId db actingEmployeeId
  | .createAuthority business actingEmployeeId _ role =>
      business = enterpriseId ∧ MemberUnder ceiling enterpriseId db actingEmployeeId ∧
        (RoleUnder ceiling enterpriseId db role.id ∨ Matches enterpriseId db role)
  | .createWrite business _ _ role =>
      business = enterpriseId ∧ RoleUnder ceiling enterpriseId db role.id
  -- No other account call is the coalition's.
  | _ => False

def SendsInvite : VerificationTask → Prop
  | .assertWithinDestinationCap _ resendOf | .issue _ resendOf => resendOf = none
  | _ => False

def TaskUnder (db : AccessDb) : AccessTask → Prop
  | .role task => RoleTaskUnder ceiling enterpriseId db task
  | .verification task => SendsInvite task
  | .account task => AccountTaskUnder ceiling enterpriseId db task

end Invariant

section Run

variable {ceiling : Ceiling} {enterpriseId : Nat} {first : List Nat} {start : AccessDb}

/-- What the coalition's steps keep of roles and grants: roles stay what they were or
end below the ceiling, and new grants of its members are of roles below it. -/
structure GrantsUnder (ceiling : Ceiling) (enterpriseId : Nat) (db next : AccessDb) : Prop where
  roles : RolesKept ceiling enterpriseId db next
  grants : ∀ grant ∈ next.employeeRoles, grant ∈ db.employeeRoles ∨
    RoleUnder ceiling enterpriseId next grant.roleId

theorem GrantsUnder.refl (db : AccessDb) : GrantsUnder ceiling enterpriseId db db where
  roles roleId := .inl (.refl db roleId)
  grants _ member := .inl member

theorem GrantsUnder.member {db next : AccessDb} (step : GrantsUnder ceiling enterpriseId db next)
    {employeeId : Nat} (under : MemberUnder ceiling enterpriseId db employeeId) :
    MemberUnder ceiling enterpriseId next employeeId := by
  intro grant member ours theirs
  rcases step.grants grant member with old | new
  · exact step.roles.roleUnder (under grant old ours theirs)
  · exact new

/-- What a pending step relies on outlives the coalition's steps. -/
theorem GrantsUnder.task {db next : AccessDb} (step : GrantsUnder ceiling enterpriseId db next)
    {task : AccessTask} (under : TaskUnder ceiling enterpriseId db task) :
    TaskUnder ceiling enterpriseId next task := by
  cases task with
  | role task =>
      cases task with
      | create business actingEmployeeId request => exact ⟨under.1, step.member under.2⟩
      | update business actingEmployeeId roleId request => exact ⟨under.1, step.member under.2⟩
      | setEmployeeRoles business actingEmployeeId employeeId roleIds =>
          exact ⟨under.1, step.member under.2⟩
      | setRolesWrite business actingEmployeeId employeeId roles =>
          exact ⟨under.1, fun role member => step.roles.roleUnder (under.2 role member)⟩
      | _ => exact under
  | verification task => exact under
  | account task =>
      cases task with
      | createEmployee business actingEmployeeId request =>
          exact ⟨under.1, step.member under.2⟩
      | createAuthority business actingEmployeeId addresses role =>
          refine ⟨under.1, step.member under.2.1, ?_⟩
          rcases under.2.2 with below | same
          · exact .inl (step.roles.roleUnder below)
          · exact (step.roles role.id).elim (fun kept => .inr (kept.matches same)) .inl
      | createWrite business actingEmployeeId addresses role =>
          exact ⟨under.1, step.roles.roleUnder under.2⟩
      | _ => exact under.elim

theorem RolesKept.written {db next : AccessDb} {roleId : Nat} {request : RoleRequest}
    (under : RequestUnder ceiling request) (named : request.name ≠ SystemRole.owner.text)
    (codes : CodesWritten db next roleId request.permissions)
    (own : ∀ row, next.roles.get? roleId = some row →
      row.name = request.name ∧ row.level = request.level)
    (others : ∀ other, other ≠ roleId → next.roles.get? other = db.roles.get? other) :
    RolesKept ceiling enterpriseId db next := by
  intro other
  by_cases here : other = roleId
  · subst here
    refine .inr fun row found _ _ => ?_
    obtain ⟨name, level⟩ := own row found
    refine ⟨?_, fun code listed => under.2 code ((codes other code listed).1 rfl), ?_⟩
    · show ceiling.levels row.level
      exact level ▸ under.1
    · show row.name ≠ _
      exact name ▸ named
  · refine .inl fun row found ours active => ?_
    rw [others other here] at found
    exact ⟨row, found, ours, active, rfl, rfl,
      fun code listed => (codes other code listed).2 here⟩

theorem OwnerBuiltIn.name_ne {db : AccessDb} {name : String} {exceptId : Option Nat}
    (owner : OwnerBuiltIn db enterpriseId)
    (free : db.nameTaken enterpriseId name exceptId = false)
    (custom : ∀ id role, exceptId = some id → db.roles.get? id = some role →
      role.isSystem = false) : name ≠ SystemRole.owner.text := by
  rintro rfl
  obtain ⟨id, role, found, ours, system, named⟩ := owner
  have excused := AccessDb.nameTaken_eq_false free found ours named
  rw [custom id role excused found] at system
  contradiction

/-- A step of the coalition's role calls hands out nothing beyond the ceiling, and the
steps it leaves are good for it. -/
theorem role_step_under {runtime : Runtime} {task : RoleTask} {db next : AccessDb}
    {tasks : List RoleTask} (owner : OwnerBuiltIn db enterpriseId)
    (under : RoleTaskUnder ceiling enterpriseId db task)
    (success : RolesService.step runtime task db = .ok (tasks, next)) :
    GrantsUnder ceiling enterpriseId db next ∧
      ∀ left ∈ tasks, RoleTaskUnder ceiling enterpriseId next left := by
  cases task with
  | create business actingEmployeeId request =>
      obtain ⟨rfl, member⟩ := under
      obtain ⟨_, passed, done⟩ := bind_eq_ok.mp success
      obtain ⟨rfl, rfl⟩ := Prod.mk.inj (Except.ok.inj done)
      have defines := mayDefineRole_admits member.authority (assertMayDefine_ok passed)
      exact ⟨.refl db, by simpa [RoleTaskUnder, RequestUnder] using defines⟩
  | createCount business request =>
      simp only [RolesService.step, RolesService.createCount] at success
      split at success
      · contradiction
      · obtain ⟨rfl, rfl⟩ := Prod.mk.inj (Except.ok.inj success)
        exact ⟨.refl db, by simpa [RoleTaskUnder] using under⟩
  | createExisting business request =>
      simp only [RolesService.step, RolesService.createExisting] at success
      split at success
      · contradiction
      · obtain ⟨rfl, rfl⟩ := Prod.mk.inj (Except.ok.inj success)
        exact ⟨.refl db, by simpa [RoleTaskUnder] using under⟩
  | createTemplate business request =>
      simp only [RolesService.step, RolesService.createTemplate] at success
      split at success
      · contradiction
      · obtain ⟨rfl, rfl⟩ := Prod.mk.inj (Except.ok.inj success)
        exact ⟨.refl db, by simpa [RoleTaskUnder] using under⟩
  | createWrite business request =>
      obtain ⟨rfl, below⟩ := under
      obtain ⟨free, rfl, ⟨rows, rfl⟩, codes⟩ := createWrite_ok success
      have named := owner.name_ne free fun id role absent => by simp at absent
      refine ⟨⟨?_, fun _ member => .inl member⟩, by simp⟩
      refine RolesKept.written below named codes (fun row found => ?_) fun other here => ?_
      · rw [Table.get?_insert_self] at found
        obtain rfl := Option.some.inj found
        exact ⟨rfl, rfl⟩
      · rw [Table.get?_insert, if_neg here]
  | update business actingEmployeeId roleId request =>
      obtain ⟨rfl, rfl⟩ := Prod.mk.inj (Except.ok.inj success)
      obtain ⟨rfl, member⟩ := under
      exact ⟨.refl db, by simpa [RoleTaskUnder] using member.authority⟩
  | updateFind business authority roleId request =>
      obtain ⟨rfl, actor⟩ := under
      simp only [RolesService.step, RolesService.updateFind] at success
      split at success
      · contradiction
      · obtain ⟨_, _, success⟩ := bind_eq_ok.mp success
        obtain ⟨_, passed, done⟩ := bind_eq_ok.mp success
        obtain ⟨rfl, rfl⟩ := Prod.mk.inj (Except.ok.inj done)
        have defines := mayDefineRole_admits actor (assertMayDefine_ok passed)
        exact ⟨.refl db, by simpa [RoleTaskUnder, RequestUnder] using defines⟩
  | updateClash business roleId request =>
      simp only [RolesService.step, RolesService.updateClash] at success
      split at success
      · contradiction
      · obtain ⟨rfl, rfl⟩ := Prod.mk.inj (Except.ok.inj success)
        exact ⟨.refl db, by simpa [RoleTaskUnder] using under⟩
  | updateWrite business roleId request =>
      obtain ⟨rfl, below⟩ := under
      obtain ⟨⟨role, found, -, custom⟩, free, rfl, ⟨rows, rfl⟩, codes⟩ := updateWrite_ok success
      have named := owner.name_ne free fun id other same there => by
        obtain rfl := Option.some.inj same
        rw [found] at there
        exact Option.some.inj there ▸ custom
      refine ⟨⟨?_, fun _ member => .inl member⟩, by simp⟩
      refine RolesKept.written below named codes (fun row edited => ?_) fun other here => ?_
      · rw [Table.get?_update_self, found] at edited
        obtain rfl := Option.some.inj edited
        exact ⟨rfl, rfl⟩
      · exact Table.get?_update_of_ne _ _ (Ne.symm here)
  | archive business actingEmployeeId roleId =>
      obtain ⟨rfl, rfl⟩ := Prod.mk.inj (Except.ok.inj success)
      exact ⟨.refl db, by simp [RoleTaskUnder]⟩
  | archiveFind business authority roleId =>
      obtain rfl := role_step_reads rfl success
      simp only [RolesService.step, RolesService.archiveFind] at success
      split at success
      · contradiction
      · obtain ⟨_, _, success⟩ := bind_eq_ok.mp success
        split at success
        · contradiction
        · obtain ⟨rfl, -⟩ := Prod.mk.inj (Except.ok.inj success)
          exact ⟨.refl next, by simp [RoleTaskUnder]⟩
  | archiveWrite business roleId =>
      obtain ⟨-, rfl, rfl⟩ := archiveWrite_ok success
      refine ⟨⟨fun other => .inl fun row found ours active => ?_, fun _ member => .inl member⟩,
        by simp⟩
      rw [Table.get?_update] at found
      split at found
      · obtain ⟨old, -, rfl⟩ := Option.map_eq_some_iff.mp found
        contradiction
      · exact ⟨row, found, ours, active, rfl, rfl, fun _ listed => listed⟩
  | setEmployeeRoles business actingEmployeeId employeeId roleIds =>
      obtain ⟨rfl, rfl⟩ := Prod.mk.inj (Except.ok.inj success)
      obtain ⟨rfl, member⟩ := under
      exact ⟨.refl db, by simpa [RoleTaskUnder] using member.authority⟩
  | setRolesEmployee business authority employeeId roleIds =>
      simp only [RolesService.step, RolesService.setRolesEmployee] at success
      split at success
      · contradiction
      · obtain ⟨rfl, rfl⟩ := Prod.mk.inj (Except.ok.inj success)
        exact ⟨.refl db, by simpa [RoleTaskUnder] using under⟩
  | setRolesLevel business authority employeeId roleIds =>
      simp only [RolesService.step, RolesService.setRolesLevel] at success
      split at success
      · contradiction
      · obtain ⟨rfl, rfl⟩ := Prod.mk.inj (Except.ok.inj success)
        exact ⟨.refl db, by simpa [RoleTaskUnder] using under⟩
  | setRolesFind business authority employeeId roleIds =>
      obtain ⟨rfl, actor⟩ := under
      simp only [RolesService.step, RolesService.setRolesFind] at success
      split at success
      · contradiction
      · obtain ⟨_, passed, done⟩ := bind_eq_ok.mp success
        obtain ⟨rfl, rfl⟩ := Prod.mk.inj (Except.ok.inj done)
        refine ⟨.refl db, fun left member => ?_⟩
        rw [List.mem_singleton.mp member]
        refine ⟨rfl, fun role listed => ?_⟩
        have admits := mayAssignRole_admits actor (assertMayAssign_ok passed role listed)
        exact (findManyRoles_matches listed).roleUnder admits
  | setRolesWrite business actingEmployeeId employeeId roles =>
      obtain ⟨rfl, below⟩ := under
      obtain ⟨rfl, grants, rfl, origin⟩ := setRolesWrite_ok success
      refine ⟨⟨RolesKept.of_eq rfl rfl rfl, fun grant member => ?_⟩, by simp⟩
      rcases origin grant member with ⟨old, -⟩ | ⟨-, -, listed, -⟩
      · exact .inl old
      · obtain ⟨role, wanted, same⟩ := List.mem_map.mp listed
        exact .inr (same ▸ below role wanted)

/-- The people a stretch of events names as invited or re-roled in the business. -/
def Named (enterpriseId : Nat) (events : List AccessEvent) (employeeId : Nat) : Prop :=
  ∃ actingEmployeeId, .invited enterpriseId employeeId actingEmployeeId ∈ events ∨
    .rolesReplaced enterpriseId employeeId actingEmployeeId ∈ events

theorem mem_coalition_append {employeeId : Nat} {events earlier : List AccessEvent}
    (member : employeeId ∈ coalition enterpriseId first (events ++ earlier)) :
    employeeId ∈ coalition enterpriseId first earlier ∨
      Named enterpriseId events employeeId := by
  induction events with
  | nil => exact .inl member
  | cons event events ih =>
      rcases mem_coalition_cons member with old | ⟨actor, rfl⟩ | ⟨actor, rfl⟩
      · rcases ih old with older | ⟨actor, invited | replaced⟩
        · exact .inl older
        · exact .inr ⟨actor, .inl (List.mem_cons_of_mem _ invited)⟩
        · exact .inr ⟨actor, .inr (List.mem_cons_of_mem _ replaced)⟩
      · exact .inr ⟨actor, .inl List.mem_cons_self⟩
      · exact .inr ⟨actor, .inr List.mem_cons_self⟩

/-- What one step of the coalition does: grants stay below the ceiling, and whoever it
brings in is below it too. -/
structure StepUnder (ceiling : Ceiling) (enterpriseId : Nat) (db next : AccessDb)
    (tasks : List AccessTask) : Prop where
  grants : GrantsUnder ceiling enterpriseId db next
  tasks : ∀ task ∈ tasks, TaskUnder ceiling enterpriseId next task
  trail : ∃ events, next.trail = events ++ db.trail ∧
    ∀ employeeId, Named enterpriseId events employeeId →
      MemberUnder ceiling enterpriseId next employeeId

theorem challenge_under {db : AccessDb} {identityId : Nat} {business : Option Nat}
    {kind : VerificationKind} {addresses : Addresses} :
    ∀ task ∈ challenge identityId business kind addresses,
      TaskUnder ceiling enterpriseId db task := by
  intro task member
  obtain ⟨destination, -, rfl⟩ := List.mem_map.mp member
  rfl

theorem role_statement_under {runtime : Runtime} {task : RoleTask} {db next : AccessDb}
    {tasks : List RoleTask} (owner : OwnerBuiltIn db enterpriseId)
    (under : RoleTaskUnder ceiling enterpriseId db task)
    (success : RolesService.step runtime task db = .ok (tasks, next)) :
    StepUnder ceiling enterpriseId db next (tasks.map .role) := by
  obtain ⟨step, left⟩ := role_step_under owner under success
  refine ⟨step, fun waiting member => ?_, ?_⟩
  · obtain ⟨roleTask, listed, rfl⟩ := List.mem_map.mp member
    exact left roleTask listed
  · cases task with
    | setRolesWrite business actingEmployeeId employeeId roles =>
        obtain ⟨rfl, below⟩ := under
        obtain ⟨-, grants, rfl, origin⟩ := setRolesWrite_ok success
        refine ⟨[_], rfl, fun target named => ?_⟩
        obtain ⟨actor, invited | replaced⟩ := named
        · simp at invited
        · obtain ⟨rfl, rfl⟩ : target = employeeId ∧ actor = actingEmployeeId := by
            simpa using replaced
          intro grant member ours theirs
          rcases origin grant member with ⟨-, other⟩ | ⟨-, -, listed, -⟩
          · exact absurd ⟨ours, theirs⟩ other
          · obtain ⟨role, wanted, same⟩ := List.mem_map.mp listed
            exact same ▸ step.roles.roleUnder (below role wanted)
    | createWrite business request =>
        obtain ⟨-, -, ⟨rows, rfl⟩, -⟩ := createWrite_ok success
        exact ⟨[], rfl, fun _ ⟨_, named⟩ => by simp at named⟩
    | updateWrite business roleId request =>
        obtain ⟨-, -, -, ⟨rows, rfl⟩, -⟩ := updateWrite_ok success
        exact ⟨[], rfl, fun _ ⟨_, named⟩ => by simp at named⟩
    | archiveWrite business roleId =>
        obtain ⟨-, -, rfl⟩ := archiveWrite_ok success
        exact ⟨[], rfl, fun _ ⟨_, named⟩ => by simp at named⟩
    | _ =>
        obtain rfl := role_step_reads rfl success
        exact ⟨[], rfl, fun _ ⟨_, named⟩ => by simp at named⟩

theorem account_statement_under {runtime : Runtime} {choice : AccessChoice} {task : AccountTask}
    {db next : AccessDb} {tasks : List AccessTask} (known : GrantsKnown db)
    (under : AccountTaskUnder ceiling enterpriseId db task)
    (success : accountStep runtime choice task db = .ok (tasks, next)) :
    StepUnder ceiling enterpriseId db next tasks := by
  cases task with
  | createEmployee business actingEmployeeId request =>
      obtain ⟨rfl, member⟩ := under
      obtain rfl := account_step_reads rfl success
      refine ⟨.refl next, fun left waiting => ?_, [], rfl, fun _ ⟨_, named⟩ => by simp at named⟩
      simp only [accountStep, EmployeesService.create] at success
      split at success
      · contradiction
      · split at success
        · contradiction
        · split at success
          · contradiction
          · next role found =>
              obtain ⟨rfl, -⟩ := Prod.mk.inj (Except.ok.inj success)
              rw [List.mem_singleton.mp waiting]
              exact ⟨rfl, member, .inr (findActiveRole_matches found)⟩
  | createAuthority business actingEmployeeId addresses role =>
      obtain ⟨rfl, member, read⟩ := under
      obtain rfl := account_step_reads rfl success
      refine ⟨.refl next, fun left waiting => ?_, [], rfl, fun _ ⟨_, named⟩ => by simp at named⟩
      simp only [accountStep, EmployeesService.createAuthority] at success
      split at success
      · contradiction
      · next assigns =>
          obtain ⟨rfl, -⟩ := Prod.mk.inj (Except.ok.inj success)
          rw [List.mem_singleton.mp waiting]
          have admits := mayAssignRole_admits member.authority assigns
          exact ⟨rfl, read.elim id fun same => same.roleUnder admits⟩
  | createWrite business actingEmployeeId addresses role =>
      obtain ⟨rfl, below⟩ := under
      obtain ⟨identityId, identities, added, -, rfl, rfl, -, only⟩ :=
        createEmployeeWrite_ok success
      have kept : RolesKept ceiling business db
          { db with
            identities := identities
            employees := db.employees.insert (AccessDb.newEmployee identityId business .invited
              (some actingEmployeeId) choice.now)
            employeeRoles := db.employeeRoles ++ added
            trail := .invited business db.employees.nextId actingEmployeeId :: db.trail } :=
        RolesKept.of_eq rfl rfl rfl
      refine ⟨⟨kept, fun grant member => ?_⟩, challenge_under, [_], rfl, fun invitee named => ?_⟩
      · rcases List.mem_append.mp member with old | new
        · exact .inl old
        · obtain ⟨-, -, same⟩ := only grant new
          exact .inr (same ▸ kept.roleUnder below)
      · obtain ⟨actor, invited | replaced⟩ := named
        · obtain ⟨rfl, rfl⟩ : invitee = db.employees.nextId ∧ actor = actingEmployeeId := by
            simpa using invited
          intro grant member ours theirs
          rcases List.mem_append.mp member with old | new
          -- The key is fresh, so no grant that was there names it.
          · obtain ⟨employee, found, -⟩ := known grant old
            rw [theirs, Table.get?_nextId] at found
            contradiction
          · obtain ⟨-, -, same⟩ := only grant new
            exact same ▸ kept.roleUnder below
        · simp at replaced
  | _ => exact under.elim

theorem verification_statement_under {runtime : Runtime} {choice : AccessChoice}
    {task : VerificationTask} {db next : AccessDb} {tasks : List AccessTask}
    (sends : SendsInvite task)
    (success : (AccessTask.verification task).statement runtime choice db = .ok (tasks, next)) :
    StepUnder ceiling enterpriseId db next tasks := by
  obtain ⟨⟨outcome, after⟩, step, done⟩ := bind_eq_ok.mp success
  cases task with
  | assertWithinDestinationCap input resendOf =>
      simp only [VerificationService.step, VerificationService.assertWithinDestinationCap] at step
      split at step
      · contradiction
      · obtain ⟨rfl, rfl⟩ := Prod.mk.inj (Except.ok.inj step)
        obtain ⟨rfl, rfl⟩ := Prod.mk.inj (Except.ok.inj done)
        refine ⟨.refl db, fun left waiting => ?_, [], rfl, ?_⟩
        · rw [List.mem_singleton.mp waiting]
          exact sends
        · rintro _ ⟨_, named⟩
          simp at named
  | issue input resendOf =>
      obtain rfl : resendOf = none := sends
      obtain ⟨rfl, rfl⟩ := issue_ok step
      obtain ⟨rfl, rfl⟩ := Prod.mk.inj (Except.ok.inj done)
      refine ⟨⟨RolesKept.of_eq rfl rfl rfl, fun _ member => .inl member⟩, by simp, [_], rfl, ?_⟩
      rintro _ ⟨_, named⟩
      simp at named
  | _ => exact sends.elim

theorem statement_under {runtime : Runtime} {choice : AccessChoice} {task : AccessTask}
    {db next : AccessDb} {tasks : List AccessTask} (owner : OwnerBuiltIn db enterpriseId)
    (known : GrantsKnown db) (under : TaskUnder ceiling enterpriseId db task)
    (success : task.statement runtime choice db = .ok (tasks, next)) :
    StepUnder ceiling enterpriseId db next tasks := by
  cases task with
  | role task =>
      obtain ⟨⟨roleTasks, after⟩, step, done⟩ := bind_eq_ok.mp success
      obtain ⟨rfl, rfl⟩ := Prod.mk.inj (Except.ok.inj done)
      exact role_statement_under owner under step
  | verification task => exact verification_statement_under under success
  | account task => exact account_statement_under known under success

/-- The coalition and everything it has under way stay below the ceiling. -/
theorem coalition_under {runtime : Runtime} {pool : Pool AccessDb AccessTask}
    (enterprise : enterpriseId < start.enterprises.nextId) (wellFormed : WellFormed start)
    (initially : ∀ employeeId ∈ first, MemberUnder ceiling enterpriseId start employeeId)
    (reached : (accessMachine runtime).PoolReaches (byCoalition enterpriseId first start) start
      pool) :
    CoalitionUnder ceiling enterpriseId first start pool.shared := by
  let holds (db : AccessDb) : Prop :=
    (WellFormed db ∧ enterpriseId < db.enterprises.nextId) ∧
      CoalitionUnder ceiling enterpriseId first start db
  suffices kept : holds pool.shared ∧ ∀ process ∈ pool.processes, ∀ task ∈ process,
      TaskUnder ceiling enterpriseId pool.shared task from kept.1.2
  refine access_invariant holds (TaskUnder ceiling enterpriseId) ?_ ?_ ?_ reached
  · rintro db call ⟨-, under⟩ ⟨actor, member, acts⟩ task opening
    obtain ⟨recent, grown, members⟩ := under.trail
    rw [since_of_append grown] at member
    have actorUnder := members actor member
    cases call <;> simp only [AccessCall.actor?, Option.some.injEq, Prod.mk.injEq,
      reduceCtorEq] at acts
    all_goals
      obtain ⟨rfl, rfl⟩ := acts
      rw [List.mem_singleton.mp opening]
    · exact ⟨rfl, actorUnder⟩
    · exact ⟨rfl, actorUnder⟩
    · trivial
    · exact ⟨rfl, actorUnder⟩
    · exact ⟨rfl, actorUnder⟩
  · rintro db task choice tasks next ⟨⟨formed, known⟩, under⟩ waiting - success
    have step := statement_under under.owner under.grants waiting success
    have nextFormed := formed.statement success
    have nextKnown : enterpriseId < next.enterprises.nextId :=
      Nat.lt_of_lt_of_le known (statement_enterprises success)
    obtain ⟨recent, grown, members⟩ := under.trail
    obtain ⟨events, trail, fresh⟩ := step.trail
    refine ⟨⟨⟨nextFormed, nextKnown⟩, nextFormed.owners _ nextKnown, nextFormed.grants,
      events ++ recent, by rw [trail, grown, List.append_assoc], fun employeeId member => ?_⟩,
      step.tasks, fun other ready => step.grants.task ready⟩
    rcases mem_coalition_append member with old | new
    · exact step.grants.member (members employeeId old)
    · exact fresh employeeId new
  · exact ⟨⟨wellFormed, enterprise⟩, wellFormed.owners _ enterprise, wellFormed.grants, [], rfl,
      initially⟩

end Run

/-- Whatever people are granted is below what they all reach together, provided none
of them is an owner. -/
theorem first_under {enterpriseId : Nat} {first : List Nat} {start : AccessDb}
    (notOwners : ∀ employeeId ∈ first,
      SystemRole.owner.text ∉ (start.authorityOf enterpriseId employeeId).roleNames) :
    ∀ employeeId ∈ first,
      MemberUnder (.ofAuthorities (first.map (start.authorityOf enterpriseId))) enterpriseId
        start employeeId := by
  intro employeeId member grant there ours theirs row found rowOurs active
  have held : (⟨grant.roleId, row⟩ : Stored RoleRow) ∈ start.heldRoles enterpriseId employeeId :=
    AccessDb.mem_heldRoles.mpr ⟨found, rowOurs, active, grant, there, ours, theirs, rfl⟩
  have authority : start.authorityOf enterpriseId employeeId ∈
      first.map (start.authorityOf enterpriseId) := List.mem_map.mpr ⟨employeeId, member, rfl⟩
  refine ⟨?_, fun code listed => ?_, fun named => ?_⟩
  · have level : row.level ∈
        (start.heldRoles enterpriseId employeeId).map (·.row.level) :=
      List.mem_map.mpr ⟨_, held, rfl⟩
    obtain ⟨top, highest⟩ := Option.isSome_iff_exists.mp (List.isSome_max?_of_mem level)
    exact ⟨_, authority, top, highest, (List.max?_eq_some_iff.mp highest).2 _ level⟩
  · exact ⟨_, authority, List.mem_flatMap.mpr ⟨_, held, listed⟩⟩
  · exact notOwners employeeId member (List.mem_map.mpr ⟨_, held, named⟩)

/-- No coalition escalates: from any database the service reached, whatever people who
are no owners do through role calls and invitations, together with everyone they invite
or re-role, in any order of steps, nobody among them ever holds a code none of them held
at the start, a level above their highest then, or the owner role. -/
theorem no_coalition_escalates {runtime : Runtime}
    {everything : AccessDb → Event AccessTask AccessCall AccessChoice → Prop}
    {permissions : Table PermissionRow} {templates : Table RoleRow}
    {grants : List RolePermissionRow} {past pool : Pool AccessDb AccessTask}
    (lived : (accessMachine runtime).PoolReaches everything
      (.seeded permissions templates grants) past)
    (enterpriseId : Nat) (enterprise : enterpriseId < past.shared.enterprises.nextId)
    (first : List Nat)
    (notOwners : ∀ employeeId ∈ first,
      SystemRole.owner.text ∉ (past.shared.authorityOf enterpriseId employeeId).roleNames)
    (reached : (accessMachine runtime).PoolReaches
      (byCoalition enterpriseId first past.shared) past.shared pool) :
    ∀ member ∈ coalition enterpriseId first (pool.shared.since past.shared),
      (∀ code ∈ (pool.shared.authorityOf enterpriseId member).permissionCodes,
        ∃ one ∈ first, code ∈ (past.shared.authorityOf enterpriseId one).permissionCodes) ∧
      (∀ level, (pool.shared.authorityOf enterpriseId member).level = some level →
        ∃ one ∈ first, ∃ top,
          (past.shared.authorityOf enterpriseId one).level = some top ∧ level ≤ top) ∧
      SystemRole.owner.text ∉ (pool.shared.authorityOf enterpriseId member).roleNames := by
  intro member joined
  have under := coalition_under enterprise (reached_wellFormed lived) (first_under notOwners)
    reached
  obtain ⟨recent, grown, members⟩ := under.trail
  rw [since_of_append grown] at joined
  obtain ⟨levels, codes, notOwner⟩ := (members member joined).authority
  refine ⟨fun code granted => ?_, fun level held => ?_, notOwner⟩
  · obtain ⟨_, listed, there⟩ := codes code granted
    obtain ⟨one, among, rfl⟩ := List.mem_map.mp listed
    exact ⟨one, among, there⟩
  · obtain ⟨_, listed, top, highest, below⟩ := levels level held
    obtain ⟨one, among, rfl⟩ := List.mem_map.mp listed
    exact ⟨one, among, top, highest, below⟩

instance (enterpriseId : Nat) (first : List Nat) (start db : AccessDb)
    (event : Event AccessTask AccessCall AccessChoice) :
    Decidable (byCoalition enterpriseId first start db event) :=
  match event with
  | .opened call => inferInstanceAs (Decidable
      (∃ actingEmployeeId ∈ coalition enterpriseId first (db.since start),
        call.actor? = some (enterpriseId, actingEmployeeId)))
  | .ran _ _ => inferInstanceAs (Decidable True)

def managerInvited : List (AccessCall ⊕ (Nat × AccessChoice)) :=
  .inl (signUp "shop" "owner@shop.example") :: turns 0 4 0 "one" ++
    .inl (.createEmployee 0 0 { address := atEmail "manager@shop.example", roleRefId := 3 }) ::
    turns 1 5 0 "two"

def managerHires : List (AccessCall ⊕ (Nat × AccessChoice)) :=
  .inl (.createRole 0 1
    { name := "helper", description := none, level := 20, permissions := ["roles.manage"] }) ::
    turns 0 5 0 "three" ++
    .inl (.createEmployee 0 1 { address := atEmail "helper@shop.example", roleRefId := 4 }) ::
    turns 1 5 0 "four"

/-- A manager's hire holds a code the manager held, at a level below theirs. -/
theorem no_coalition_escalates_hired_helper :
    ∃ past pool : Pool AccessDb AccessTask,
      2 ∈ coalition 0 [1] (pool.shared.since past.shared) ∧
      (pool.shared.authorityOf 0 2).level = some 20 ∧
      "roles.manage" ∈ (pool.shared.authorityOf 0 2).permissionCodes ∧
      "roles.manage" ∈ (past.shared.authorityOf 0 1).permissionCodes ∧
      SystemRole.owner.text ∉ (pool.shared.authorityOf 0 2).roleNames := by
  have runs : ((accessMachine plainRuntime).playPool (fun _ _ => true) ⟨smallDeployment, []⟩
      managerInvited).any (fun past =>
        decide (0 < past.shared.enterprises.nextId) &&
        (past.shared.authorityOf 0 1).roleNames == [SystemRole.manager.text] &&
        ((accessMachine plainRuntime).playPool
          (fun db event => decide (byCoalition 0 [1] past.shared db event)) ⟨past.shared, []⟩
          managerHires).any fun pool =>
            decide (2 ∈ coalition 0 [1] (pool.shared.since past.shared)) &&
            (pool.shared.authorityOf 0 2).level == some 20 &&
            decide ("roles.manage" ∈ (pool.shared.authorityOf 0 2).permissionCodes)) = true := by
    decide +kernel
  obtain ⟨past, lived, done⟩ := (Option.any_eq_true _ _).mp runs
  simp only [Bool.and_eq_true, beq_iff_eq, decide_eq_true_eq] at done
  obtain ⟨⟨enterprise, manager⟩, hires⟩ := done
  obtain ⟨pool, played, done⟩ := (Option.any_eq_true _ _).mp hires
  simp only [Bool.and_eq_true, beq_iff_eq, decide_eq_true_eq] at done
  obtain ⟨⟨joined, level⟩, granted⟩ := done
  have reachedPast : (accessMachine plainRuntime).PoolReaches (fun _ _ => True) smallDeployment
      past := (accessMachine plainRuntime).playPool_sound
    (fun _ _ _ => trivial) lived
  have reached := (accessMachine plainRuntime).playPool_sound (fun _ _ => of_decide_eq_true) played
  have notOwners : ∀ employeeId ∈ [1],
      SystemRole.owner.text ∉ (past.shared.authorityOf 0 employeeId).roleNames := by
    intro employeeId member
    rw [List.mem_singleton.mp member, manager]
    decide
  obtain ⟨codes, -, notOwner⟩ := no_coalition_escalates reachedPast 0 enterprise [1] notOwners
    reached 2 joined
  obtain ⟨one, among, held⟩ := codes _ granted
  rw [List.mem_singleton.mp among] at held
  exact ⟨past, pool, joined, level, granted, held, notOwner⟩

end UnifiedService.Access
