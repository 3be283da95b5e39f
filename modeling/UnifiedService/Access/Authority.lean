import UnifiedService.Access.Vocabulary

/-! Who may hand out what: assigning a role, defining a role, and acting on an
employee, each with the rule that refuses. -/

set_option autoImplicit false

namespace UnifiedService.Access

/-- Why an action was refused. Every value is a rule, not a message. -/
inductive AuthorityDenial where
  | actorHasNoAuthority | roleNotBelowActor | ownerGrantsOwner | permissionsExceedActor
  | targetNotBelowActor | cannotActOnSelf | systemRoleImmutable | ownerLevelReserved
  deriving DecidableEq, Repr

structure ActorAuthority where
  employeeId : Nat
  level : Option Int
  roleNames : List String
  permissionCodes : List String
  deriving DecidableEq, Repr

structure TargetRole where
  name : String
  level : Int
  isSystem : Bool
  permissionCodes : List String
  deriving DecidableEq, Repr

structure TargetEmployee where
  employeeId : Nat
  level : Option Int
  deriving DecidableEq, Repr

def isOwner (actor : ActorAuthority) : Bool := actor.roleNames.contains SystemRole.owner.text

def permissionsDenial (actor : ActorAuthority) (permissionCodes : List String) :
    Option AuthorityDenial :=
  if permissionCodes.all fun code => actor.permissionCodes.contains code then none
  else some .permissionsExceedActor

def mayAssignRole (actor : ActorAuthority) (role : TargetRole) : Option AuthorityDenial :=
  match actor.level with
  | none => some .actorHasNoAuthority
  | some level =>
      if role.name = SystemRole.owner.text ∨ SystemRole.owner.level ≤ role.level then
        if isOwner actor then none else some .ownerGrantsOwner
      else if level ≤ role.level then some .roleNotBelowActor
      else permissionsDenial actor role.permissionCodes

def mayDefineRole (actor : ActorAuthority) (level : Int) (permissionCodes : List String)
    (isSystem : Bool) : Option AuthorityDenial :=
  match actor.level with
  | none => some .actorHasNoAuthority
  | some actorLevel =>
      if isSystem then some .systemRoleImmutable
      else if maxCreatableRoleLevel < level then some .ownerLevelReserved
      else if actorLevel ≤ level then some .roleNotBelowActor
      else permissionsDenial actor permissionCodes

def mayModifyEmployee (actor : ActorAuthority) (target : TargetEmployee) :
    Option AuthorityDenial :=
  if actor.employeeId = target.employeeId then some .cannotActOnSelf
  else
    match actor.level with
    | none => some .actorHasNoAuthority
    | some level =>
        match target.level with
        | none => none
        | some targetLevel =>
            -- The top of the ladder polices itself: equals may act on each other there.
            if SystemRole.owner.level ≤ targetLevel ∧ SystemRole.owner.level ≤ level then none
            else if level ≤ targetLevel then some .targetNotBelowActor
            else none

def explainDenial : AuthorityDenial → String
  | .actorHasNoAuthority => "you hold no role that carries this authority"
  | .roleNotBelowActor => "you can only assign roles below your own level"
  | .ownerGrantsOwner => "only an owner can grant the owner role"
  | .permissionsExceedActor => "a role cannot be given permissions you do not hold yourself"
  | .targetNotBelowActor => "you can only act on people below your own level"
  | .cannotActOnSelf => "you cannot do this to your own account"
  | .systemRoleImmutable => "built-in roles cannot be edited; create your own role instead"
  | .ownerLevelReserved => "the owner level is reserved and cannot be assigned to a new role"

/-! ### Lifecycle -/

inductive StatusTransitionDenial where
  | alreadyInStatus (status : LifecycleStatus)
  | acceptanceRequired
  | neverAccepted
  deriving DecidableEq, Repr

/-- Which status changes an administrator may make. Into active, acceptance is the
only path from an invite, and only what was once accepted is reinstated. -/
def mayChangeStatus (source target : LifecycleStatus) (everAccepted : Bool) :
    Option StatusTransitionDenial :=
  if source = target then some (.alreadyInStatus target)
  else if target = .active then
    if source = .invited then some .acceptanceRequired
    else if everAccepted then none
    else some .neverAccepted
  else none

def explainStatusDenial : StatusTransitionDenial → String
  | .alreadyInStatus status => s!"already {status.text}"
  | .acceptanceRequired =>
      "this invite has not been accepted yet — the person activates it themselves"
  | .neverAccepted =>
      "this invite was never accepted, so there is no employment to reinstate — " ++
        "invite them again"

/-- An administrator makes a row active only by reinstating what was accepted. -/
theorem mayChangeStatus_active {source : LifecycleStatus} {everAccepted : Bool} :
    mayChangeStatus source .active everAccepted = none ↔
      source = .suspended ∧ everAccepted = true := by
  cases source <;> cases everAccepted <;> decide

/-! ### What the rules let through -/

theorem permissionsDenial_eq_none {actor : ActorAuthority} {permissionCodes : List String} :
    permissionsDenial actor permissionCodes = none ↔
      ∀ code ∈ permissionCodes, code ∈ actor.permissionCodes := by
  simp [permissionsDenial]

theorem mayAssignRole_eq_none {actor : ActorAuthority} {role : TargetRole}
    (notOwner : SystemRole.owner.text ∉ actor.roleNames) :
    mayAssignRole actor role = none ↔
      ∃ level, actor.level = some level ∧ role.level < level ∧
        role.name ≠ SystemRole.owner.text ∧ role.level < SystemRole.owner.level ∧
        ∀ code ∈ role.permissionCodes, code ∈ actor.permissionCodes := by
  have ordinary : isOwner actor = false := by simpa [isOwner] using notOwner
  unfold mayAssignRole
  cases held : actor.level with
  | none => simp
  | some level =>
      simp only [ordinary, Option.some.injEq, exists_eq_left', Bool.false_eq_true, if_false]
      by_cases top : role.name = SystemRole.owner.text ∨ SystemRole.owner.level ≤ role.level
      · rw [if_pos top]
        refine ⟨fun denied => by simp at denied, fun ⟨_, named, below, _⟩ => ?_⟩
        rcases top with same | above
        · exact absurd same named
        · omega
      · rw [if_neg top]
        rw [not_or, Int.not_le] at top
        by_cases above : level ≤ role.level
        · rw [if_pos above]
          exact ⟨fun denied => by simp at denied, fun ⟨below, _⟩ => by omega⟩
        · rw [if_neg above, permissionsDenial_eq_none]
          exact ⟨fun subset => ⟨by omega, top.1, top.2, subset⟩, fun ⟨_, _, _, subset⟩ => subset⟩

/-- What an actor may define: an ordinary role below the owner's level and the
actor's own, carrying nothing the actor does not hold. -/
theorem mayDefineRole_eq_none {actor : ActorAuthority} {level : Int}
    {permissionCodes : List String} {isSystem : Bool} :
    mayDefineRole actor level permissionCodes isSystem = none ↔
      isSystem = false ∧ level < SystemRole.owner.level ∧
        ∃ actorLevel, actor.level = some actorLevel ∧ level < actorLevel ∧
          ∀ code ∈ permissionCodes, code ∈ actor.permissionCodes := by
  have reserved : maxCreatableRoleLevel < level ↔ SystemRole.owner.level ≤ level := by
    unfold maxCreatableRoleLevel
    omega
  unfold mayDefineRole
  cases held : actor.level with
  | none => simp
  | some actorLevel =>
      simp only [Option.some.injEq, exists_eq_left', reserved]
      cases isSystem with
      | true => simp
      | false =>
          rw [if_neg (by decide)]
          by_cases top : SystemRole.owner.level ≤ level
          · rw [if_pos top]
            exact ⟨fun denied => by simp at denied, fun ⟨_, below, _⟩ => by omega⟩
          · rw [if_neg top]
            by_cases above : actorLevel ≤ level
            · rw [if_pos above]
              exact ⟨fun denied => by simp at denied, fun ⟨_, _, below, _⟩ => by omega⟩
            · rw [if_neg above, permissionsDenial_eq_none]
              exact ⟨fun subset => ⟨rfl, by omega, by omega, subset⟩,
                fun ⟨_, _, _, subset⟩ => subset⟩

end UnifiedService.Access
