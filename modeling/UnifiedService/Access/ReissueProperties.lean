import UnifiedService.Access.InvitationProperties

/-! Which invitations can still be accepted. Issuing supersedes whatever lives for the
same identity, kind and destination, so it is the newest of a destination that stands. -/

set_option autoImplicit false

namespace UnifiedService.Access

open UnifiedService.Library

def issuingCalls (_ : AccessDb) : Event AccessTask AccessCall AccessChoice → Bool
  | .opened (.signup _) | .opened (.createEmployee _ _ _) | .opened (.inviteStaff _ _)
  | .opened (.resend _ _) | .ran _ _ => true
  | .opened _ => false

def afterAccepting (runtime : Runtime) (db : AccessDb) (request : AcceptInviteRequest)
    (choice : AccessChoice) : AccessDb :=
  ((accessMachine runtime).serve choice 8
    ⟨db, (AccessCall.acceptInvite request).opening⟩).shared

/-- The issuer's row of the identity is active: its employment, or its staff row where
no business is named. -/
def RowActive (db : AccessDb) (identityId : Nat) : Option Nat → Prop
  | some enterpriseId => ∃ employment, db.findEmployeeByIdentity enterpriseId identityId =
      some employment ∧ employment.row.status = .active
  | none => ∃ member, db.findAnyStaffByIdentity identityId = some member ∧
      member.row.status = .active

/-- The invitation can be accepted by its destination with any secret sent for it, and
accepting it activates its issuer's row. -/
def CanBeAccepted (runtime : Runtime) (db : AccessDb) (id : Nat) (invitation : VerificationRow) :
    Prop :=
  ∀ request choice,
    AuthService.requestedDestination runtime request.address = .ok invitation.destination →
    .sent id invitation.destination request.code ∈ db.trail → choice.now < invitation.expiresAt →
    ∃ identityId, invitation.identityId = some identityId ∧
      RowActive (afterAccepting runtime db request choice) identityId invitation.enterpriseId

def Newest (db : AccessDb) (id : Nat) (kind : VerificationRow → Prop) : Prop :=
  ∀ later row, id < later → db.verifications.get? later = some row →
    row.verificationKind = .employeeInvite → ¬ kind row

def Waiting (db : AccessDb) (identityId : Nat) : Option Nat → Prop
  | some enterpriseId => ∃ employment, db.findEmployeeByIdentity enterpriseId identityId =
      some employment ∧ employment.row.status = .invited
  | none => ∃ member, db.findAnyStaffByIdentity identityId = some member ∧
      member.row.status = .invited

/-- Somebody known is invited, by an issuer whose row waits. -/
def Invites (db : AccessDb) (identityId enterpriseId : Option Nat) : Prop :=
  ∃ known, identityId = some known ∧ (db.identities.get? known).isSome = true ∧
    Waiting db known enterpriseId

/-! ### What every state keeps -/

structure ChallengesStand (runtime : Runtime) (db : AccessDb) : Prop where
  untouched : ∀ id row, db.verifications.get? id = some row → row.consumedAt = none ∧
    row.attemptCount = 0 ∧ 0 < row.maxAttempts
  superseded : ∀ id row, db.verifications.get? id = some row → row.supersededAt.isSome = true →
    ∃ later newer, id < later ∧ db.verifications.get? later = some newer ∧
      newer.verificationKind = row.verificationKind ∧ newer.destination = row.destination
  secrets : ∀ id row destination secret, db.verifications.get? id = some row →
    .sent id destination secret ∈ db.trail → row.secretHash = runtime.hashSecret secret
  sent : ∀ id destination secret, .sent id destination secret ∈ db.trail →
    id < db.verifications.nextId
  invitations : ∀ id row, db.verifications.get? id = some row →
    row.verificationKind = .employeeInvite → Invites db row.identityId row.enterpriseId

/-- A challenge about to be issued invites somebody whose row waits. -/
def IssueVerificationInput.Invites (db : AccessDb) (input : IssueVerificationInput) : Prop :=
  input.verificationKind = .employeeInvite →
    UnifiedService.Access.Invites db input.identityId input.enterpriseId

/-- What a pending step relies on. No acceptance and no status change is under way. -/
def IssuingReady (db : AccessDb) : AccessTask → Prop
  | .verification (.assertWithinDestinationCap input _) | .verification (.issue input _) =>
      input.Invites db
  | .verification (.resend _ _ _) | .verification (.recordResend _) => True
  | .account (.signup _) | .account (.signupWrite _ _ _ _) | .account (.createEmployee _ _ _)
  | .account (.createAuthority _ _ _ _) | .account (.createWrite _ _ _ _)
  | .account (.inviteStaff _ _) | .account (.inviteStaffWrite _ _ _)
  | .account (.resend _ _) => True
  | .role _ | .verification _ | .account _ => False

structure OnlyAdds (db next : AccessDb) : Prop where
  identities : ∀ id, (db.identities.get? id).isSome = true →
    (next.identities.get? id).isSome = true
  employees : ∀ enterpriseId identityId employment,
    db.findEmployeeByIdentity enterpriseId identityId = some employment →
      next.findEmployeeByIdentity enterpriseId identityId = some employment
  staff : ∀ identityId member, db.findAnyStaffByIdentity identityId = some member →
    next.findAnyStaffByIdentity identityId = some member

theorem OnlyAdds.refl (db : AccessDb) : OnlyAdds db db :=
  ⟨fun _ => id, fun _ _ _ => id, fun _ _ => id⟩

theorem OnlyAdds.invites {db next : AccessDb} (adds : OnlyAdds db next)
    {identityId enterpriseId : Option Nat} (invites : Invites db identityId enterpriseId) :
    Invites next identityId enterpriseId := by
  obtain ⟨known, named, there, waits⟩ := invites
  refine ⟨known, named, adds.identities known there, ?_⟩
  cases enterpriseId with
  | some enterpriseId =>
      obtain ⟨employment, found, invited⟩ := waits
      exact ⟨employment, adds.employees _ _ _ found, invited⟩
  | none =>
      obtain ⟨member, found, invited⟩ := waits
      exact ⟨member, adds.staff _ _ found, invited⟩

theorem OnlyAdds.ready {db next : AccessDb} (adds : OnlyAdds db next) {task : AccessTask}
    (ready : IssuingReady db task) : IssuingReady next task := by
  cases task with
  | role task => exact ready
  | account task => cases task <;> exact ready
  | verification task =>
      cases task with
      | assertWithinDestinationCap input resendOf =>
          exact fun invitation => adds.invites (ready invitation)
      | issue input resendOf => exact fun invitation => adds.invites (ready invitation)
      | _ => exact ready

theorem isSome_get?_insert {Row : Type} (table : Table Row) (row : Row) {id : Nat}
    (there : (table.get? id).isSome = true) : ((table.insert row).get? id).isSome = true := by
  obtain ⟨old, found⟩ := Option.isSome_iff_exists.mp there
  rw [Table.get?_insert_of_some row found]
  rfl

theorem findExisting_isSome {runtime : Runtime} {db : AccessDb} {addresses : Addresses}
    {existing : Stored IdentityRow} (found : db.findExisting runtime addresses = some existing) :
    (db.identities.get? existing.id).isSome = true := by
  have there : db.identities.get? existing.id = some existing.row := by
    rcases Option.or_eq_some_iff.mp found with byEmail | ⟨-, byMobile⟩
    · obtain ⟨email, -, located⟩ := Option.bind_eq_some_iff.mp byEmail
      exact (Table.find?_some located).1
    · obtain ⟨mobile, -, located⟩ := Option.bind_eq_some_iff.mp byMobile
      exact (Table.find?_some located).1
  rw [there]
  rfl

section Steps

variable {runtime : Runtime} {choice : AccessChoice} {db next : AccessDb}
  {tasks : List AccessTask}

theorem ChallengesStand.adds (stand : ChallengesStand runtime db) (adds : OnlyAdds db next)
    (verifications : next.verifications = db.verifications)
    (trail : ∀ id destination secret, .sent id destination secret ∈ next.trail →
      .sent id destination secret ∈ db.trail) : ChallengesStand runtime next where
  untouched := by rw [verifications]; exact stand.untouched
  superseded := by rw [verifications]; exact stand.superseded
  secrets := by
    rw [verifications]
    exact fun id row destination secret found sent =>
      stand.secrets id row destination secret found (trail _ _ _ sent)
  sent := by
    rw [verifications]
    exact fun id destination secret sent => stand.sent id destination secret (trail _ _ _ sent)
  invitations := by
    rw [verifications]
    exact fun id row found invitation => adds.invites (stand.invitations id row found invitation)

theorem get?_supersedeLive (db : AccessDb) (input : IssueVerificationInput) (now : Int) (id : Nat) :
    (db.supersedeLive input now).verifications.get? id =
      (db.verifications.get? id).map fun verification =>
        if AccessDb.isLive verification && AccessDb.sameChallenge verification input then
          { verification with supersededAt := some now }
        else verification := by
  simp [AccessDb.supersedeLive, Table.get?]

theorem ChallengesStand.issue {input : IssueVerificationInput} {secret : String}
    (stand : ChallengesStand runtime db) (invites : input.Invites db)
    (same : next = { db with
      verifications := (db.supersedeLive input choice.now).verifications.insert
        (AccessDb.newVerification input (runtime.hashSecret secret) choice.now)
      trail := .sent db.verifications.nextId input.destination secret :: db.trail }) :
    ChallengesStand runtime next := by
  have origin : ∀ id row, next.verifications.get? id = some row →
      (id = db.verifications.nextId ∧
        row = AccessDb.newVerification input (runtime.hashSecret secret) choice.now) ∨
      ∃ old, db.verifications.get? id = some old ∧ old.SameIssue row ∧
        row.consumedAt = old.consumedAt ∧ row.attemptCount = old.attemptCount ∧
        (row.supersededAt = old.supersededAt ∨
          (old.verificationKind = input.verificationKind ∧
            old.destination = input.destination)) := by
    intro id row found
    rw [same, Table.get?_insert, AccessDb.nextId_supersedeLive] at found
    split at found
    · next fresh => exact .inl ⟨fresh, (Option.some.inj found).symm⟩
    · rw [get?_supersedeLive] at found
      obtain ⟨old, there, rfl⟩ := Option.map_eq_some_iff.mp found
      refine .inr ⟨old, there, ?_⟩
      split
      · next replaced =>
          simp only [AccessDb.sameChallenge, Bool.and_eq_true, beq_iff_eq] at replaced
          exact ⟨⟨rfl, rfl, rfl, rfl, rfl, rfl, rfl⟩, rfl, rfl, .inr ⟨replaced.2.1.2, replaced.2.2⟩⟩
      · exact ⟨.refl old, rfl, rfl, .inl rfl⟩
  have fresh : next.verifications.get? db.verifications.nextId =
      some (AccessDb.newVerification input (runtime.hashSecret secret) choice.now) := by
    rw [same, ← AccessDb.nextId_supersedeLive db input choice.now]
    exact Table.get?_insert_self _ _
  have keys : next.verifications.nextId = db.verifications.nextId + 1 := by
    rw [same, Table.nextId_insert, AccessDb.nextId_supersedeLive]
  have adds : OnlyAdds db next := by
    rw [same]
    exact ⟨fun _ => id, fun _ _ _ => id, fun _ _ => id⟩
  have kept : ∀ id row, db.verifications.get? id = some row → ∃ later,
      next.verifications.get? id = some later ∧ row.SameIssue later := by
    intro id row found
    rw [same]
    exact (supersedeLive_kept db input choice.now).trans .trans (.insert .refl _ _) id row found
  refine ⟨fun id row found => ?_, fun id row found gone => ?_,
    fun id row destination other found sent => ?_, fun id destination other sent => ?_,
    fun id row found invitation => ?_⟩
  · rcases origin id row found with ⟨-, rfl⟩ | ⟨old, there, issued, consumed, attempts, -⟩
    · refine ⟨rfl, rfl, ?_⟩
      show 0 < input.verificationKind.config.maxAttempts
      cases input.verificationKind <;> decide
    · rw [consumed, attempts, issued.maxAttempts]
      exact stand.untouched id old there
  · rcases origin id row found with ⟨-, rfl⟩ | ⟨old, there, issued, -, -, still | replaced⟩
    · contradiction
    · obtain ⟨later, newer, after, stands, kind, destination⟩ :=
        stand.superseded id old there (still ▸ gone)
      obtain ⟨now, standing, reissued⟩ := kept later newer stands
      exact ⟨later, now, after, standing,
        (reissued.verificationKind.trans kind).trans issued.verificationKind.symm,
        (reissued.destination.trans destination).trans issued.destination.symm⟩
    · exact ⟨_, _, Table.get?_lt there, fresh,
        (issued.verificationKind.trans replaced.1).symm,
        (issued.destination.trans replaced.2).symm⟩
  · rw [same] at sent
    rcases List.mem_cons.mp sent with new | earlier
    · obtain ⟨rfl, -, rfl⟩ := AccessEvent.sent.inj new
      obtain rfl := Option.some.inj (fresh.symm.trans found)
      rfl
    · rcases origin id row found with ⟨rfl, -⟩ | ⟨old, there, issued, -⟩
      · exact absurd (stand.sent _ destination other earlier) (Nat.lt_irrefl _)
      · rw [issued.secretHash]
        exact stand.secrets id old destination other there earlier
  · rw [keys]
    rw [same] at sent
    rcases List.mem_cons.mp sent with new | earlier
    · obtain ⟨rfl, -, -⟩ := AccessEvent.sent.inj new
      exact Nat.lt_succ_self _
    · exact Nat.lt_succ_of_lt (stand.sent id destination other earlier)
  · rcases origin id row found with ⟨-, rfl⟩ | ⟨old, there, issued, -⟩
    · exact adds.invites (invites invitation)
    · rw [issued.identityId, issued.enterpriseId]
      exact adds.invites (stand.invitations id old there
        (issued.verificationKind ▸ invitation))

theorem ChallengesStand.recordResend (stand : ChallengesStand runtime db) (id : Nat) (now : Int) :
    ChallengesStand runtime (db.recordResend id now) := by
  have origin : ∀ other row, (db.recordResend id now).verifications.get? other = some row →
      ∃ old, db.verifications.get? other = some old ∧ old.SameIssue row ∧
        row.consumedAt = old.consumedAt ∧ row.attemptCount = old.attemptCount ∧
        row.supersededAt = old.supersededAt := by
    intro other row found
    rw [AccessDb.recordResend, Table.get?_update] at found
    split at found
    · obtain ⟨old, there, rfl⟩ := Option.map_eq_some_iff.mp found
      exact ⟨old, there, ⟨rfl, rfl, rfl, rfl, rfl, rfl, rfl⟩, rfl, rfl, rfl⟩
    · exact ⟨row, found, .refl row, rfl, rfl, rfl⟩
  have kept : db.verifications.Kept VerificationRow.SameIssue
      (db.recordResend id now).verifications :=
    .update .refl _ _ fun _ => ⟨rfl, rfl, rfl, rfl, rfl, rfl, rfl⟩
  refine ⟨fun other row found => ?_, fun other row found gone => ?_,
    fun other row destination secret found sent => ?_, fun other destination secret sent => ?_,
    fun other row found invitation => ?_⟩
  · obtain ⟨old, there, issued, consumed, attempts, -⟩ := origin other row found
    rw [consumed, attempts, issued.maxAttempts]
    exact stand.untouched other old there
  · obtain ⟨old, there, issued, -, -, still⟩ := origin other row found
    obtain ⟨later, newer, after, stands, kind, destination⟩ :=
      stand.superseded other old there (still ▸ gone)
    obtain ⟨now, standing, reissued⟩ := kept later newer stands
    exact ⟨later, now, after, standing,
      (reissued.verificationKind.trans kind).trans issued.verificationKind.symm,
      (reissued.destination.trans destination).trans issued.destination.symm⟩
  · obtain ⟨old, there, issued, -⟩ := origin other row found
    rw [issued.secretHash]
    exact stand.secrets other old destination secret there sent
  · have keys : (db.recordResend id now).verifications.nextId = db.verifications.nextId :=
      Table.nextId_update _ _ _
    rw [keys]
    exact stand.sent other destination secret sent
  · obtain ⟨old, there, issued, -⟩ := origin other row found
    rw [issued.identityId, issued.enterpriseId]
    exact stand.invitations other old there (issued.verificationKind ▸ invitation)

theorem verification_step_stands {task : VerificationTask} {outcome : VerificationOutcome}
    (stand : ChallengesStand runtime db) (ready : IssuingReady db (.verification task))
    (success : VerificationService.step runtime choice task db = .ok (outcome, next)) :
    ChallengesStand runtime next ∧ OnlyAdds db next ∧
      ∀ left ∈ outcome.tasks, IssuingReady next left := by
  cases task with
  | assertWithinDestinationCap input resendOf =>
      simp only [VerificationService.step, VerificationService.assertWithinDestinationCap]
        at success
      split at success
      · contradiction
      · obtain ⟨rfl, rfl⟩ := Prod.mk.inj (Except.ok.inj success)
        refine ⟨stand, .refl db, fun left member => ?_⟩
        rw [List.mem_singleton.mp member]
        exact ready
  | issue input resendOf =>
      obtain ⟨rfl, same⟩ := issue_ok success
      refine ⟨stand.issue ready same, ?_, fun left member => ?_⟩
      · rw [same]
        exact ⟨fun _ => id, fun _ _ _ => id, fun _ _ => id⟩
      · obtain ⟨waiting, listed, rfl⟩ := List.mem_map.mp member
        obtain ⟨id, -, rfl⟩ := List.mem_map.mp listed
        trivial
  | recordResend id =>
      obtain ⟨rfl, rfl⟩ := Prod.mk.inj (Except.ok.inj success)
      exact ⟨stand.recordResend id choice.now,
        ⟨fun _ there => there, fun _ _ _ there => there, fun _ _ there => there⟩,
        by simp [VerificationOutcome.tasks]⟩
  | resend destination kind deliveryChannel =>
      simp only [VerificationService.step, VerificationService.resend] at success
      split at success
      · obtain ⟨rfl, rfl⟩ := Prod.mk.inj (Except.ok.inj success)
        exact ⟨stand, .refl _, by simp [VerificationOutcome.tasks]⟩
      · next live found =>
          split at success
          · obtain ⟨rfl, rfl⟩ := Prod.mk.inj (Except.ok.inj success)
            exact ⟨stand, .refl _, by simp [VerificationOutcome.tasks]⟩
          · obtain ⟨rfl, rfl⟩ := Prod.mk.inj (Except.ok.inj success)
            refine ⟨stand, .refl _, fun left member => ?_⟩
            rw [List.mem_singleton.mp member]
            obtain ⟨there, wanted⟩ := Table.mem_select.mp (List.mem_of_getLast? found)
            simp only [Bool.and_eq_true, beq_iff_eq] at wanted
            exact fun invitation =>
              stand.invitations live.id live.row there (wanted.1.2.trans invitation)
  | verifyByDestination destination submitted kind following => contradiction
  | verify id submitted kind following => contradiction
  | spendAttempt verification submitted following => contradiction
  | compareSecret verification attempts submitted following => contradiction
  | consume verification following => contradiction

theorem challenge_ready {identityId : Nat} {enterpriseId : Option Nat} {kind : VerificationKind}
    {addresses : Addresses}
    (invites : kind = .employeeInvite → Invites next (some identityId) enterpriseId) :
    ∀ left ∈ challenge identityId enterpriseId kind addresses, IssuingReady next left := by
  intro left member
  obtain ⟨destination, -, rfl⟩ := List.mem_map.mp member
  exact invites

theorem account_step_stands {task : AccountTask} (stand : ChallengesStand runtime db)
    (ready : IssuingReady db (.account task))
    (success : accountStep runtime choice task db = .ok (tasks, next)) :
    ChallengesStand runtime next ∧ OnlyAdds db next ∧ ∀ left ∈ tasks, IssuingReady next left := by
  cases task with
  | signupWrite slug businessEmail owner password =>
      obtain ⟨rfl, roles, rows, added, same, -⟩ := signupWrite_ok success
      have adds : OnlyAdds db next := by
        rw [same]
        exact ⟨fun _ => isSome_get?_insert _ _, fun _ _ _ => Table.find?_insert_of_some _,
          fun _ _ found => found⟩
      refine ⟨stand.adds adds (by rw [same]) (by rw [same]; exact fun _ _ _ sent => sent), adds,
        challenge_ready fun invitation => ?_⟩
      contradiction
  | createWrite enterpriseId actingEmployeeId addresses role =>
      obtain ⟨identityId, identities, added, settles, rfl, same, unemployed, -⟩ :=
        createEmployeeWrite_ok success
      have known : (∀ id, (db.identities.get? id).isSome = true →
          (identities.get? id).isSome = true) ∧ (identities.get? identityId).isSome = true := by
        rcases settles with ⟨existing, found, -, rfl, rfl⟩ | ⟨-, rfl, rfl⟩
        · exact ⟨fun _ there => there, findExisting_isSome found⟩
        · exact ⟨fun _ => isSome_get?_insert _ _, by rw [Table.get?_insert_self]; rfl⟩
      have adds : OnlyAdds db next := by
        rw [same]
        exact ⟨known.1, fun _ _ _ => Table.find?_insert_of_some _, fun _ _ found => found⟩
      refine ⟨stand.adds adds (by rw [same]) (by rw [same]; simp), adds,
        challenge_ready fun _ => ⟨identityId, rfl, by rw [same]; exact known.2, ?_⟩⟩
      rw [same]
      exact ⟨_, Table.find?_insert_new unemployed (by simp [AccessDb.newEmployee]), rfl⟩
  | inviteStaffWrite actingStaffId addresses roleIds =>
      have unstaffed := inviteStaffWrite_unstaffed success
      obtain ⟨-, rfl, staffRoles, same⟩ := inviteStaffWrite_ok success
      have adds : OnlyAdds db next := by
        rw [same]
        exact ⟨fun _ => isSome_get?_insert _ _, fun _ _ _ found => found,
          fun _ _ => Table.find?_insert_of_some _⟩
      refine ⟨stand.adds adds (by rw [same]) (by rw [same]; exact fun _ _ _ sent => sent), adds,
        challenge_ready fun _ => ⟨db.identities.nextId, rfl, ?_, ?_⟩⟩
      · rw [same, Table.get?_insert_self]
        rfl
      · rw [same]
        exact ⟨_, Table.find?_insert_new unstaffed (by simp), rfl⟩
  | signup request =>
      simp only [accountStep, EnterpriseOnboardingService.signup] at success
      repeat' split at success
      all_goals first
        | contradiction
        | skip
      obtain ⟨rfl, rfl⟩ := Prod.mk.inj (Except.ok.inj success)
      exact ⟨stand, .refl _, by simp [IssuingReady]⟩
  | createEmployee enterpriseId actingEmployeeId request =>
      simp only [accountStep, EmployeesService.create] at success
      repeat' split at success
      all_goals first
        | contradiction
        | skip
      obtain ⟨rfl, rfl⟩ := Prod.mk.inj (Except.ok.inj success)
      exact ⟨stand, .refl _, by simp [IssuingReady]⟩
  | createAuthority enterpriseId actingEmployeeId addresses role =>
      simp only [accountStep, EmployeesService.createAuthority] at success
      split at success
      · contradiction
      · obtain ⟨rfl, rfl⟩ := Prod.mk.inj (Except.ok.inj success)
        exact ⟨stand, .refl _, by simp [IssuingReady]⟩
  | inviteStaff actingStaffId request =>
      simp only [accountStep, PlatformService.inviteStaff] at success
      split at success
      · contradiction
      · obtain ⟨roleIds, -, done⟩ := bind_eq_ok.mp success
        obtain ⟨rfl, rfl⟩ := Prod.mk.inj (Except.ok.inj done)
        exact ⟨stand, .refl _, by simp [IssuingReady]⟩
  | resend address purpose =>
      obtain ⟨destination, -, done⟩ := bind_eq_ok.mp success
      obtain ⟨rfl, rfl⟩ := Prod.mk.inj (Except.ok.inj done)
      exact ⟨stand, .refl _, by simp [IssuingReady]⟩
  | _ => contradiction

theorem issuing_statement_stands {task : AccessTask} (stand : ChallengesStand runtime db)
    (ready : IssuingReady db task)
    (success : task.statement runtime choice db = .ok (tasks, next)) :
    ChallengesStand runtime next ∧ OnlyAdds db next ∧ ∀ left ∈ tasks, IssuingReady next left := by
  cases task with
  | role task => contradiction
  | verification task =>
      obtain ⟨outcome, step, rfl⟩ := verification_statement_ok success
      exact verification_step_stands stand ready step
  | account task => exact account_step_stands stand ready success

end Steps

theorem serve_statement {runtime : Runtime} {choice : AccessChoice} {db next : AccessDb}
    {task : AccessTask} {tasks : List AccessTask} (fuel : Nat)
    (success : task.statement runtime choice db = .ok (tasks, next)) :
    (accessMachine runtime).serve choice (fuel + 1) ⟨db, [task]⟩ =
      (accessMachine runtime).serve choice fuel ⟨next, tasks⟩ := by
  have ran : accessStep runtime db task choice = (next, tasks) := by
    unfold accessStep
    rw [transact_of_ok success]
  show (accessMachine runtime).serve choice fuel ⟨(accessStep runtime db task choice).1,
    (accessStep runtime db task choice).2 ++ []⟩ = _
  rw [ran, List.append_nil]

theorem Waiting.activate {db : AccessDb} {identityId : Nat} {enterpriseId : Option Nat}
    (waiting : Waiting db identityId enterpriseId) (now : Int) :
    RowActive (AuthService.activate identityId enterpriseId now db) identityId enterpriseId := by
  cases enterpriseId with
  | some enterpriseId =>
      obtain ⟨employment, found, invited⟩ := waiting
      obtain ⟨-, ours⟩ := Table.find?_some found
      simp only [Bool.and_eq_true, beq_iff_eq] at ours
      simp only [AuthService.activate, found, invited, if_true]
      refine ⟨_, Table.find?_update_self (fun row => ?_) found, ?_⟩
      · split <;> rfl
      · simp only [ours.1, invited, and_self, if_true]
  | none =>
      obtain ⟨member, found, invited⟩ := waiting
      simp only [AuthService.activate, found, invited, if_true]
      refine ⟨_, Table.find?_update_self (fun row => ?_) found, ?_⟩
      · split <;> rfl
      · simp only [invited, if_true]

theorem ChallengesStand.accepted {runtime : Runtime} {db : AccessDb} {id : Nat}
    {invitation : VerificationRow} (stand : ChallengesStand runtime db)
    (found : db.verifications.get? id = some invitation)
    (kind : invitation.verificationKind = .employeeInvite)
    (newest : Newest db id fun later => later.destination = invitation.destination) :
    CanBeAccepted runtime db id invitation := by
  intro request choice asked sent unexpired
  obtain ⟨unconsumed, untried, budget⟩ := stand.untouched id invitation found
  have standing : invitation.supersededAt = none := by
    cases gone : invitation.supersededAt with
    | none => rfl
    | some instant =>
        obtain ⟨later, newer, after, there, sameKind, sameDestination⟩ :=
          stand.superseded id invitation found (by rw [gone]; rfl)
        exact absurd sameDestination (newest later newer after there (sameKind.trans kind))
  have live : AccessDb.isLive invitation = true := by simp [AccessDb.isLive, unconsumed, standing]
  obtain ⟨known, named, there, waits⟩ := stand.invitations id invitation found kind
  obtain ⟨identity, stored⟩ := Option.isSome_iff_exists.mp there
  refine ⟨known, named, ?_⟩
  have located : db.findLiveByDestination invitation.destination .employeeInvite =
      some ⟨id, invitation⟩ := by
    refine Table.getLast?_select found (by simp [kind, live]) fun other row otherFound wanted => ?_
    simp only [Bool.and_eq_true, beq_iff_eq] at wanted
    by_contra after
    exact newest other row (Nat.lt_of_not_le after) otherFound wanted.1.2 wanted.1.1
  -- The eight steps of the call, one after the other.
  have opens : (AccessTask.account (.acceptInvite request)).statement runtime choice db =
      .ok ([.verification (.verifyByDestination invitation.destination request.code
        .employeeInvite (.completeInvite request.password))], db) := by
    simp only [AccessTask.statement, accountStep, AuthService.acceptInvite, asked]
    rfl
  have locates : (AccessTask.verification (.verifyByDestination invitation.destination
      request.code .employeeInvite (.completeInvite request.password))).statement runtime choice
        db = .ok ([.verification (.verify id request.code .employeeInvite
          (.completeInvite request.password))], db) := by
    simp only [AccessTask.statement, VerificationService.step,
      VerificationService.verifyByDestination, located]
    rfl
  have verifies : (AccessTask.verification (.verify id request.code .employeeInvite
      (.completeInvite request.password))).statement runtime choice db =
        .ok ([.verification (.spendAttempt ⟨id, invitation⟩ request.code
          (.completeInvite request.password))], db) := by
    have byId : db.findLiveById id .employeeInvite = some invitation := by
      simp [AccessDb.findLiveById, found, kind, live]
    simp only [AccessTask.statement, VerificationService.step, VerificationService.verify, byId,
      if_neg (Int.not_le.mpr unexpired)]
    rfl
  let spent : AccessDb := { db with
    verifications := db.verifications.update id fun row =>
      { row with attemptCount := row.attemptCount + 1 } }
  have spends : (AccessTask.verification (.spendAttempt ⟨id, invitation⟩ request.code
      (.completeInvite request.password))).statement runtime choice db =
        .ok ([.verification (.compareSecret ⟨id, invitation⟩ 1 request.code
          (.completeInvite request.password))], spent) := by
    have attempt : db.spendAttempt id = (some 1, spent) := by
      simp only [AccessDb.spendAttempt, found, untried, if_pos budget]
      rfl
    simp only [AccessTask.statement, VerificationService.step, VerificationService.spendAttempt,
      attempt]
    rfl
  have compares : (AccessTask.verification (.compareSecret ⟨id, invitation⟩ 1 request.code
      (.completeInvite request.password))).statement runtime choice spent =
        .ok ([.verification (.consume ⟨id, invitation⟩ (.completeInvite request.password))],
          spent) := by
    have equal : verifySecret runtime invitation.secretHash request.code = true := by
      rw [verifySecret, stand.secrets id invitation _ _ found sent, beq_self_eq_true]
    simp only [AccessTask.statement, VerificationService.step, VerificationService.compareSecret,
      equal, if_true]
    rfl
  let used : AccessDb := { spent with
    verifications := spent.verifications.update id fun row =>
      { row with consumedAt := some choice.now }
    trail := .verified id (some known) invitation.destination :: db.trail }
  have consumes : (AccessTask.verification (.consume ⟨id, invitation⟩
      (.completeInvite request.password))).statement runtime choice spent =
        .ok ([.account (.completeInvite known invitation.enterpriseId invitation.destination
          request.password)], used) := by
    have stillLive : (spent.verifications.get? id).any AccessDb.isLive = true := by
      show ((db.verifications.update id _).get? id).any AccessDb.isLive = true
      rw [Table.get?_update_self, found]
      exact live
    have consumed : spent.consume id choice.now = (true, { used with trail := db.trail }) := by
      simp only [AccessDb.consume, if_pos stillLive]
      rfl
    simp only [AccessTask.statement, VerificationService.step, VerificationService.consume,
      consumed]
    show Except.ok (AuthService.afterVerified invitation (.completeInvite request.password),
      AccessDb.record { used with trail := db.trail }
        (.verified id invitation.identityId invitation.destination)) = _
    simp only [AuthService.afterVerified, named]
    rfl
  have completes : (AccessTask.account (.completeInvite known invitation.enterpriseId
      invitation.destination request.password)).statement runtime choice used =
        .ok ([.account (.completeInviteWrite ⟨known, identity⟩ invitation.enterpriseId
          invitation.destination request.password)], used) := by
    have there : used.findIdentity known = some identity := stored
    simp only [AccessTask.statement, accountStep, AuthService.completeInvite, there]
  obtain ⟨identities, set⟩ := setPassword_frame runtime ⟨known, identity⟩ invitation.destination
    request.password choice used
  have served : afterAccepting runtime db request choice =
      (AuthService.activate known invitation.enterpriseId choice.now
        { used with identities := identities }).record
          (.inviteCompleted known invitation.enterpriseId invitation.destination) := by
    rw [afterAccepting, AccessCall.opening, serve_statement 7 opens, serve_statement 6 locates,
      serve_statement 5 verifies, serve_statement 4 spends, serve_statement 3 compares,
      serve_statement 2 consumes, serve_statement 1 completes, ← set]
    rfl
  have stillWaits : Waiting { used with identities := identities } known
      invitation.enterpriseId := by
    cases business : invitation.enterpriseId with
    | some enterpriseId => exact business ▸ waits
    | none => exact business ▸ waits
  have active := stillWaits.activate choice.now
  rw [served]
  cases business : invitation.enterpriseId with
  | some enterpriseId => exact business ▸ active
  | none => exact business ▸ active

/-- Of each destination the newest invitation stands, whoever issued the others: in every
run of signups, invitations and resends it can still be accepted with its secret while
unexpired, and accepting it activates its issuer's row. -/
theorem newest_invitation_stands (runtime : Runtime) (permissions : Table PermissionRow)
    (templates : Table RoleRow) (grants : List RolePermissionRow)
    (pool : Pool AccessDb AccessTask)
    (reached : (accessMachine runtime).PoolReaches (fun db event => issuingCalls db event = true)
      (.seeded permissions templates grants) pool)
    (id : Nat) (invitation : VerificationRow)
    (found : pool.shared.verifications.get? id = some invitation)
    (kind : invitation.verificationKind = .employeeInvite)
    (newest : Newest pool.shared id fun later => later.destination = invitation.destination) :
    CanBeAccepted runtime pool.shared id invitation := by
  refine (access_invariant (ChallengesStand runtime) IssuingReady ?_ ?_ ?_ reached).1.accepted
    found kind newest
  · intro db call _ permitted task opened
    cases call with
    | signup request =>
        rw [List.mem_singleton.mp opened]
        trivial
    | createEmployee enterpriseId actingEmployeeId request =>
        rw [List.mem_singleton.mp opened]
        trivial
    | inviteStaff actingStaffId request =>
        rw [List.mem_singleton.mp opened]
        trivial
    | resend address purpose =>
        rw [List.mem_singleton.mp opened]
        trivial
    | _ => contradiction
  · intro db task choice tasks next stand ready _ success
    obtain ⟨after, adds, left⟩ := issuing_statement_stands stand ready success
    exact ⟨after, left, fun _ waits => adds.ready waits⟩
  · exact
      { untouched := by simp [AccessDb.seeded]
        superseded := by simp [AccessDb.seeded]
        secrets := by simp [AccessDb.seeded]
        sent := by simp [AccessDb.seeded]
        invitations := by simp [AccessDb.seeded] }

def twoSignups : List (AccessCall ⊕ (Nat × AccessChoice)) :=
  .inl (signUp "shop" "owner@shop.example") :: turns 0 4 0 "one" ++
    .inl (signUp "rival" "owner@rival.example") :: turns 1 4 0 "two"

structure Purpose where
  kind : VerificationKind
  identityId : Option Nat
  enterpriseId : Option Nat
  destination : String
  deriving DecidableEq

def VerificationRow.purpose (row : VerificationRow) : Purpose :=
  ⟨row.verificationKind, row.identityId, row.enterpriseId, row.destination⟩

def newestIn (alike : Purpose → Purpose → Bool) (purposes : List Purpose) (id : Nat) : Bool :=
  (purposes[id]?).any fun own =>
    own.kind == .employeeInvite && (purposes.drop (id + 1)).all fun later => !alike own later

theorem newestIn_sound {alike : Purpose → Purpose → Bool} {db : AccessDb} {id : Nat}
    {invitation : VerificationRow}
    (newest : newestIn alike (db.verifications.rows.map VerificationRow.purpose) id = true)
    (found : db.verifications.get? id = some invitation) :
    invitation.verificationKind = .employeeInvite ∧
      Newest db id fun later => alike invitation.purpose later.purpose = true := by
  have purposes : ∀ other row, db.verifications.get? other = some row →
      (db.verifications.rows.map VerificationRow.purpose)[other]? = some row.purpose := by
    intro other row there
    rw [List.getElem?_map]
    exact congrArg _ there
  rw [newestIn, purposes id invitation found, Option.any_some, Bool.and_eq_true,
    beq_iff_eq] at newest
  refine ⟨newest.1, fun later row after there _ same => ?_⟩
  have member : row.purpose ∈ (db.verifications.rows.map VerificationRow.purpose).drop (id + 1) := by
    refine List.mem_iff_getElem?.mpr ⟨later - (id + 1), ?_⟩
    rw [List.getElem?_drop, Nat.add_sub_of_le after]
    exact purposes later row there
  have unlike := List.all_eq_true.mp newest.2 _ member
  rw [same] at unlike
  contradiction

/-- The shop and the rival invite one person each, the platform a third, and the
shop's invitation is resent. -/
def threeInvited : List (AccessCall ⊕ (Nat × AccessChoice)) :=
  twoSignups ++
    .inl (.createEmployee 0 0 { address := atEmail "bob@mail.example", roleRefId := 3 }) ::
    turns 2 5 0 "three" ++
    .inl (.createEmployee 1 1 { address := atEmail "carol@mail.example", roleRefId := 5 }) ::
    turns 3 5 0 "four" ++
    .inl (.inviteStaff 9 { address := atEmail "ops@platform.example", roleRefIds := [] }) ::
    turns 4 4 0 "five" ++
    .inl (.resend (atEmail "bob@mail.example") .employeeInvite) :: turns 5 5 600000 "six"

/-- All three can accept, with what was sent to them last. -/
theorem newest_invitation_stands_three :
    ∃ pool : Pool AccessDb AccessTask,
      (∀ id ∈ [3, 4, 5], (pool.shared.verifications.get? id).isSome = true) ∧
      ∀ id ∈ [3, 4, 5], ∀ invitation, pool.shared.verifications.get? id = some invitation →
        CanBeAccepted plainRuntime pool.shared id invitation := by
  let newest (pool : Pool AccessDb AccessTask) (id : Nat) : Bool :=
    newestIn (fun own later => own.destination == later.destination)
      (pool.shared.verifications.rows.map VerificationRow.purpose) id
  have runs : ((accessMachine plainRuntime).playPool issuingCalls ⟨smallDeployment, []⟩
      threeInvited).any (fun pool => [3, 4, 5].all fun id =>
        newest pool id && (pool.shared.verifications.get? id).isSome) = true := by
    decide +kernel
  obtain ⟨pool, played, done⟩ := (Option.any_eq_true _ _).mp runs
  have reached : (accessMachine plainRuntime).PoolReaches
      (fun db event => issuingCalls db event = true) smallDeployment pool :=
    (accessMachine plainRuntime).playPool_sound (fun _ _ passed => passed) played
  have stands : ∀ id ∈ [3, 4, 5], newest pool id = true ∧
      (pool.shared.verifications.get? id).isSome = true := fun id listed =>
    (Bool.and_eq_true _ _).mp (List.all_eq_true.mp done id listed)
  refine ⟨pool, fun id listed => (stands id listed).2, fun id listed invitation found => ?_⟩
  obtain ⟨kind, last⟩ := newestIn_sound (stands id listed).1 found
  exact newest_invitation_stands plainRuntime _ _ _ pool reached id invitation found kind
    fun later row after there invite same => last later row after there invite
      (beq_iff_eq.mpr same.symm)

def bothInvite : List (AccessCall ⊕ (Nat × AccessChoice)) :=
  twoSignups ++
    .inl (.createEmployee 0 0 { address := atEmail "bob@mail.example", roleRefId := 3 }) ::
    turns 2 5 0 "three" ++
    .inl (.createEmployee 1 1 { address := atEmail "bob@mail.example", roleRefId := 5 }) ::
    turns 3 5 0 "four"

def bobAccepts : AcceptInviteRequest where
  address := atEmail "bob@mail.example"
  code := "three"
  password := "bob"

/-- The rival's invitation takes the shop's away: its secret, unexpired and never
reissued by the shop, is refused. -/
theorem invitation_lost_to_another_issuer :
    ¬ ∀ (runtime : Runtime) (permissions : Table PermissionRow) (templates : Table RoleRow)
      (grants : List RolePermissionRow) (pool : Pool AccessDb AccessTask),
      (accessMachine runtime).PoolReaches (fun db event => issuingCalls db event = true)
        (.seeded permissions templates grants) pool →
      ∀ id invitation, pool.shared.verifications.get? id = some invitation →
        invitation.verificationKind = .employeeInvite →
        Newest pool.shared id (fun later => later.identityId = invitation.identityId ∧
          later.enterpriseId = invitation.enterpriseId) →
        CanBeAccepted runtime pool.shared id invitation := by
  intro claimed
  have asked : AuthService.requestedDestination plainRuntime bobAccepts.address =
      .ok "bob@mail.example" := by decide +kernel
  have runs : ((accessMachine plainRuntime).playPool issuingCalls ⟨smallDeployment, []⟩
      bothInvite).any (fun pool =>
        newestIn (fun own later => own.identityId == later.identityId &&
            own.enterpriseId == later.enterpriseId)
          (pool.shared.verifications.rows.map VerificationRow.purpose) 2 &&
        ((pool.shared.verifications.get? 2).any fun row =>
          row.purpose == ⟨.employeeInvite, some 2, some 0, "bob@mail.example"⟩ &&
            decide (0 < row.expiresAt)) &&
        pool.shared.trail.contains (.sent 2 "bob@mail.example" "three") &&
        ((afterAccepting plainRuntime pool.shared bobAccepts ⟨0, "five"⟩).findEmployeeByIdentity 0
          2).all fun employment => employment.row.status != .active) = true := by
    decide +kernel
  obtain ⟨pool, played, done⟩ := (Option.any_eq_true _ _).mp runs
  simp only [Bool.and_eq_true] at done
  obtain ⟨⟨⟨newest, issued⟩, sent⟩, refused⟩ := done
  obtain ⟨invitation, found, named⟩ := (Option.any_eq_true _ _).mp issued
  rw [Bool.and_eq_true, beq_iff_eq, decide_eq_true_iff] at named
  obtain ⟨purpose, unexpired⟩ := named
  obtain ⟨-, toBob, byShop, address⟩ := Purpose.mk.inj purpose
  have reached : (accessMachine plainRuntime).PoolReaches
      (fun db event => issuingCalls db event = true) smallDeployment pool :=
    (accessMachine plainRuntime).playPool_sound (fun _ _ passed => passed) played
  obtain ⟨kind, last⟩ := newestIn_sound newest found
  have accepted := claimed plainRuntime _ _ _ pool reached 2 invitation found kind
    (fun later row after there invite same => last later row after there invite (by
      simp [VerificationRow.purpose, same.1, same.2]))
  obtain ⟨identityId, known, active⟩ := accepted bobAccepts ⟨0, "five"⟩
    (address ▸ asked)
    (by rw [address]; exact List.contains_iff_mem.mp sent) unexpired
  obtain rfl := Option.some.inj (toBob.symm.trans known)
  rw [byShop] at active
  obtain ⟨employment, there, status⟩ := active
  rw [there, Option.all_some, status] at refused
  exact absurd refused (by decide)

end UnifiedService.Access
