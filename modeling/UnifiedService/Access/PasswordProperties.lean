import UnifiedService.Access.InvitationProperties

/-! Whose password an invitation sets: that of the identity it attaches to, on the
strength of a secret sent to the destination of the invitation. -/

set_option autoImplicit false

namespace UnifiedService.Access

open UnifiedService.Library

/-! ### Addresses and secrets -/

/-- The destination is the stored email or mobile of the identity. -/
def OwnAddress (db : AccessDb) (identityId : Nat) (destination : String) : Prop :=
  ∃ row, db.identities.get? identityId = some row ∧
    (row.email = some destination ∨ row.mobile = some destination)

def SecretVerified (trail : List AccessEvent) (identityId : Option Nat) (destination : String) :
    Prop :=
  ∃ verificationId secret recent older,
    trail = recent ++ .verified verificationId identityId destination :: older ∧
      .sent verificationId destination secret ∈ older

/-- Every accepted invitation, which replaces the password of an identity, went to an
address of that identity, and the secret sent there had been verified for it. -/
def PasswordsGuarded (db : AccessDb) : Prop :=
  ∀ recent identityId enterpriseId verifiedDestination earlier,
    db.trail = recent ++ .inviteCompleted identityId enterpriseId verifiedDestination :: earlier →
    OwnAddress db identityId verifiedDestination ∧
      SecretVerified earlier (some identityId) verifiedDestination

/-- Before every accepted invitation a secret sent to some address of the identity had
been verified, in whatever challenge. -/
def SomeAddressVerified (db : AccessDb) : Prop :=
  ∀ recent identityId enterpriseId verifiedDestination earlier,
    db.trail = recent ++ .inviteCompleted identityId enterpriseId verifiedDestination :: earlier →
    ∃ own challenged, OwnAddress db identityId own ∧ SecretVerified earlier challenged own

theorem PasswordsGuarded.someAddressVerified {db : AccessDb} (guarded : PasswordsGuarded db) :
    SomeAddressVerified db := by
  intro recent identityId enterpriseId verifiedDestination earlier split
  obtain ⟨own, verified⟩ :=
    guarded recent identityId enterpriseId verifiedDestination earlier split
  exact ⟨verifiedDestination, some identityId, own, verified⟩

theorem Lasting.ownAddress {db next : AccessDb} (lasting : Lasting db next) {identityId : Nat}
    {destination : String} (own : OwnAddress db identityId destination) :
    OwnAddress next identityId destination := by
  obtain ⟨row, found, address⟩ := own
  obtain ⟨later, there, email, mobile⟩ := lasting.identities identityId row found
  exact ⟨later, there, by rwa [email, mobile]⟩

theorem Lasting.secretVerified {db next : AccessDb} (lasting : Lasting db next)
    {identityId : Option Nat} {destination : String}
    (verified : SecretVerified db.trail identityId destination) :
    SecretVerified next.trail identityId destination := by
  obtain ⟨verificationId, secret, recent, older, same, sent⟩ := verified
  obtain ⟨added, grown⟩ := lasting.trail
  exact ⟨verificationId, secret, added ++ recent, older, by rw [grown, same, List.append_assoc],
    sent⟩

theorem setPassword_identities (runtime : Runtime) (identity : Stored IdentityRow)
    (verifiedDestination newPassword : String) (choice : AccessChoice) (db : AccessDb) :
    ∃ identities, AuthService.setPassword runtime identity verifiedDestination newPassword choice
      db = { db with identities := identities } ∧
        identities.nextId = db.identities.nextId := by
  unfold AuthService.setPassword
  simp only
  split
  · refine ⟨_, rfl, ?_⟩
    rw [Table.nextId_update]
    exact Table.nextId_update _ _ _
  · exact ⟨_, rfl, Table.nextId_update _ _ _⟩

theorem setPassword_others (runtime : Runtime) (identity : Stored IdentityRow)
    (verifiedDestination newPassword : String) (choice : AccessChoice) (db : AccessDb)
    {identityId : Nat} (other : identity.id ≠ identityId) :
    (AuthService.setPassword runtime identity verifiedDestination newPassword choice
      db).identities.get? identityId = db.identities.get? identityId := by
  unfold AuthService.setPassword
  simp only
  split
  · rw [AccessDb.markCredentialVerified, Table.get?_update_of_ne _ _ other,
      AccessDb.updatePasswordHash, Table.get?_update_of_ne _ _ other]
  · rw [AccessDb.updatePasswordHash, Table.get?_update_of_ne _ _ other]

def IdentityRow.SamePassword (row later : IdentityRow) : Prop :=
  later.passwordHash = row.passwordHash

theorem IdentityRow.SamePassword.refl (row : IdentityRow) : row.SamePassword row := rfl

structure IdentityRow.SameGuard (row later : IdentityRow) : Prop where
  passwordHash : later.passwordHash = row.passwordHash
  failedLoginCount : later.failedLoginCount = row.failedLoginCount
  lockedUntil : later.lockedUntil = row.lockedUntil

theorem IdentityRow.SameGuard.refl (row : IdentityRow) : row.SameGuard row := ⟨rfl, rfl, rfl⟩

theorem setPassword_cleared (runtime : Runtime) (identity : Stored IdentityRow)
    (verifiedDestination newPassword : String) (choice : AccessChoice) (db : AccessDb)
    {row : IdentityRow}
    (found : (AuthService.setPassword runtime identity verifiedDestination newPassword choice
      db).identities.get? identity.id = some row) :
    row.failedLoginCount = 0 ∧ row.lockedUntil = none := by
  unfold AuthService.setPassword at found
  simp only at found
  split at found
  · rw [AccessDb.markCredentialVerified, Table.get?_update_self, AccessDb.updatePasswordHash,
      Table.get?_update_self, Option.map_map] at found
    obtain ⟨old, -, rfl⟩ := Option.map_eq_some_iff.mp found
    simp only [Function.comp_apply]
    split <;> exact ⟨rfl, rfl⟩
  · rw [AccessDb.updatePasswordHash, Table.get?_update_self] at found
    obtain ⟨old, -, rfl⟩ := Option.map_eq_some_iff.mp found
    exact ⟨rfl, rfl⟩

structure AcceptsFor (db next : AccessDb) (identityId : Nat) (enterpriseId : Option Nat)
    (verifiedDestination : String) : Prop where
  trail : next.trail = .inviteCompleted identityId enterpriseId verifiedDestination :: db.trail
  others : ∀ other, identityId ≠ other →
    next.identities.get? other = db.identities.get? other
  cleared : ∀ row, next.identities.get? identityId = some row →
    row.failedLoginCount = 0 ∧ row.lockedUntil = none

theorem account_step_guards {runtime : Runtime} {choice : AccessChoice} {task : AccountTask}
    {db next : AccessDb} {tasks : List AccessTask}
    (success : accountStep runtime choice task db = .ok (tasks, next)) :
    db.identities.Kept IdentityRow.SameGuard next.identities ∨
      ∃ identity enterpriseId verifiedDestination newPassword,
        task = .completeInviteWrite identity enterpriseId verifiedDestination newPassword ∧
        AcceptsFor db next identity.id enterpriseId verifiedDestination := by
  by_cases reading : task.writes = false
  · rw [account_step_reads reading success]
    exact .inl (.refl .refl _)
  · cases task with
    | signupWrite slug businessEmail owner password =>
        obtain ⟨-, roles, rows, added, rfl, -⟩ := signupWrite_ok success
        exact .inl (.insert .refl _ _)
    | createWrite enterpriseId actingEmployeeId addresses role =>
        obtain ⟨_, identities, added, settles, -, rfl, -, -⟩ := createEmployeeWrite_ok success
        rcases settles with ⟨_, -, -, -, rfl⟩ | ⟨-, -, rfl⟩
        · exact .inl (.refl .refl _)
        · exact .inl (.insert .refl _ _)
    | setStatusWrite enterpriseId employeeId source status =>
        obtain ⟨-, -, rfl⟩ := setStatusWrite_ok success
        exact .inl (.refl .refl _)
    | setStaffStatusWrite target status =>
        obtain ⟨-, -, rfl⟩ := setStaffStatusWrite_ok success
        exact .inl (.refl .refl _)
    | inviteStaffWrite actingStaffId addresses roleIds =>
        obtain ⟨-, -, staffRoles, rfl⟩ := inviteStaffWrite_ok success
        exact .inl (.insert .refl _ _)
    | markVerified otherId credential =>
        obtain ⟨-, rfl⟩ := Prod.mk.inj (Except.ok.inj success)
        refine .inl (.update .refl _ _ fun row => ?_)
        split <;> exact ⟨rfl, rfl, rfl⟩
    | completeInviteWrite identity enterpriseId verifiedDestination newPassword =>
        obtain ⟨-, rfl⟩ := Prod.mk.inj (Except.ok.inj success)
        obtain ⟨employees, staff, same⟩ := activate_frame identity.id enterpriseId choice.now
          (AuthService.setPassword runtime identity verifiedDestination newPassword choice db)
        rw [same]
        refine .inr ⟨identity, enterpriseId, verifiedDestination, newPassword, rfl, ?_, ?_, ?_⟩
        · obtain ⟨identities, set⟩ := setPassword_frame runtime identity verifiedDestination
            newPassword choice db
          rw [set]
          rfl
        · exact fun other different => setPassword_others runtime identity verifiedDestination
            newPassword choice db different
        · exact fun row found => setPassword_cleared runtime identity verifiedDestination
            newPassword choice db found
    | _ => exact absurd rfl reading

/-! ### Every run -/

/-- What holds of addresses in every state: stored emails are as the database lowers
them, challenges go to an address of their identity, and acceptances follow a
verification of one. -/
structure AddressesOwn (runtime : Runtime) (db : AccessDb) : Prop where
  emails : ∀ id row email, db.identities.get? id = some row → row.email = some email →
    runtime.lower email = email
  challenges : ∀ id row identityId, db.verifications.get? id = some row →
    row.identityId = some identityId → OwnAddress db identityId row.destination ∧
      ∃ secret, .sent id row.destination secret ∈ db.trail
  accepted : PasswordsGuarded db

def IssueVerificationInput.Own (db : AccessDb) (input : IssueVerificationInput) : Prop :=
  ∀ identityId, input.identityId = some identityId → OwnAddress db identityId input.destination

def Addresses.Lowered (runtime : Runtime) (addresses : Addresses) : Prop :=
  ∀ email, addresses.email = some email → runtime.lower email = email

def ChallengeKnown (db : AccessDb) (challenge : Stored VerificationRow) : Prop :=
  ∃ row, db.verifications.get? challenge.id = some row ∧ row.SameIssue challenge.row

def AddressReady (runtime : Runtime) (db : AccessDb) : AccessTask → Prop
  | .account (.signupWrite _ _ addresses _) | .account (.createAuthority _ _ addresses _)
  | .account (.createWrite _ _ addresses _) | .account (.inviteStaffWrite _ addresses _) =>
      addresses.Lowered runtime
  | .account (.completeInvite identityId _ destination _)
  | .account (.completeInviteWrite ⟨identityId, _⟩ _ destination _) =>
      OwnAddress db identityId destination ∧
        SecretVerified db.trail (some identityId) destination
  | .verification (.assertWithinDestinationCap input _) | .verification (.issue input _) =>
      input.Own db
  | .verification (.spendAttempt challenge _ _) | .verification (.compareSecret challenge _ _ _)
  | .verification (.consume challenge _) => ChallengeKnown db challenge
  | _ => True

theorem AddressInput.normalize_lowered {runtime : Runtime} (agrees : runtime.LowerAgrees)
    (input : AddressInput) : (input.normalize runtime).Lowered runtime := by
  intro email named
  obtain ⟨raw, -, rfl⟩ := Option.map_eq_some_iff.mp named
  exact agrees.normalizeEmail raw

theorem Lasting.addressReady {runtime : Runtime} {db next : AccessDb} (lasting : Lasting db next)
    {task : AccessTask} (ready : AddressReady runtime db task) :
    AddressReady runtime next task := by
  have known : ∀ {challenge : Stored VerificationRow}, ChallengeKnown db challenge →
      ChallengeKnown next challenge := by
    rintro challenge ⟨row, found, same⟩
    obtain ⟨later, there, issued⟩ := lasting.verifications _ row found
    exact ⟨later, there, issued.symm.trans same⟩
  cases task with
  | role task => trivial
  | verification task =>
      cases task with
      | assertWithinDestinationCap input resendOf =>
          exact fun identityId named => lasting.ownAddress (ready identityId named)
      | issue input resendOf =>
          exact fun identityId named => lasting.ownAddress (ready identityId named)
      | spendAttempt challenge submitted following => exact known ready
      | compareSecret challenge attempts submitted following => exact known ready
      | consume challenge following => exact known ready
      | _ => trivial
  | account task =>
      cases task with
      | completeInvite identityId enterpriseId destination newPassword =>
          exact ⟨lasting.ownAddress ready.1, lasting.secretVerified ready.2⟩
      | completeInviteWrite identity enterpriseId destination newPassword =>
          exact ⟨lasting.ownAddress ready.1, lasting.secretVerified ready.2⟩
      | signupWrite slug businessEmail owner password => exact ready
      | createAuthority enterpriseId actingEmployeeId addresses role => exact ready
      | createWrite enterpriseId actingEmployeeId addresses role => exact ready
      | inviteStaffWrite actingStaffId addresses roleIds => exact ready
      | _ => trivial

theorem challenge_own {runtime : Runtime} {db : AccessDb} {identityId : Nat}
    {business : Option Nat} {kind : VerificationKind} {addresses : Addresses}
    (own : ∀ destination, present addresses.destination = some destination →
      OwnAddress db identityId destination) :
    ∀ task ∈ challenge identityId business kind addresses, AddressReady runtime db task := by
  intro task member
  obtain ⟨destination, listed, rfl⟩ := List.mem_map.mp member
  intro other named
  obtain rfl := Option.some.inj named
  exact own destination (Option.mem_toList.mp listed)

theorem newIdentity_own {db : AccessDb} {addresses : Addresses} {passwordHash : String}
    {identityId : Nat}
    (found : db.identities.get? identityId =
      some (AccessDb.newIdentity addresses.email addresses.mobile passwordHash))
    {destination : String} (named : present addresses.destination = some destination) :
    OwnAddress db identityId destination := by
  refine ⟨_, found, ?_⟩
  rcases Option.or_eq_some_iff.mp (Option.filter_eq_some_iff.mp named).1 with email | ⟨-, mobile⟩
  · exact .inl email
  · exact .inr mobile

/-- An invitation that would go to an email nobody has, for the identity that has the
mobile named beside it and does not work in the business yet. -/
def AccessDb.invitesByMobile (db : AccessDb) (runtime : Runtime) (enterpriseId : Nat)
    (addresses : Addresses) : Bool :=
  (present addresses.email).any fun email =>
    (db.findByEmail runtime email).isNone &&
      ((present addresses.mobile).bind db.findByMobile).any fun existing =>
        (db.findEmployeeByIdentity enterpriseId existing.id).isNone

/-- No invitation names an unknown email beside the mobile of an existing identity. -/
def invitesOwnAddress (runtime : Runtime) (db : AccessDb) :
    Event AccessTask AccessCall AccessChoice → Prop
  | .ran (.account (.createWrite enterpriseId _ addresses _)) _ =>
      db.invitesByMobile runtime enterpriseId addresses = false
  | .ran _ _ | .opened _ => True

section Steps

variable {runtime : Runtime} {db next : AccessDb} {tasks : List AccessTask}

/-- A step that adds no acceptance keeps what holds of those there are. -/
theorem AddressesOwn.step (own : AddressesOwn runtime db) (lasting : Lasting db next)
    (emails : ∀ id row email, next.identities.get? id = some row → row.email = some email →
      runtime.lower email = email)
    (challenges : ∀ id row identityId, next.verifications.get? id = some row →
      row.identityId = some identityId → OwnAddress next identityId row.destination ∧
        ∃ secret, .sent id row.destination secret ∈ next.trail)
    (quiet : ∃ recent, next.trail = recent ++ db.trail ∧
      ∀ identityId enterpriseId destination,
        .inviteCompleted identityId enterpriseId destination ∉ recent) :
    AddressesOwn runtime next where
  emails := emails
  challenges := challenges
  accepted := by
    intro recent identityId enterpriseId destination earlier split
    obtain ⟨added, grown, none⟩ := quiet
    rw [grown] at split
    rcases List.append_eq_append_iff.mp split with ⟨more, rfl, later⟩ | ⟨more, rfl, later⟩
    · obtain ⟨address, verified⟩ := own.accepted more identityId enterpriseId destination earlier
        later
      exact ⟨lasting.ownAddress address, verified⟩
    · cases more with
      | nil =>
          obtain ⟨address, verified⟩ := own.accepted [] identityId enterpriseId destination earlier
            later.symm
          exact ⟨lasting.ownAddress address, verified⟩
      | cons event rest =>
          obtain ⟨rfl, -⟩ := List.cons.inj later
          exact absurd (List.mem_append_right _ List.mem_cons_self)
            (none identityId enterpriseId destination)

theorem AddressesOwn.keptEmails (own : AddressesOwn runtime db) (lasting : Lasting db next)
    (identities : next.identities.nextId = db.identities.nextId) :
    ∀ id row email, next.identities.get? id = some row → row.email = some email →
      runtime.lower email = email := by
  intro id row email found named
  obtain ⟨old, there, same, -⟩ := lasting.identities.origin identities found
  exact own.emails id old email there (same ▸ named)

theorem AddressesOwn.keptChallenges (own : AddressesOwn runtime db) (lasting : Lasting db next)
    (verifications : next.verifications.nextId = db.verifications.nextId) :
    ∀ id row identityId, next.verifications.get? id = some row →
      row.identityId = some identityId → OwnAddress next identityId row.destination ∧
        ∃ secret, .sent id row.destination secret ∈ next.trail := by
  intro id row identityId found named
  obtain ⟨old, there, same⟩ := lasting.verifications.origin verifications found
  obtain ⟨address, secret, sent⟩ := own.challenges id old identityId there
    (same.identityId ▸ named)
  rw [same.destination]
  exact ⟨lasting.ownAddress address, secret, lasting.mem_trail sent⟩

theorem AddressesOwn.kept (own : AddressesOwn runtime db) (lasting : Lasting db next)
    (identities : next.identities.nextId = db.identities.nextId)
    (verifications : next.verifications.nextId = db.verifications.nextId)
    (quiet : ∃ recent, next.trail = recent ++ db.trail ∧
      ∀ identityId enterpriseId destination,
        .inviteCompleted identityId enterpriseId destination ∉ recent) :
    AddressesOwn runtime next :=
  own.step lasting (own.keptEmails lasting identities) (own.keptChallenges lasting verifications)
    quiet

theorem AddressesOwn.accept {identityId : Nat} {enterpriseId : Option Nat} {destination : String}
    (own : AddressesOwn runtime db) (lasting : Lasting db next)
    (identities : next.identities.nextId = db.identities.nextId)
    (verifications : next.verifications.nextId = db.verifications.nextId)
    (trail : next.trail = .inviteCompleted identityId enterpriseId destination :: db.trail)
    (proven : OwnAddress db identityId destination ∧
      SecretVerified db.trail (some identityId) destination) : AddressesOwn runtime next where
  emails := own.keptEmails lasting identities
  challenges := own.keptChallenges lasting verifications
  accepted := by
    intro recent other business verified earlier split
    rw [trail] at split
    cases recent with
    | nil =>
        obtain ⟨same, rfl⟩ := List.cons.inj split
        obtain ⟨rfl, rfl, rfl⟩ := AccessEvent.inviteCompleted.inj same
        exact ⟨lasting.ownAddress proven.1, proven.2⟩
    | cons event rest =>
        obtain ⟨address, earned⟩ := own.accepted rest other business verified earlier
          (List.cons.inj split).2
        exact ⟨lasting.ownAddress address, earned⟩

theorem AddressesOwn.insert {addresses : Addresses} {passwordHash : String}
    (own : AddressesOwn runtime db) (lasting : Lasting db next)
    (lowered : addresses.Lowered runtime)
    (identities : next.identities = db.identities.insert
      (AccessDb.newIdentity addresses.email addresses.mobile passwordHash))
    (verifications : next.verifications = db.verifications)
    (quiet : ∃ recent, next.trail = recent ++ db.trail ∧
      ∀ identityId enterpriseId destination,
        .inviteCompleted identityId enterpriseId destination ∉ recent) :
    AddressesOwn runtime next := by
  refine own.step lasting (fun id row email found named => ?_)
    (fun id row identityId found named => ?_) quiet
  · rw [identities, Table.get?_insert] at found
    split at found
    · obtain rfl := Option.some.inj found
      exact lowered email named
    · exact own.emails id row email found named
  · rw [verifications] at found
    obtain ⟨address, secret, sent⟩ := own.challenges id row identityId found named
    exact ⟨lasting.ownAddress address, secret, lasting.mem_trail sent⟩

def AddressStep (runtime : Runtime) (next : AccessDb) (tasks : List AccessTask) : Prop :=
  AddressesOwn runtime next ∧ ∀ task ∈ tasks, AddressReady runtime next task

theorem verification_step_addresses {choice : AccessChoice} {task : VerificationTask}
    {outcome : VerificationOutcome} (own : AddressesOwn runtime db) (lasting : Lasting db next)
    (ready : AddressReady runtime db (.verification task))
    (success : VerificationService.step runtime choice task db = .ok (outcome, next)) :
    AddressStep runtime next outcome.tasks := by
  cases task with
  | assertWithinDestinationCap input resendOf =>
      simp only [VerificationService.step, VerificationService.assertWithinDestinationCap]
        at success
      split at success
      · contradiction
      · obtain ⟨rfl, rfl⟩ := Prod.mk.inj (Except.ok.inj success)
        exact ⟨own, by simpa [VerificationOutcome.tasks, AddressReady] using ready⟩
  | issue input resendOf =>
      obtain ⟨rfl, rfl⟩ := issue_ok success
      refine ⟨own.step lasting own.emails (fun id row identityId found named => ?_)
        ⟨[_], rfl, by simp⟩, fun task member => ?_⟩
      · rw [Table.get?_insert] at found
        split at found
        · next fresh =>
            obtain rfl := Option.some.inj found
            refine ⟨lasting.ownAddress (ready identityId named),
              mintSecret runtime input.verificationKind.config.secretShape choice.random, ?_⟩
            rw [fresh, AccessDb.nextId_supersedeLive]
            exact List.mem_cons_self
        · obtain ⟨old, there, same⟩ := (supersedeLive_kept db input choice.now).origin
            (AccessDb.nextId_supersedeLive db input choice.now) found
          obtain ⟨address, secret, sent⟩ := own.challenges id old identityId there
            (same.identityId ▸ named)
          rw [same.destination]
          exact ⟨lasting.ownAddress address, secret, lasting.mem_trail sent⟩
      · obtain ⟨left, listed, rfl⟩ := List.mem_map.mp member
        obtain ⟨resent, -, rfl⟩ := List.mem_map.mp listed
        trivial
  | resend destination kind deliveryChannel =>
      simp only [VerificationService.step, VerificationService.resend] at success
      split at success
      · obtain ⟨rfl, rfl⟩ := Prod.mk.inj (Except.ok.inj success)
        exact ⟨own, by simp [VerificationOutcome.tasks]⟩
      · next live found =>
          split at success
          · obtain ⟨rfl, rfl⟩ := Prod.mk.inj (Except.ok.inj success)
            exact ⟨own, by simp [VerificationOutcome.tasks]⟩
          · obtain ⟨rfl, rfl⟩ := Prod.mk.inj (Except.ok.inj success)
            refine ⟨own, fun task member => ?_⟩
            obtain ⟨left, listed, rfl⟩ := List.mem_map.mp member
            rw [List.mem_singleton.mp listed]
            intro identityId named
            obtain ⟨there, matching⟩ := Table.mem_select.mp (List.mem_of_getLast? found)
            simp only [Bool.and_eq_true, beq_iff_eq] at matching
            rw [show destination = live.row.destination from matching.1.1.symm]
            exact (own.challenges _ _ identityId there named).1
  | recordResend id =>
      obtain ⟨rfl, rfl⟩ := Prod.mk.inj (Except.ok.inj success)
      exact ⟨own.kept lasting rfl (Table.nextId_update _ _ _) ⟨[], rfl, by simp⟩,
        by simp [VerificationOutcome.tasks]⟩
  | verifyByDestination destination submitted kind following =>
      simp only [VerificationService.step, VerificationService.verifyByDestination] at success
      split at success
      · contradiction
      · obtain ⟨rfl, rfl⟩ := Prod.mk.inj (Except.ok.inj success)
        exact ⟨own, by simp [VerificationOutcome.tasks, AddressReady]⟩
  | verify id submitted kind following =>
      simp only [VerificationService.step, VerificationService.verify] at success
      split at success
      · contradiction
      · next row found =>
          split at success
          · contradiction
          · obtain ⟨rfl, rfl⟩ := Prod.mk.inj (Except.ok.inj success)
            refine ⟨own, fun task member => ?_⟩
            obtain ⟨left, listed, rfl⟩ := List.mem_map.mp member
            rw [List.mem_singleton.mp listed]
            exact ⟨row, (Option.filter_eq_some_iff.mp found).1, .refl row⟩
  | spendAttempt challenge submitted following =>
      simp only [VerificationService.step, VerificationService.spendAttempt] at success
      split at success
      · contradiction
      · next attempts middle spent =>
          obtain ⟨rfl, rfl⟩ := Prod.mk.inj (Except.ok.inj success)
          obtain ⟨-, -, -, -, rfl⟩ := spendAttempt_ok spent
          refine ⟨own.kept lasting rfl (Table.nextId_update _ _ _) ⟨[], rfl, by simp⟩,
            fun task member => ?_⟩
          obtain ⟨left, listed, rfl⟩ := List.mem_map.mp member
          rw [List.mem_singleton.mp listed]
          have before : AddressReady runtime db
              (.verification (.compareSecret challenge attempts submitted following)) := ready
          exact lasting.addressReady before
  | compareSecret challenge attempts submitted following =>
      simp only [VerificationService.step, VerificationService.compareSecret] at success
      split at success
      · obtain ⟨rfl, rfl⟩ := Prod.mk.inj (Except.ok.inj success)
        exact ⟨own, by simpa [VerificationOutcome.tasks, AddressReady] using ready⟩
      · split at success <;> contradiction
  | consume challenge following =>
      simp only [VerificationService.step, VerificationService.consume] at success
      split at success
      · contradiction
      · next middle consumed =>
          obtain ⟨rfl, rfl⟩ := Prod.mk.inj (Except.ok.inj success)
          obtain ⟨-, -, -, rfl⟩ := consume_ok consumed
          refine ⟨own.kept lasting rfl (Table.nextId_update _ _ _) ⟨[_], rfl, by simp⟩,
            fun task member => ?_⟩
          obtain ⟨row, found, same⟩ := ready
          have proven : ∀ identityId, challenge.row.identityId = some identityId →
              OwnAddress db identityId challenge.row.destination ∧
                SecretVerified (.verified challenge.id challenge.row.identityId
                  challenge.row.destination :: db.trail) (some identityId)
                  challenge.row.destination := by
            intro identityId named
            obtain ⟨address, secret, sent⟩ := own.challenges _ row identityId found
              (same.identityId ▸ named)
            rw [← same.destination] at address sent
            exact ⟨address, challenge.id, secret, [], db.trail, by rw [named]; rfl, sent⟩
          cases following with
          | completeInvite newPassword =>
              obtain ⟨identityId, listed, rfl⟩ := List.mem_map.mp member
              obtain ⟨address, verified⟩ := proven identityId (Option.mem_toList.mp listed)
              exact ⟨lasting.ownAddress address, verified⟩
          | completeVerifiedLogin =>
              obtain ⟨identityId, -, rfl⟩ := List.mem_map.mp member
              trivial

/-- The identity an invitation settles on has the destination for its own, unless the
invitation went by a mobile beside an unknown email. -/
theorem settlesOn_own {enterpriseId identityId : Nat} {addresses : Addresses}
    {choice : AccessChoice} {identities : Table IdentityRow} (own : AddressesOwn runtime db)
    (settles : SettlesOn runtime enterpriseId addresses choice db identityId identities)
    (same : next.identities = identities)
    (spared : db.invitesByMobile runtime enterpriseId addresses = false) {destination : String}
    (named : present addresses.destination = some destination) :
    OwnAddress next identityId destination := by
  rcases settles with ⟨existing, found, unemployed, rfl, rfl⟩ | ⟨-, rfl, rfl⟩
  · unfold AccessDb.findExisting at found
    rcases Option.or_eq_some_iff.mp found with byEmail | ⟨unknown, byMobile⟩
    · obtain ⟨email, given, known⟩ := Option.bind_eq_some_iff.mp byEmail
      obtain ⟨there, matching⟩ := Table.find?_some known
      obtain ⟨stored, has, lowered⟩ := Option.map_eq_some_iff.mp (beq_iff_eq.mp matching)
      rw [own.emails _ _ stored there has] at lowered
      obtain rfl := lowered
      have first : addresses.email = some stored := (Option.filter_eq_some_iff.mp given).1
      have goes : addresses.destination = some destination :=
        (Option.filter_eq_some_iff.mp named).1
      rw [Addresses.destination, first, Option.some_or, Option.some.injEq] at goes
      exact ⟨existing.row, same ▸ there, .inl (goes ▸ has)⟩
    · obtain ⟨mobile, given, known⟩ := Option.bind_eq_some_iff.mp byMobile
      obtain ⟨there, matching⟩ := Table.find?_some known
      have has : existing.row.mobile = some mobile := beq_iff_eq.mp matching
      cases email : present addresses.email with
      | some email =>
          rw [email, Option.bind_some] at unknown
          simp [AccessDb.invitesByMobile, email, unknown, given, known, unemployed] at spared
      | none =>
          have goes := (Option.filter_eq_some_iff.mp named).1
          have second : addresses.mobile = some mobile := (Option.filter_eq_some_iff.mp given).1
          rcases Option.or_eq_some_iff.mp goes with isEmail | ⟨-, isMobile⟩
          · have sent := (Option.filter_eq_some_iff.mp named).2
            simp [present, isEmail, Option.filter] at email
            simp [email] at sent
          · rw [second, Option.some.injEq] at isMobile
            exact ⟨existing.row, same ▸ there, .inr (isMobile ▸ has)⟩
  · exact newIdentity_own (by rw [same, Table.get?_insert_self]) named

theorem account_step_addresses {choice : AccessChoice} {task : AccountTask}
    (agrees : runtime.LowerAgrees) (own : AddressesOwn runtime db) (lasting : Lasting db next)
    (ready : AddressReady runtime db (.account task))
    (allowed : invitesOwnAddress runtime db (.ran (.account task) choice))
    (success : accountStep runtime choice task db = .ok (tasks, next)) :
    AddressStep runtime next tasks := by
  cases task with
  | signup request =>
      simp only [accountStep, EnterpriseOnboardingService.signup] at success
      repeat' split at success
      all_goals first
        | contradiction
        | skip
      obtain ⟨rfl, rfl⟩ := Prod.mk.inj (Except.ok.inj success)
      refine ⟨own, fun task member => ?_⟩
      rw [List.mem_singleton.mp member]
      exact AddressInput.normalize_lowered agrees request.owner
  | signupWrite slug businessEmail owner password =>
      obtain ⟨rfl, roles, rows, added, rfl, -⟩ := signupWrite_ok success
      exact ⟨own.insert lasting ready rfl rfl ⟨[], rfl, by simp⟩,
        challenge_own fun _ named => newIdentity_own (Table.get?_insert_self _ _) named⟩
  | createEmployee enterpriseId actingEmployeeId request =>
      simp only [accountStep, EmployeesService.create] at success
      repeat' split at success
      all_goals first
        | contradiction
        | skip
      obtain ⟨rfl, rfl⟩ := Prod.mk.inj (Except.ok.inj success)
      refine ⟨own, fun task member => ?_⟩
      rw [List.mem_singleton.mp member]
      exact AddressInput.normalize_lowered agrees request.address
  | createAuthority enterpriseId actingEmployeeId addresses role =>
      simp only [accountStep, EmployeesService.createAuthority] at success
      split at success
      · contradiction
      · obtain ⟨rfl, rfl⟩ := Prod.mk.inj (Except.ok.inj success)
        exact ⟨own, by simpa [AddressReady] using ready⟩
  | createWrite enterpriseId actingEmployeeId addresses role =>
      obtain ⟨identityId, identities, added, settles, rfl, rfl, -, -⟩ :=
        createEmployeeWrite_ok success
      refine ⟨?_, challenge_own fun _ named => settlesOn_own own settles rfl allowed named⟩
      rcases settles with ⟨_, -, -, -, rfl⟩ | ⟨-, -, rfl⟩
      · exact own.kept lasting rfl rfl ⟨[_], rfl, by simp⟩
      · exact own.insert lasting ready rfl rfl ⟨[_], rfl, by simp⟩
  | inviteStaff actingStaffId request =>
      simp only [accountStep, PlatformService.inviteStaff] at success
      split at success
      · contradiction
      · obtain ⟨roleIds, -, done⟩ := bind_eq_ok.mp success
        obtain ⟨rfl, rfl⟩ := Prod.mk.inj (Except.ok.inj done)
        refine ⟨own, fun task member => ?_⟩
        rw [List.mem_singleton.mp member]
        exact AddressInput.normalize_lowered agrees _
  | inviteStaffWrite actingStaffId addresses roleIds =>
      obtain ⟨-, rfl, staffRoles, rfl⟩ := inviteStaffWrite_ok success
      exact ⟨own.insert lasting ready rfl rfl ⟨[], rfl, by simp⟩,
        challenge_own fun _ named => newIdentity_own (Table.get?_insert_self _ _) named⟩
  | setStatus enterpriseId actingEmployeeId employeeId status =>
      simp only [accountStep, EmployeesService.setStatus] at success
      split at success
      · contradiction
      · obtain ⟨rfl, rfl⟩ := Prod.mk.inj (Except.ok.inj success)
        exact ⟨own, by simp [AddressReady]⟩
  | setStatusAuthority enterpriseId actingEmployeeId employeeId employee status =>
      obtain ⟨rfl, rfl⟩ := Prod.mk.inj (Except.ok.inj success)
      exact ⟨own, by simp [AddressReady]⟩
  | setStatusLevel enterpriseId authority employeeId employee status =>
      simp only [accountStep, EmployeesService.setStatusLevel] at success
      repeat' split at success
      all_goals first
        | contradiction
        | skip
      obtain ⟨rfl, rfl⟩ := Prod.mk.inj (Except.ok.inj success)
      exact ⟨own, by simp [AddressReady]⟩
  | setStatusWrite enterpriseId employeeId source status =>
      obtain ⟨rfl, -, rfl⟩ := setStatusWrite_ok success
      exact ⟨own.kept lasting rfl rfl ⟨[], rfl, by simp⟩, by simp⟩
  | setStaffStatus actingStaffId staffId status =>
      simp only [accountStep, PlatformService.setStaffStatus] at success
      repeat' split at success
      all_goals first
        | contradiction
        | skip
      obtain ⟨rfl, rfl⟩ := Prod.mk.inj (Except.ok.inj success)
      exact ⟨own, by simp [AddressReady]⟩
  | setStaffStatusWrite target status =>
      obtain ⟨rfl, -, rfl⟩ := setStaffStatusWrite_ok success
      exact ⟨own.kept lasting rfl rfl ⟨[], rfl, by simp⟩, by simp⟩
  | resend address purpose =>
      obtain ⟨destination, -, done⟩ := bind_eq_ok.mp success
      obtain ⟨rfl, rfl⟩ := Prod.mk.inj (Except.ok.inj done)
      exact ⟨own, by simp [AddressReady]⟩
  | verifyLogin verificationRefId code =>
      obtain ⟨rfl, rfl⟩ := Prod.mk.inj (Except.ok.inj success)
      exact ⟨own, by simp [AddressReady]⟩
  | completeVerifiedLogin identityId verifiedDestination =>
      simp only [accountStep, AuthService.completeVerifiedLogin] at success
      repeat' split at success
      all_goals first
        | contradiction
        | skip
      obtain ⟨rfl, rfl⟩ := Prod.mk.inj (Except.ok.inj success)
      refine ⟨own, fun task member => ?_⟩
      obtain ⟨credential, -, rfl⟩ := List.mem_map.mp member
      trivial
  | markVerified identityId credential =>
      obtain ⟨rfl, rfl⟩ := Prod.mk.inj (Except.ok.inj success)
      exact ⟨own.kept lasting (Table.nextId_update _ _ _) rfl ⟨[], rfl, by simp⟩, by simp⟩
  | acceptInvite request =>
      obtain ⟨destination, -, done⟩ := bind_eq_ok.mp success
      obtain ⟨rfl, rfl⟩ := Prod.mk.inj (Except.ok.inj done)
      exact ⟨own, by simp [AddressReady]⟩
  | completeInvite identityId enterpriseId verifiedDestination newPassword =>
      simp only [accountStep, AuthService.completeInvite] at success
      split at success
      · contradiction
      · obtain ⟨rfl, rfl⟩ := Prod.mk.inj (Except.ok.inj success)
        refine ⟨own, fun task member => ?_⟩
        rw [List.mem_singleton.mp member]
        exact ready
  | completeInviteWrite identity enterpriseId verifiedDestination newPassword =>
      obtain ⟨rfl, rfl⟩ := Prod.mk.inj (Except.ok.inj success)
      refine ⟨?_, by simp⟩
      obtain ⟨identities, set, keys⟩ := setPassword_identities runtime identity
        verifiedDestination newPassword choice db
      rw [set] at lasting ⊢
      obtain ⟨employees, staff, same⟩ := activate_frame identity.id enterpriseId choice.now
        { db with identities := identities }
      rw [same] at lasting ⊢
      exact own.accept lasting keys rfl rfl ready

theorem statement_addresses {choice : AccessChoice} {task : AccessTask}
    (agrees : runtime.LowerAgrees) (own : AddressesOwn runtime db)
    (ready : AddressReady runtime db task)
    (allowed : invitesOwnAddress runtime db (.ran task choice))
    (success : task.statement runtime choice db = .ok (tasks, next)) :
    AddressStep runtime next tasks := by
  have lasting := statement_lasting success
  cases task with
  | role task =>
      obtain ⟨⟨roleTasks, after⟩, step, done⟩ := bind_eq_ok.mp success
      obtain ⟨rfl, rfl⟩ := Prod.mk.inj (Except.ok.inj done)
      obtain ⟨events, trail, quiet⟩ := role_step_quiet step
      obtain ⟨roles, rows, grants, recent, rfl⟩ := role_step_frame step
      refine ⟨own.kept lasting rfl rfl ⟨events, trail, quiet⟩, fun task member => ?_⟩
      obtain ⟨left, -, rfl⟩ := List.mem_map.mp member
      trivial
  | verification task =>
      obtain ⟨outcome, step, rfl⟩ := verification_statement_ok success
      exact verification_step_addresses own lasting ready step
  | account task => exact account_step_addresses agrees own lasting ready allowed success

end Steps

/-- Who replaces a password has read the secret sent to the address they accept with, and
that address is the identity's own: in every run in which no invitation names an unknown
email beside the mobile of somebody who has an identity and does not work in the business. -/
theorem passwords_are_guarded (runtime : Runtime) (agrees : runtime.LowerAgrees)
    (permissions : Table PermissionRow) (templates : Table RoleRow)
    (grants : List RolePermissionRow) (pool : Pool AccessDb AccessTask)
    (reached : (accessMachine runtime).PoolReaches (invitesOwnAddress runtime)
      (.seeded permissions templates grants) pool) : PasswordsGuarded pool.shared := by
  have own : AddressesOwn runtime pool.shared := by
    refine (access_invariant (AddressesOwn runtime) (AddressReady runtime) ?_ ?_ ?_ reached).1
    · intro db call _ _ task opened
      cases call <;>
        · rw [List.mem_singleton.mp opened]
          trivial
    · intro db task choice tasks next own ready allowed success
      obtain ⟨kept, left⟩ := statement_addresses agrees own ready allowed success
      exact ⟨kept, left, fun _ waits => (statement_lasting success).addressReady waits⟩
    · exact
        { emails := by simp [AccessDb.seeded]
          challenges := by simp [AccessDb.seeded]
          accepted := by simp [PasswordsGuarded, AccessDb.seeded] }
  exact own.accepted

instance (runtime : Runtime) (db : AccessDb) (event : Event AccessTask AccessCall AccessChoice) :
    Decidable (invitesOwnAddress runtime db event) := by
  unfold invitesOwnAddress
  split <;> infer_instance

def managerAccepts : List (AccessCall ⊕ (Nat × AccessChoice)) :=
  .inl (signUp "shop" "owner@shop.example") :: turns 0 4 0 "one" ++
    .inl (.createEmployee 0 0 { address := atEmail "manager@shop.example", roleRefId := 3 }) ::
    turns 1 5 0 "two" ++
    .inl (.acceptInvite
      { address := atEmail "manager@shop.example", code := "two", password := "manager" }) ::
    turns 2 8 1 "three"

/-- A manager who accepts an invitation sent to their own email. -/
theorem passwords_are_guarded_manager :
    ∃ pool : Pool AccessDb AccessTask,
      .inviteCompleted 1 (some 0) "manager@shop.example" ∈ pool.shared.trail ∧
      PasswordsGuarded pool.shared ∧ SomeAddressVerified pool.shared := by
  have runs : ((accessMachine plainRuntime).playPool
      (fun db event => decide (invitesOwnAddress plainRuntime db event)) ⟨smallDeployment, []⟩
      managerAccepts).any (fun pool => decide
        (.inviteCompleted 1 (some 0) "manager@shop.example" ∈ pool.shared.trail)) = true := by
    decide +kernel
  obtain ⟨pool, played, done⟩ := (Option.any_eq_true _ _).mp runs
  have reached := (accessMachine plainRuntime).playPool_sound (fun _ _ => of_decide_eq_true) played
  have guarded := passwords_are_guarded plainRuntime plainRuntime_lowerAgrees _ _ _ pool reached
  exact ⟨pool, of_decide_eq_true done, guarded, guarded.someAddressVerified⟩

def invitationCalls (runtime : Runtime) (_ : AccessDb) :
    Event AccessTask AccessCall AccessChoice → Bool
  | .opened (.createEmployee _ _ request) => request.accepted runtime
  | .opened (.signup _) | .opened (.inviteStaff _ _) | .opened (.resend _ _)
  | .opened (.acceptInvite _) | .ran _ _ => true
  | .opened _ => false

def atMobile (number : String) : AddressInput where
  email := none
  mobile := some { number, countryCode := none }

/-- Somebody signs up by mobile. Another business invites an email of its own beside
that mobile, and accepts. -/
def takesOver : List (AccessCall ⊕ (Nat × AccessChoice)) :=
  .inl (.signup
    { slug := "shop", businessEmail := "shop@shop.example", businessMobile := none
      owner := atMobile "+911111111111", password := "owner" }) :: turns 0 4 0 "one" ++
    .inl (signUp "rival" "owner@rival.example") :: turns 1 4 0 "two" ++
    .inl (.createEmployee 1 1
      { address := { atMobile "+911111111111" with email := some "drop@rival.example" }
        roleRefId := 5 }) ::
    turns 2 5 0 "three" ++
    .inl (.acceptInvite
      { address := atEmail "drop@rival.example", code := "three", password := "stolen" }) ::
    turns 3 8 1 "four"

def AccessEvent.isNotVerificationOf (destination : String) : AccessEvent → Bool
  | .verified _ _ proven => proven != destination
  | _ => true

/-- A business takes over an identity by naming its mobile beside an email of its own: no
secret sent to any address of that identity was ever verified. -/
theorem password_taken_over :
    ¬ ∀ (runtime : Runtime), runtime.LowerAgrees → ∀ (permissions : Table PermissionRow)
      (templates : Table RoleRow) (grants : List RolePermissionRow)
      (pool : Pool AccessDb AccessTask),
      (accessMachine runtime).PoolReaches (fun db event => invitationCalls runtime db event = true)
        (.seeded permissions templates grants) pool → SomeAddressVerified pool.shared := by
  intro claimed
  have runs : ((accessMachine plainRuntime).playPool (invitationCalls plainRuntime)
      ⟨smallDeployment, []⟩ takesOver).any (fun pool =>
        pool.shared.trail.head? ==
          some (.inviteCompleted 0 (some 1) "drop@rival.example") &&
        ((pool.shared.identities.get? 0).any fun row =>
          row.email == none && row.mobile == some "+911111111111") &&
        pool.shared.trail.all (AccessEvent.isNotVerificationOf "+911111111111")) = true := by
    decide +kernel
  obtain ⟨pool, played, done⟩ := (Option.any_eq_true _ _).mp runs
  simp only [Bool.and_eq_true, beq_iff_eq] at done
  obtain ⟨⟨last, known⟩, unverified⟩ := done
  obtain ⟨row, found, addresses⟩ := (Option.any_eq_true _ _).mp known
  simp only [Bool.and_eq_true, beq_iff_eq] at addresses
  have reached := (accessMachine plainRuntime).playPool_sound (fun _ _ passed => passed) played
  have guarded := claimed plainRuntime plainRuntime_lowerAgrees _ _ _ pool reached
  obtain ⟨earlier, trail⟩ := List.head?_eq_some_iff.mp last
  obtain ⟨own, challenged, ⟨same, there, address⟩, verificationId, secret, recent, older, split, -⟩ :=
    guarded [] 0 (some 1) "drop@rival.example" earlier trail
  obtain rfl := Option.some.inj (found.symm.trans there)
  rw [addresses.1, addresses.2] at address
  obtain rfl : "+911111111111" = own := by simpa using address
  have member : .verified verificationId challenged "+911111111111" ∈ pool.shared.trail := by
    rw [trail, split]
    simp
  simpa [AccessEvent.isNotVerificationOf] using List.all_eq_true.mp unverified _ member

end UnifiedService.Access
