import UnifiedService.Access.Database

/-! Verification challenges: issuing one supersedes its predecessor, and a
submitted secret spends an attempt before it is compared and consumed. -/

set_option autoImplicit false

namespace UnifiedService.Access

open UnifiedService.Library

structure AccessChoice where
  now : Int
  random : String
  deriving DecidableEq, Repr

structure IssueVerificationInput where
  subjectKind : VerificationSubjectKind
  identityId : Option Nat
  customerId : Option Nat
  enterpriseId : Option Nat
  verificationKind : VerificationKind
  destination : String
  deliveryChannel : DeliveryChannel
  deriving DecidableEq, Repr

namespace AccessDb

def isLive (verification : VerificationRow) : Bool :=
  verification.consumedAt.isNone && verification.supersededAt.isNone

/-- The columns `verifications_live_uniq` compares on live rows. -/
def sameChallenge (verification : VerificationRow) (input : IssueVerificationInput) : Bool :=
  verification.identityId == input.identityId && verification.customerId == input.customerId &&
    verification.verificationKind == input.verificationKind &&
    verification.destination == input.destination

def supersedeLive (db : AccessDb) (input : IssueVerificationInput) (now : Int) : AccessDb :=
  { db with
    verifications := ⟨db.verifications.rows.map fun verification =>
      if isLive verification && sameChallenge verification input then
        { verification with supersededAt := some now }
      else verification⟩ }

def newVerification (input : IssueVerificationInput) (secretHash : String) (now : Int) :
    VerificationRow where
  subjectKind := input.subjectKind
  identityId := input.identityId
  enterpriseId := input.enterpriseId
  customerId := input.customerId
  verificationKind := input.verificationKind
  deliveryChannel := input.deliveryChannel
  destination := input.destination
  secretHash := secretHash
  expiresAt := now + input.verificationKind.config.expiryMs
  maxAttempts := input.verificationKind.config.maxAttempts
  attemptCount := 0
  resendCount := 0
  createdAt := now
  lastSentAt := some now
  consumedAt := none
  supersededAt := none

def createVerification (db : AccessDb) (input : IssueVerificationInput) (secretHash : String)
    (now : Int) : Except AccessError (Nat × AccessDb) :=
  if db.verifications.rows.any fun verification =>
      isLive verification && sameChallenge verification input then
    .error (.uniqueViolation "verifications_live_uniq")
  else
    .ok (db.verifications.nextId,
      { db with
        verifications := db.verifications.insert (newVerification input secretHash now) })

def findLiveByDestination (db : AccessDb) (destination : String) (kind : VerificationKind) :
    Option (Stored VerificationRow) :=
  (db.verifications.select fun verification =>
    verification.destination == destination && verification.verificationKind == kind &&
      isLive verification).getLast?

def findLiveById (db : AccessDb) (id : Nat) (kind : VerificationKind) :
    Option VerificationRow :=
  (db.verifications.get? id).filter fun verification =>
    verification.verificationKind == kind && isLive verification

def spendAttempt (db : AccessDb) (id : Nat) : Option Nat × AccessDb :=
  match db.verifications.get? id with
  | none => (none, db)
  | some verification =>
      if verification.attemptCount < verification.maxAttempts then
        (some (verification.attemptCount + 1),
          { db with
            verifications := db.verifications.update id fun row =>
              { row with attemptCount := row.attemptCount + 1 } })
      else (none, db)

/-- Single use: only a live row can be consumed, so a replay finds nothing. -/
def consume (db : AccessDb) (id : Nat) (now : Int) : Bool × AccessDb :=
  if (db.verifications.get? id).any isLive then
    (true,
      { db with
        verifications := db.verifications.update id fun row =>
          { row with consumedAt := some now } })
  else (false, db)

def countSentToDestinationSince (db : AccessDb) (destination : String) (since : Int) : Nat :=
  db.verifications.count fun verification =>
    verification.destination == destination && decide (since ≤ verification.createdAt)

def recordResend (db : AccessDb) (id : Nat) (now : Int) : AccessDb :=
  { db with
    verifications := db.verifications.update id fun row =>
      { row with resendCount := row.resendCount + 1, lastSentAt := some now } }

end AccessDb

inductive OnVerified where
  | completeInvite (newPassword : String)
  | completeVerifiedLogin
  deriving DecidableEq, Repr

/-- The steps of the verification service. A row travels as it was read. -/
inductive VerificationTask where
  | assertWithinDestinationCap (input : IssueVerificationInput) (resendOf : Option Nat)
  | issue (input : IssueVerificationInput) (resendOf : Option Nat)
  | resend (destination : String) (kind : VerificationKind) (deliveryChannel : DeliveryChannel)
  | recordResend (id : Nat)
  | verifyByDestination (destination submitted : String) (kind : VerificationKind)
      (next : OnVerified)
  | verify (id : Nat) (submitted : String) (kind : VerificationKind) (next : OnVerified)
  | spendAttempt (verification : Stored VerificationRow) (submitted : String) (next : OnVerified)
  | compareSecret (verification : Stored VerificationRow) (attempts : Nat) (submitted : String)
      (next : OnVerified)
  | consume (verification : Stored VerificationRow) (next : OnVerified)
  deriving DecidableEq, Repr

inductive VerificationOutcome where
  | continues (tasks : List VerificationTask)
  | verified (verification : VerificationRow) (next : OnVerified)
  deriving DecidableEq, Repr

namespace VerificationService

def assertWithinDestinationCap (input : IssueVerificationInput) (resendOf : Option Nat)
    (now : Int) : Statement AccessDb AccessError VerificationOutcome := fun db =>
  if input.verificationKind.config.hourlyDestinationCap ≤
      db.countSentToDestinationSince input.destination (now - hourMs) then
    .error (.app .authResendTooSoon [])
  else .ok (.continues [.issue input resendOf], db)

/-- Supersedes the previous live row and inserts the new one, in one transaction.
The secret is handed to the delivery of the destination it was minted for. -/
def issue (runtime : Runtime) (input : IssueVerificationInput) (resendOf : Option Nat)
    (choice : AccessChoice) : Statement AccessDb AccessError VerificationOutcome := fun db => do
  let secret := mintSecret runtime input.verificationKind.config.secretShape choice.random
  let (id, db) ← (db.supersedeLive input choice.now).createVerification input
    (runtime.hashSecret secret) choice.now
  pure (.continues (resendOf.toList.map .recordResend), db.record (.sent id input.destination secret))

/-- Issues a fresh code for a destination that already had one, outside the cooldown. -/
def resend (destination : String) (kind : VerificationKind) (deliveryChannel : DeliveryChannel)
    (now : Int) : Statement AccessDb AccessError VerificationOutcome := fun db =>
  match db.findLiveByDestination destination kind with
  | none => .ok (.continues [], db)
  | some live =>
      if now - live.row.lastSentAt.getD 0 < kind.config.resendCooldownMs then
        .ok (.continues [], db)
      else
        .ok (.continues [.assertWithinDestinationCap
          { subjectKind := live.row.subjectKind
            identityId := live.row.identityId
            customerId := live.row.customerId
            enterpriseId := live.row.enterpriseId
            verificationKind := kind
            destination := destination
            deliveryChannel := deliveryChannel } (some live.id)], db)

def verifyByDestination (destination submitted : String) (kind : VerificationKind)
    (next : OnVerified) : Statement AccessDb AccessError VerificationOutcome := fun db =>
  match db.findLiveByDestination destination kind with
  | none => .error (.app .verificationNotFound [])
  | some live => .ok (.continues [.verify live.id submitted kind next], db)

def verify (id : Nat) (submitted : String) (kind : VerificationKind) (next : OnVerified)
    (now : Int) : Statement AccessDb AccessError VerificationOutcome := fun db =>
  match db.findLiveById id kind with
  | none => .error (.app .verificationNotFound [])
  | some verification =>
      if verification.expiresAt ≤ now then .error (.app .authCodeExpired [])
      else .ok (.continues [.spendAttempt ⟨id, verification⟩ submitted next], db)

/-- Spends the attempt first, then compares: no comparison past the budget. -/
def spendAttempt (verification : Stored VerificationRow) (submitted : String)
    (next : OnVerified) : Statement AccessDb AccessError VerificationOutcome := fun db =>
  match db.spendAttempt verification.id with
  | (none, _) => .error (.app .authCodeAttemptsExceeded [])
  | (some attempts, db) =>
      .ok (.continues [.compareSecret verification attempts submitted next], db)

def compareSecret (runtime : Runtime) (verification : Stored VerificationRow) (attempts : Nat)
    (submitted : String) (next : OnVerified) :
    Statement AccessDb AccessError VerificationOutcome := fun db =>
  if verifySecret runtime verification.row.secretHash submitted then
    .ok (.continues [.consume verification next], db)
  else if verification.row.maxAttempts ≤ attempts then
    .error (.app .authCodeAttemptsExceeded [])
  else .error (.app .authCodeInvalid [])

def consume (verification : Stored VerificationRow) (next : OnVerified) (now : Int) :
    Statement AccessDb AccessError VerificationOutcome := fun db =>
  match db.consume verification.id now with
  | (false, _) => .error (.app .authCodeAlreadyUsed [])
  | (true, db) =>
      .ok (.verified verification.row next,
        db.record (.verified verification.id verification.row.identityId
          verification.row.destination))

def step (runtime : Runtime) (choice : AccessChoice) :
    VerificationTask → Statement AccessDb AccessError VerificationOutcome
  | .assertWithinDestinationCap input resendOf =>
      assertWithinDestinationCap input resendOf choice.now
  | .issue input resendOf => issue runtime input resendOf choice
  | .resend destination kind deliveryChannel => resend destination kind deliveryChannel choice.now
  | .recordResend id => fun db => .ok (.continues [], db.recordResend id choice.now)
  | .verifyByDestination destination submitted kind next =>
      verifyByDestination destination submitted kind next
  | .verify id submitted kind next => verify id submitted kind next choice.now
  | .spendAttempt verification submitted next => spendAttempt verification submitted next
  | .compareSecret verification attempts submitted next =>
      compareSecret runtime verification attempts submitted next
  | .consume verification next => consume verification next choice.now

end VerificationService

end UnifiedService.Access
