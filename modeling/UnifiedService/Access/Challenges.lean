import UnifiedService.Library.Machine
import UnifiedService.Library.ReadCommitted
import UnifiedService.Access.Verification

/-! The verification service statement by statement. An issue supersedes and inserts in a
transaction of its own; every other statement commits by itself. -/

set_option autoImplicit false

namespace UnifiedService.Access

open UnifiedService.Library

/-- The columns of `verifications_live_uniq`. -/
structure ChallengeKey where
  identityId : Option Nat
  customerId : Option Nat
  verificationKind : VerificationKind
  destination : String
  deriving DecidableEq, Repr

def VerificationRow.challengeKey (row : VerificationRow) : ChallengeKey :=
  ⟨row.identityId, row.customerId, row.verificationKind, row.destination⟩

def IssueVerificationInput.challengeKey (input : IssueVerificationInput) : ChallengeKey :=
  ⟨input.identityId, input.customerId, input.verificationKind, input.destination⟩

/-- What the transaction of an issue locks: the rows it supersedes, and the entry it puts
into the index. -/
inductive ChallengeLock where
  | row (id : Nat)
  | entry (key : ChallengeKey)
  deriving DecidableEq, Repr

/-- An issue, with what it mints. Its `now()` is the beginning of the transaction. -/
structure Issue where
  input : IssueVerificationInput
  secret : String
  now : Int
  deriving DecidableEq, Repr

/-- The statement the transaction of an issue is at. The update of `supersedeLive` finds
its rows first, and waits for their locks then. -/
inductive IssueState where
  | find (issue : Issue)
  | supersede (issue : Issue) (found : List Nat)
  | create (issue : Issue) (superseded : List Nat)
  | commit (issue : Issue) (superseded : List Nat)
  deriving DecidableEq, Repr

namespace AccessDb

def liveIds (db : AccessDb) (input : IssueVerificationInput) : List Nat :=
  (db.verifications.select fun verification =>
    isLive verification && sameChallenge verification input).map (·.id)

def commitIssue (db : AccessDb) (runtime : Runtime) (issue : Issue) (superseded : List Nat) :
    AccessDb :=
  { db with
    verifications := (db.verifications.updateWhere (fun id _ => superseded.contains id)
      fun verification => { verification with supersededAt := some issue.now }).insert
        (newVerification issue.input (runtime.hashSecret issue.secret) issue.now)
    trail := .sent db.verifications.nextId issue.input.destination issue.secret :: db.trail }

end AccessDb

namespace IssueState

def issue : IssueState → Issue
  | .find issue | .supersede issue _ | .create issue _ | .commit issue _ => issue

def commits : IssueState → Bool
  | .commit _ _ => true
  | _ => false

def takes (db : AccessDb) : IssueState → List ChallengeLock
  | .supersede issue found =>
      (found.filter fun id => (db.liveIds issue.input).contains id).map .row
  | .create issue _ => [.entry issue.input.challengeKey]
  | .find _ | .commit _ _ => []

/-- An insert waits for whoever puts in the same entry, and for whoever may take out the
one that is in the way. -/
def waits (db : AccessDb) : IssueState → List ChallengeLock
  | .supersede _ found => found.map .row
  | .create issue _ =>
      .entry issue.input.challengeKey :: (db.liveIds issue.input).map .row
  | .find _ | .commit _ _ => []

def statement (runtime : Runtime) (db : AccessDb) : IssueState → Outcome AccessDb IssueState
  | .find issue => .continues (.supersede issue (db.liveIds issue.input))
  | .supersede issue found =>
      .continues (.create issue (found.filter fun id => (db.liveIds issue.input).contains id))
  | .create issue superseded =>
      -- A live row the transaction has not superseded itself violates the index.
      if (db.liveIds issue.input).all superseded.contains then
        .continues (.commit issue superseded)
      else .throws
  | .commit issue superseded => .commits (db.commitIssue runtime issue superseded)

end IssueState

def issueProgram (runtime : Runtime) :
    TransactionProgram AccessDb IssueState ChallengeLock Unit where
  waits db state _ := state.waits db
  takes db state _ := state.takes db
  statement db state _ := state.statement runtime db
  takes_waits := by
    intro db state _ lock taken
    cases state with
    | find issue => exact absurd taken List.not_mem_nil
    | commit issue superseded => exact absurd taken List.not_mem_nil
    | supersede issue found =>
        obtain ⟨id, listed, rfl⟩ := List.mem_map.mp taken
        exact List.mem_map_of_mem (List.mem_filter.mp listed).1
    | create issue superseded =>
        rw [List.mem_singleton.mp taken]
        exact List.mem_cons_self

/-- The transactions under way over what is committed, the clock, and two histories: the
rows a secret was compared against, and the destinations of the issues that were let
through by the cap and have not ended. -/
structure ChallengeState where
  server : Server AccessDb IssueState ChallengeLock
  now : Int
  compared : List Nat
  underWay : List String
  deriving DecidableEq, Repr

inductive ChallengeTask where
  | single (task : VerificationTask)
  | transaction (id : Nat) (input : IssueVerificationInput) (resendOf : Option Nat)
  deriving DecidableEq, Repr

inductive ChallengeCall where
  | issue (input : IssueVerificationInput)
  | resend (destination : String) (kind : VerificationKind) (deliveryChannel : DeliveryChannel)
  | verify (id : Nat) (submitted : String) (kind : VerificationKind) (next : OnVerified)
  | verifyByDestination (destination submitted : String) (kind : VerificationKind)
      (next : OnVerified)
  deriving DecidableEq, Repr

def ChallengeCall.opening : ChallengeCall → List ChallengeTask
  | .issue input => [.single (.assertWithinDestinationCap input none)]
  | .resend destination kind deliveryChannel =>
      [.single (.resend destination kind deliveryChannel)]
  | .verify id submitted kind next => [.single (.verify id submitted kind next)]
  | .verifyByDestination destination submitted kind next =>
      [.single (.verifyByDestination destination submitted kind next)]

def VerificationTask.updates : VerificationTask → List Nat
  | .spendAttempt verification _ _ => [verification.id]
  | .consume verification _ => [verification.id]
  | .recordResend id => [id]
  | _ => []

def VerificationTask.compares : VerificationTask → List Nat
  | .compareSecret verification _ _ _ => [verification.id]
  | _ => []

def VerificationTask.passed : VerificationTask → List String
  | .issue input _ => [input.destination]
  | _ => []

namespace ChallengeState

def db (state : ChallengeState) : AccessDb := state.server.store

def locked (state : ChallengeState) (id : Nat) : Bool :=
  state.server.transactions.rows.any fun entry =>
    entry.any fun running => running.locks.contains (.row id)

def committing (state : ChallengeState) (id : Nat) : Bool :=
  (state.server.transactions.get? id).any fun entry =>
    entry.any fun running => running.state.commits

def perform (runtime : Runtime) (state : ChallengeState) (task : VerificationTask)
    (choice : AccessChoice) : ChallengeState × List ChallengeTask :=
  let state := { state with compared := task.compares ++ state.compared }
  match VerificationService.step runtime choice task state.db with
  | .ok (.continues tasks, db) =>
      ({ state with
          server := { state.server with store := db }
          underWay := tasks.flatMap VerificationTask.passed ++ state.underWay },
        tasks.map .single)
  | .ok (.verified _ _, db) => ({ state with server := { state.server with store := db } }, [])
  | .error _ => (state, [])

def beginIssue (runtime : Runtime) (state : ChallengeState) (input : IssueVerificationInput)
    (resendOf : Option Nat) (choice : AccessChoice) : ChallengeState × List ChallengeTask :=
  let issue : Issue :=
    { input
      secret := mintSecret runtime input.verificationKind.config.secretShape choice.random
      now := choice.now }
  ({ state with server := state.server.begin (.find issue) },
    [.transaction state.server.transactions.nextId input resendOf])

/-- The next statement of an issue. The resend is recorded once the transaction is through. -/
def advanceIssue (runtime : Runtime) (state : ChallengeState) (id : Nat)
    (input : IssueVerificationInput) (resendOf : Option Nat) :
    ChallengeState × List ChallengeTask :=
  let server := state.server.advance (issueProgram runtime) id ()
  if server.isOpen id then ({ state with server }, [.transaction id input resendOf])
  else
    ({ state with server, underWay := state.underWay.erase input.destination },
      if state.committing id then
        resendOf.toList.map fun resent => .single (.recordResend resent)
      else [])

def run (runtime : Runtime) (state : ChallengeState) (task : ChallengeTask)
    (choice : AccessChoice) : ChallengeState × List ChallengeTask :=
  let state := { state with now := choice.now }
  match task with
  | .single (.issue input resendOf) => state.beginIssue runtime input resendOf choice
  | .single task =>
      if task.updates.any state.locked then (state, [.single task])
      else state.perform runtime task choice
  | .transaction id input resendOf => state.advanceIssue runtime id input resendOf

def fresh (db : AccessDb) (now : Int) : ChallengeState where
  server := .idle { db with verifications := .empty, trail := [] }
  now := now
  compared := []
  underWay := []

end ChallengeState

def challengeMachine (runtime : Runtime) :
    Machine ChallengeState ChallengeTask ChallengeCall AccessChoice where
  opening := ChallengeCall.opening
  run := ChallengeState.run runtime

/-! ### Live challenges -/

section Live

variable {db : AccessDb}

theorem sameChallenge_iff {row : VerificationRow} {input : IssueVerificationInput} :
    AccessDb.sameChallenge row input = true ↔ row.challengeKey = input.challengeKey := by
  simp [AccessDb.sameChallenge, VerificationRow.challengeKey,
    IssueVerificationInput.challengeKey, and_assoc]

theorem mem_liveIds {input : IssueVerificationInput} {id : Nat} :
    id ∈ db.liveIds input ↔ ∃ row, db.verifications.get? id = some row ∧
      AccessDb.isLive row = true ∧ row.challengeKey = input.challengeKey := by
  unfold AccessDb.liveIds
  rw [List.mem_map]
  constructor
  · rintro ⟨stored, listed, rfl⟩
    obtain ⟨found, live⟩ := Table.mem_select.mp listed
    rw [Bool.and_eq_true, sameChallenge_iff] at live
    exact ⟨stored.row, found, live⟩
  · rintro ⟨row, found, live, same⟩
    refine ⟨⟨id, row⟩, Table.mem_select.mpr ⟨found, ?_⟩, rfl⟩
    rw [Bool.and_eq_true, sameChallenge_iff]
    exact ⟨live, same⟩

theorem supersedeLive_verifications (input : IssueVerificationInput) (now : Int) :
    (db.supersedeLive input now).verifications =
      db.verifications.updateWhere (fun id _ => (db.liveIds input).contains id)
        fun verification => { verification with supersededAt := some now } := by
  refine congrArg Table.mk (List.ext_getElem? fun id => ?_)
  show (List.map _ _)[id]? =
    (db.verifications.updateWhere (fun id _ => (db.liveIds input).contains id) fun verification =>
      { verification with supersededAt := some now }).get? id
  rw [Table.get?_updateWhere, List.getElem?_map]
  cases found : db.verifications.get? id with
  | none =>
      have missing : db.verifications.rows[id]? = none := found
      rw [missing]
      rfl
  | some row =>
      have there : db.verifications.rows[id]? = some row := found
      rw [there, Option.map_some, Option.map_some]
      have named : (db.liveIds input).contains id =
          (AccessDb.isLive row && AccessDb.sameChallenge row input) := by
        rw [Bool.eq_iff_iff, List.contains_iff_mem, mem_liveIds, Bool.and_eq_true,
          sameChallenge_iff]
        constructor
        · rintro ⟨other, again, live, same⟩
          obtain rfl := Option.some.inj (found.symm.trans again)
          exact ⟨live, same⟩
        · exact fun held => ⟨row, found, held⟩
      rw [named]

end Live

end UnifiedService.Access
