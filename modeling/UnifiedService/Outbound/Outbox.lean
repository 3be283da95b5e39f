import UnifiedService.Library.Crew
import UnifiedService.Outbound.Inbox
import UnifiedService.Outbound.ReadBack

/-! Everybody who works on the outbox, each doing one statement after another: relay
workers, the lease reaper, read-back runs, agents and the projector of platform events. -/

set_option autoImplicit false

namespace UnifiedService.Outbound

open UnifiedService.Library

inductive OutboxParty where
  | relay (leaseOwner : Nat)
  | reaper
  | readBack (run : Nat)
  | agent (id : Nat)
  | projector (id : Nat)
  deriving DecidableEq, Repr

inductive AgentCall where
  | reply (input : ReplyInput)
  | moderateComment (input : ModerationInput) (action : ModerationAction)
  | retryModeration (input : ModerationInput)
  deriving DecidableEq, Repr

inductive PlatformEvent where
  | echo (message : PlatformMessage)
  | comment (message : PlatformMessage)
  deriving DecidableEq, Repr

inductive ProjectionTask where
  | findRecorded (echo : PlatformMessage)
  | claimPending (echo : PlatformMessage)
  | insertRecovered (echo : PlatformMessage)
  deriving DecidableEq, Repr

inductive OutboxTask where
  | relay (task : RelayTask)
  | readBack (task : ReadBackTask)
  | project (task : ProjectionTask)
  deriving DecidableEq, Repr

/-- What the environment decides at a step. A statement that fails drops what its party
was doing with the row. -/
structure OutboxChoice extends RelayChoice, ReadBackChoice where
  call : AgentCall
  event : PlatformEvent
  fails : Bool
  deriving DecidableEq, Repr

def AgentCall.apply (call : AgentCall) (now : Int) (db : OutboundDb) : OutboundDb :=
  match call with
  | .reply input => (InboxService.reply input now db).toOption.getD db
  | .moderateComment input action =>
      (InboxService.moderateComment input action now db).toOption.getD db
  | .retryModeration input => (InboxService.retryModeration input now db).toOption.getD db

namespace DirectMessageProjector

def projected (db : OutboundDb) (echo : PlatformMessage) : OutboundDb :=
  { db with
    platform := { db.platform with echoed := db.platform.echoed ++ [echo.platformMessageId] } }

def findRecorded (echo : PlatformMessage) (db : OutboundDb) : OutboundDb × List ProjectionTask :=
  if (db.findIdByPlatformMessageId echo.enterpriseId echo.platformMessageId).isSome then
    (projected db echo, [])
  else (db, [.claimPending echo])

def claimPending (echo : PlatformMessage) (skipped : List Nat) (now : Int) (db : OutboundDb) :
    OutboundDb × List ProjectionTask :=
  match db.claimPendingOutbound echo skipped now with
  | .error _ => (db, [])
  | .ok (none, _) => (db, [.insertRecovered echo])
  | .ok (some _, claimed) => (projected claimed echo, [])

def insertRecovered (echo : PlatformMessage) (now : Int) (db : OutboundDb) : OutboundDb :=
  projected (db.insertRecoveredOutbound echo now).2 echo

def run (choice : OutboxChoice) (db : OutboundDb) :
    ProjectionTask → OutboundDb × List ProjectionTask
  | .findRecorded echo => findRecorded echo db
  | .claimPending echo => claimPending echo choice.skipped choice.now db
  | .insertRecovered echo => (insertRecovered echo choice.now db, [])

end DirectMessageProjector

def startOutbox (db : OutboundDb) (party : OutboxParty) (choice : OutboxChoice) :
    OutboundDb × List OutboxTask :=
  if choice.fails then (db, [])
  else
    match party with
    | .relay leaseOwner =>
        let (db, tasks) := OutboundRelayWorker.pollOnce leaseOwner choice.toRelayChoice db
        (db, tasks.map .relay)
    | .reaper => (db.reclaimExpiredLeases leaseReaperBatch choice.now choice.skipped, [])
    | .readBack _ =>
        (db, (SendReconciliationService.reconcileAll choice.toReadBackChoice db).map .readBack)
    | .agent _ => (choice.call.apply choice.now db, [])
    | .projector _ =>
        match choice.event with
        | .echo message => (db, [.project (.findRecorded message)])
        | .comment message => ((db.insertInbound message choice.now).2, [])

def runOutbox (db : OutboundDb) (party : OutboxParty) (task : OutboxTask)
    (choice : OutboxChoice) : OutboundDb × List OutboxTask :=
  if choice.fails then (db, [])
  else
    match party, task with
    | .relay leaseOwner, .relay task =>
        let (db, tasks) := OutboundRelayWorker.run leaseOwner choice.toRelayChoice db task
        (db, tasks.map .relay)
    | .readBack _, .readBack task =>
        let (db, tasks) := SendReconciliationService.run choice.toReadBackChoice db task
        (db, tasks.map .readBack)
    | .projector _, .project task =>
        let (db, tasks) := DirectMessageProjector.run choice db task
        (db, tasks.map .project)
    | _, _ => (db, [])

def outbox : Crew OutboundDb OutboxParty OutboxTask OutboxChoice where
  start := startOutbox
  run := runOutbox

abbrev OutboxState := CrewState OutboundDb OutboxParty OutboxTask

end UnifiedService.Outbound
