import UnifiedService.Library.Tally
import UnifiedService.Inbound.Ledger

/-! The inbound projector: the poll loop of a worker over the inbound ledger, beside the
lease reaper, the ingestion of new rows and an operator who replays rows. What projecting
a row does to the inbox is left to the projectors. -/

set_option autoImplicit false

namespace UnifiedService.Inbound

open UnifiedService.Library
open UnifiedService.Outbound (Platform scheduleRetry leaseReaperBatch)

def maxProjectionAttempts : Nat := 5

inductive RewardTriggerKind where
  | commentOnOwnPost | commentOnMentionedPost | directMessageInbound | storyMention | storyReply
  | referralEntry | postbackTapped
  deriving DecidableEq, Repr

/-- What happened, for the reward engine. The source is always a message. -/
structure ProjectedTriggerFacts where
  enterpriseId : Nat
  customerId : Nat
  channelId : Nat
  sourceRefId : Nat
  occurredAtUtc : Int
  content : Option String
  triggerKind : RewardTriggerKind
  deriving DecidableEq, Repr

inductive ReversalReason where
  | contentRemoved | contentHidden
  deriving DecidableEq, Repr

structure ProjectedReversalFacts where
  enterpriseId : Nat
  sourceRefId : Nat
  reasonCode : ReversalReason
  deriving DecidableEq, Repr

structure ProjectionOutcome where
  projected : Bool
  trigger : Option ProjectedTriggerFacts
  reversal : Option ProjectedReversalFacts
  deriving DecidableEq, Repr

structure ProjectionContext where
  enterpriseId : Nat
  channelId : Nat
  platform : Platform
  inboundEventId : Nat
  /-- Our own ids on the platform: the channel's, and its parent page's. -/
  ownPlatformIds : List String
  attemptCount : Nat
  deriving DecidableEq, Repr

/-- What projecting an event does to the inbox: what it committed stands, also where it
throws afterwards. -/
abbrev Projector (Inbox Payload Oracle : Type) :=
  InboundEventType → ProjectionContext → Payload → Int → Oracle → Inbox →
    Inbox × Option ProjectionOutcome

def isRegistered : InboundEventType → Bool
  | .comment | .directMessage | .mention | .postUpdate => true
  | .storyReply | .permissionChange => false

structure Intake (Inbox Payload : Type) where
  events : Table (InboundEventRow Payload)
  inbox : Inbox
  offered : List ProjectedTriggerFacts
  reversed : List ProjectedReversalFacts
  deriving DecidableEq, Repr

def Intake.start {Inbox Payload : Type} (inbox : Inbox) : Intake Inbox Payload :=
  ⟨.empty, inbox, [], []⟩

structure ChannelIds where
  platformChannelId : String
  parentPlatformChannelId : Option String
  deriving DecidableEq, Repr

structure IntakeChoice (Payload Oracle : Type) where
  now : Int
  jitter : Nat
  batchSize : Nat
  leaseSeconds : Nat
  skipped : List Nat
  channel : Option ChannelIds
  oracle : Oracle
  input : InboundEventInput Payload
  replays : Nat
  fails : Bool
  deriving DecidableEq, Repr

inductive ProjectorStep (Payload : Type) where
  | next
  | findContext (event : ClaimedInboundEvent Payload)
  | project (event : ClaimedInboundEvent Payload) (context : ProjectionContext)
  | markSkipped (event : ClaimedInboundEvent Payload) (tried : Bool)
  | markProcessed (event : ClaimedInboundEvent Payload) (outcome : ProjectionOutcome)
  | offerToRewards (outcome : ProjectionOutcome)
  | reverseRewards (outcome : ProjectionOutcome)
  | markFailed (event : ClaimedInboundEvent Payload) (nextAttemptAt : Int)
  deriving DecidableEq, Repr

structure ProjectorTask (Payload : Type) where
  step : ProjectorStep Payload
  rest : List (ClaimedInboundEvent Payload)
  deriving DecidableEq, Repr

inductive IntakeParty where
  | worker (leaseOwner : Nat)
  | reaper
  | ingest (id : Nat)
  | operator
  deriving DecidableEq, Repr

section Worker

variable {Inbox Payload Oracle : Type} (projectors : Projector Inbox Payload Oracle)

namespace InboundProjectorWorker

def failed (event : ClaimedInboundEvent Payload) (choice : IntakeChoice Payload Oracle) :
    ProjectorStep Payload :=
  .markFailed event
    ((scheduleRetry event.attemptCount maxProjectionAttempts choice.now choice.jitter).getD
      choice.now)

/-- The tenant, the channel and the platform come from the row. -/
def findProjectionContext (event : ClaimedInboundEvent Payload) (channel : Option ChannelIds)
    (events : Table (InboundEventRow Payload)) : Option ProjectionContext := do
  let row ← events.get? event.id
  let enterpriseId ← row.enterpriseId
  let channelId ← row.channelId
  let ids ← channel
  pure
    { enterpriseId := enterpriseId
      channelId := channelId
      platform := row.platform
      inboundEventId := event.id
      ownPlatformIds := ids.platformChannelId :: ids.parentPlatformChannelId.toList
      attemptCount := event.attemptCount }

def runStep (leaseOwner : Nat) (choice : IntakeChoice Payload Oracle)
    (intake : Intake Inbox Payload) (rest : List (ClaimedInboundEvent Payload)) :
    ProjectorStep Payload → Intake Inbox Payload × List (ProjectorTask Payload)
  | .next =>
      match rest with
      | [] => (intake, [])
      | event :: rest =>
          (intake,
            [⟨if isRegistered event.eventType then .findContext event
              else .markSkipped event false, rest⟩])
  | .findContext event =>
      if choice.fails then (intake, [])
      else
        (intake,
          [⟨match findProjectionContext event choice.channel intake.events with
            | some context => .project event context
            | none => .markSkipped event false, rest⟩])
  | .project event context =>
      match projectors event.eventType context event.payload choice.now choice.oracle
        intake.inbox with
      | (inbox, none) => ({ intake with inbox := inbox }, [⟨failed event choice, rest⟩])
      | (inbox, some outcome) =>
          ({ intake with inbox := inbox },
            [⟨if outcome.projected then .markProcessed event outcome
              else .markSkipped event true, rest⟩])
  | .markSkipped event tried =>
      if choice.fails then (intake, if tried then [⟨failed event choice, rest⟩] else [])
      else
        ({ intake with
            events := (InboundEventRepository.markSkipped event.id leaseOwner intake.events).2 },
          [⟨.next, rest⟩])
  | .markProcessed event outcome =>
      if choice.fails then (intake, [⟨failed event choice, rest⟩])
      else
        ({ intake with
            events := (InboundEventRepository.markProcessed event.id leaseOwner intake.events).2 },
          [⟨.offerToRewards outcome, rest⟩])
  | .offerToRewards outcome =>
      ({ intake with offered := intake.offered ++ outcome.trigger.toList },
        [⟨.reverseRewards outcome, rest⟩])
  | .reverseRewards outcome =>
      ({ intake with reversed := intake.reversed ++ outcome.reversal.toList }, [⟨.next, rest⟩])
  | .markFailed event nextAttemptAt =>
      if choice.fails then (intake, [])
      else
        ({ intake with
            events :=
              (InboundEventRepository.markFailed event.id leaseOwner nextAttemptAt
                intake.events).2 },
          [⟨.next, rest⟩])

def pollOnce (leaseOwner : Nat) (choice : IntakeChoice Payload Oracle)
    (intake : Intake Inbox Payload) : Intake Inbox Payload × List (ProjectorTask Payload) :=
  if choice.fails then (intake, [])
  else
    let (claimed, events) :=
      InboundEventRepository.claimBatch leaseOwner choice.batchSize choice.leaseSeconds
        choice.now choice.skipped intake.events
    ({ intake with events := events }, [⟨.next, claimed⟩])

end InboundProjectorWorker

/-- What a party with nothing left starts. A statement that fails changes nothing. -/
def startIntake (intake : Intake Inbox Payload) (party : IntakeParty)
    (choice : IntakeChoice Payload Oracle) :
    Intake Inbox Payload × List (ProjectorTask Payload) :=
  match party with
  | .worker leaseOwner => InboundProjectorWorker.pollOnce leaseOwner choice intake
  | .reaper =>
      (if choice.fails then intake
        else
          { intake with
            events :=
              InboundEventRepository.reclaimExpiredLeases leaseReaperBatch choice.now
                choice.skipped intake.events },
        [])
  | .ingest _ =>
      (if choice.fails then intake
        else
          { intake with
            events :=
              (InboundEventRepository.insertIgnoringDuplicate choice.input choice.now
                intake.events).2 },
        [])
  | .operator =>
      (if choice.fails then intake
        else
          { intake with
            events := (InboundEventRepository.replay choice.replays choice.now intake.events).2 },
        [])

def runIntake (intake : Intake Inbox Payload) (party : IntakeParty)
    (task : ProjectorTask Payload) (choice : IntakeChoice Payload Oracle) :
    Intake Inbox Payload × List (ProjectorTask Payload) :=
  match party with
  | .worker leaseOwner =>
      InboundProjectorWorker.runStep projectors leaseOwner choice intake task.rest task.step
  | .reaper | .ingest _ | .operator => (intake, [])

def intake : Crew (Intake Inbox Payload) IntakeParty (ProjectorTask Payload)
    (IntakeChoice Payload Oracle) where
  start := startIntake
  run := runIntake projectors

abbrev IntakeState (Inbox Payload : Type) :=
  CrewState (Intake Inbox Payload) IntakeParty (ProjectorTask Payload)

end Worker

end UnifiedService.Inbound
