import UnifiedService.Outbound.Ledger
import UnifiedService.Outbound.Messages

/-! The relay worker: it claims a batch under its lease, works the events one after
another, and settles each in the ledger and on its message. -/

set_option autoImplicit false

namespace UnifiedService.Outbound

open UnifiedService.Library

structure ChannelSendContext where
  platform : Platform
  platformChannelId : String
  parentPlatformChannelId : Option String
  isManaged : Bool
  reauthRequired : Bool
  effectiveAccessToken : Option String
  deriving DecidableEq, Repr

inductive SendAnswer where
  | accepted (platformId : Option String)
  | failed (error : SendError)
  | failedAfterwards (error : SendError) (platformId : Option String)
  deriving DecidableEq, Repr

structure RelayChoice where
  now : Int
  skipped : List Nat
  batchSize : Nat
  leaseSeconds : Nat
  appPressure : Nat
  channel : Option ChannelSendContext
  ownPressure : Nat
  parentPressure : Nat
  decrypts : Bool
  answer : SendAnswer
  jitter : Nat
  deriving DecidableEq, Repr

/-- The steps of an event's handling, each one statement or one call. -/
inductive RelayTask where
  | deliver (event : ClaimedOutboundEvent)
  | park (event : ClaimedOutboundEvent) (retryAt : Int)
  | checkLease (event : ClaimedOutboundEvent) (channel : ChannelSendContext)
  | send (event : ClaimedOutboundEvent) (channel : ChannelSendContext)
  | markSent (event : ClaimedOutboundEvent) (platformId : Option String)
  | recordSent (event : ClaimedOutboundEvent) (platformId : Option String)
  | settleAsFailed (event : ClaimedOutboundEvent) (ambiguous : Bool)
  | markFailed (event : ClaimedOutboundEvent) (nextAttemptAt : Option Int)
  | markRateLimited (event : ClaimedOutboundEvent) (retryAt : Int)
  | settleMessage (event : ClaimedOutboundEvent)
  deriving DecidableEq, Repr

def RelayTask.event : RelayTask → ClaimedOutboundEvent
  | .deliver event | .park event _ | .checkLease event _ | .send event _ | .markSent event _
  | .recordSent event _ | .settleAsFailed event _ | .markFailed event _
  | .markRateLimited event _ | .settleMessage event => event

def RelayTask.isRecord : RelayTask → Bool
  | .recordSent _ _ | .settleMessage _ => true
  | .deliver _ | .park _ _ | .checkLease _ _ | .send _ _ | .markSent _ _ | .settleAsFailed _ _
  | .markFailed _ _ | .markRateLimited _ _ => false

namespace OutboundRelayWorker

def pollOnce (leaseOwner : Nat) (choice : RelayChoice) (db : OutboundDb) :
    OutboundDb × List RelayTask :=
  if metaUsageSoftLimitPct ≤ choice.appPressure then (db, [])
  else
    let (claimed, db) :=
      db.claimDueBatch leaseOwner choice.batchSize choice.leaseSeconds choice.now choice.skipped
    (db, claimed.map .deliver)

def channelUsable (channel : ChannelSendContext) : Bool :=
  !channel.reauthRequired && channel.isManaged && (truthy channel.effectiveAccessToken).isSome

def ownPoolSpent (choice : RelayChoice) : Bool :=
  decide (metaUsageSoftLimitPct ≤ max choice.ownPressure choice.parentPressure)

/-- The checks before a send. Each refusal names what happens to the event instead. -/
def deliver (event : ClaimedOutboundEvent) (choice : RelayChoice) : RelayTask :=
  match event.enterpriseId, event.channelId, choice.channel with
  | some _, some _, some channel =>
      if !channelUsable channel then .settleAsFailed event false
      else if ownPoolSpent choice then
        .park event (parkFor outboundRateLimitParkMs choice.now choice.jitter)
      else if !choice.decrypts then .settleAsFailed event false
      else .checkLease event channel
  | _, _, _ => .settleAsFailed event false

/-- The call an event stands for. None is thrown before the platform is asked. -/
def graphCall (event : ClaimedOutboundEvent) (channel : ChannelSendContext) : Option GraphCall :=
  match event.eventType with
  | .commentReply => do
      let commentId ← truthy event.payload.commentId
      let message ← truthy event.payload.message
      pure (.replyToComment commentId message channel.platform)
  | .mentionReply => do
      let message ← truthy event.payload.message
      let mediaId ← truthy event.payload.mediaId
      pure (.replyToMention channel.platformChannelId mediaId (truthy event.payload.commentId)
        message)
  | .directMessage => do
      let recipientPlatformId ← truthy event.recipientPlatformId
      let message ← truthy event.payload.message
      -- An Instagram message is addressed to the page behind the account.
      let target :=
        if channel.platform = .instagram then
          channel.parentPlatformChannelId.getD channel.platformChannelId
        else channel.platformChannelId
      pure (.sendDirectMessage target recipientPlatformId message
        (truthy event.payload.replyToPlatformMessageId))
  | .commentHide => do
      let commentId ← truthy event.payload.commentId
      pure (.hideComment commentId (event.payload.hidden.getD true) channel.platform)
  | .commentDelete => do
      let commentId ← truthy event.payload.commentId
      pure (.deleteComment commentId)
  | .postPublish | .verificationSend => none

/-- The id a send returns. Moderation creates nothing, so it returns none. -/
def returnedId (event : ClaimedOutboundEvent) (platformId : Option String) : Option String :=
  match event.eventType with
  | .commentReply | .mentionReply | .directMessage => platformId
  | .commentHide | .commentDelete | .postPublish | .verificationSend => none

def handleSendFailure (event : ClaimedOutboundEvent) (choice : RelayChoice) :
    SendError → RelayTask
  | .other =>
      .markFailed event
        (scheduleRetry event.attemptCount event.maxAttempts choice.now choice.jitter)
  | .graph error =>
      let mapped := mapGraphError error
      if mapped.requiresReauth && event.enterpriseId.isSome && event.channelId.isSome then
        .settleAsFailed event false
      else if isAmbiguousFailure error then .settleAsFailed event true
      else if !mapped.retryable then .markFailed event none
      else if mapped.code = .upstreamRateLimited then
        .markRateLimited event
          (parkFor ((error.retryAfterMinutes.map (· * 60000)).getD outboundRateLimitParkMs)
            choice.now choice.jitter)
      else
        .markFailed event
          (scheduleRetry event.attemptCount event.maxAttempts choice.now choice.jitter)

def send (event : ClaimedOutboundEvent) (channel : ChannelSendContext) (choice : RelayChoice)
    (db : OutboundDb) : OutboundDb × List RelayTask :=
  match graphCall event channel with
  | none => (db, [handleSendFailure event choice .other])
  | some call =>
      match choice.answer with
      | .accepted platformId =>
          ({ db with platform := db.platform.carryOut ⟨event.id, call, platformId⟩ },
            [.markSent event (returnedId event platformId)])
      | .failed error => (db, [handleSendFailure event choice error])
      | .failedAfterwards error platformId =>
          ({ db with platform := db.platform.carryOut ⟨event.id, call, platformId⟩ },
            [handleSendFailure event choice error])

def markSent (leaseOwner : Nat) (event : ClaimedOutboundEvent) (platformId : Option String)
    (db : OutboundDb) : OutboundDb × List RelayTask :=
  match db.markSent event.id leaseOwner platformId with
  | (false, _) => (db, [])
  | (true, settled) => (settled, [.recordSent event platformId])

/-- A write-back on the event's message. A statement that fails is logged and dropped,
and an event without an enterprise has no message to write to. -/
def recordDelivery (event : ClaimedOutboundEvent) (platformId : Option String)
    (status : MessageStatus) (now : Int) (db : OutboundDb) : OutboundDb :=
  match event.enterpriseId with
  | none => db
  | some enterpriseId =>
      ((db.recordDelivery enterpriseId event.id platformId status now).toOption).getD db

/-- One transaction: the ledger row is cancelled and its message settled, or neither. -/
def settleAsFailed (leaseOwner : Nat) (event : ClaimedOutboundEvent) (ambiguous : Bool)
    (now : Int) (db : OutboundDb) : OutboundDb :=
  match
      if ambiguous then db.cancelAmbiguous event.id leaseOwner now
      else db.cancel event.id leaseOwner now with
  | (false, _) => db
  | (true, cancelled) => recordDelivery event none .failed now cancelled

def markFailed (leaseOwner : Nat) (event : ClaimedOutboundEvent) (nextAttemptAt : Option Int)
    (now : Int) (db : OutboundDb) : OutboundDb × List RelayTask :=
  match db.markFailed event.id leaseOwner nextAttemptAt now with
  | (false, _) => (db, [])
  | (true, failed) =>
      (failed, if nextAttemptAt.isNone then [.settleMessage event] else [])

/-- The brake of an account's own pool does not look at what came of parking. -/
def park (leaseOwner : Nat) (event : ClaimedOutboundEvent) (retryAt now : Int)
    (db : OutboundDb) : OutboundDb :=
  (db.markRateLimited event.id leaseOwner retryAt outboundRateLimitMaxWaitMs now).2

def markRateLimited (leaseOwner : Nat) (event : ClaimedOutboundEvent) (retryAt now : Int)
    (db : OutboundDb) : OutboundDb × List RelayTask :=
  match db.markRateLimited event.id leaseOwner retryAt outboundRateLimitMaxWaitMs now with
  | (.deadLettered, dead) => (dead, [.settleMessage event])
  | (.parked, parked) => (parked, [])
  | (.notApplied, _) => (db, [])

def run (leaseOwner : Nat) (choice : RelayChoice) (db : OutboundDb) :
    RelayTask → OutboundDb × List RelayTask
  | .deliver event => (db, [deliver event choice])
  | .park event retryAt => (park leaseOwner event retryAt choice.now db, [])
  | .checkLease event channel =>
      (db, if db.stillHoldsLease event.id leaseOwner choice.now then [.send event channel] else [])
  | .send event channel => send event channel choice db
  | .markSent event platformId => markSent leaseOwner event platformId db
  | .recordSent event platformId => (recordDelivery event platformId .sent choice.now db, [])
  | .settleAsFailed event ambiguous =>
      (settleAsFailed leaseOwner event ambiguous choice.now db, [])
  | .markFailed event nextAttemptAt => markFailed leaseOwner event nextAttemptAt choice.now db
  | .markRateLimited event retryAt => markRateLimited leaseOwner event retryAt choice.now db
  | .settleMessage event => (recordDelivery event none .failed choice.now db, [])

end OutboundRelayWorker

end UnifiedService.Outbound
