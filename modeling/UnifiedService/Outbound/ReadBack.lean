import UnifiedService.Outbound.Relay

/-! Reading back ambiguous sends: the platform's comments are listed, and a send is matched
by its text and the time of its attempt. -/

set_option autoImplicit false

namespace UnifiedService.Outbound

open UnifiedService.Library

/-- What the environment decides when a run lists sends and reads one back. No list is an
edge that failed. -/
structure ReadBackChoice where
  now : Int
  skipped : List Nat
  channel : Option ChannelSendContext
  decrypts : Bool
  listing : Option (List ResolvedMentionReply)
  deriving DecidableEq, Repr

inductive ReadBackTask where
  | reconcileOne (send : AmbiguousSend)
  | readBack (send : AmbiguousSend) (sentText : String)
  | resolve (send : AmbiguousSend) (outcome : ReadBackOutcome) (platformEventId : Option String)
  | recordLanded (send : AmbiguousSend) (platformEventId : Option String)
  deriving DecidableEq, Repr

def ReadBackTask.send : ReadBackTask → AmbiguousSend
  | .reconcileOne send | .readBack send _ | .resolve send _ _ | .recordLanded send _ => send

namespace SendReconciliationService

def reconcileAll (choice : ReadBackChoice) (db : OutboundDb) : List ReadBackTask :=
  (db.listAmbiguousAwaitingReadBack sendReconcileBatch sendReadBackDelayMs choice.now
    choice.skipped).map .reconcileOne

def addressed (id : Option String) : Option String := id.filter fun id => jsTrim id != ""

/-- The comment or media whose edge answers for this kind of reply. -/
def readBackEdge (send : AmbiguousSend) : Option String :=
  if send.eventType = .commentReply then addressed send.payload.commentId
  else (addressed send.payload.commentId).orElse fun _ => addressed send.payload.mediaId

def isMatch (sentText : String) (attemptedAt : Int) (candidate : ResolvedMentionReply) : Bool :=
  jsTrim (candidate.text.getD "") == jsTrim sentText &&
    candidate.timestamp.any fun posted =>
      decide (((posted - attemptedAt).natAbs : Int) ≤ sendReadBackMatchWindowMs)

def findMatch (candidates : List ResolvedMentionReply) (sentText : String) (attemptedAt : Int) :
    Option ResolvedMentionReply :=
  candidates.find? (isMatch sentText attemptedAt)

/-- What is known before the edge is asked. A send that nothing can be said about is
unknown, not lost. -/
def reconcileOne (send : AmbiguousSend) (choice : ReadBackChoice) : ReadBackTask :=
  if sendReadBackWindowMs < choice.now - send.lastErrorAt then .resolve send .unknown none
  else if !choice.channel.any OutboundRelayWorker.channelUsable then .resolve send .unknown none
  else if !choice.decrypts then .resolve send .unknown none
  else
    match send.payload.message with
    | none => .resolve send .unknown none
    | some sentText => .readBack send sentText

/-- Asks the edge. One that fails leaves the send to the next run. -/
def readBack (send : AmbiguousSend) (sentText : String) (choice : ReadBackChoice)
    (db : OutboundDb) : OutboundDb × List ReadBackTask :=
  match readBackEdge send with
  | none => (db, [.resolve send .unknown none])
  | some _ =>
      match choice.listing with
      | none => (db, [])
      | some candidates =>
          ({ db with
              platform :=
                { db.platform with listed := db.platform.listed ++ [(send.id, candidates)] } },
            [match findMatch candidates sentText send.lastErrorAt with
              | some found => .resolve send .landed (some found.platformId)
              | none => .resolve send .lost none])

/-- The ledger first: a verdict applies once, and only then reaches the message. -/
def resolve (send : AmbiguousSend) (outcome : ReadBackOutcome) (platformEventId : Option String)
    (db : OutboundDb) : OutboundDb × List ReadBackTask :=
  match db.markReadBackResolved send.id outcome platformEventId with
  | (false, _) => (db, [])
  | (true, resolved) =>
      (resolved, if outcome = .landed then [.recordLanded send platformEventId] else [])

def run (choice : ReadBackChoice) (db : OutboundDb) : ReadBackTask → OutboundDb × List ReadBackTask
  | .reconcileOne send => (db, [reconcileOne send choice])
  | .readBack send sentText => readBack send sentText choice db
  | .resolve send outcome platformEventId => resolve send outcome platformEventId db
  | .recordLanded send platformEventId =>
      (((db.recordDelivery send.enterpriseId send.id platformEventId .sent
        choice.now).toOption).getD db, [])

end SendReconciliationService

end UnifiedService.Outbound
