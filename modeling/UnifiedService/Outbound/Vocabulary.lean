import Mathlib.Data.List.Infix
import UnifiedService.Library.JsString

/-! What the outbox speaks of: event types and statuses, the failures the platform reports
and what they mean, backoff, and the keys that keep one cause from sending twice. -/

set_option autoImplicit false

namespace UnifiedService.Outbound

open UnifiedService.Library

inductive Platform where
  | facebook | instagram | whatsApp | youTube | zendesk | internal
  deriving DecidableEq, Repr

def Platform.text : Platform → String
  | .facebook => "facebook"
  | .instagram => "instagram"
  | .whatsApp => "whatsapp"
  | .youTube => "youtube"
  | .zendesk => "zendesk"
  | .internal => "internal"

inductive OutboundEventType where
  | commentReply | mentionReply | directMessage | commentHide | commentDelete | postPublish
  | verificationSend
  deriving DecidableEq, Repr

def OutboundEventType.text : OutboundEventType → String
  | .commentReply => "comment_reply"
  | .mentionReply => "mention_reply"
  | .directMessage => "direct_message"
  | .commentHide => "comment_hide"
  | .commentDelete => "comment_delete"
  | .postPublish => "post_publish"
  | .verificationSend => "verification_send"

inductive OutboundEventStatus where
  | pending | scheduled | leased | sending | sent | failed | deadLetter | cancelled
  deriving DecidableEq, Repr

/-- `DUE_OUTBOUND_STATUSES`. -/
def OutboundEventStatus.isDue : OutboundEventStatus → Bool
  | .pending | .scheduled | .failed => true
  | .leased | .sending | .sent | .deadLetter | .cancelled => false

/-- `LEASED_OUTBOUND_STATUSES`. -/
def OutboundEventStatus.isLeased : OutboundEventStatus → Bool
  | .leased | .sending => true
  | .pending | .scheduled | .failed | .sent | .deadLetter | .cancelled => false

inductive MessageStatus where
  | pending | sending | sent | delivered | failed
  deriving DecidableEq, Repr

inductive MessageDirection where
  | inbound | outbound
  deriving DecidableEq, Repr

inductive ConversationKind where
  | directMessage | commentThread | mention | review
  deriving DecidableEq, Repr

def replyEventTypeFor : ConversationKind → Option OutboundEventType
  | .directMessage => some .directMessage
  | .commentThread => some .commentReply
  | .mention => some .mentionReply
  | .review => none

inductive ReadBackOutcome where
  | landed | lost | unknown
  deriving DecidableEq, Repr

inductive ModerationAction where
  | hide | unhide | delete
  deriving DecidableEq, Repr

def ModerationAction.text : ModerationAction → String
  | .hide => "hide"
  | .unhide => "unhide"
  | .delete => "delete"

def ModerationAction.eventType : ModerationAction → OutboundEventType
  | .delete => .commentDelete
  | .hide | .unhide => .commentHide

/-! ### Limits -/

def maxSendAttempts : Nat := 5
def retryBaseDelayMs : Nat := 1000
def retryMaxDelayMs : Nat := 5 * 60 * 1000
def platformRequestTimeoutMs : Int := 10000
def sendingReapGraceMs : Int := platformRequestTimeoutMs * 2
def outboundRateLimitParkMs : Nat := 5 * 60 * 1000
def outboundRateLimitMaxWaitMs : Int := 24 * 60 * 60 * 1000
def sendReadBackDelayMs : Int := 2 * 60 * 1000
def sendReadBackWindowMs : Int := 24 * 60 * 60 * 1000
def sendReadBackMatchWindowMs : Int := 10 * 60 * 1000
def sendReconcileBatch : Nat := 25
def maxModerationReplays : Nat := 3
def metaUsageSoftLimitPct : Nat := 80
def normalPriority : Nat := 30
def leaseReaperBatch : Nat := 200

/-! ### What the platform reports -/

structure GraphApiError where
  httpStatus : Nat
  code : Option Int
  subcode : Option Int
  type : Option String
  message : String
  retryAfterMinutes : Option Nat
  deriving DecidableEq, Repr

inductive ErrorCode where
  | upstreamUnavailable | upstreamRateLimited | upstreamContractChanged
  | messagingWindowClosed | channelReauthRequired | permissionDenied
  deriving DecidableEq, Repr

structure MappedGraphError where
  code : ErrorCode
  requiresReauth : Bool
  retryable : Bool
  deriving DecidableEq, Repr

/-- Whether the platform refused the call for rate limiting. The business-use-case block
is matched as a range. -/
def isRateLimit (error : GraphApiError) : Bool :=
  error.code == some 4 || error.code == some 17 || error.code == some 32 ||
    error.code == some 613 ||
    (error.code.any fun code => decide (80000 ≤ code ∧ code ≤ 80099)) ||
    error.subcode == some 2446079

/-- `/allowed window|24[- ]?hour/i`. -/
def mentionsWindow (message : String) : Bool :=
  let lowered := message.toList.map Char.toLower
  ["allowed window", "24hour", "24-hour", "24 hour"].any fun phrase =>
    lowered.tails.any fun rest => phrase.toList.isPrefixOf rest

def mapGraphError (error : GraphApiError) : MappedGraphError :=
  if error.httpStatus = 0 then ⟨.upstreamUnavailable, false, true⟩
  else if error.subcode = some 2534022 then ⟨.messagingWindowClosed, false, false⟩
  else if error.code = some 190 ∨ error.subcode = some 463 ∨ error.subcode = some 467 then
    ⟨.channelReauthRequired, true, false⟩
  else if isRateLimit error then ⟨.upstreamRateLimited, false, true⟩
  else if error.code = some 2 ∨ 500 ≤ error.httpStatus then ⟨.upstreamUnavailable, false, true⟩
  else if error.code = some 10 then
    if mentionsWindow error.message then ⟨.messagingWindowClosed, false, false⟩
    else ⟨.permissionDenied, false, false⟩
  else if error.code = some 3 then ⟨.permissionDenied, false, false⟩
  else if error.type = some "schema" then ⟨.upstreamContractChanged, false, false⟩
  else ⟨.upstreamUnavailable, false, false⟩

/-- Whether a failed send left us not knowing whether it took effect: a transport failure
or a server error. -/
def isAmbiguousFailure (error : GraphApiError) : Bool :=
  error.httpStatus == 0 || decide (500 ≤ error.httpStatus)

/-- What a send throws: the platform's answer, or anything else. -/
inductive SendError where
  | graph (error : GraphApiError)
  | other
  deriving DecidableEq, Repr

/-! ### Backoff -/

/-- A wait between half of the base and the whole of it. The jitter decides where. -/
def jittered (base jitter : Nat) : Nat := base / 2 + jitter % max 1 (base - base / 2)

def nextAttemptDelayMs (attemptCount jitter : Nat) : Nat :=
  jittered (min (retryBaseDelayMs * 2 ^ (attemptCount - 1)) retryMaxDelayMs) jitter

def scheduleRetry (attemptCount maxAttempts : Nat) (now : Int) (jitter : Nat) : Option Int :=
  if maxAttempts ≤ attemptCount then none
  else some (now + nextAttemptDelayMs attemptCount jitter)

def parkFor (baseMs : Nat) (now : Int) (jitter : Nat) : Int := now + jittered baseMs jitter

/-! ### Keys -/

def outboundDedupKey (platform : Platform) (eventType : OutboundEventType)
    (sourceTable : String) (sourceRowId : Nat) : String :=
  platform.text ++ ":" ++ eventType.text ++ ":" ++ sourceTable ++ ":" ++ sourceRowId.repr

/-- A text JavaScript takes for true. -/
def truthy (text : Option String) : Option String := text.filter fun text => text != ""

end UnifiedService.Outbound
