import UnifiedService.Library.Json
import UnifiedService.Inbound.Ledger

/-! The dedup keys of the inbound ledger, and how a webhook entry is taken apart into the
items they are composed for. -/

set_option autoImplicit false

namespace UnifiedService.Inbound

open UnifiedService.Library
open UnifiedService.Outbound (Platform)

def InboundEventType.text : InboundEventType → String
  | .comment => "comment"
  | .directMessage => "direct_message"
  | .mention => "mention"
  | .postUpdate => "post_update"
  | .storyReply => "story_reply"
  | .permissionChange => "permission_change"

def maxIdentityChars : Nat := 400

/-! ### Reading an entry -/

def nonEmptyText (value : Json) (key : String) : Option String :=
  (value.textField key).filter (· ≠ "")

def readItem (value : Json) : Option String := value.textField "item"

def extractId (value : Json) : Option String :=
  ["comment_id", "post_id", "media_id", "id"].findSome? (nonEmptyText value)

/-- The message an event is about, which need not be the message it brings. -/
def extractMessageId (message : Json) : Option String :=
  ["message", "reaction", "read", "message_edit"].findSome? fun key =>
    (message.objectField key).bind (nonEmptyText · "mid")

/-- What an event does to the message it names. A new message has no verb. -/
def extractMessagingVerb (message : Json) : Option String :=
  let at_ :=
    match message.field "timestamp" with
    | some (.num timestamp) => toString timestamp
    | some (.decimal timestamp) => timestamp
    | some (.infinite negative) => if negative then "-Infinity" else "Infinity"
    | _ => ""
  match message.objectField "reaction" with
  | some reaction => some ("reaction:" ++ (reaction.textField "action").getD "react" ++ ":" ++ at_)
  | none =>
      if (message.objectField "read").isSome then some ("read:" ++ at_)
      else if (message.objectField "message_edit").isSome then some "edit"
      else
        match (message.objectField "message").bind (Json.field "is_deleted") with
        | some (.bool true) => some "unsend"
        | _ => none

def extractVerb (value : Json) : Option String := nonEmptyText value "verb"

def mapChangeField (field : Option String) (value : Json) : InboundEventType :=
  if field = some "feed" then
    if readItem value = some "comment" then .comment else .postUpdate
  else if field = some "comments" then .comment
  else if field = some "mention" ∨ field = some "mentions" then .mention
  else if field = some "messages" then .directMessage
  else .postUpdate

section Keys

-- The digest is given in hexadecimal.
variable (sha256 : String → String)

/-- A long identity is hashed, not cut off. -/
def boundIdentity (identity : String) : String :=
  if jsLength identity ≤ maxIdentityChars then identity else "h:" ++ sha256 identity

def inboundDedupKey (platform : Platform) (eventType : InboundEventType)
    (platformEventId : String) : String :=
  platform.text ++ ":" ++ eventType.text ++ ":" ++ boundIdentity sha256 platformEventId

/-- Without an id, identical payloads are one event. -/
def inboundDedupKeyFromPayload (platform : Platform) (eventType : InboundEventType)
    (payload : Json) : String :=
  platform.text ++ ":" ++ eventType.text ++ ":h:" ++
    String.ofList ((sha256 payload.stableStringify).toList.take 48)

/-- One id may carry several events, so the verb is part of the key. An empty one is none. -/
def composeDedupKey (platform : Platform) (eventType : InboundEventType)
    (platformEventId verb : Option String) (payload : Json) : String :=
  match platformEventId.filter (· ≠ ""), verb.filter (· ≠ "") with
  | some id, some verb => inboundDedupKey sha256 platform eventType (id ++ ":" ++ verb)
  | some id, none => inboundDedupKey sha256 platform eventType id
  | none, _ => inboundDedupKeyFromPayload sha256 platform eventType payload

theorem composeDedupKey_of_id {id : String} {verb : Option String} (present : id ≠ "")
    (acts : verb ≠ some "") (platform : Platform) (eventType : InboundEventType)
    (payload : Json) :
    composeDedupKey sha256 platform eventType (some id) verb payload =
      inboundDedupKey sha256 platform eventType
        ((verb.map fun verb => id ++ ":" ++ verb).getD id) := by
  unfold composeDedupKey
  rw [Option.filter_some_pos (by simpa using present)]
  cases verb with
  | none => rfl
  | some verb =>
      have named : verb ≠ "" := fun empty => acts (congrArg some empty)
      rw [Option.filter_some_pos (by simpa using named)]
      rfl

structure WebhookEntry where
  changes : List Json
  messaging : List Json

structure WebhookItem where
  eventType : InboundEventType
  platformEventId : Option String
  dedupKey : String
  payload : Json

def changeItem (platform : Platform) (change : Json) : WebhookItem :=
  let value := (change.field "value").getD .null
  let eventType := mapChangeField (change.textField "field") value
  { eventType
    platformEventId := extractId value
    dedupKey :=
      composeDedupKey sha256 platform eventType (extractId value) (extractVerb value) change
    payload := change }

def messageItem (platform : Platform) (message : Json) : WebhookItem where
  eventType := .directMessage
  platformEventId := extractMessageId message
  dedupKey :=
    composeDedupKey sha256 platform .directMessage (extractMessageId message)
      (extractMessagingVerb message) message
  payload := message

def flatten (entry : WebhookEntry) (platform : Platform) : List WebhookItem :=
  entry.changes.map (changeItem sha256 platform) ++
    entry.messaging.map (messageItem sha256 platform)

def WebhookItem.input (item : WebhookItem) (platform : Platform) (enterpriseId channelId : Nat) :
    InboundEventInput Json where
  enterpriseId := some enterpriseId
  channelId := some channelId
  platform := platform
  eventType := item.eventType
  dedupKey := item.dedupKey
  payload := item.payload
  priority := none

end Keys

end UnifiedService.Inbound
