import UnifiedService.Inbound.DedupKey

/-! The receipt of a webhook delivery: a parsed body of any shape, taken apart entry by entry
and put into the ledger once for each channel of its account. -/

set_option autoImplicit false

namespace UnifiedService.Inbound

open UnifiedService.Library
open UnifiedService.Outbound (Platform)

/-- What ends a receipt: a value that has no properties or cannot be walked through, or a
statement that fails. -/
inductive IngestError where
  | typeError
  | statementFailed
  deriving DecidableEq, Repr

/-- `value[key]`, which is undefined on a value without fields and fails on null. -/
def readProperty (value : Json) (key : String) : Except IngestError (Option Json) :=
  match value with
  | .null => .error .typeError
  | value => .ok (value.field key)

/-- What a loop over `value ?? []` walks through: the characters, where it is a text. -/
def iterate : Option Json → Except IngestError (List Json)
  | none | some .null => .ok []
  | some (.arr items) => .ok items
  | some (.str text) => .ok (text.toList.map fun letter => .str (String.singleton letter))
  | some (.bool _) | some (.num _) | some (.decimal _) | some (.infinite _) | some (.obj _) =>
      .error .typeError

def isTruthy : Json → Bool
  | .null => false
  | .bool value => value
  | .num value => value != 0
  | .str text => text != ""
  | .decimal _ | .infinite _ | .arr _ | .obj _ => true

structure WebhookChannel where
  id : Nat
  enterpriseId : Nat
  platform : Platform
  platformChannelId : String
  isDisconnected : Bool
  isDeleted : Bool
  deriving DecidableEq, Repr

/-- What a receipt has done so far: the ledger, each offer made to it with the channel it was
made for, and the counts. -/
structure IngestState where
  events : Table (InboundEventRow Json)
  offers : List (Nat × WebhookItem)
  accepted : Nat
  duplicates : Nat
  unmatched : Nat
  failed : Nat

/-- `{ accepted, duplicates, unmatched, failed }`. -/
structure IngestSummary where
  accepted : Nat
  duplicates : Nat
  unmatched : Nat
  failed : Nat
  deriving DecidableEq, Repr

def IngestState.start (events : Table (InboundEventRow Json)) : IngestState :=
  ⟨events, [], 0, 0, 0, 0⟩

def IngestState.summary (state : IngestState) : IngestSummary :=
  ⟨state.accepted, state.duplicates, state.unmatched, state.failed⟩

/-- What a delivery meets: the channels, the text that the driver sends for a parameter that is
no string, the digest, the clock, and which of the inserts fail, by their number. -/
structure IngestRuntime where
  channels : List WebhookChannel
  parameterText : Json → String
  sha256 : String → String
  now : Int
  insertFails : Nat → Bool

namespace IngestRuntime

variable (runtime : IngestRuntime)

def parameter : Json → String
  | .str text => text
  | value => runtime.parameterText value

/-- `ChannelRepository.findAllByPlatformId`. No text with a NUL gets to the database. -/
def findAllByPlatformId (platform : Platform) (platformChannelId : Json) :
    Except IngestError (List WebhookChannel) :=
  if (runtime.parameter platformChannelId).toList.contains '\x00' then .error .statementFailed
  else
    .ok (runtime.channels.filter fun channel =>
      channel.platform == platform &&
        channel.platformChannelId == runtime.parameter platformChannelId &&
        !channel.isDeleted && !channel.isDisconnected)

/-- One item for one channel. A failed insert costs the item alone. -/
def offer (platform : Platform) (channel : WebhookChannel) (item : WebhookItem)
    (state : IngestState) : IngestState :=
  let offered := { state with offers := state.offers ++ [(channel.id, item)] }
  if runtime.insertFails state.offers.length then { offered with failed := state.failed + 1 }
  else
    match InboundEventRepository.insertIgnoringDuplicate
      (item.input platform channel.enterpriseId channel.id) runtime.now state.events with
    | (none, events) => { offered with events := events, duplicates := state.duplicates + 1 }
    | (some _, events) => { offered with events := events, accepted := state.accepted + 1 }

def readItems (items : Option Json) : Except IngestError (List Json) := do
  let items ← iterate items
  items.forM fun item => discard (readProperty item "field")
  return items

/-- `flatten` on an entry of any shape. -/
def flattenEntry (platform : Platform) (entry : Json) : Except IngestError (List WebhookItem) := do
  let changes ← readItems (entry.field "changes")
  let messaging ← readItems (entry.field "messaging")
  return flatten runtime.sha256 ⟨changes, messaging⟩ platform

/-- The channels an id stands for. Without one nothing is asked. -/
def matchedChannels (platform : Platform) :
    Option Json → Except IngestError (List WebhookChannel)
  | none => .ok []
  | some id => runtime.findAllByPlatformId platform id

def ingestEntry (platform : Platform) (state : IngestState) (entry : Json) :
    Except IngestError IngestState := do
  let id ← readProperty entry "id"
  let channels ← runtime.matchedChannels platform (id.filter isTruthy)
  if channels = [] then return { state with unmatched := state.unmatched + 1 }
  let items ← runtime.flattenEntry platform entry
  return channels.foldl
    (fun state channel => items.foldl (fun state item => runtime.offer platform channel item state)
      state) state

/-- `parsed.object`. -/
def platformOf (body : Json) : Platform :=
  if body.textField "object" = some "instagram" then .instagram else .facebook

/-- The whole delivery: a summary, unless something fails that is no insert. -/
def ingest (events : Table (InboundEventRow Json)) (body : Json) :
    Except IngestError IngestState := do
  let entries ← iterate (body.field "entry")
  entries.foldlM (runtime.ingestEntry (platformOf body)) (.start events)

end IngestRuntime

end UnifiedService.Inbound
