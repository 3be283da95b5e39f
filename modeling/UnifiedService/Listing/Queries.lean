import UnifiedService.Library.Keyset
import UnifiedService.Listing.Cursor
import UnifiedService.Projection.Vocabulary
import UnifiedService.Threads.Permissions

/-! The four listings that are paged by a keyset cursor: the inbox, the directory of customers,
the feed of posts and the messages of a thread. -/

set_option autoImplicit false

namespace UnifiedService.Listing

open UnifiedService.Library
open UnifiedService.Outbound (ConversationKind)
open UnifiedService.Projection (ConversationStatus IdentifierKind)
open UnifiedService.Threads (visibleKinds)

def defaultPageSize : Nat := 50

def maxPageSize : Nat := 200

/-- There is no limit where none is given or it is no finite number. -/
def clampLimit : Option ℚ → Nat
  | none => defaultPageSize
  | some limit => if limit < 1 then defaultPageSize else min ⌊limit⌋.toNat maxPageSize

inductive ListingError where
  | timestampOutOfRange
  | channelNotFound
  deriving DecidableEq, Repr

/-- The first instant of the `timestamptz` type. -/
def timestampMin : Int := -210866803200000

/-- A `timestamptz` value, as the driver hands it over. -/
structure Timestamp where
  date : JsDate
  stored : timestampMin ≤ date.getTime
  deriving DecidableEq, Repr

def Timestamp.epoch : Timestamp := ⟨⟨0, by decide⟩, by decide⟩

/-- A key bound into a query, which the database refuses out of the range of its type. -/
def bindKey : Option JsDate → Except ListingError (Option Int)
  | none => .ok none
  | some date =>
      if timestampMin ≤ date.getTime then .ok (some date.getTime) else .error .timestampOutOfRange

section Keyset

variable {Row : Type} (key : Row → Option Timestamp) (id : Row → SafeId)

/-- `(key, id) < (key, id)`, where null compares as false. -/
def lessRow (row place : Option Int × Nat) : Bool :=
  match row.1, place.1 with
  | some key, some reached => key < reached || (key == reached && row.2 < place.2)
  | some _, none | none, some _ | none, none => false

/-- A row after the place of a cursor, with the nulls spelled out. -/
def comesAfter (place row : Option Int × Nat) : Bool :=
  (place.1.isSome && row.1.isSome && lessRow row place) || (place.1.isSome && row.1.isNone) ||
    (place.1.isNone && row.1.isNone && row.2 < place.2)

def placeOf (row : Row) : Option Int × Nat := ((key row).map (·.date.getTime), (id row).value)

/-- `ORDER BY key DESC NULLS LAST, id DESC`. -/
def sortedBefore (one other : Option Int × Nat) : Bool :=
  match one.1, other.1 with
  | some first, some second => second < first || (second == first && other.2 ≤ one.2)
  | some _, none => true
  | none, some _ => false
  | none, none => other.2 ≤ one.2

def orderedRows (limit : Nat) (rows : List Row) : List Row :=
  (rows.insertionSort fun one other =>
    sortedBefore (placeOf key id one) (placeOf key id other) = true).take limit

def keysetQuery (rows : List Row) (admits : Row → Bool) (limit : Nat) :
    Option KeysetCursor → Except ListingError (List Row)
  | none => .ok (orderedRows key id limit (rows.filter admits))
  | some cursor => do
      let reached ← bindKey cursor.key
      return orderedRows key id limit (rows.filter fun row =>
        admits row && comesAfter (reached, cursor.id.value) (placeOf key id row))

end Keyset

section Inbox

structure ConversationRow where
  id : SafeId
  enterpriseId : Nat
  isDeleted : Bool
  status : ConversationStatus
  assignedToEmployeeId : Option Nat
  conversationKind : ConversationKind
  lastMessageAt : Option Timestamp
  deriving DecidableEq, Repr

structure InboxInput where
  enterpriseId : Nat
  status : Option ConversationStatus
  assignedToEmployeeId : Option Nat
  conversationKinds : List ConversationKind
  deriving DecidableEq, Repr

def InboxInput.admits (input : InboxInput) (row : ConversationRow) : Bool :=
  row.enterpriseId == input.enterpriseId && !row.isDeleted &&
    input.status.all (row.status == ·) &&
    input.assignedToEmployeeId.all (row.assignedToEmployeeId == some ·) &&
    input.conversationKinds.contains row.conversationKind

/-- `ConversationRepository.listInbox`. -/
def selectInbox (rows : List ConversationRow) (input : InboxInput) (limit : Nat) :
    Option KeysetCursor → Except ListingError (List ConversationRow) :=
  keysetQuery ConversationRow.lastMessageAt ConversationRow.id rows input.admits limit

structure InboxOptions where
  status : Option ConversationStatus
  assignedToEmployeeId : Option Nat
  conversationKind : Option ConversationKind
  limit : Option ℚ

def emptyPage {Row : Type} : Page Row String := ⟨[], none, false⟩

def InboxOptions.kinds (options : InboxOptions) (held : List String) : List ConversationKind :=
  match options.conversationKind with
  | none => visibleKinds held
  | some kind => (visibleKinds held).filter (· == kind)

def InboxOptions.input (options : InboxOptions) (held : List String) (enterpriseId : Nat) :
    InboxInput where
  enterpriseId := enterpriseId
  status := options.status
  assignedToEmployeeId := options.assignedToEmployeeId
  conversationKinds := options.kinds held

/-- `InboxService.listInbox`, of an actor that holds these permissions. -/
def listInbox (runtime : Runtime) (rows : List ConversationRow) (held : List String)
    (enterpriseId : Nat) (options : InboxOptions) (cursor : Option String) :
    Except ListingError (Page ConversationRow String) :=
  let limit := clampLimit options.limit
  if visibleKinds held = [] then .ok emptyPage
  else if options.kinds held = [] then .ok emptyPage
  else do
    let rows ← selectInbox rows (options.input held enterpriseId) (limit + 1)
      (decodeKeysetCursor runtime cursor)
    return Page.of limit (fun row => encodeKeysetCursor (row.lastMessageAt.map (·.date)) row.id) rows

end Inbox

section Customers

inductive CustomerStatus where
  | active | blocked | merged | platformDeleted
  deriving DecidableEq, Repr

structure CustomerRow where
  id : SafeId
  enterpriseId : Nat
  isDeleted : Bool
  status : CustomerStatus
  mergedIntoCustomerId : Option Nat
  displayName : Option String
  lastSeenAt : Option Timestamp
  deriving DecidableEq, Repr

structure IdentifierRow where
  customerId : Nat
  enterpriseId : Nat
  identifierKind : IdentifierKind
  identifierValue : String
  isDeleted : Bool
  deriving DecidableEq, Repr

def handleIdentifierKinds : List IdentifierKind := [.instagramUsername]

def admitsCustomer (ilike : String → String → Bool) (identifiers : List IdentifierRow)
    (enterpriseId : Nat) (search : Option String) (row : CustomerRow) : Bool :=
  row.enterpriseId == enterpriseId && row.status != .merged && !row.isDeleted &&
    row.mergedIntoCustomerId.isNone &&
    (search.filter (· ≠ "")).all fun text =>
      row.displayName.any (ilike · ("%" ++ text ++ "%")) ||
        identifiers.any fun identifier =>
          identifier.customerId == row.id.value && identifier.enterpriseId == row.enterpriseId &&
            handleIdentifierKinds.contains identifier.identifierKind &&
            ilike identifier.identifierValue ("%" ++ text ++ "%") && !identifier.isDeleted

def listDirectory (ilike : String → String → Bool) (rows : List CustomerRow)
    (identifiers : List IdentifierRow) (enterpriseId : Nat) (search : Option String) (limit : Nat) :
    Option KeysetCursor → Except ListingError (List CustomerRow) :=
  keysetQuery CustomerRow.lastSeenAt CustomerRow.id rows
    (admitsCustomer ilike identifiers enterpriseId search) limit

def listCustomers (runtime : Runtime) (ilike : String → String → Bool) (rows : List CustomerRow)
    (identifiers : List IdentifierRow) (enterpriseId : Nat) (search : Option String)
    (limit : Option ℚ) (cursor : Option String) : Except ListingError (Page CustomerRow String) := do
  let rows ← listDirectory ilike rows identifiers enterpriseId search (clampLimit limit + 1)
    (decodeKeysetCursor runtime cursor)
  return Page.of (clampLimit limit)
    (fun row => encodeKeysetCursor (row.lastSeenAt.map (·.date)) row.id) rows

end Customers

section Posts

structure ChannelRow where
  id : Nat
  enterpriseId : Nat
  isDeleted : Bool
  deriving DecidableEq, Repr

structure PostRow where
  id : SafeId
  enterpriseId : Nat
  channelId : Nat
  isDeleted : Bool
  publishedAt : Option Timestamp
  deriving DecidableEq, Repr

def admitsPost (channels : List ChannelRow) (enterpriseId : Nat) (channelId : Option Nat)
    (row : PostRow) : Bool :=
  channels.any (fun channel => channel.id == row.channelId &&
      channel.enterpriseId == row.enterpriseId) &&
    row.enterpriseId == enterpriseId && !row.isDeleted && channelId.all (row.channelId == ·)

def listFeed (rows : List PostRow) (channels : List ChannelRow) (enterpriseId : Nat)
    (channelId : Option Nat) (limit : Nat) :
    Option KeysetCursor → Except ListingError (List PostRow) :=
  keysetQuery PostRow.publishedAt PostRow.id rows (admitsPost channels enterpriseId channelId) limit

def resolveChannel (channels : List ChannelRow) (enterpriseId : Nat) :
    Option Nat → Except ListingError (Option Nat)
  | none => .ok none
  | some refId =>
      match channels.find? fun channel =>
          channel.enterpriseId == enterpriseId && channel.id == refId && !channel.isDeleted with
      | some channel => .ok (some channel.id)
      | none => .error .channelNotFound

def listPosts (runtime : Runtime) (rows : List PostRow) (channels : List ChannelRow)
    (enterpriseId : Nat) (channelRefId : Option Nat) (limit : Option ℚ) (cursor : Option String) :
    Except ListingError (Page PostRow String) := do
  let channelId ← resolveChannel channels enterpriseId channelRefId
  let rows ← listFeed rows channels enterpriseId channelId (clampLimit limit + 1)
    (decodeKeysetCursor runtime cursor)
  return Page.of (clampLimit limit)
    (fun row => encodeKeysetCursor (row.publishedAt.map (·.date)) row.id) rows

end Posts

section Thread

structure MessageRow where
  id : SafeId
  enterpriseId : Nat
  conversationId : Nat
  isDeleted : Bool
  platformSentAt : Option Timestamp
  createdAt : Timestamp
  deriving DecidableEq, Repr

/-- `COALESCE(platform_sent_at, created_at)`. -/
def MessageRow.sortedAt (row : MessageRow) : Timestamp := row.platformSentAt.getD row.createdAt

def admitsMessage (enterpriseId conversationId : Nat) (row : MessageRow) : Bool :=
  row.enterpriseId == enterpriseId && row.conversationId == conversationId && !row.isDeleted

structure ThreadCursor where
  sortedAt : JsDate
  id : SafeId
  deriving DecidableEq, Repr

/-- A thread has no row without a key, and no cursor without one. -/
def decodeThreadCursor (runtime : Runtime) (cursor : Option String) : Option ThreadCursor :=
  (decodeKeysetCursor runtime cursor).bind fun decoded =>
    decoded.key.map fun date => ⟨date, decoded.id⟩

def findThreadPosition (rows : List MessageRow) (enterpriseId conversationId : Nat)
    (messageId : Nat) : Option ThreadCursor :=
  (rows.find? fun row => admitsMessage enterpriseId conversationId row &&
    row.id.value == messageId).map fun row => ⟨row.sortedAt.date, row.id⟩

def listThread (rows : List MessageRow) (enterpriseId conversationId limit : Nat) :
    Option ThreadCursor → Except ListingError (List MessageRow)
  | none => .ok (orderedRows (fun row => some (MessageRow.sortedAt row)) MessageRow.id limit
      (rows.filter (admitsMessage enterpriseId conversationId)))
  | some cursor => do
      let reached ← bindKey (some cursor.sortedAt)
      return orderedRows (fun row => some (MessageRow.sortedAt row)) MessageRow.id limit
        (rows.filter fun row => admitsMessage enterpriseId conversationId row &&
          lessRow (some row.sortedAt.date.getTime, row.id.value) (reached, cursor.id.value))

/-- The messages that `InboxService.readThread` answers for a conversation of the actor. An id
in place of a cursor is the deprecated way of naming a place. -/
def readThread (runtime : Runtime) (rows : List MessageRow) (enterpriseId conversationId : Nat)
    (limit : Option ℚ) (beforeId : Option Nat) (cursor : Option String) :
    Except ListingError (Page MessageRow String) := do
  let reached := (decodeThreadCursor runtime cursor).or
    (beforeId.bind (findThreadPosition rows enterpriseId conversationId))
  let rows ← listThread rows enterpriseId conversationId (clampLimit limit + 1) reached
  return Page.of (clampLimit limit)
    (fun row => encodeKeysetCursor (some (row.platformSentAt.getD row.createdAt).date) row.id) rows

end Thread

end UnifiedService.Listing
