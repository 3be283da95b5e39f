import UnifiedService.Library.Table
import UnifiedService.Outbound.Vocabulary

/-! Logins and the channels connected through them, and what the repositories ask of them.
No code soft-deletes either, so the columns for it are left out. -/

set_option autoImplicit false

namespace UnifiedService.Connections

open UnifiedService.Library
open UnifiedService.Outbound (Platform)

inductive ChannelKind where
  | page | profile
  deriving DecidableEq, Repr

inductive ChannelStatus where
  | active | disconnected | expired | error
  deriving DecidableEq, Repr

inductive ConnectionStatus where
  | active | expired | revoked
  deriving DecidableEq, Repr

inductive TokenStatus where
  | valid | expiringSoon | expired | revoked | notApplicable
  deriving DecidableEq, Repr

/-- The columns of `provider_connections_uniq`. There is one provider. -/
structure ConnectionKey where
  enterpriseId : Nat
  providerUserId : String
  deriving DecidableEq, Repr

structure ChannelId where
  platform : Platform
  platformChannelId : String
  deriving DecidableEq, Repr

/-- A row of `provider_connections`: one login of one business. -/
structure ConnectionRow where
  key : ConnectionKey
  providerUserName : Option String
  accessToken : String
  tokenStatus : TokenStatus
  reauthRequired : Bool
  status : ConnectionStatus
  deriving DecidableEq, Repr

@[ext] structure ChannelIdentity where
  enterpriseId : Nat
  providerConnectionId : Nat
  channel : ChannelId
  deriving DecidableEq, Repr

structure ChannelRow where
  identity : ChannelIdentity
  parentChannelId : Option Nat
  channelKind : ChannelKind
  name : Option String
  username : Option String
  accessToken : Option String
  tokenStatus : TokenStatus
  reauthRequired : Bool
  status : ChannelStatus
  deriving DecidableEq, Repr

structure UpsertChannelInput where
  identity : ChannelIdentity
  parentChannelId : Option Nat
  channelKind : ChannelKind
  name : Option String
  username : Option String
  accessToken : Option String
  tokenStatus : TokenStatus
  status : ChannelStatus
  deriving DecidableEq, Repr

structure UpsertConnectionInput where
  key : ConnectionKey
  providerUserName : Option String
  accessToken : String
  deriving DecidableEq, Repr

structure ClaimedChannel where
  platformChannelId : String
  name : Option String
  deriving DecidableEq, Repr

structure ChannelSendContext where
  channelId : Nat
  providerConnectionId : Nat
  channel : ChannelId
  parentPlatformChannelId : Option String
  effectiveAccessToken : Option String
  reauthRequired : Bool
  deriving DecidableEq, Repr

structure ConnectionDb where
  connections : Table ConnectionRow
  channels : Table ChannelRow
  deriving DecidableEq, Repr

namespace ConnectionDb

def empty : ConnectionDb := ⟨.empty, .empty⟩

/-! ### Logins -/

def findConnection (db : ConnectionDb) (key : ConnectionKey) : Option (Stored ConnectionRow) :=
  db.connections.find? fun connection => connection.key == key

/-- Reconnecting updates the row of the login, and restores it. -/
def upsertConnection (db : ConnectionDb) (input : UpsertConnectionInput) : Nat × ConnectionDb :=
  let row : ConnectionRow :=
    { key := input.key
      providerUserName := input.providerUserName
      accessToken := input.accessToken
      tokenStatus := .valid
      reauthRequired := false
      status := .active }
  match db.findConnection input.key with
  | some connection =>
      (connection.id,
        { db with connections := db.connections.update connection.id fun _ => row })
  | none => (db.connections.nextId, { db with connections := db.connections.insert row })

def revokeConnection (db : ConnectionDb) (enterpriseId connectionId : Nat) : ConnectionDb :=
  { db with
    connections := db.connections.update connectionId fun connection =>
      if connection.key.enterpriseId = enterpriseId ∧ connection.status ≠ .revoked then
        { connection with
          status := .revoked
          tokenStatus := .revoked
          reauthRequired := false }
      else connection }

/-! ### Channels -/

/-- The row `channels_platform_uniq` finds in the way of an insert. -/
def findChannel (db : ConnectionDb) (providerConnectionId : Nat) (channel : ChannelId) :
    Option (Stored ChannelRow) :=
  db.channels.find? fun row =>
    row.identity.providerConnectionId == providerConnectionId && row.identity.channel == channel

/-- Whether `channels_enterprise_platform_uniq` finds a row of the business for it. -/
def holdsChannel (db : ConnectionDb) (enterpriseId : Nat) (channel : ChannelId) : Bool :=
  db.channels.rows.any fun row =>
    row.identity.enterpriseId == enterpriseId && row.identity.channel == channel

/-- A good token is never overwritten with none. The row keeps its enterprise. -/
def upsertChannel (db : ConnectionDb) (input : UpsertChannelInput) : Nat × ConnectionDb :=
  match db.findChannel input.identity.providerConnectionId input.identity.channel with
  | some found =>
      (found.id,
        { db with
          channels := db.channels.update found.id fun row =>
            { identity := row.identity
              parentChannelId := input.parentChannelId
              channelKind := row.channelKind
              name := input.name
              username := input.username
              accessToken := input.accessToken.or row.accessToken
              tokenStatus := input.tokenStatus
              reauthRequired := false
              status := input.status } })
  | none =>
      (db.channels.nextId,
        { db with
          channels := db.channels.insert
            { identity := input.identity
              parentChannelId := input.parentChannelId
              channelKind := input.channelKind
              name := input.name
              username := input.username
              accessToken := input.accessToken
              tokenStatus := input.tokenStatus
              reauthRequired := false
              status := input.status } })

/-- Channels this business already holds for these ids, under a different connection. The
status of the channel is not asked, and the order of the answer decides nothing. -/
def findClaimedByAnotherConnection (db : ConnectionDb) (enterpriseId : Nat)
    (providerConnectionId : Option Nat) (platformChannelIds : List String) :
    List ClaimedChannel :=
  (db.channels.select fun row =>
    row.identity.enterpriseId == enterpriseId &&
      some row.identity.providerConnectionId != providerConnectionId &&
      platformChannelIds.contains row.identity.channel.platformChannelId).map fun found =>
        { platformChannelId := found.row.identity.channel.platformChannelId
          name := found.row.name }

def connectedChannels (db : ConnectionDb) (enterpriseId connectionId : Nat) :
    List (Stored ChannelRow) :=
  db.channels.select fun row =>
    row.identity.enterpriseId == enterpriseId &&
      row.identity.providerConnectionId == connectionId && row.status != .disconnected

/-- `disconnectForConnection`, of the rows it found. -/
def disconnectChannels (db : ConnectionDb) (ids : List Nat) : ConnectionDb :=
  { db with
    channels := db.channels.updateWhere (fun id _ => ids.contains id) fun row =>
      { row with
        status := .disconnected
        accessToken := none
        tokenStatus := .revoked
        reauthRequired := false } }

def findSendContext (db : ConnectionDb) (enterpriseId channelId : Nat) :
    Option ChannelSendContext :=
  ((db.channels.get? channelId).filter fun row =>
    row.identity.enterpriseId == enterpriseId && row.status != .disconnected).map fun row =>
      let parent := (row.parentChannelId.bind db.channels.get?).filter fun parent =>
        parent.identity.enterpriseId == row.identity.enterpriseId
      { channelId := channelId
        providerConnectionId := row.identity.providerConnectionId
        channel := row.identity.channel
        parentPlatformChannelId := parent.map (·.identity.channel.platformChannelId)
        effectiveAccessToken := row.accessToken.or (parent.bind (·.accessToken))
        reauthRequired := row.reauthRequired || parent.any (·.reauthRequired) }

/-- Every channel a webhook's platform id stands for, with its business. -/
def findAllByPlatformId (db : ConnectionDb) (channel : ChannelId) : List (Nat × Nat) :=
  (db.channels.select fun row =>
    row.identity.channel == channel && row.status != .disconnected).map fun found =>
      (found.id, found.row.identity.enterpriseId)

end ConnectionDb

end UnifiedService.Connections
