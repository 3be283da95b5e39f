import UnifiedService.Library.ReadCommitted
import UnifiedService.Connections.Database

/-! The two transactions over channels, statement by statement: the callback that connects
the Pages a login lists, and the disconnect that lets go of them. -/

set_option autoImplicit false

namespace UnifiedService.Connections

open UnifiedService.Library
open UnifiedService.Outbound (Platform)

inductive EnterpriseStatus where
  | pendingActivation | active | suspended
  deriving DecidableEq, Repr

structure ErrorDetail where
  field : String
  issue : String
  deriving DecidableEq, Repr

inductive ConnectionError where
  | enterpriseSuspended
  | enterprisePendingActivation
  | oauthExchangeFailed
  | noPagesFound
  | channelAlreadyConnected (details : List ErrorDetail)
  | connectionNotFound
  deriving DecidableEq, Repr

structure DiscoveredPage where
  pageId : String
  pageName : Option String
  pageAccessToken : Option String
  instagramAccountId : Option String
  instagramUsername : Option String
  error : Option String
  deriving DecidableEq, Repr

/-- An empty text counts for absent. -/
def truthy (text : Option String) : Option String := text.filter fun text => text != ""

structure CallbackRequest where
  enterpriseId : Nat
  enterpriseStatus : Option EnterpriseStatus
  providerUserId : String
  providerUserName : Option String
  accessToken : String
  pages : List DiscoveredPage
  deriving DecidableEq, Repr

structure CallbackInput where
  key : ConnectionKey
  providerUserName : Option String
  accessToken : String
  usablePages : List DiscoveredPage
  deriving DecidableEq, Repr

def handleCallback (request : CallbackRequest) : Except ConnectionError CallbackInput :=
  let usablePages := request.pages.filter fun page => page.error.isNone
  if request.enterpriseStatus ≠ some .active then
    .error (if request.enterpriseStatus = some .suspended then .enterpriseSuspended
      else .enterprisePendingActivation)
  else if request.providerUserId = "" then .error .oauthExchangeFailed
  else if usablePages = [] then .error .noPagesFound
  else
    .ok
      { key := ⟨request.enterpriseId, request.providerUserId⟩
        providerUserName := request.providerUserName
        accessToken := request.accessToken
        usablePages := usablePages }

def DiscoveredPage.channels (page : DiscoveredPage) : List ChannelId :=
  ⟨.facebook, page.pageId⟩ ::
    (truthy page.instagramAccountId).toList.map fun accountId => ⟨.instagram, accountId⟩

def CallbackInput.channels (input : CallbackInput) : List ChannelId :=
  input.usablePages.flatMap (·.channels)

def CallbackInput.platformChannelIds (input : CallbackInput) : List String :=
  input.channels.map (·.platformChannelId)

/-- A page without a token can neither send nor be subscribed, nor can its account. -/
def DiscoveredPage.status (page : DiscoveredPage) : ChannelStatus :=
  if (truthy page.pageAccessToken).isSome then .active else .error

abbrev Encrypt := String → String

namespace MetaConnectionService

def pageInput (encrypt : Encrypt) (enterpriseId connectionId : Nat) (page : DiscoveredPage) :
    UpsertChannelInput where
  identity := ⟨enterpriseId, connectionId, ⟨.facebook, page.pageId⟩⟩
  parentChannelId := none
  channelKind := .page
  name := page.pageName
  username := none
  accessToken := (truthy page.pageAccessToken).map encrypt
  tokenStatus := if (truthy page.pageAccessToken).isSome then .valid else .notApplicable
  status := page.status

/-- The account hangs off its page, and has no token of its own. -/
def instagramInput (enterpriseId connectionId pageChannelId : Nat) (page : DiscoveredPage)
    (accountId : String) : UpsertChannelInput where
  identity := ⟨enterpriseId, connectionId, ⟨.instagram, accountId⟩⟩
  parentChannelId := some pageChannelId
  channelKind := .profile
  name := page.instagramUsername
  username := page.instagramUsername
  accessToken := none
  tokenStatus := .notApplicable
  status := page.status

def upsertPage (encrypt : Encrypt) (enterpriseId connectionId : Nat) (db : ConnectionDb)
    (page : DiscoveredPage) : ConnectionDb :=
  let (pageChannelId, db) := db.upsertChannel (pageInput encrypt enterpriseId connectionId page)
  match truthy page.instagramAccountId with
  | some accountId =>
      (db.upsertChannel
        (instagramInput enterpriseId connectionId pageChannelId page accountId)).2
  | none => db

def connectionInput (encrypt : Encrypt) (input : CallbackInput) : UpsertConnectionInput where
  key := input.key
  providerUserName := input.providerUserName
  accessToken := encrypt input.accessToken

def commitCallback (encrypt : Encrypt) (db : ConnectionDb) (input : CallbackInput) :
    ConnectionDb :=
  let (connectionId, db) := db.upsertConnection (connectionInput encrypt input)
  input.usablePages.foldl (upsertPage encrypt input.key.enterpriseId connectionId) db

def claimedChannels (db : ConnectionDb) (input : CallbackInput) : List ClaimedChannel :=
  db.findClaimedByAnotherConnection input.key.enterpriseId
    ((db.findConnection input.key).map (·.id)) input.platformChannelIds

/-- One Page, one connection, per business. -/
def assertUnclaimed (db : ConnectionDb) (input : CallbackInput) : Except ConnectionError Unit :=
  let claimed := claimedChannels db input
  if claimed.isEmpty then .ok ()
  else
    .error (.channelAlreadyConnected (claimed.map fun channel =>
      { field := "page"
        issue := channel.name.getD channel.platformChannelId ++ " is already connected" }))

end MetaConnectionService

/-! ### Statements -/

/-- What a transaction locks: a login or a channel it writes, and the entry it puts into
`channels_enterprise_platform_uniq`. -/
inductive LockedRow where
  | connection (key : ConnectionKey)
  | channel (key : ConnectionKey) (channel : ChannelId)
  | entry (enterpriseId : Nat) (channel : ChannelId)
  deriving DecidableEq, Repr

inductive ConnectionState where
  | connect (input : CallbackInput)
  | claim (input : CallbackInput)
  | upserts (input : CallbackInput) (written left : List ChannelId)
  | disconnect (enterpriseId connectionId : Nat)
  | revoke (enterpriseId connectionId : Nat) (ids : List Nat)
  | disconnected (enterpriseId connectionId : Nat) (ids : List Nat)
  deriving DecidableEq, Repr

namespace ConnectionDb

def keyOf (db : ConnectionDb) (connectionId : Nat) : Option ConnectionKey :=
  (db.connections.get? connectionId).map (·.key)

def hasOwn (db : ConnectionDb) (key : ConnectionKey) (channel : ChannelId) : Bool :=
  (db.findConnection key).any fun connection => (db.findChannel connection.id channel).isSome

end ConnectionDb

/-- The rows a statement locks. An upsert that inserts puts an entry into both indexes. -/
def ConnectionState.takes (db : ConnectionDb) : ConnectionState → List LockedRow
  | .connect input => [.connection input.key]
  | .upserts input _ (channel :: _) =>
      .channel input.key channel ::
        if db.hasOwn input.key channel then [] else [.entry input.key.enterpriseId channel]
  | .disconnect enterpriseId connectionId =>
      (db.keyOf connectionId).toList.flatMap fun key =>
        (db.connectedChannels enterpriseId connectionId).map fun found =>
          .channel key found.row.identity.channel
  | .revoke _ connectionId _ => (db.keyOf connectionId).toList.map .connection
  | .claim _ | .upserts _ _ [] | .disconnected _ _ _ => []

def ConnectionState.statement (encrypt : Encrypt) (db : ConnectionDb) :
    ConnectionState → Outcome ConnectionDb ConnectionState
  | .connect input => .continues (.claim input)
  | .claim input =>
      match MetaConnectionService.assertUnclaimed db input with
      | .ok () => .continues (.upserts input [] input.channels)
      | .error _ => .throws
  | .upserts input written (channel :: left) =>
      -- A row of another login is no conflict of the upsert's, but of the other index.
      if db.hasOwn input.key channel then .continues (.upserts input (channel :: written) left)
      else if db.holdsChannel input.key.enterpriseId channel then .throws
      else .continues (.upserts input (channel :: written) left)
  | .upserts input _ [] => .commits (MetaConnectionService.commitCallback encrypt db input)
  | .disconnect enterpriseId connectionId =>
      .continues (.revoke enterpriseId connectionId
        ((db.connectedChannels enterpriseId connectionId).map (·.id)))
  | .revoke enterpriseId connectionId ids => .continues (.disconnected enterpriseId connectionId ids)
  | .disconnected enterpriseId connectionId ids =>
      .commits ((db.disconnectChannels ids).revokeConnection enterpriseId connectionId)

structure ConnectionChoice where
  fails : Bool
  deriving DecidableEq, Repr

def channelTransactions (encrypt : Encrypt) :
    TransactionProgram ConnectionDb ConnectionState LockedRow ConnectionChoice where
  waits db state _ := state.takes db
  takes db state _ := state.takes db
  statement db state choice := if choice.fails then .throws else state.statement encrypt db
  takes_waits _ _ _ := List.Subset.refl _

abbrev ConnectionServer := Server ConnectionDb ConnectionState LockedRow

/-- Only callbacks and disconnects begin: a callback that passed its checks, a disconnect of
a connection its business has. -/
def mayBegin (server : ConnectionServer) : Server.Turn ConnectionState ConnectionChoice → Bool
  | .begins (.connect input) => !input.usablePages.isEmpty
  | .begins (.disconnect enterpriseId connectionId) =>
      (server.store.keyOf connectionId).any fun key => key.enterpriseId == enterpriseId
  | .begins _ => false
  | .advances _ _ => true

end UnifiedService.Connections
