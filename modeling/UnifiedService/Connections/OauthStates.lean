import UnifiedService.Library.Buffer
import UnifiedService.Library.Double
import UnifiedService.Library.Json
import UnifiedService.Library.JsonText
import UnifiedService.Library.Machine
import UnifiedService.Library.Transaction

/-! The state that a login at the platform carries and brings back: a signed text for which a
row is kept until a callback spends it. -/

set_option autoImplicit false

namespace UnifiedService.Connections

open UnifiedService.Library

/-- Who starts a login. The ids are those of rows, and safe integers. -/
structure OauthOwner where
  enterpriseId : Nat
  employeeId : Option Nat
  stored : 0 < enterpriseId ∧ enterpriseId ≤ 9007199254740991
  deriving DecidableEq, Repr

structure StatePayload where
  owner : OauthOwner
  nonce : String
  exp : Int
  deriving DecidableEq, Repr

/-- One attempt to connect. Nothing marks such a row as deleted. -/
structure OauthStateRow where
  nonce : String
  owner : OauthOwner
  expiresAt : Int
  consumedAt : Option Int
  createdAt : Int
  deriving DecidableEq, Repr

inductive OauthError where
  | oauthStateInvalid
  | typeError
  | duplicateNonce
  | invalidText
  deriving DecidableEq, Repr

def oauthStateTtlMs : Int := 10 * 60 * 1000

/-- `OAUTH_STATE_RETENTION_DAYS`, in milliseconds. -/
def oauthStateRetentionMs : Int := 24 * 60 * 60 * 1000

def oauthSweepBatch : Nat := 500

/-- `MAX_SWEEP_PASSES`. -/
def oauthSweepPasses : Nat := 200

/-! ### The signed text -/

/-- The keyed digest of a text, and the bytes of a text that is no base64. -/
structure OauthRuntime where
  digest : String → List Nat
  base64 : String → List Nat

def StatePayload.json (payload : StatePayload) : Json :=
  .obj [("enterpriseId", .num payload.owner.enterpriseId),
    ("employeeId", match payload.owner.employeeId with
      | some employeeId => .num employeeId
      | none => .null),
    ("nonce", .str payload.nonce),
    ("exp", .num payload.exp)]

def StatePayload.body (payload : StatePayload) : String :=
  Buffer.toBase64url (Buffer.ofUtf8 payload.json.stringify)

namespace OauthStateService

variable (runtime : OauthRuntime)

def sign (body : String) : String := Buffer.toBase64url (runtime.digest body)

/-- What `mint` hands out. -/
def stateOf (payload : StatePayload) : String :=
  payload.body ++ "." ++ sign runtime payload.body

/-- A field that is a number. One past the range of a double compares like its decimal. -/
def numberField (key : String) (payload : JsonText.Value) : Option ℚ :=
  match payload.field key with
  | some (.number mantissa exponent) => some (Double.nearest (mantissa * 10 ^ exponent))
  | _ => none

/-- The nonce of a parsed payload that passes the checks. Of null no field can be read. -/
def checkPayload (payload : JsonText.Value) (now : Int) : Except OauthError (List Nat) :=
  match payload with
  | .null => .error .typeError
  | payload =>
    if (numberField "exp" payload).all fun exp => exp < (now : ℚ) then .error .oauthStateInvalid
    else if (numberField "enterpriseId" payload).all fun enterpriseId => enterpriseId ≤ 0 then
      .error .oauthStateInvalid
    else
      match payload.field "nonce" with
      | some (.text (unit :: units)) => .ok (unit :: units)
      | _ => .error .oauthStateInvalid

/-- `consume`, up to the statement that spends the row. -/
def verify (state : String) (now : Int) : Except OauthError (List Nat) :=
  match state.toList.splitOn '.' with
  | [body, signature] =>
    if Buffer.ofUtf8 (sign runtime (String.ofList body)) ≠
        Buffer.ofUtf8 (String.ofList signature) then
      .error .oauthStateInvalid
    else
      match JsonText.parse (Buffer.toUtf8 (Buffer.ofBase64url runtime.base64
        (String.ofList body))) with
      | .error _ => .error .oauthStateInvalid
      | .ok payload => checkPayload payload now
  | _ => .error .oauthStateInvalid

end OauthStateService

/-! ### Rows -/

structure OauthStates where
  rows : List OauthStateRow
  unique : (rows.map OauthStateRow.nonce).Nodup

namespace OauthStates

/-- A row that a nonce spends. A text is compared by its UTF-16 units. -/
def opens (nonce : List Nat) (now : Int) (row : OauthStateRow) : Bool :=
  jsUnits row.nonce == nonce && row.consumedAt.isNone && decide (now < row.expiresAt)

def settledBefore (cutoff : Int) (row : OauthStateRow) : Bool :=
  (row.consumedAt.isSome || decide (row.expiresAt < cutoff)) && decide (row.createdAt < cutoff)

def create (states : OauthStates) (row : OauthStateRow) : Option OauthStates :=
  if fresh : row.nonce ∉ states.rows.map OauthStateRow.nonce then
    some ⟨row :: states.rows, List.nodup_cons.mpr ⟨fresh, states.unique⟩⟩
  else none

def consume (states : OauthStates) (nonce : List Nat) (now : Int) :
    OauthStates × Option OauthStateRow :=
  (⟨states.rows.map fun row =>
      if opens nonce now row then { row with consumedAt := some now } else row, by
    rw [List.map_map]
    refine (List.map_congr_left fun row _ => ?_) ▸ states.unique
    rw [Function.comp_apply]
    split <;> rfl⟩,
  states.rows.find? (opens nonce now))

def deleteSettledBefore (states : OauthStates) (cutoff : Int) (picked : List String) :
    OauthStates :=
  ⟨states.rows.filter fun row => !(settledBefore cutoff row && picked.contains row.nonce),
    states.unique.sublist (List.filter_sublist.map _)⟩

end OauthStates

/-! ### Calls -/

structure Minted where
  row : OauthStateRow
  state : String
  deriving DecidableEq, Repr

structure Spend where
  state : String
  row : OauthStateRow
  spentAt : Int
  deriving DecidableEq, Repr

inductive OauthTask where
  | mint (owner : OauthOwner)
  | create (payload : StatePayload)
  | verify (state : String)
  | consume (state : String) (nonce : List Nat)
  | deleteSettled (passes : Nat)
  deriving DecidableEq, Repr

/-- The rows. `minted` lists the inserts, `spent` the rows that callbacks spent and `refused`
what ended in an error, all newest first; no statement reads them. -/
structure OauthDb where
  states : OauthStates
  minted : List Minted
  spent : List Spend
  refused : List (OauthTask × OauthError)
  now : Int

def OauthDb.empty : OauthDb := ⟨⟨[], List.nodup_nil⟩, [], [], [], 0⟩

/-- The clock of the database and that of the process, the random bytes it draws, and what the
subselect of a sweep picks: it has no order. -/
structure OauthChoice where
  now : Int
  clock : Int
  bytes : List Nat
  picked : List String
  deriving DecidableEq, Repr

abbrev OauthStatement := Statement OauthDb OauthError (List OauthTask)

namespace OauthStateService

def mint (owner : OauthOwner) (choice : OauthChoice) : OauthStatement := fun db =>
  .ok ([.create
    { owner
      nonce := Buffer.toBase64url choice.bytes
      exp := choice.clock + oauthStateTtlMs }], db)

/-- The row is written before the state is handed out. -/
def create (runtime : OauthRuntime) (payload : StatePayload) : OauthStatement := fun db =>
  let row : OauthStateRow :=
    { nonce := payload.nonce
      owner := payload.owner
      expiresAt := payload.exp
      consumedAt := none
      createdAt := db.now }
  match db.states.create row with
  | none => .error .duplicateNonce
  | some states =>
    .ok ([], { db with states, minted := ⟨row, stateOf runtime payload⟩ :: db.minted })

def consume (state : String) (nonce : List Nat) : OauthStatement := fun db =>
  -- There is no such character in a text of the database.
  if 0 ∈ nonce then .error .invalidText
  else
    match db.states.consume nonce db.now with
    | (_, none) => .error .oauthStateInvalid
    | (states, some row) => .ok ([], { db with states, spent := ⟨state, row, db.now⟩ :: db.spent })

end OauthStateService

/-- One pass of `drain`, which goes on while its batches are full. -/
def drainOauthStates (passes : Nat) (choice : OauthChoice) : OauthStatement := fun db =>
  let states := db.states.deleteSettledBefore (choice.clock - oauthStateRetentionMs) choice.picked
  if db.states.rows.length - states.rows.length < oauthSweepBatch ∨ passes ≤ 1 then
    .ok ([], { db with states })
  else .ok ([.deleteSettled (passes - 1)], { db with states })

def OauthTask.statement (runtime : OauthRuntime) (choice : OauthChoice) :
    OauthTask → OauthStatement
  | .mint owner => OauthStateService.mint owner choice
  | .create payload => OauthStateService.create runtime payload
  | .verify state => fun db => do
      let nonce ← OauthStateService.verify runtime state choice.clock
      return ([.consume state nonce], db)
  | .consume state nonce => OauthStateService.consume state nonce
  | .deleteSettled passes => drainOauthStates passes choice

inductive OauthCall where
  | buildAuthorizationUrl (owner : OauthOwner)
  | handleCallback (state : String)
  | sweep
  deriving DecidableEq, Repr

def OauthCall.opening : OauthCall → List OauthTask
  | .buildAuthorizationUrl owner => [.mint owner]
  | .handleCallback state => [.verify state]
  | .sweep => [.deleteSettled oauthSweepPasses]

def oauthStep (runtime : OauthRuntime) (db : OauthDb) (task : OauthTask) (choice : OauthChoice) :
    OauthDb × List OauthTask :=
  match transact (task.statement runtime choice) { db with now := choice.now } with
  | (.ok tasks, db) => (db, tasks)
  | (.error error, db) => ({ db with refused := (task, error) :: db.refused }, [])

def oauthMachine (runtime : OauthRuntime) : Machine OauthDb OauthTask OauthCall OauthChoice where
  opening := OauthCall.opening
  run := oauthStep runtime

/-- The clock of the database does not go back, and no process is a day ahead of it. The clock
of a process stands where dates do, random bytes are bytes, and a sweep has its limit. -/
def lawful (db : OauthDb) : Event OauthTask OauthCall OauthChoice → Bool
  | .opened _ => true
  | .ran _ choice =>
      decide (db.now ≤ choice.now ∧ choice.clock ≤ choice.now + oauthStateRetentionMs ∧
        0 ≤ choice.clock ∧ choice.clock + oauthStateTtlMs ≤ 8640000000000000 ∧
        choice.bytes.length = 16 ∧ (∀ byte ∈ choice.bytes, byte < 256) ∧
        choice.picked.length ≤ oauthSweepBatch)

/-- The runs from an empty table: any number of calls, interleaved in any order, with any
texts brought to the callback. -/
def OauthReaches (runtime : OauthRuntime) (pool : Pool OauthDb OauthTask) : Prop :=
  (oauthMachine runtime).PoolReaches (fun db event => lawful db event = true) .empty pool

end UnifiedService.Connections
