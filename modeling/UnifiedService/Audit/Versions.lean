import Mathlib.Data.List.MinMax
import UnifiedService.Library.ReadCommitted
import UnifiedService.Library.StableText

/-! The record of what configuration looked like, version by version. A version is recorded
inside the transaction of the change, in two statements. -/

set_option autoImplicit false

namespace UnifiedService.Audit

open UnifiedService.Library

inductive AuditEntityType where
  | enterprise | identity | enterpriseEmployee | staffMember | role | enterpriseFeature
  | providerConnection | channel | customer | conversation | message | verification
  | rewardProgram | rewardRule | rewardAward | rewardWallet
  deriving DecidableEq, Repr

structure EntityKey where
  enterpriseId : Nat
  entityType : AuditEntityType
  entityId : Nat
  deriving DecidableEq, Repr

structure Snapshot where
  fields : List (String × Json)
  parsed : (Json.obj fields).wellFormed = true

def Snapshot.value (snapshot : Snapshot) (field : String) : Option Json :=
  (Json.obj snapshot.fields).field field

structure FieldChange where
  field : String
  from_ : Json
  to_ : Json

structure EntityVersionEvent where
  entity : EntityKey
  snapshot : Snapshot

/-- A row of `entity_versions`. -/
structure EntityVersionRow where
  entity : EntityKey
  version : Nat
  snapshot : Snapshot
  changeSummary : List FieldChange

/-- What changed between two snapshots, field by field. The first version changed nothing. -/
def diff (before : Option (List (String × Json))) (after : List (String × Json)) :
    List FieldChange :=
  match before with
  | none => []
  | some before =>
      (before.map Prod.fst ++ after.map Prod.fst).eraseDups.filterMap fun field =>
        let from_ := ((Json.obj before).field field).getD .null
        let to_ := ((Json.obj after).field field).getD .null
        if from_.stringify ≠ to_.stringify then some ⟨field, from_, to_⟩ else none

def versionsOf (rows : List EntityVersionRow) (entity : EntityKey) : List EntityVersionRow :=
  rows.filter (·.entity = entity)

namespace EntityVersionRepository

def latest (rows : List EntityVersionRow) (entity : EntityKey) : Option EntityVersionRow :=
  (versionsOf rows entity).argmax (·.version)

/-- `COALESCE(MAX(version), 0) + 1`. -/
def nextVersion (rows : List EntityVersionRow) (entity : EntityKey) : Nat :=
  ((versionsOf rows entity).map (·.version)).max?.getD 0 + 1

end EntityVersionRepository

/-- How far a transaction is in recording a version: it has read the newest one, and then has
a number for its own. -/
inductive RecordStep where
  | ready
  | read (event : EntityVersionEvent) (previous : Option EntityVersionRow)
  | numbered (event : EntityVersionEvent) (previous : Option EntityVersionRow) (version : Nat)

structure VersionTransaction where
  pending : List EntityVersionRow
  step : RecordStep

/-- What a transaction does next: it records a version, goes on with that, or ends. -/
inductive RecordChoice where
  | record (event : EntityVersionEvent)
  | proceed
  | commit
  | rollback

namespace VersionTransaction

def opening : VersionTransaction := ⟨[], .ready⟩

def sees (transaction : VersionTransaction) (store : List EntityVersionRow) :
    List EntityVersionRow :=
  store ++ transaction.pending

/-- An entry of the unique index is locked by the transaction that adds it. -/
def takes (_store : List EntityVersionRow) (transaction : VersionTransaction) :
    RecordChoice → List (EntityKey × Nat)
  | .proceed =>
      match transaction.step with
      | .numbered event _ version => [(event.entity, version)]
      | .ready | .read _ _ => []
  | .record _ | .commit | .rollback => []

section Statements

-- What a jsonb column gives back for what was written to it.
variable (reread : Json → Json)

def appended (event : EntityVersionEvent) (previous : Option EntityVersionRow) (version : Nat) :
    EntityVersionRow where
  entity := event.entity
  version := version
  snapshot := event.snapshot
  changeSummary :=
    diff (previous.map fun previous =>
      previous.snapshot.fields.map fun field => (field.1, reread field.2)) event.snapshot.fields

/-- A number that another transaction has committed meanwhile fails the unique index. -/
def statement (store : List EntityVersionRow) (transaction : VersionTransaction) :
    RecordChoice → Outcome (List EntityVersionRow) VersionTransaction
  | .record event =>
      match transaction.step with
      | .ready =>
          .continues
            { transaction with
              step := .read event
                (EntityVersionRepository.latest (transaction.sees store) event.entity) }
      | .read _ _ | .numbered _ _ _ => .continues transaction
  | .proceed =>
      match transaction.step with
      | .ready => .continues transaction
      | .read event previous =>
          .continues
            { transaction with
              step := .numbered event previous
                (EntityVersionRepository.nextVersion (transaction.sees store) event.entity) }
      | .numbered event previous version =>
          if (transaction.sees store).any fun other =>
              other.entity = event.entity ∧ other.version = version then
            .throws
          else
            .continues ⟨transaction.pending ++ [appended reread event previous version], .ready⟩
  | .commit =>
      match transaction.step with
      | .ready => .commits (transaction.sees store)
      | .read _ _ | .numbered _ _ _ => .continues transaction
  | .rollback => .throws

end Statements

end VersionTransaction

def versionTransactions (reread : Json → Json) :
    TransactionProgram (List EntityVersionRow) VersionTransaction (EntityKey × Nat)
      RecordChoice where
  waits := VersionTransaction.takes
  takes := VersionTransaction.takes
  statement := VersionTransaction.statement reread
  takes_waits _ _ _ := List.Subset.refl _

end UnifiedService.Audit
