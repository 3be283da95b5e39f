import Mathlib.Data.List.Sort
import UnifiedService.Library.Machine
import UnifiedService.Library.Table
import UnifiedService.Library.Transaction
import UnifiedService.Connections.Service

/-! Businesses and the features they hold, statement by statement: what a business asks for,
what the platform decides, and the sweep of the terms that have run out. -/

set_option autoImplicit false

namespace UnifiedService.Features

open UnifiedService.Library
open UnifiedService.Connections (EnterpriseStatus ErrorDetail)

/-! ### Statuses -/

inductive FeatureStatus where
  | active | beta | deprecated
  deriving DecidableEq, Repr

inductive EnterpriseFeatureStatus where
  | accessRequested | declined | active | disabled | expired | revoked
  deriving DecidableEq, Repr

def EnterpriseFeatureStatus.text : EnterpriseFeatureStatus → String
  | .accessRequested => "access_requested"
  | .declined => "declined"
  | .active => "active"
  | .disabled => "disabled"
  | .expired => "expired"
  | .revoked => "revoked"

def enterpriseStatusText : EnterpriseStatus → String
  | .pendingActivation => "pending_activation"
  | .active => "active"
  | .suspended => "suspended"

def enterpriseFeatureTransitions : EnterpriseFeatureStatus → List EnterpriseFeatureStatus
  | .accessRequested => [.active, .declined]
  | .declined => [.accessRequested]
  | .active => [.disabled, .expired, .revoked]
  | .disabled => [.active]
  | .expired => [.active]
  | .revoked => []

def enterpriseStatusTransitions : EnterpriseStatus → List EnterpriseStatus
  | .pendingActivation => [.active, .suspended]
  | .active => [.suspended]
  | .suspended => [.active]

/-! ### Rows -/

structure EnterpriseRow where
  status : EnterpriseStatus
  isDeleted : Bool
  deriving DecidableEq, Repr

structure FeatureRow where
  key : String
  status : FeatureStatus
  isDeleted : Bool
  deriving DecidableEq, Repr

/-- Where a business stands on one feature. Nothing deletes such a row. -/
structure EnterpriseFeatureRow where
  enterpriseId : Nat
  featureId : Nat
  status : EnterpriseFeatureStatus
  requestedByEmployeeId : Option Nat
  requestedAt : Option Int
  decidedByStaffId : Option Nat
  decidedAt : Option Int
  declineReason : Option String
  enabledAt : Option Int
  disabledAt : Option Int
  expiresAt : Option Int
  deriving DecidableEq, Repr

inductive AuditEntry where
  | enterpriseUpdated (enterpriseId : Nat) (old new : EnterpriseStatus) (reason : Option String)
  | featureRequested (enterpriseId : Nat) (featureKey : String)
      (old : Option EnterpriseFeatureStatus)
  | featureDecided (enterpriseId featureId : Nat) (featureKey : String)
      (old : Option EnterpriseFeatureStatus) (new : EnterpriseFeatureStatus)
      (reason : Option String)
  deriving DecidableEq, Repr

inductive PlatformError where
  | permissionDenied
  | enterpriseNotFound
  | enterprisePendingActivation
  | enterpriseSuspended
  | featureNotFound
  | invalidStateTransition (details : List ErrorDetail)
  | concurrentModification
  deriving DecidableEq, Repr

structure FeatureRequest where
  enterpriseId : Nat
  requestedByEmployeeId : Nat
  featureKey : String
  deriving DecidableEq, Repr

structure FeatureDecision where
  staffId : Option Nat
  enterpriseRefId : Nat
  featureKey : String
  status : EnterpriseFeatureStatus
  reason : Option String
  deriving DecidableEq, Repr

structure GrantInput where
  enterpriseId : Nat
  featureId : Nat
  status : EnterpriseFeatureStatus
  decidedByStaffId : Nat
  deriving DecidableEq, Repr

structure StatusUpdate where
  enterpriseFeatureId : Nat
  old : EnterpriseFeatureStatus
  new : EnterpriseFeatureStatus
  decidedByStaffId : Nat
  declineReason : Option String
  deriving DecidableEq, Repr

structure StatusChange where
  enterpriseRefId : Nat
  status : EnterpriseStatus
  reason : Option String
  deriving DecidableEq, Repr

structure FoundFeature where
  decision : FeatureDecision
  staffId : Nat
  enterpriseId : Nat
  featureId : Nat
  deriving DecidableEq, Repr

def FoundFeature.grant (found : FoundFeature) : GrantInput where
  enterpriseId := found.enterpriseId
  featureId := found.featureId
  status := found.decision.status
  decidedByStaffId := found.staffId

def FeatureRequest.entry (request : FeatureRequest) (old : Option EnterpriseFeatureStatus) :
    AuditEntry :=
  .featureRequested request.enterpriseId request.featureKey old

def FoundFeature.entry (found : FoundFeature) (old : Option EnterpriseFeatureStatus) :
    AuditEntry :=
  .featureDecided found.enterpriseId found.featureId found.decision.featureKey old
    found.decision.status found.decision.reason

def StatusChange.entry (change : StatusChange) (old : EnterpriseStatus) : AuditEntry :=
  .enterpriseUpdated change.enterpriseRefId old change.status change.reason

/-- The steps of all calls, a statement each. A sweep reads what is due and writes it one
after the other: the rows it has picked may have moved on before they are written. -/
inductive PlatformTask where
  | statusById (request : FeatureRequest)
  | currentStatus (request : FeatureRequest)
  | requestAccess (request : FeatureRequest) (old : Option EnterpriseFeatureStatus)
  | auditRequested (request : FeatureRequest) (old : Option EnterpriseFeatureStatus)
  | findEnterprise (decision : FeatureDecision)
  | findFeatureIdByKey (decision : FeatureDecision) (staffId enterpriseId : Nat)
  | findEnterpriseFeature (found : FoundFeature)
  | insertEnterpriseFeature (found : FoundFeature)
  | updateEnterpriseFeatureStatus (found : FoundFeature) (update : StatusUpdate)
  | auditDecided (found : FoundFeature) (old : Option EnterpriseFeatureStatus)
  | findIdByRefId (change : StatusChange)
  | updateEnterpriseStatus (change : StatusChange) (old : EnterpriseStatus)
  | auditUpdated (change : StatusChange) (old : EnterpriseStatus)
  | expireDue (passes : Nat)
  | writeExpired (passes : Nat) (lookedAt : Int) (due : List Nat)
  | onboard
  | operate (features : Table FeatureRow)
  deriving DecidableEq, Repr

/-- The tables, the time, and whether an insert into `audit_logs` fails. `late` lists the rows a
sweep wrote when they were no longer active, and `refused` what ended in an error, both newest
first; no statement reads them. -/
structure PlatformDb where
  enterprises : Table EnterpriseRow
  features : Table FeatureRow
  enterpriseFeatures : Table EnterpriseFeatureRow
  audits : List AuditEntry
  late : List Nat
  refused : List (PlatformTask × PlatformError)
  now : Int
  auditFails : Bool
  deriving DecidableEq, Repr

def sweepBatch : Nat := 500

def maxSweepPasses : Nat := 200

/-! ### Statements -/

namespace PlatformDb

/-- `statusById` and `findIdByRefId`. -/
def findEnterprise (db : PlatformDb) (id : Nat) : Option EnterpriseRow :=
  (db.enterprises.get? id).filter fun enterprise => !enterprise.isDeleted

def findFeatureIdByKey (db : PlatformDb) (key : String) : Option Nat :=
  (db.features.find? fun feature => feature.key == key && !feature.isDeleted).map (·.id)

def requestable (db : PlatformDb) (key : String) : Option Nat :=
  (db.features.find? fun feature =>
    feature.key == key && !feature.isDeleted && feature.status != .deprecated).map (·.id)

def findEnterpriseFeature (db : PlatformDb) (enterpriseId featureId : Nat) :
    Option (Stored EnterpriseFeatureRow) :=
  db.enterpriseFeatures.find? fun row =>
    row.enterpriseId == enterpriseId && row.featureId == featureId

/-- The first row of the join with `features`, over the keys of all of them. -/
def currentStatus (db : PlatformDb) (enterpriseId : Nat) (key : String) :
    Option EnterpriseFeatureStatus :=
  (db.enterpriseFeatures.find? fun row =>
    row.enterpriseId == enterpriseId &&
      (db.features.get? row.featureId).any fun feature => feature.key == key).map (·.row.status)

/-- Inserts the request, or moves a declined row back to it; says whether it did either. -/
def requestAccess (db : PlatformDb) (request : FeatureRequest) : PlatformDb × Bool :=
  match db.requestable request.featureKey with
  | none => (db, false)
  | some featureId =>
    match db.findEnterpriseFeature request.enterpriseId featureId with
    | none =>
      ({ db with
          enterpriseFeatures := db.enterpriseFeatures.insert
            { enterpriseId := request.enterpriseId
              featureId := featureId
              status := .accessRequested
              requestedByEmployeeId := some request.requestedByEmployeeId
              requestedAt := some db.now
              decidedByStaffId := none
              decidedAt := none
              declineReason := none
              enabledAt := none
              disabledAt := none
              expiresAt := none } }, true)
    | some stored =>
      if stored.row.status = .declined then
        ({ db with
            enterpriseFeatures := db.enterpriseFeatures.update stored.id fun row =>
              { row with
                status := .accessRequested
                requestedByEmployeeId := some request.requestedByEmployeeId
                requestedAt := some db.now
                declineReason := none } }, true)
      else (db, false)

def insertEnterpriseFeature (db : PlatformDb) (input : GrantInput) : PlatformDb × Bool :=
  match db.findEnterpriseFeature input.enterpriseId input.featureId with
  | some _ => (db, false)
  | none =>
    ({ db with
        enterpriseFeatures := db.enterpriseFeatures.insert
          { enterpriseId := input.enterpriseId
            featureId := input.featureId
            status := input.status
            requestedByEmployeeId := none
            requestedAt := none
            decidedByStaffId := some input.decidedByStaffId
            decidedAt := some db.now
            declineReason := none
            enabledAt := if input.status = .active then some db.now else none
            disabledAt := none
            expiresAt := none } }, true)

def writeStatus (update : StatusUpdate) (now : Int) (row : EnterpriseFeatureRow) :
    EnterpriseFeatureRow :=
  { row with
    status := update.new
    decidedByStaffId := some update.decidedByStaffId
    decidedAt := some now
    declineReason := update.declineReason
    enabledAt := if update.new = .active then some now else row.enabledAt
    disabledAt := if update.new = .disabled ∨ update.new = .revoked then some now
      else row.disabledAt }

def updateEnterpriseFeatureStatus (db : PlatformDb) (update : StatusUpdate) : PlatformDb × Bool :=
  if (db.enterpriseFeatures.get? update.enterpriseFeatureId).any
      fun row => row.status == update.old then
    ({ db with
        enterpriseFeatures := db.enterpriseFeatures.update update.enterpriseFeatureId
          (writeStatus update db.now) }, true)
  else (db, false)

def updateEnterpriseStatus (db : PlatformDb) (id : Nat) (old new : EnterpriseStatus) :
    PlatformDb × Bool :=
  if (db.findEnterprise id).any fun enterprise => enterprise.status == old then
    ({ db with
        enterprises := db.enterprises.update id fun enterprise =>
          { enterprise with status := new } }, true)
  else (db, false)

def isDue (now : Int) (row : EnterpriseFeatureRow) : Bool :=
  row.status == .active && row.expiresAt.any fun expiresAt => expiresAt ≤ now

def expiresBefore (first second : Stored EnterpriseFeatureRow) : Prop :=
  first.row.expiresAt.getD 0 ≤ second.row.expiresAt.getD 0

instance : DecidableRel expiresBefore := fun _ _ => inferInstanceAs (Decidable (_ ≤ _))

def selectDue (db : PlatformDb) (limit : Nat) : List Nat :=
  (((db.enterpriseFeatures.select (isDue db.now)).insertionSort expiresBefore).take limit).map
    (·.id)

/-- The update of `expireDue`: only the keys are checked again when it comes to a row, and
`now()` is the time of the whole statement. -/
def writeExpired (db : PlatformDb) (lookedAt : Int) (due : List Nat) : PlatformDb :=
  { db with
    enterpriseFeatures := db.enterpriseFeatures.updateWhere (fun id _ => due.contains id)
      fun row => { row with status := .expired, disabledAt := some lookedAt }
    late := (due.filter fun id =>
      (db.enterpriseFeatures.get? id).any fun row => row.status != .active) ++ db.late }

end PlatformDb

/-- `AuditService.record` outside of a transaction: an insert that fails is swallowed. -/
def PlatformDb.audit (db : PlatformDb) (entry : AuditEntry) : PlatformDb :=
  if db.auditFails then db else { db with audits := entry :: db.audits }

/-! ### Calls -/

abbrev PlatformStatement := Statement PlatformDb PlatformError (List PlatformTask)

namespace FeaturesService

def mayRequestFrom (status : EnterpriseFeatureStatus) : Bool :=
  (enterpriseFeatureTransitions status).contains .accessRequested

/-- `EnterpriseActiveGuard`, in front of every request of a business. -/
def statusById (request : FeatureRequest) : PlatformStatement := fun db =>
  match (db.findEnterprise request.enterpriseId).map EnterpriseRow.status with
  | none => .error .enterpriseNotFound
  | some .pendingActivation => .error .enterprisePendingActivation
  | some .suspended => .error .enterpriseSuspended
  | some .active => .ok ([.currentStatus request], db)

def requestRefusal (old : EnterpriseFeatureStatus) : ErrorDetail where
  field := "featureKey"
  issue :=
    if old = .revoked then "this feature was withdrawn and cannot be requested again here"
    else "cannot request a feature that is " ++ old.text

def request (request : FeatureRequest) : PlatformStatement := fun db =>
  match db.currentStatus request.enterpriseId request.featureKey with
  | none => .ok ([.requestAccess request none], db)
  | some old =>
    -- Asking again while the first is pending is no failure.
    if old = .accessRequested then .ok ([], db)
    else if mayRequestFrom old then .ok ([.requestAccess request (some old)], db)
    else .error (.invalidStateTransition [requestRefusal old])

def requestAccess (request : FeatureRequest) (old : Option EnterpriseFeatureStatus) :
    PlatformStatement := fun db =>
  if (db.requestAccess request).2 then
    .ok ([.auditRequested request old], (db.requestAccess request).1)
  else .error .featureNotFound

end FeaturesService

namespace PlatformService

def noRowYet : ErrorDetail where
  field := "status"
  issue := "this business has no row for that feature yet"

def already (status : String) : ErrorDetail where
  field := "status"
  issue := "already " ++ status

def cannotMove (old new : String) : ErrorDetail where
  field := "status"
  issue := "cannot move from " ++ old ++ " to " ++ new

def findEnterprise (decision : FeatureDecision) : PlatformStatement := fun db =>
  match decision.staffId with
  | none => .error .permissionDenied
  | some staffId =>
    match db.findEnterprise decision.enterpriseRefId with
    | none => .error .enterpriseNotFound
    | some _ => .ok ([.findFeatureIdByKey decision staffId decision.enterpriseRefId], db)

def findFeatureIdByKey (decision : FeatureDecision) (staffId enterpriseId : Nat) :
    PlatformStatement := fun db =>
  match db.findFeatureIdByKey decision.featureKey with
  | none => .error .featureNotFound
  | some featureId => .ok ([.findEnterpriseFeature ⟨decision, staffId, enterpriseId, featureId⟩], db)

def decideFeature (found : FoundFeature) : PlatformStatement := fun db =>
  match db.findEnterpriseFeature found.enterpriseId found.featureId with
  | none =>
    -- Only granting or declining makes sense as a first act.
    if found.decision.status = .active ∨ found.decision.status = .declined then
      .ok ([.insertEnterpriseFeature found], db)
    else .error (.invalidStateTransition [noRowYet])
  | some existing =>
    if existing.row.status = found.decision.status then
      .error (.invalidStateTransition [already found.decision.status.text])
    else if found.decision.status ∈ enterpriseFeatureTransitions existing.row.status then
      .ok ([.updateEnterpriseFeatureStatus found
        { enterpriseFeatureId := existing.id
          old := existing.row.status
          new := found.decision.status
          decidedByStaffId := found.staffId
          declineReason := found.decision.reason }], db)
    else
      .error (.invalidStateTransition
        [cannotMove existing.row.status.text found.decision.status.text])

/-- The insert says nothing of whether it made the row, and the audit follows either way. -/
def insertEnterpriseFeature (found : FoundFeature) : PlatformStatement := fun db =>
  .ok ([.auditDecided found none], (db.insertEnterpriseFeature found.grant).1)

def updateEnterpriseFeatureStatus (found : FoundFeature) (update : StatusUpdate) :
    PlatformStatement := fun db =>
  let updated := db.updateEnterpriseFeatureStatus update
  if updated.2 then .ok ([.auditDecided found (some update.old)], updated.1)
  else .error .concurrentModification

def setEnterpriseStatus (change : StatusChange) : PlatformStatement := fun db =>
  match db.findEnterprise change.enterpriseRefId with
  | none => .error .enterpriseNotFound
  | some found =>
    if found.status = change.status then
      .error (.invalidStateTransition [already (enterpriseStatusText change.status)])
    else if change.status ∈ enterpriseStatusTransitions found.status then
      .ok ([.updateEnterpriseStatus change found.status], db)
    else
      .error (.invalidStateTransition
        [cannotMove (enterpriseStatusText found.status) (enterpriseStatusText change.status)])

def updateEnterpriseStatus (change : StatusChange) (old : EnterpriseStatus) :
    PlatformStatement := fun db =>
  let updated := db.updateEnterpriseStatus change.enterpriseRefId old change.status
  if updated.2 then .ok ([.auditUpdated change old], updated.1)
  else .error .concurrentModification

end PlatformService

namespace SweeperWorker

def expireDue (passes : Nat) : PlatformStatement := fun db =>
  .ok ([.writeExpired passes db.now (db.selectDue sweepBatch)], db)

/-- `drain` goes on while its batches are full, for as many passes as it has. -/
def writeExpired (passes : Nat) (lookedAt : Int) (due : List Nat) : PlatformStatement := fun db =>
  let written := db.writeExpired lookedAt due
  if due.length < sweepBatch ∨ passes ≤ 1 then .ok ([], written)
  else .ok ([.expireDue (passes - 1)], written)

end SweeperWorker

def PlatformTask.statement : PlatformTask → PlatformStatement
  | .statusById request => FeaturesService.statusById request
  | .currentStatus request => FeaturesService.request request
  | .requestAccess request old => FeaturesService.requestAccess request old
  | .auditRequested request old => fun db =>
      .ok ([], db.audit (request.entry old))
  | .findEnterprise decision => PlatformService.findEnterprise decision
  | .findFeatureIdByKey decision staffId enterpriseId =>
      PlatformService.findFeatureIdByKey decision staffId enterpriseId
  | .findEnterpriseFeature found => PlatformService.decideFeature found
  | .insertEnterpriseFeature found => PlatformService.insertEnterpriseFeature found
  | .updateEnterpriseFeatureStatus found update =>
      PlatformService.updateEnterpriseFeatureStatus found update
  | .auditDecided found old => fun db =>
      .ok ([], db.audit (found.entry old))
  | .findIdByRefId change => PlatformService.setEnterpriseStatus change
  | .updateEnterpriseStatus change old => PlatformService.updateEnterpriseStatus change old
  | .auditUpdated change old => fun db =>
      .ok ([], db.audit (change.entry old))
  | .expireDue passes => SweeperWorker.expireDue passes
  | .writeExpired passes lookedAt due => SweeperWorker.writeExpired passes lookedAt due
  | .onboard => fun db =>
      .ok ([], { db with
        enterprises := db.enterprises.insert { status := .pendingActivation, isDeleted := false } })
  | .operate features => fun db => .ok ([], { db with features })

inductive PlatformCall where
  | request (request : FeatureRequest)
  | decideFeature (decision : FeatureDecision)
  | setEnterpriseStatus (change : StatusChange)
  | sweep
  | onboard
  | operate (features : Table FeatureRow)
  deriving DecidableEq, Repr

def PlatformCall.opening : PlatformCall → List PlatformTask
  | .request asked => [.statusById asked]
  | .decideFeature decision => [.findEnterprise decision]
  | .setEnterpriseStatus change => [.findIdByRefId change]
  | .sweep => [.expireDue maxSweepPasses]
  | .onboard => [.onboard]
  | .operate features => [.operate features]

/-- What is left open at a statement: its time, and whether an audit can be written. -/
structure Moment where
  now : Int
  auditFails : Bool
  deriving DecidableEq, Repr

def PlatformDb.atMoment (db : PlatformDb) (moment : Moment) : PlatformDb :=
  { db with now := moment.now, auditFails := moment.auditFails }

def platformStep (db : PlatformDb) (task : PlatformTask) (moment : Moment) :
    PlatformDb × List PlatformTask :=
  match transact task.statement (db.atMoment moment) with
  | (.ok tasks, db) => (db, tasks)
  | (.error error, db) => ({ db with refused := (task, error) :: db.refused }, [])

def platformMachine : Machine PlatformDb PlatformTask PlatformCall Moment where
  opening := PlatformCall.opening
  run := platformStep

def timely (db : PlatformDb) : Event PlatformTask PlatformCall Moment → Bool
  | .opened _ => true
  | .ran _ moment => decide (db.now ≤ moment.now)

/-- The runs of the service: any number of calls, interleaved in any order. -/
def PlatformSteps : Pool PlatformDb PlatformTask → Pool PlatformDb PlatformTask → Prop :=
  Relation.ReflTransGen (platformMachine.PoolStep fun db event => timely db event = true)

end UnifiedService.Features
