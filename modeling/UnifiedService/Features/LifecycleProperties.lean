import UnifiedService.Features.Service

/-! The lives of businesses and of their features: which statuses follow which, whatever
statements interleave. -/

set_option autoImplicit false

namespace UnifiedService.Features

open UnifiedService.Library
open UnifiedService.Connections (EnterpriseStatus)

/-! ### Paths -/

def StatusPath : EnterpriseFeatureStatus → EnterpriseFeatureStatus → Prop :=
  Relation.ReflTransGen fun old new => new ∈ enterpriseFeatureTransitions old

def EnterprisePath : EnterpriseStatus → EnterpriseStatus → Prop :=
  Relation.ReflTransGen fun old new => new ∈ enterpriseStatusTransitions old

theorem StatusPath.revoked {status : EnterpriseFeatureStatus} (path : StatusPath .revoked status) :
    status = .revoked := by
  induction path with
  | refl => rfl
  | tail _ step ih =>
      subst ih
      exact absurd step List.not_mem_nil

def EnterpriseFeatureStatus.isFirst : EnterpriseFeatureStatus → Bool
  | .accessRequested | .declined | .active => true
  | _ => false

/-! ### What one statement does -/

def PlatformTask.Sound (db : PlatformDb) : PlatformTask → Prop
  | .requestAccess _ old => old = none ∨ old = some .declined
  | .insertEnterpriseFeature found => found.decision.status.isFirst = true
  | .updateEnterpriseFeatureStatus found update =>
      (update.new = found.decision.status ∧ update.new ∈ enterpriseFeatureTransitions update.old) ∧
        ∃ row, db.enterpriseFeatures.get? update.enterpriseFeatureId = some row ∧
          row.enterpriseId = found.enterpriseId ∧ row.featureId = found.featureId
  | .updateEnterpriseStatus change old => change.status ∈ enterpriseStatusTransitions old
  | _ => True

def PlatformTask.entry : PlatformTask → Option AuditEntry
  | .auditRequested request old => some (request.entry old)
  | .auditDecided found old => some (found.entry old)
  | .auditUpdated change old => some (change.entry old)
  | _ => none

def PlatformTask.audited : PlatformTask → Option AuditEntry
  | .requestAccess request old => some (request.entry old)
  | .insertEnterpriseFeature found => some (found.entry none)
  | .updateEnterpriseFeatureStatus found update => some (found.entry (some update.old))
  | .updateEnterpriseStatus change old => some (change.entry old)
  | _ => none

def PlatformTask.isSweepWrite : PlatformTask → Bool
  | .writeExpired _ _ _ => true
  | _ => false

structure PlatformTask.Onward (db : PlatformDb) (task : PlatformTask) : Prop where
  sound : task.Sound db
  silent : task.entry = none
  other : task.isSweepWrite = false

inductive PlatformMove (db : PlatformDb) : PlatformTask → List PlatformTask → PlatformDb → Prop
    where
  | reads {task : PlatformTask} {tasks : List PlatformTask} (silent : task.entry = none)
      (unaudited : task.audited = none) (onward : ∀ next ∈ tasks, next.Onward db) :
      PlatformMove db task tasks db
  | looks (passes : Nat) : PlatformMove db (.expireDue passes)
      [.writeExpired passes db.now (db.selectDue sweepBatch)] db
  | operates (features : Table FeatureRow) :
      PlatformMove db (.operate features) [] { db with features }
  | audits {task : PlatformTask} {entry : AuditEntry} (records : task.entry = some entry) :
      PlatformMove db task [] (db.audit entry)
  | asks {request : FeatureRequest} {old : Option EnterpriseFeatureStatus}
      (made : (db.requestAccess request).2 = true) :
      PlatformMove db (.requestAccess request old) [.auditRequested request old]
        (db.requestAccess request).1
  | grants (found : FoundFeature) :
      PlatformMove db (.insertEnterpriseFeature found) [.auditDecided found none]
        (db.insertEnterpriseFeature found.grant).1
  | decides {found : FoundFeature} {update : StatusUpdate}
      (matched : (db.updateEnterpriseFeatureStatus update).2 = true) :
      PlatformMove db (.updateEnterpriseFeatureStatus found update)
        [.auditDecided found (some update.old)] (db.updateEnterpriseFeatureStatus update).1
  | changes {change : StatusChange} {old : EnterpriseStatus}
      (matched : (db.updateEnterpriseStatus change.enterpriseRefId old change.status).2 = true) :
      PlatformMove db (.updateEnterpriseStatus change old) [.auditUpdated change old]
        (db.updateEnterpriseStatus change.enterpriseRefId old change.status).1
  | writes {passes : Nat} {lookedAt : Int} {due : List Nat} {tasks : List PlatformTask}
      (onward : ∀ next ∈ tasks, next.Onward (db.writeExpired lookedAt due)) :
      PlatformMove db (.writeExpired passes lookedAt due) tasks (db.writeExpired lookedAt due)
  | onboards : PlatformMove db .onboard []
      { db with
        enterprises := db.enterprises.insert { status := .pendingActivation, isDeleted := false } }

section Statements

variable {db after : PlatformDb} {task : PlatformTask} {tasks : List PlatformTask}

theorem mayRequestFrom_eq_true {status : EnterpriseFeatureStatus}
    (may : FeaturesService.mayRequestFrom status = true) : status = .declined := by
  cases status with
  | declined => rfl
  | accessRequested | active | disabled | expired | revoked => contradiction

theorem request_moves {request : FeatureRequest}
    (success : FeaturesService.request request db = .ok (tasks, after)) :
    PlatformMove db (.currentStatus request) tasks after := by
  unfold FeaturesService.request at success
  split at success
  · obtain ⟨rfl, rfl⟩ := Prod.mk.inj (Except.ok.inj success)
    exact .reads rfl rfl (List.forall_mem_singleton.mpr ⟨.inl rfl, rfl, rfl⟩)
  · split at success
    · obtain ⟨rfl, rfl⟩ := Prod.mk.inj (Except.ok.inj success)
      exact .reads rfl rfl (List.forall_mem_nil _)
    · split at success
      · next may =>
          obtain ⟨rfl, rfl⟩ := Prod.mk.inj (Except.ok.inj success)
          have declined := congrArg some (mayRequestFrom_eq_true may)
          exact .reads rfl rfl (List.forall_mem_singleton.mpr ⟨.inr declined, rfl, rfl⟩)
      · contradiction

theorem decideFeature_moves {found : FoundFeature}
    (success : PlatformService.decideFeature found db = .ok (tasks, after)) :
    PlatformMove db (.findEnterpriseFeature found) tasks after := by
  unfold PlatformService.decideFeature at success
  split at success
  · split at success
    · next first =>
        obtain ⟨rfl, rfl⟩ := Prod.mk.inj (Except.ok.inj success)
        refine .reads rfl rfl (List.forall_mem_singleton.mpr ⟨?_, rfl, rfl⟩)
        rcases first with active | declined
        · exact congrArg EnterpriseFeatureStatus.isFirst active
        · exact congrArg EnterpriseFeatureStatus.isFirst declined
    · contradiction
  · next existing looked =>
    split at success
    · contradiction
    · split at success
      · next edge =>
          obtain ⟨rfl, rfl⟩ := Prod.mk.inj (Except.ok.inj success)
          obtain ⟨there, pair⟩ := Table.find?_some looked
          rw [Bool.and_eq_true, beq_iff_eq, beq_iff_eq] at pair
          exact .reads rfl rfl (List.forall_mem_singleton.mpr
            ⟨⟨⟨rfl, edge⟩, existing.row, there, pair⟩, rfl, rfl⟩)
      · contradiction

theorem setEnterpriseStatus_moves {change : StatusChange}
    (success : PlatformService.setEnterpriseStatus change db = .ok (tasks, after)) :
    PlatformMove db (.findIdByRefId change) tasks after := by
  unfold PlatformService.setEnterpriseStatus at success
  split at success
  · contradiction
  · split at success
    · contradiction
    · split at success
      · next edge =>
          obtain ⟨rfl, rfl⟩ := Prod.mk.inj (Except.ok.inj success)
          exact .reads rfl rfl (List.forall_mem_singleton.mpr ⟨edge, rfl, rfl⟩)
      · contradiction

theorem statement_moves (success : task.statement db = .ok (tasks, after)) :
    PlatformMove db task tasks after := by
  cases task with
  | statusById request =>
      simp only [PlatformTask.statement, FeaturesService.statusById] at success
      split at success
      · contradiction
      · contradiction
      · contradiction
      · obtain ⟨rfl, rfl⟩ := Prod.mk.inj (Except.ok.inj success)
        exact .reads rfl rfl (List.forall_mem_singleton.mpr ⟨trivial, rfl, rfl⟩)
  | currentStatus request => exact request_moves success
  | requestAccess request old =>
      simp only [PlatformTask.statement, FeaturesService.requestAccess] at success
      split at success
      · next made =>
          obtain ⟨rfl, rfl⟩ := Prod.mk.inj (Except.ok.inj success)
          exact .asks made
      · contradiction
  | findEnterprise decision =>
      simp only [PlatformTask.statement, PlatformService.findEnterprise] at success
      split at success
      · contradiction
      · split at success
        · contradiction
        · obtain ⟨rfl, rfl⟩ := Prod.mk.inj (Except.ok.inj success)
          exact .reads rfl rfl (List.forall_mem_singleton.mpr ⟨trivial, rfl, rfl⟩)
  | findFeatureIdByKey decision staffId enterpriseId =>
      simp only [PlatformTask.statement, PlatformService.findFeatureIdByKey] at success
      split at success
      · contradiction
      · obtain ⟨rfl, rfl⟩ := Prod.mk.inj (Except.ok.inj success)
        exact .reads rfl rfl (List.forall_mem_singleton.mpr ⟨trivial, rfl, rfl⟩)
  | findEnterpriseFeature found => exact decideFeature_moves success
  | insertEnterpriseFeature found =>
      obtain ⟨rfl, rfl⟩ := Prod.mk.inj (Except.ok.inj success)
      exact .grants found
  | updateEnterpriseFeatureStatus found update =>
      simp only [PlatformTask.statement, PlatformService.updateEnterpriseFeatureStatus] at success
      split at success
      · next matched =>
          obtain ⟨rfl, rfl⟩ := Prod.mk.inj (Except.ok.inj success)
          exact .decides matched
      · contradiction
  | findIdByRefId change => exact setEnterpriseStatus_moves success
  | updateEnterpriseStatus change old =>
      simp only [PlatformTask.statement, PlatformService.updateEnterpriseStatus] at success
      split at success
      · next matched =>
          obtain ⟨rfl, rfl⟩ := Prod.mk.inj (Except.ok.inj success)
          exact .changes matched
      · contradiction
  | auditRequested request old | auditDecided found old | auditUpdated change old =>
      obtain ⟨rfl, rfl⟩ := Prod.mk.inj (Except.ok.inj success)
      exact .audits rfl
  | expireDue passes =>
      obtain ⟨rfl, rfl⟩ := Prod.mk.inj (Except.ok.inj success)
      exact .looks passes
  | writeExpired passes lookedAt due =>
      simp only [PlatformTask.statement, SweeperWorker.writeExpired] at success
      split at success
      · obtain ⟨rfl, rfl⟩ := Prod.mk.inj (Except.ok.inj success)
        exact .writes (List.forall_mem_nil _)
      · obtain ⟨rfl, rfl⟩ := Prod.mk.inj (Except.ok.inj success)
        exact .writes (List.forall_mem_singleton.mpr ⟨trivial, rfl, rfl⟩)
  | onboard =>
      obtain ⟨rfl, rfl⟩ := Prod.mk.inj (Except.ok.inj success)
      exact .onboards
  | operate features =>
      obtain ⟨rfl, rfl⟩ := Prod.mk.inj (Except.ok.inj success)
      exact .operates features

end Statements

theorem platformStep_cases (db : PlatformDb) (task : PlatformTask) (moment : Moment) :
    (∃ tasks after, PlatformMove (db.atMoment moment) task tasks after ∧
        platformStep db task moment = (after, tasks)) ∨
      ∃ error, task.statement (db.atMoment moment) = .error error ∧
        platformStep db task moment =
          ({ db.atMoment moment with refused := (task, error) :: db.refused }, []) := by
  unfold platformStep
  cases result : task.statement (db.atMoment moment) with
  | error error =>
      right
      refine ⟨error, rfl, ?_⟩
      rw [transact_of_error result]
      rfl
  | ok outcome =>
      obtain ⟨tasks, after⟩ := outcome
      left
      refine ⟨tasks, after, statement_moves result, ?_⟩
      rw [transact_of_ok result]

/-! ### Rows over time -/

/-- A row one step on: of the same business and feature, with the same term, and with its status
or one that a transition leads to, unless a sweep writes it late. -/
structure EnterpriseFeatureRow.Next (row later : EnterpriseFeatureRow) (late : Prop) : Prop where
  enterpriseId : later.enterpriseId = row.enterpriseId
  featureId : later.featureId = row.featureId
  expiresAt : later.expiresAt = row.expiresAt
  status : ¬late → later.status = row.status ∨
    later.status ∈ enterpriseFeatureTransitions row.status
  expired : late → row.status ≠ .active ∧ later.status = .expired

/-- One statement later: only what a sweep has written late leaves the transitions. -/
structure PlatformDb.Next (db after : PlatformDb) (late : List Nat) : Prop where
  kept : ∀ id row, db.enterpriseFeatures.get? id = some row →
    ∃ later, after.enterpriseFeatures.get? id = some later ∧ row.Next later (id ∈ late)
  born : ∀ id row, db.enterpriseFeatures.get? id = none →
    after.enterpriseFeatures.get? id = some row →
      row.status.isFirst = true ∧ row.expiresAt = none
  enterprises : ∀ id enterprise, db.enterprises.get? id = some enterprise →
    ∃ later, after.enterprises.get? id = some later ∧ (later.status = enterprise.status ∨
      later.status ∈ enterpriseStatusTransitions enterprise.status)
  founded : ∀ id enterprise, db.enterprises.get? id = none →
    after.enterprises.get? id = some enterprise → enterprise.status = .pendingActivation
  late : after.late = late ++ db.late

/-- A row later: of the same business and feature, with the same term, and with a status along
the transitions unless a sweep has written it late. -/
structure EnterpriseFeatureRow.Follows (row later : EnterpriseFeatureRow) (late : Prop) :
    Prop where
  enterpriseId : later.enterpriseId = row.enterpriseId
  featureId : later.featureId = row.featureId
  expiresAt : later.expiresAt = row.expiresAt
  status : ¬late → StatusPath row.status later.status

structure EnterpriseFeatureRow.Born (row : EnterpriseFeatureRow) (late : Prop) : Prop where
  expiresAt : row.expiresAt = none
  status : ¬late → ∃ first : EnterpriseFeatureStatus,
    first.isFirst = true ∧ StatusPath first row.status

structure PlatformDb.Follows (db after : PlatformDb) (late : List Nat) : Prop where
  kept : ∀ id row, db.enterpriseFeatures.get? id = some row →
    ∃ later, after.enterpriseFeatures.get? id = some later ∧ row.Follows later (id ∈ late)
  born : ∀ id row, db.enterpriseFeatures.get? id = none →
    after.enterpriseFeatures.get? id = some row → row.Born (id ∈ late)
  enterprises : ∀ id enterprise, db.enterprises.get? id = some enterprise →
    ∃ later, after.enterprises.get? id = some later ∧
      EnterprisePath enterprise.status later.status
  late : after.late = late ++ db.late

namespace EnterpriseFeatureRow

variable {row middle later : EnterpriseFeatureRow} {early late : Prop}

theorem Next.refl (row : EnterpriseFeatureRow) : row.Next row False :=
  ⟨rfl, rfl, rfl, fun _ => .inl rfl, fun impossible => impossible.elim⟩

theorem Next.of_late (next : row.Next later False) (prompt : ¬late) : row.Next later late where
  enterpriseId := next.enterpriseId
  featureId := next.featureId
  expiresAt := next.expiresAt
  status _ := next.status not_false
  expired was := absurd was prompt

theorem Next.follows (next : row.Next later late) : row.Follows later late where
  enterpriseId := next.enterpriseId
  featureId := next.featureId
  expiresAt := next.expiresAt
  status prompt := by
    rcases next.status prompt with same | edge
    · rw [same]
      exact .refl
    · exact .single edge

theorem Follows.trans (first : row.Follows middle early) (second : middle.Follows later late) :
    row.Follows later (late ∨ early) where
  enterpriseId := second.enterpriseId.trans first.enterpriseId
  featureId := second.featureId.trans first.featureId
  expiresAt := second.expiresAt.trans first.expiresAt
  status prompt := (first.status fun was => prompt (.inr was)).trans
    (second.status fun was => prompt (.inl was))

theorem Born.trans (first : middle.Born early) (second : middle.Follows later late) :
    later.Born (late ∨ early) where
  expiresAt := second.expiresAt.trans first.expiresAt
  status prompt := by
    obtain ⟨start, isFirst, path⟩ := first.status fun was => prompt (.inr was)
    exact ⟨start, isFirst, path.trans (second.status fun was => prompt (.inl was))⟩

theorem Follows.congr (follows : row.Follows later early) (same : late ↔ early) :
    row.Follows later late := propext same ▸ follows

theorem Born.congr (born : row.Born early) (same : late ↔ early) : row.Born late :=
  propext same ▸ born

end EnterpriseFeatureRow

namespace PlatformDb

variable {db middle after : PlatformDb} {early late : List Nat}

theorem Follows.refl (db : PlatformDb) : db.Follows db [] where
  kept _ row found := ⟨row, found, rfl, rfl, rfl, fun _ => .refl⟩
  born _ _ missing found := absurd (missing.symm.trans found) (by simp)
  enterprises _ enterprise found := ⟨enterprise, found, .refl⟩
  late := rfl

theorem Follows.trans (first : db.Follows middle early) (second : middle.Follows after late) :
    db.Follows after (late ++ early) where
  kept id row found := by
    obtain ⟨between, there, one⟩ := first.kept id row found
    obtain ⟨later, last, two⟩ := second.kept id between there
    exact ⟨later, last, (one.trans two).congr List.mem_append⟩
  born id row missing found := by
    cases there : middle.enterpriseFeatures.get? id with
    | none =>
        have born := second.born id row there found
        refine ⟨born.expiresAt, fun prompt => born.status fun was => ?_⟩
        exact prompt (List.mem_append_left _ was)
    | some between =>
        obtain ⟨later, last, follows⟩ := second.kept id between there
        obtain rfl := Option.some.inj (found.symm.trans last)
        exact ((first.born id between missing there).trans follows).congr List.mem_append
  enterprises id enterprise found := by
    obtain ⟨between, there, one⟩ := first.enterprises id enterprise found
    obtain ⟨later, last, two⟩ := second.enterprises id between there
    exact ⟨later, last, one.trans two⟩
  late := by rw [second.late, first.late, List.append_assoc]

theorem Next.follows (next : db.Next after late) : db.Follows after late where
  kept id row found := by
    obtain ⟨later, there, one⟩ := next.kept id row found
    exact ⟨later, there, one.follows⟩
  born id row missing found := by
    obtain ⟨first, endless⟩ := next.born id row missing found
    exact ⟨endless, fun _ => ⟨row.status, first, .refl⟩⟩
  enterprises id enterprise found := by
    obtain ⟨later, there, same | edge⟩ := next.enterprises id enterprise found
    · exact ⟨later, there, same ▸ .refl⟩
    · exact ⟨later, there, .single edge⟩
  late := next.late

theorem Next.of_eq (features : after.enterpriseFeatures = db.enterpriseFeatures)
    (enterprises : after.enterprises = db.enterprises) (late : after.late = db.late) :
    db.Next after [] where
  kept id row found := ⟨row, features ▸ found, (EnterpriseFeatureRow.Next.refl row).of_late List.not_mem_nil⟩
  born id row missing found := absurd (missing.symm.trans (features ▸ found)) (by simp)
  enterprises id enterprise found := ⟨enterprise, enterprises ▸ found, .inl rfl⟩
  founded id enterprise missing found := absurd (missing.symm.trans (enterprises ▸ found)) (by simp)
  late := late

theorem Next.insert {row : EnterpriseFeatureRow}
    (features : after.enterpriseFeatures = db.enterpriseFeatures.insert row)
    (enterprises : after.enterprises = db.enterprises) (late : after.late = db.late)
    (first : row.status.isFirst = true) (endless : row.expiresAt = none) : db.Next after [] where
  kept id old found :=
    ⟨old, features ▸ Table.get?_insert_of_some row found,
      (EnterpriseFeatureRow.Next.refl old).of_late List.not_mem_nil⟩
  born id new missing found := by
    rw [features, Table.get?_insert] at found
    split at found
    · obtain rfl := Option.some.inj found
      exact ⟨first, endless⟩
    · exact absurd (missing.symm.trans found) (by simp)
  enterprises id enterprise found := ⟨enterprise, enterprises ▸ found, .inl rfl⟩
  founded id enterprise missing found := absurd (missing.symm.trans (enterprises ▸ found)) (by simp)
  late := late

theorem Next.update {id : Nat} {change : EnterpriseFeatureRow → EnterpriseFeatureRow}
    (features : after.enterpriseFeatures = db.enterpriseFeatures.update id change)
    (enterprises : after.enterprises = db.enterprises) (late : after.late = db.late)
    (moves : ∀ row, db.enterpriseFeatures.get? id = some row → row.Next (change row) False) :
    db.Next after [] where
  kept other row found := by
    rw [features, Table.get?_update]
    split
    · next same =>
        subst same
        rw [found]
        exact ⟨change row, rfl, (moves row found).of_late List.not_mem_nil⟩
    · exact ⟨row, found, (EnterpriseFeatureRow.Next.refl row).of_late List.not_mem_nil⟩
  born other row missing found := by
    rw [features, Table.get?_update, missing] at found
    split at found
    · contradiction
    · contradiction
  enterprises other enterprise found := ⟨enterprise, enterprises ▸ found, .inl rfl⟩
  founded other enterprise missing found :=
    absurd (missing.symm.trans (enterprises ▸ found)) (by simp)
  late := late

/-- The rows of a sweep that have moved on since they were picked. -/
def lateOf (db : PlatformDb) (due : List Nat) : List Nat :=
  due.filter fun id => (db.enterpriseFeatures.get? id).any fun row => row.status != .active

theorem mem_lateOf {due : List Nat} {id : Nat} {row : EnterpriseFeatureRow}
    (found : db.enterpriseFeatures.get? id = some row) :
    id ∈ db.lateOf due ↔ id ∈ due ∧ row.status ≠ .active := by
  rw [lateOf, List.mem_filter, found, Option.any_some, bne_iff_ne]

theorem Next.writeExpired (lookedAt : Int) (due : List Nat) :
    db.Next (db.writeExpired lookedAt due) (db.lateOf due) where
  kept id row found := by
    have written : (db.writeExpired lookedAt due).enterpriseFeatures.get? id = some
        (if due.contains id then { row with status := .expired, disabledAt := some lookedAt }
          else row) := by
      rw [PlatformDb.writeExpired, Table.get?_updateWhere, found]
      rfl
    refine ⟨_, written, ?_⟩
    split
    · next picked =>
        refine ⟨rfl, rfl, rfl, fun prompt => ?_, fun late => ?_⟩
        · have active : row.status = .active := by
            by_contra moved
            exact prompt ((mem_lateOf found).mpr ⟨List.contains_iff_mem.mp picked, moved⟩)
          rw [active]
          exact .inr (List.mem_cons_of_mem _ List.mem_cons_self)
        · exact ⟨((mem_lateOf found).mp late).2, rfl⟩
    · next spared =>
        refine (EnterpriseFeatureRow.Next.refl row).of_late fun late => ?_
        exact spared (List.contains_iff_mem.mpr ((mem_lateOf found).mp late).1)
  born id row missing found := by
    rw [PlatformDb.writeExpired, Table.get?_updateWhere, missing] at found
    contradiction
  enterprises id enterprise found := ⟨enterprise, found, .inl rfl⟩
  founded id enterprise missing found := absurd (missing.symm.trans found) (by simp)
  late := rfl

theorem Next.updateEnterprise {id : Nat} {change : EnterpriseRow → EnterpriseRow}
    (enterprises : after.enterprises = db.enterprises.update id change)
    (features : after.enterpriseFeatures = db.enterpriseFeatures) (late : after.late = db.late)
    (moves : ∀ enterprise, db.enterprises.get? id = some enterprise →
      (change enterprise).status ∈ enterpriseStatusTransitions enterprise.status) :
    db.Next after [] where
  kept other row found :=
    ⟨row, features ▸ found, (EnterpriseFeatureRow.Next.refl row).of_late List.not_mem_nil⟩
  born other row missing found := absurd (missing.symm.trans (features ▸ found)) (by simp)
  enterprises other enterprise found := by
    rw [enterprises, Table.get?_update]
    split
    · next same =>
        subst same
        rw [found]
        exact ⟨change enterprise, rfl, .inr (moves enterprise found)⟩
    · exact ⟨enterprise, found, .inl rfl⟩
  founded other enterprise missing found := by
    rw [enterprises, Table.get?_update, missing] at found
    split at found
    · contradiction
    · contradiction
  late := late

theorem Next.insertEnterprise {enterprise : EnterpriseRow}
    (enterprises : after.enterprises = db.enterprises.insert enterprise)
    (features : after.enterpriseFeatures = db.enterpriseFeatures) (late : after.late = db.late)
    (first : enterprise.status = .pendingActivation) : db.Next after [] where
  kept id row found :=
    ⟨row, features ▸ found, (EnterpriseFeatureRow.Next.refl row).of_late List.not_mem_nil⟩
  born id row missing found := absurd (missing.symm.trans (features ▸ found)) (by simp)
  enterprises id old found :=
    ⟨old, enterprises ▸ Table.get?_insert_of_some enterprise found, .inl rfl⟩
  founded id other missing found := by
    rw [enterprises, Table.get?_insert] at found
    split at found
    · obtain rfl := Option.some.inj found
      exact first
    · exact absurd (missing.symm.trans found) (by simp)
  late := late

/-! #### Requests and decisions -/

theorem requestAccess_next (db : PlatformDb) (request : FeatureRequest) :
    db.Next (db.requestAccess request).1 [] := by
  unfold requestAccess
  split
  · exact .of_eq rfl rfl rfl
  · split
    · exact .insert rfl rfl rfl rfl rfl
    · next stored found =>
        split
        · next declined =>
            refine .update rfl rfl rfl fun row there =>
              ⟨rfl, rfl, rfl, fun _ => .inr ?_, fun impossible => impossible.elim⟩
            obtain rfl := Option.some.inj (there.symm.trans (Table.find?_some found).1)
            rw [declined]
            exact List.mem_singleton.mpr rfl
        · exact .of_eq rfl rfl rfl

theorem insertEnterpriseFeature_next (db : PlatformDb) (input : GrantInput)
    (first : input.status.isFirst = true) : db.Next (db.insertEnterpriseFeature input).1 [] := by
  unfold insertEnterpriseFeature
  split
  · exact .of_eq rfl rfl rfl
  · exact .insert rfl rfl rfl first rfl

theorem updateEnterpriseFeatureStatus_next (db : PlatformDb) {update : StatusUpdate}
    (edge : update.new ∈ enterpriseFeatureTransitions update.old) :
    db.Next (db.updateEnterpriseFeatureStatus update).1 [] := by
  unfold updateEnterpriseFeatureStatus
  split
  · next found =>
      refine .update rfl rfl rfl fun row there =>
        ⟨rfl, rfl, rfl, fun _ => .inr ?_, fun impossible => impossible.elim⟩
      rw [there, Option.any_some, beq_iff_eq] at found
      rw [found]
      exact edge
  · exact .of_eq rfl rfl rfl

theorem updateEnterpriseStatus_next (db : PlatformDb) (id : Nat) {old new : EnterpriseStatus}
    (edge : new ∈ enterpriseStatusTransitions old) :
    db.Next (db.updateEnterpriseStatus id old new).1 [] := by
  unfold updateEnterpriseStatus
  split
  · next found =>
      refine .updateEnterprise rfl rfl rfl fun enterprise there => ?_
      obtain ⟨seen, visible, same⟩ := Option.any_eq_true _ _ |>.mp found
      obtain ⟨stored, -⟩ := Option.filter_eq_some_iff.mp visible
      obtain rfl := Option.some.inj (there.symm.trans stored)
      rw [beq_iff_eq.mp same]
      exact edge
  · exact .of_eq rfl rfl rfl

theorem audit_next (db : PlatformDb) (entry : AuditEntry) : db.Next (db.audit entry) [] := by
  unfold audit
  split
  · exact .of_eq rfl rfl rfl
  · exact .of_eq rfl rfl rfl

end PlatformDb

section Moves

variable {db after : PlatformDb} {task : PlatformTask} {tasks : List PlatformTask}

/-- The one case analysis of what a statement does to the rows. -/
theorem PlatformMove.next (move : PlatformMove db task tasks after) (sound : task.Sound db) :
    ∃ late, db.Next after late := by
  cases move with
  | reads | looks => exact ⟨_, .of_eq rfl rfl rfl⟩
  | operates => exact ⟨_, .of_eq rfl rfl rfl⟩
  | audits => exact ⟨_, db.audit_next _⟩
  | asks => exact ⟨_, db.requestAccess_next _⟩
  | grants found => exact ⟨_, db.insertEnterpriseFeature_next found.grant sound⟩
  | decides => exact ⟨_, db.updateEnterpriseFeatureStatus_next sound.1.2⟩
  | changes => exact ⟨_, db.updateEnterpriseStatus_next _ sound⟩
  | writes => exact ⟨_, .writeExpired _ _⟩
  | onboards => exact ⟨_, .insertEnterprise rfl rfl rfl rfl⟩

theorem PlatformMove.sound (move : PlatformMove db task tasks after) :
    ∀ next ∈ tasks, next.Sound after := by
  cases move with
  | reads _ _ onward => exact fun next member => (onward next member).sound
  | writes onward => exact fun next member => (onward next member).sound
  | operates | audits | onboards => exact List.forall_mem_nil _
  | looks | asks | grants | decides | changes => exact List.forall_mem_singleton.mpr trivial

theorem PlatformTask.Sound.atMoment (sound : task.Sound db) (moment : Moment) :
    task.Sound (db.atMoment moment) := by
  cases task with
  | _ => exact sound

theorem PlatformTask.Sound.next {late : List Nat} (sound : task.Sound db)
    (next : db.Next after late) : task.Sound after := by
  cases task with
  | updateEnterpriseFeatureStatus found update =>
      obtain ⟨edge, row, there, enterprise, feature⟩ := sound
      obtain ⟨later, still, kept⟩ := next.kept _ row there
      exact ⟨edge, later, still, kept.enterpriseId.trans enterprise, kept.featureId.trans feature⟩
  | _ => exact sound

theorem platformStep_next (sound : task.Sound db) (moment : Moment) :
    ∃ late, db.Next (platformStep db task moment).1 late := by
  rcases platformStep_cases db task moment with ⟨tasks, after, move, same⟩ | ⟨error, -, same⟩
  · rw [same]
    obtain ⟨late, next⟩ := move.next (sound.atMoment moment)
    exact ⟨late, next.kept, next.born, next.enterprises, next.founded, next.late⟩
  · rw [same]
    exact ⟨_, .of_eq rfl rfl rfl⟩

theorem platformStep_sound (db : PlatformDb) (task : PlatformTask) (moment : Moment) :
    ∀ next ∈ (platformStep db task moment).2, next.Sound (platformStep db task moment).1 := by
  rcases platformStep_cases db task moment with ⟨tasks, after, move, same⟩ | ⟨error, -, same⟩
  · rw [same]
    exact move.sound
  · rw [same]
    exact List.forall_mem_nil _

end Moves

/-! ### One row for each business and feature -/

def PlatformDb.PairsUnique (db : PlatformDb) : Prop :=
  ∀ id other row another, db.enterpriseFeatures.get? id = some row →
    db.enterpriseFeatures.get? other = some another → row.enterpriseId = another.enterpriseId →
    row.featureId = another.featureId → id = other

/-- A feature is on only where somebody of the staff has decided about it. -/
def PlatformDb.Granted (db : PlatformDb) : Prop :=
  ∀ id row, db.enterpriseFeatures.get? id = some row → row.status = .active →
    row.decidedByStaffId ≠ none

namespace PlatformDb

variable {db after : PlatformDb}

theorem PairsUnique.of_eq (unique : db.PairsUnique)
    (features : after.enterpriseFeatures = db.enterpriseFeatures) : after.PairsUnique := by
  unfold PairsUnique
  rw [features]
  exact unique

theorem PairsUnique.insert (unique : db.PairsUnique) {row : EnterpriseFeatureRow}
    (features : after.enterpriseFeatures = db.enterpriseFeatures.insert row)
    (missing : db.findEnterpriseFeature row.enterpriseId row.featureId = none) :
    after.PairsUnique := by
  have absent : ∀ id old, db.enterpriseFeatures.get? id = some old →
      old.enterpriseId = row.enterpriseId → old.featureId ≠ row.featureId := by
    intro id old found enterprise feature
    have unlike := Table.find?_eq_none.mp missing id old found
    rw [enterprise, feature, beq_self_eq_true, beq_self_eq_true] at unlike
    contradiction
  intro id other one another found there enterprise feature
  rw [features, Table.get?_insert] at found there
  split at found
  · split at there
    · next first second => exact first.trans second.symm
    · obtain rfl := Option.some.inj found
      exact absurd feature.symm (absent other another there enterprise.symm)
  · split at there
    · obtain rfl := Option.some.inj there
      exact absurd feature (absent id one found enterprise)
    · exact unique id other one another found there enterprise feature

theorem PairsUnique.of_origin (unique : db.PairsUnique)
    (origin : ∀ id row, after.enterpriseFeatures.get? id = some row →
      ∃ old, db.enterpriseFeatures.get? id = some old ∧ row.enterpriseId = old.enterpriseId ∧
        row.featureId = old.featureId) : after.PairsUnique := by
  intro id other row another found there enterprise feature
  obtain ⟨old, was, enterpriseId, featureId⟩ := origin id row found
  obtain ⟨older, were, enterpriseId', featureId'⟩ := origin other another there
  rw [enterpriseId, enterpriseId'] at enterprise
  rw [featureId, featureId'] at feature
  exact unique id other old older was were enterprise feature

theorem PairsUnique.update (unique : db.PairsUnique) {id : Nat}
    {change : EnterpriseFeatureRow → EnterpriseFeatureRow}
    (features : after.enterpriseFeatures = db.enterpriseFeatures.update id change)
    (same : ∀ row, (change row).enterpriseId = row.enterpriseId ∧
      (change row).featureId = row.featureId) : after.PairsUnique := by
  apply unique.of_origin
  intro other row found
  rw [features, Table.get?_update] at found
  split at found
  · obtain ⟨old, was, rfl⟩ := Option.map_eq_some_iff.mp found
    exact ⟨old, was, same old⟩
  · exact ⟨row, found, rfl, rfl⟩

theorem PairsUnique.writeExpired (unique : db.PairsUnique) (lookedAt : Int) (due : List Nat) :
    (db.writeExpired lookedAt due).PairsUnique := by
  apply unique.of_origin
  intro id row found
  rw [PlatformDb.writeExpired, Table.get?_updateWhere] at found
  obtain ⟨old, was, rfl⟩ := Option.map_eq_some_iff.mp found
  refine ⟨old, was, ?_⟩
  split
  · exact ⟨rfl, rfl⟩
  · exact ⟨rfl, rfl⟩

theorem PairsUnique.asks (unique : db.PairsUnique) (request : FeatureRequest) :
    (db.requestAccess request).1.PairsUnique := by
  unfold requestAccess
  split
  · exact unique
  · split
    · next missing => exact unique.insert rfl missing
    · split
      · exact unique.update rfl fun row => ⟨rfl, rfl⟩
      · exact unique

theorem PairsUnique.grants (unique : db.PairsUnique) (input : GrantInput) :
    (db.insertEnterpriseFeature input).1.PairsUnique := by
  unfold insertEnterpriseFeature
  split
  · exact unique
  · next missing => exact unique.insert rfl missing

theorem PairsUnique.decides (unique : db.PairsUnique) (update : StatusUpdate) :
    (db.updateEnterpriseFeatureStatus update).1.PairsUnique := by
  unfold updateEnterpriseFeatureStatus
  split
  · exact unique.update rfl fun row => ⟨rfl, rfl⟩
  · exact unique

theorem Granted.of_eq (granted : db.Granted)
    (features : after.enterpriseFeatures = db.enterpriseFeatures) : after.Granted := by
  unfold Granted
  rw [features]
  exact granted

theorem Granted.insert (granted : db.Granted) {row : EnterpriseFeatureRow}
    (features : after.enterpriseFeatures = db.enterpriseFeatures.insert row)
    (decided : row.status = .active → row.decidedByStaffId ≠ none) : after.Granted := by
  intro id one found active
  rw [features, Table.get?_insert] at found
  split at found
  · obtain rfl := Option.some.inj found
    exact decided active
  · exact granted id one found active

theorem Granted.update (granted : db.Granted) {id : Nat}
    {change : EnterpriseFeatureRow → EnterpriseFeatureRow}
    (features : after.enterpriseFeatures = db.enterpriseFeatures.update id change)
    (decided : ∀ row, (change row).status = .active → (change row).decidedByStaffId ≠ none) :
    after.Granted := by
  intro other row found active
  rw [features, Table.get?_update] at found
  split at found
  · obtain ⟨old, was, rfl⟩ := Option.map_eq_some_iff.mp found
    exact decided old active
  · exact granted other row found active

theorem Granted.writeExpired (granted : db.Granted) (lookedAt : Int) (due : List Nat) :
    (db.writeExpired lookedAt due).Granted := by
  intro id row found active
  rw [PlatformDb.writeExpired, Table.get?_updateWhere] at found
  obtain ⟨old, was, rfl⟩ := Option.map_eq_some_iff.mp found
  split at active
  · contradiction
  · next spared =>
      rw [if_neg spared]
      exact granted id old was active

theorem Granted.asks (granted : db.Granted) (request : FeatureRequest) :
    (db.requestAccess request).1.Granted := by
  unfold requestAccess
  split
  · exact granted
  · split
    · exact granted.insert rfl (fun active => by contradiction)
    · split
      · exact granted.update rfl (fun row active => by contradiction)
      · exact granted

theorem Granted.grants (granted : db.Granted) (input : GrantInput) :
    (db.insertEnterpriseFeature input).1.Granted := by
  unfold insertEnterpriseFeature
  split
  · exact granted
  · exact granted.insert rfl fun _ => Option.some_ne_none _

theorem Granted.decides (granted : db.Granted) (update : StatusUpdate) :
    (db.updateEnterpriseFeatureStatus update).1.Granted := by
  unfold updateEnterpriseFeatureStatus
  split
  · exact granted.update rfl fun row _ => Option.some_ne_none _
  · exact granted

end PlatformDb

section Runs

variable {db after : PlatformDb} {task : PlatformTask} {tasks : List PlatformTask}
  {start pool : Pool PlatformDb PlatformTask}

theorem updateEnterpriseStatus_features (db : PlatformDb) (id : Nat) (old new : EnterpriseStatus) :
    (db.updateEnterpriseStatus id old new).1.enterpriseFeatures = db.enterpriseFeatures := by
  unfold PlatformDb.updateEnterpriseStatus
  split
  · rfl
  · rfl

theorem audit_features (db : PlatformDb) (entry : AuditEntry) :
    (db.audit entry).enterpriseFeatures = db.enterpriseFeatures := by
  unfold PlatformDb.audit
  split
  · rfl
  · rfl

theorem audit_enterprises (db : PlatformDb) (entry : AuditEntry) :
    (db.audit entry).enterprises = db.enterprises := by
  unfold PlatformDb.audit
  split
  · rfl
  · rfl

theorem PlatformMove.pairsUnique (move : PlatformMove db task tasks after)
    (unique : db.PairsUnique) : after.PairsUnique := by
  cases move with
  | reads | looks | operates | onboards => exact unique
  | audits => exact unique.of_eq (audit_features db _)
  | asks => exact unique.asks _
  | grants => exact unique.grants _
  | decides => exact unique.decides _
  | changes => exact unique.of_eq (updateEnterpriseStatus_features _ _ _ _)
  | writes => exact unique.writeExpired _ _

theorem PlatformMove.granted (move : PlatformMove db task tasks after)
    (granted : db.Granted) : after.Granted := by
  cases move with
  | reads | looks | operates | onboards => exact granted
  | audits => exact granted.of_eq (audit_features db _)
  | asks => exact granted.asks _
  | grants => exact granted.grants _
  | decides => exact granted.decides _
  | changes => exact granted.of_eq (updateEnterpriseStatus_features _ _ _ _)
  | writes => exact granted.writeExpired _ _

theorem platformStep_keeps {holds : PlatformDb → Prop} (moment : Moment)
    (noted : ∀ db moment refused, holds db →
      holds { PlatformDb.atMoment db moment with refused := refused })
    (moved : ∀ db task tasks after, PlatformMove db task tasks after → holds db → holds after)
    (holding : holds db) : holds (platformStep db task moment).1 := by
  have timed : holds (db.atMoment moment) := noted db moment db.refused holding
  rcases platformStep_cases db task moment with ⟨tasks, after, move, same⟩ | ⟨error, -, same⟩
  · rw [same]
    exact moved _ _ _ _ move timed
  · rw [same]
    exact noted db moment _ holding

theorem opening_sound (db : PlatformDb) (call : PlatformCall) :
    ∀ task ∈ call.opening, task.Sound db := by
  cases call with
  | request | decideFeature | setEnterpriseStatus | sweep | onboard | operate =>
      exact List.forall_mem_singleton.mpr trivial

theorem run_sound (fresh : start.processes = []) (reached : PlatformSteps start pool) :
    ∀ process ∈ pool.processes, ∀ task ∈ process, task.Sound pool.shared := by
  refine (platformMachine.pool_invariant_from (fun _ => True) (fun db task => task.Sound db) ?_ ?_
    trivial (by simp [fresh]) reached).2
  · intro db call _ _ task member
    exact opening_sound db call task member
  · intro db task moment _ sound _
    obtain ⟨late, next⟩ := @platformStep_next db task sound moment
    exact ⟨trivial, platformStep_sound db task moment, fun other kept => kept.next next⟩

theorem step_next (sound : ∀ process ∈ pool.processes, ∀ task ∈ process, task.Sound pool.shared)
    {next : Pool PlatformDb PlatformTask}
    (step : platformMachine.PoolStep (fun db event => timely db event = true) pool next) :
    ∃ late, pool.shared.Next next.shared late := by
  cases step with
  | opened call permitted => exact ⟨_, .of_eq rfl rfl rfl⟩
  | ran index task rest moment there permitted =>
      exact platformStep_next
        (sound _ (List.mem_of_getElem? there) task List.mem_cons_self) moment

theorem run_follows
    (sound : ∀ process ∈ start.processes, ∀ task ∈ process, task.Sound start.shared)
    (reached : PlatformSteps start pool) : ∃ late, start.shared.Follows pool.shared late := by
  refine (platformMachine.pool_invariant_from
    (fun db => ∃ late, start.shared.Follows db late) (fun db task => task.Sound db) ?_ ?_
    ⟨[], .refl _⟩ sound reached).1
  · intro db call _ _ task member
    exact opening_sound db call task member
  · intro db task moment followed sound _
    obtain ⟨early, first⟩ := followed
    obtain ⟨late, second⟩ := @platformStep_next db task sound moment
    exact ⟨⟨late ++ early, first.trans second.follows⟩, platformStep_sound db task moment,
      fun other kept => kept.next second⟩

theorem run_keeps {holds : PlatformDb → Prop}
    (noted : ∀ db moment refused, holds db →
      holds { PlatformDb.atMoment db moment with refused := refused })
    (moved : ∀ db task tasks after, PlatformMove db task tasks after → holds db → holds after)
    (initially : holds start.shared) (reached : PlatformSteps start pool) : holds pool.shared := by
  refine (platformMachine.pool_invariant_from holds (fun _ _ => True) ?_ ?_ initially ?_ reached).1
  · intro _ _ _ _ _ _
    trivial
  · intro db task moment holding _ _
    exact ⟨platformStep_keeps moment noted moved holding, fun _ _ => trivial, fun _ _ => trivial⟩
  · intro _ _ _ _
    trivial

theorem run_pairsUnique (unique : start.shared.PairsUnique) (reached : PlatformSteps start pool) :
    pool.shared.PairsUnique :=
  run_keeps (fun _ _ _ unique => unique) (fun _ _ _ _ move => move.pairsUnique) unique reached

theorem run_granted (granted : start.shared.Granted) (reached : PlatformSteps start pool) :
    pool.shared.Granted :=
  run_keeps (fun _ _ _ granted => granted) (fun _ _ _ _ move => move.granted) granted reached

/-- However requests, decisions and sweeps interleave, in every state that is reached: every
statement leaves every business and every feature of one as it is or moves it along one
transition, except where a sweep writes a row that has moved on since it was picked; so over
any number of statements they move along paths of transitions, and a revoked feature stays
revoked, again except there; no term is changed; no business has two rows for one feature; and
a feature is on only by a decision of the staff. -/
theorem lifecycles_followed {start pool : Pool PlatformDb PlatformTask}
    (fresh : start.processes = []) (reached : PlatformSteps start pool) :
    (∀ after, platformMachine.PoolStep (fun db event => timely db event = true) pool after →
      ∃ late, pool.shared.Next after.shared late) ∧
      (∀ later, PlatformSteps pool later → ∃ late, pool.shared.Follows later.shared late ∧
        ∀ id row, pool.shared.enterpriseFeatures.get? id = some row → row.status = .revoked →
          id ∉ late → ∃ still,
            later.shared.enterpriseFeatures.get? id = some still ∧ still.status = .revoked) ∧
      (start.shared.PairsUnique → pool.shared.PairsUnique) ∧
      (start.shared.Granted → pool.shared.Granted) := by
  have sound := run_sound fresh reached
  refine ⟨fun after => step_next sound, fun later further => ?_,
    fun unique => run_pairsUnique unique reached, fun granted => run_granted granted reached⟩
  obtain ⟨late, follows⟩ := run_follows sound further
  refine ⟨late, follows, fun id row found revoked prompt => ?_⟩
  obtain ⟨still, there, kept⟩ := follows.kept id row found
  have path := kept.status prompt
  rw [revoked] at path
  exact ⟨still, there, path.revoked⟩

end Runs

/-! ### A late sweep -/

section Late

variable {db : PlatformDb} {processes : List (List PlatformTask)}

def PlatformDb.moment (db : PlatformDb) : Moment := ⟨db.now, db.auditFails⟩

theorem platformStep_of_ok {task : PlatformTask} {tasks : List PlatformTask} {after : PlatformDb}
    {moment : Moment} (success : task.statement (db.atMoment moment) = .ok (tasks, after)) :
    platformStep db task moment = (after, tasks) := by
  unfold platformStep
  rw [transact_of_ok success]

def PlatformRun : Pool PlatformDb PlatformTask →
    List (Event PlatformTask PlatformCall Moment) → Pool PlatformDb PlatformTask → Prop :=
  platformMachine.PoolRun fun db event => timely db event = true

theorem last_runs {start : Pool PlatformDb PlatformTask}
    {events : List (Event PlatformTask PlatformCall Moment)} {task : PlatformTask}
    (before : PlatformRun start events ⟨db, processes ++ [[task]]⟩) (tasks : List PlatformTask)
    (after : PlatformDb) (success : task.statement db = .ok (tasks, after)) :
    PlatformRun start (.ran task db.moment :: events) ⟨after, processes ++ [tasks]⟩ := by
  have next : (processes ++ [[task]])[processes.length]? = some [task] :=
    List.getElem?_concat_length
  have run : PlatformRun start (.ran task db.moment :: events)
      ⟨(platformStep db task db.moment).1,
        (processes ++ [[task]]).set processes.length ((platformStep db task db.moment).2 ++ [])⟩ :=
    .ran before processes.length task [] db.moment next (decide_eq_true (Int.le_refl _))
  rw [platformStep_of_ok success, List.set_append_right _ _ (Nat.le_refl _), Nat.sub_self,
    List.append_nil] at run
  exact run

theorem PlatformDb.PairsUnique.findEnterpriseFeature {id : Nat} {row : EnterpriseFeatureRow}
    (unique : db.PairsUnique) (found : db.enterpriseFeatures.get? id = some row) :
    db.findEnterpriseFeature row.enterpriseId row.featureId = some ⟨id, row⟩ := by
  cases looked : db.findEnterpriseFeature row.enterpriseId row.featureId with
  | none =>
      have unlike := Table.find?_eq_none.mp looked id row found
      rw [beq_self_eq_true, beq_self_eq_true] at unlike
      contradiction
  | some stored =>
      obtain ⟨there, pair⟩ := Table.find?_some looked
      rw [Bool.and_eq_true, beq_iff_eq, beq_iff_eq] at pair
      have same := unique stored.id id stored.row row there found pair.1 pair.2
      obtain ⟨other, another⟩ := stored
      subst same
      obtain rfl : another = row := Option.some.inj (there.symm.trans found)
      rfl

def EnterpriseFeatureRow.grantOf (row : EnterpriseFeatureRow) (staffId : Nat) (featureKey : String)
    (reason : Option String) : FeatureDecision where
  staffId := some staffId
  enterpriseRefId := row.enterpriseId
  featureKey := featureKey
  status := .active
  reason := reason

theorem grant_runs {staffId id : Nat} {featureKey : String} {reason : Option String}
    {row : EnterpriseFeatureRow} (unique : db.PairsUnique)
    (found : db.enterpriseFeatures.get? id = some row)
    (allows : EnterpriseFeatureStatus.active ∈ enterpriseFeatureTransitions row.status)
    (visible : (db.findEnterprise row.enterpriseId).isSome = true)
    (feature : db.findFeatureIdByKey featureKey = some row.featureId) :
    ∃ events pool, PlatformRun ⟨db, processes⟩ events pool ∧
      events.filterMap Event.call? = [.decideFeature (row.grantOf staffId featureKey reason)] ∧
      pool.shared.late = db.late ∧
      ∃ later, pool.shared.enterpriseFeatures.get? id = some later ∧ later.status = .active := by
  obtain ⟨enterprise, business⟩ := Option.isSome_iff_exists.mp visible
  let decision := row.grantOf staffId featureKey reason
  let this : FoundFeature := ⟨decision, staffId, row.enterpriseId, row.featureId⟩
  let update : StatusUpdate :=
    { enterpriseFeatureId := id
      old := row.status
      new := .active
      decidedByStaffId := staffId
      declineReason := reason }
  have opens : PlatformRun ⟨db, processes⟩ [.opened (.decideFeature decision)]
      ⟨db, processes ++ [[.findEnterprise decision]]⟩ :=
    Machine.PoolRun.opened .start (PlatformCall.decideFeature decision) rfl
  have first := last_runs opens [.findFeatureIdByKey decision staffId row.enterpriseId] db (by
      change PlatformService.findEnterprise decision db = _
      simp only [PlatformService.findEnterprise, decision, EnterpriseFeatureRow.grantOf, business])
  have second := last_runs first [.findEnterpriseFeature this] db (by
    change PlatformService.findFeatureIdByKey decision staffId row.enterpriseId db = _
    simp only [PlatformService.findFeatureIdByKey, decision, EnterpriseFeatureRow.grantOf, feature]
    rfl)
  have different : row.status ≠ .active := by
    intro same
    rw [same] at allows
    exact absurd allows (by decide)
  have third := last_runs second [.updateEnterpriseFeatureStatus this update] db (by
      change PlatformService.decideFeature this db = _
      simp only [PlatformService.decideFeature, this, unique.findEnterpriseFeature found, decision,
        EnterpriseFeatureRow.grantOf, if_neg different, if_pos allows]
      rfl)
  have fourth := last_runs third [.auditDecided this (some row.status)]
    { db with
      enterpriseFeatures := db.enterpriseFeatures.update id
        (PlatformDb.writeStatus update db.now) } (by
      change PlatformService.updateEnterpriseFeatureStatus this update db = _
      simp only [PlatformService.updateEnterpriseFeatureStatus,
        PlatformDb.updateEnterpriseFeatureStatus, update, found, Option.any_some,
        beq_self_eq_true, if_true])
  refine ⟨_, _, fourth, rfl, rfl, PlatformDb.writeStatus update db.now row, ?_, rfl⟩
  rw [Table.get?_update_self, found]
  rfl

theorem writeExpired_statement (passes : Nat) (lookedAt : Int) (due : List Nat) :
    ∃ tasks, (PlatformTask.writeExpired passes lookedAt due).statement db =
      .ok (tasks, db.writeExpired lookedAt due) := by
  change ∃ tasks, SweeperWorker.writeExpired passes lookedAt due db = _
  unfold SweeperWorker.writeExpired
  dsimp only
  split
  · exact ⟨_, rfl⟩
  · exact ⟨_, rfl⟩

/-- A revocation is lost to a sweep that had picked the row before, where business and feature
are still there: the sweep writes the row expired, and from there one grant switches the feature
on again. -/
theorem late_sweep_reopens {pool : Pool PlatformDb PlatformTask} (unique : pool.shared.PairsUnique)
    {index passes id : Nat} {lookedAt : Int} {due : List Nat} {rest : List PlatformTask}
    {row : EnterpriseFeatureRow} {featureKey : String}
    (writing : pool.processes[index]? = some (.writeExpired passes lookedAt due :: rest))
    (picked : id ∈ due) (found : pool.shared.enterpriseFeatures.get? id = some row)
    (revoked : row.status = .revoked)
    (visible : (pool.shared.findEnterprise row.enterpriseId).isSome = true)
    (feature : pool.shared.findFeatureIdByKey featureKey = some row.featureId) :
    ∃ swept events after,
      platformMachine.PoolStep (fun db event => timely db event = true) pool swept ∧
      id ∈ swept.shared.late ∧
      (swept.shared.enterpriseFeatures.get? id).map (·.status) = some .expired ∧
      PlatformRun swept events after ∧
      events.filterMap Event.call? = [.decideFeature (row.grantOf 0 featureKey none)] ∧
      id ∈ after.shared.late ∧
      ∃ later, after.shared.enterpriseFeatures.get? id = some later ∧ later.status = .active := by
  obtain ⟨db, processes⟩ := pool
  obtain ⟨tasks, success⟩ := @writeExpired_statement db passes lookedAt due
  have wrote : platformMachine.PoolStep (fun db event => timely db event = true) ⟨db, processes⟩
      ⟨db.writeExpired lookedAt due, processes.set index (tasks ++ rest)⟩ := by
    have step : platformMachine.PoolStep (fun db event => timely db event = true) ⟨db, processes⟩
        ⟨(platformStep db (.writeExpired passes lookedAt due) db.moment).1, processes.set index
          ((platformStep db (.writeExpired passes lookedAt due) db.moment).2 ++ rest)⟩ :=
      .ran index _ rest db.moment writing (decide_eq_true (Int.le_refl _))
    rw [platformStep_of_ok success] at step
    exact step
  have expired : (db.writeExpired lookedAt due).enterpriseFeatures.get? id =
      some { row with status := .expired, disabledAt := some lookedAt } := by
    rw [PlatformDb.writeExpired, Table.get?_updateWhere, found, Option.map_some,
      if_pos (List.contains_iff_mem.mpr picked)]
  have noted : id ∈ (db.writeExpired lookedAt due).late := by
    refine List.mem_append_left _ (List.mem_filter.mpr ⟨picked, ?_⟩)
    rw [found, Option.any_some, revoked]
    rfl
  obtain ⟨events, after, granted, one, late, later, there, active⟩ :=
    @grant_runs _ (processes.set index (tasks ++ rest)) 0 id featureKey none _
      (unique.writeExpired lookedAt due) expired List.mem_cons_self visible feature
  exact ⟨_, events, after, wrote, noted, by rw [expired, Option.map_some], granted, one,
    late ▸ noted, later, there, active⟩

end Late

/-! ### A business and a feature -/

def onTrial : PlatformDb where
  enterprises := ⟨[{ status := .active, isDeleted := false }]⟩
  features := ⟨[{ key := "unified_inbox", status := .active, isDeleted := false }]⟩
  enterpriseFeatures :=
    ⟨[{ enterpriseId := 0
        featureId := 0
        status := .active
        requestedByEmployeeId := none
        requestedAt := none
        decidedByStaffId := some 0
        decidedAt := some 0
        declineReason := none
        enabledAt := some 0
        disabledAt := none
        expiresAt := some 10 }]⟩
  audits := []
  late := []
  refused := []
  now := 0
  auditFails := false

def script (turns : List (PlatformCall ⊕ (Nat × Int))) : List (PlatformCall ⊕ (Nat × Moment)) :=
  turns.map fun turn => turn.map id fun at_ => (at_.1, ⟨at_.2, false⟩)

/-- The trial is switched off and withdrawn, and the sweep comes too late for it. -/
theorem lifecycles_followed_of_a_trial :
    ∃ pool late, PlatformSteps ⟨onTrial, []⟩ pool ∧ onTrial.Follows pool.shared late ∧
      (pool.shared.enterpriseFeatures.get? 0).map (·.status) = some .revoked := by
  have runs : (platformMachine.playPool timely ⟨onTrial, []⟩ (script
      [.inl (.decideFeature ⟨some 0, 0, "unified_inbox", .revoked, some "unpaid"⟩), .inr (0, 1),
        .inr (0, 1), .inr (0, 1), .inr (0, 1), .inr (0, 1), .inl .sweep, .inr (1, 11),
        .inr (1, 11)])).any (fun pool =>
      (pool.shared.enterpriseFeatures.get? 0).map (·.status) == some .revoked) = true := by
    decide +kernel
  obtain ⟨pool, played, revoked⟩ := (Option.any_eq_true _ _).mp runs
  have reached : PlatformSteps ⟨onTrial, []⟩ pool :=
    platformMachine.playPool_sound (fun _ _ passed => passed) played
  obtain ⟨late, follows, -⟩ := (lifecycles_followed rfl .refl).2.1 pool reached
  exact ⟨pool, late, reached, follows, beq_iff_eq.mp revoked⟩

def withdrawnInBetween : List (PlatformCall ⊕ (Nat × Int)) :=
  [.inl .sweep, .inr (0, 11),
    .inl (.decideFeature ⟨some 0, 0, "unified_inbox", .revoked, some "unpaid"⟩),
    .inr (1, 11), .inr (1, 11), .inr (1, 11), .inr (1, 11)]

theorem onTrial_pairsUnique : onTrial.PairsUnique := by
  intro id other row another found there _ _
  have one := Table.get?_lt found
  have two := Table.get?_lt there
  change id < 1 at one
  change other < 1 at two
  omega

/-- The withdrawn feature is on again. -/
theorem late_sweep_reopens_a_trial :
    ∃ pool after, PlatformSteps ⟨onTrial, []⟩ pool ∧
      (pool.shared.enterpriseFeatures.get? 0).map (·.status) = some .revoked ∧
      (∃ swept events, platformMachine.PoolStep (fun db event => timely db event = true) pool swept ∧
        PlatformRun swept events after) ∧
      ∃ later, after.shared.enterpriseFeatures.get? 0 = some later ∧ later.status = .active := by
  have runs : (platformMachine.playPool timely ⟨onTrial, []⟩
      (script withdrawnInBetween)).any (fun pool =>
      pool.processes[0]? == some [.writeExpired maxSweepPasses 11 [0]] &&
        (pool.shared.enterpriseFeatures.get? 0).any (fun row => row.status == .revoked &&
          row.enterpriseId == 0 && row.featureId == 0) &&
        (pool.shared.findEnterprise 0).isSome &&
        pool.shared.findFeatureIdByKey "unified_inbox" == some 0) = true := by
    decide +kernel
  obtain ⟨pool, played, seen⟩ := (Option.any_eq_true _ _).mp runs
  simp only [Bool.and_eq_true, beq_iff_eq] at seen
  obtain ⟨⟨⟨writing, row⟩, visible⟩, feature⟩ := seen
  obtain ⟨row, found, standing⟩ := (Option.any_eq_true _ _).mp row
  simp only [Bool.and_eq_true, beq_iff_eq] at standing
  have reached : PlatformSteps ⟨onTrial, []⟩ pool :=
    platformMachine.playPool_sound (fun _ _ passed => passed) played
  have unique := run_pairsUnique onTrial_pairsUnique reached
  obtain ⟨swept, events, after, wrote, -, -, further, -, -, later, there, active⟩ :=
    late_sweep_reopens unique writing List.mem_cons_self found standing.1.1
      (by rw [standing.1.2]; exact visible) (by rw [standing.2]; exact feature)
  exact ⟨pool, after, reached, by rw [found, Option.map_some, standing.1.1],
    ⟨swept, events, wrote, further⟩, later, there, active⟩

end UnifiedService.Features
