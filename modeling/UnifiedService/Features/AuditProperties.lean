import UnifiedService.Features.LifecycleProperties

/-! What is audited of the writes to businesses and their features, and what a request that
comes second is told. -/

set_option autoImplicit false

namespace UnifiedService.Features

open UnifiedService.Library
open UnifiedService.Connections (EnterpriseStatus)

/-! ### What the rows tell -/

structure FeatureMoves (db after : PlatformDb) (enterpriseId featureId : Nat)
    (old : Option EnterpriseFeatureStatus) (new : EnterpriseFeatureStatus) : Prop where
  enterprises : after.enterprises = db.enterprises
  row : ∃ id later, (db.enterpriseFeatures.get? id).map (·.status) = old ∧
    after.enterpriseFeatures.get? id = some later ∧ later.enterpriseId = enterpriseId ∧
    later.featureId = featureId ∧ later.status = new ∧
    ∀ other, other ≠ id → after.enterpriseFeatures.get? other = db.enterpriseFeatures.get? other

structure EnterpriseMoves (db after : PlatformDb) (enterpriseId : Nat)
    (old new : EnterpriseStatus) : Prop where
  features : after.enterpriseFeatures = db.enterpriseFeatures
  was : (db.findEnterprise enterpriseId).map (·.status) = some old
  is : (after.findEnterprise enterpriseId).map (·.status) = some new
  others : ∀ other, other ≠ enterpriseId → after.enterprises.get? other = db.enterprises.get? other

/-- The rows go as an entry says. A request says where it found the feature before it wrote,
which may have been none when it is declined by then. -/
def AuditEntry.Tells (db after : PlatformDb) : AuditEntry → Prop
  | .enterpriseUpdated enterpriseId old new _ => EnterpriseMoves db after enterpriseId old new
  | .featureRequested enterpriseId featureKey _ => ∃ featureId old,
      db.requestable featureKey = some featureId ∧ (old = none ∨ old = some .declined) ∧
        FeatureMoves db after enterpriseId featureId old .accessRequested
  | .featureDecided enterpriseId featureId _ old new _ =>
      FeatureMoves db after enterpriseId featureId old new

/-- A first decision is audited whether or not its insert made the row. -/
def AuditEntry.isFirst : AuditEntry → Bool
  | .featureDecided _ _ _ none _ _ => true
  | _ => false

def AuditEntry.isAbout (enterpriseId featureId : Nat) : AuditEntry → Bool
  | .featureDecided enterprise feature _ _ _ _ =>
      enterprise == enterpriseId && feature == featureId
  | _ => false

def PlatformTask.changes (db : PlatformDb) (task : PlatformTask) (moment : Moment) : Bool :=
  (platformStep db task moment).1.enterprises != db.enterprises ||
    (platformStep db task moment).1.enterpriseFeatures != db.enterpriseFeatures

def PlatformTask.writes (entry : AuditEntry) (db : PlatformDb) (task : PlatformTask)
    (moment : Moment) : Bool :=
  task.audited == some entry && task.changes db moment

/-- The step is a first decision that finds the row made, and is audited all the same. -/
def PlatformTask.loses (entry : AuditEntry) (db : PlatformDb) (task : PlatformTask)
    (moment : Moment) : Bool :=
  task.audited == some entry && entry.isFirst && !task.changes db moment

/-- The step is an audit of the entry that fails, which nobody is told. -/
def PlatformTask.swallows (entry : AuditEntry) (_ : PlatformDb) (task : PlatformTask)
    (moment : Moment) : Bool :=
  task.entry == some entry && moment.auditFails

/-- The step is a first decision about a feature of a business, and makes the row. -/
def PlatformTask.opensWith (enterpriseId featureId : Nat) (db : PlatformDb) (task : PlatformTask)
    (moment : Moment) : Bool :=
  task.audited.any (fun entry => entry.isFirst && entry.isAbout enterpriseId featureId) &&
    task.changes db moment

def PlatformTask.records (entry : AuditEntry) (task : PlatformTask) : Nat :=
  if task.entry = some entry then 1 else 0

def howMany (start : PlatformDb) (events : List (Event PlatformTask PlatformCall Moment))
    (wanted : PlatformDb → PlatformTask → Moment → Bool) : Nat :=
  (platformMachine.turns start events).countP fun turn => wanted turn.shared turn.task turn.choice

section Moves

variable {db after : PlatformDb} {task : PlatformTask} {tasks : List PlatformTask}
  {enterpriseId featureId : Nat} {entry : AuditEntry} {moment : Moment}

theorem FeatureMoves.insert {row : EnterpriseFeatureRow} {new : EnterpriseFeatureStatus}
    (features : after.enterpriseFeatures = db.enterpriseFeatures.insert row)
    (enterprises : after.enterprises = db.enterprises) (enterprise : row.enterpriseId = enterpriseId)
    (feature : row.featureId = featureId) (is : row.status = new) :
    FeatureMoves db after enterpriseId featureId none new := by
  refine ⟨enterprises, db.enterpriseFeatures.nextId, row, ?_, ?_, enterprise, feature, is,
    fun other different => ?_⟩
  · rw [Table.get?_nextId]
    rfl
  · rw [features, Table.get?_insert_self]
  · rw [features, Table.get?_insert, if_neg different]

theorem FeatureMoves.update {id : Nat} {row : EnterpriseFeatureRow}
    {change : EnterpriseFeatureRow → EnterpriseFeatureRow} {old new : EnterpriseFeatureStatus}
    (features : after.enterpriseFeatures = db.enterpriseFeatures.update id change)
    (enterprises : after.enterprises = db.enterprises)
    (found : db.enterpriseFeatures.get? id = some row)
    (enterprise : (change row).enterpriseId = enterpriseId)
    (feature : (change row).featureId = featureId) (was : row.status = old)
    (is : (change row).status = new) :
    FeatureMoves db after enterpriseId featureId (some old) new := by
  refine ⟨enterprises, id, change row, by rw [found, Option.map_some, was], ?_, enterprise,
    feature, is, fun other different => ?_⟩
  · rw [features, Table.get?_update_self, found, Option.map_some]
  · rw [features, Table.get?_update_of_ne _ _ different.symm]

theorem FeatureMoves.changed {old : Option EnterpriseFeatureStatus}
    {new : EnterpriseFeatureStatus} (moves : FeatureMoves db after enterpriseId featureId old new)
    (different : old ≠ some new) : after.enterpriseFeatures ≠ db.enterpriseFeatures := by
  intro same
  obtain ⟨id, later, was, there, -, -, is, -⟩ := moves.row
  rw [← same, there, Option.map_some, is] at was
  exact different was.symm

theorem EnterpriseMoves.changed {old new : EnterpriseStatus}
    (moves : EnterpriseMoves db after enterpriseId old new) (different : old ≠ new) :
    after.enterprises ≠ db.enterprises := by
  intro same
  have is := moves.is
  rw [PlatformDb.findEnterprise, same] at is
  exact different (Option.some.inj (moves.was.symm.trans is))

theorem transitions_irrefl {old new : EnterpriseFeatureStatus}
    (edge : new ∈ enterpriseFeatureTransitions old) : old ≠ new := by
  rintro rfl
  revert edge
  cases old <;> decide

theorem enterpriseTransitions_irrefl {old new : EnterpriseStatus}
    (edge : new ∈ enterpriseStatusTransitions old) : old ≠ new := by
  rintro rfl
  revert edge
  cases old <;> decide

/-! ### What a statement writes -/

theorem requestAccess_tells {request : FeatureRequest}
    (made : (db.requestAccess request).2 = true) : ∃ featureId old,
      db.requestable request.featureKey = some featureId ∧ (old = none ∨ old = some .declined) ∧
        FeatureMoves db (db.requestAccess request).1 request.enterpriseId featureId old
          .accessRequested := by
  unfold PlatformDb.requestAccess at made ⊢
  split at made
  · contradiction
  · next featureId offered =>
      split at made
      · next missing =>
          exact ⟨featureId, none, offered, .inl rfl, .insert rfl rfl rfl rfl rfl⟩
      · next stored found =>
          split at made
          · next declined =>
              obtain ⟨there, pair⟩ := Table.find?_some found
              rw [Bool.and_eq_true, beq_iff_eq, beq_iff_eq] at pair
              rw [if_pos declined]
              exact ⟨featureId, some .declined, offered, .inr rfl,
                .update rfl rfl there pair.1 pair.2 declined rfl⟩
          · contradiction

theorem insertEnterpriseFeature_tells (found : FoundFeature) :
    FeatureMoves db (db.insertEnterpriseFeature found.grant).1 found.enterpriseId found.featureId
        none found.decision.status ∨
      (db.insertEnterpriseFeature found.grant).1 = db := by
  unfold PlatformDb.insertEnterpriseFeature
  split
  · exact .inr rfl
  · exact .inl (.insert rfl rfl rfl rfl rfl)

theorem updateEnterpriseFeatureStatus_tells {update : StatusUpdate} {row : EnterpriseFeatureRow}
    (matched : (db.updateEnterpriseFeatureStatus update).2 = true)
    (there : db.enterpriseFeatures.get? update.enterpriseFeatureId = some row)
    (enterprise : row.enterpriseId = enterpriseId) (feature : row.featureId = featureId) :
    FeatureMoves db (db.updateEnterpriseFeatureStatus update).1 enterpriseId featureId
      (some update.old) update.new := by
  unfold PlatformDb.updateEnterpriseFeatureStatus at matched ⊢
  split at matched
  · next found =>
      rw [if_pos found]
      rw [there, Option.any_some, beq_iff_eq] at found
      exact .update rfl rfl there enterprise feature found rfl
  · contradiction

theorem updateEnterpriseStatus_tells {old new : EnterpriseStatus}
    (matched : (db.updateEnterpriseStatus enterpriseId old new).2 = true) :
    EnterpriseMoves db (db.updateEnterpriseStatus enterpriseId old new).1 enterpriseId old new := by
  unfold PlatformDb.updateEnterpriseStatus at matched ⊢
  split at matched
  · next found =>
      rw [if_pos found]
      obtain ⟨seen, visible, same⟩ := Option.any_eq_true _ _ |>.mp found
      obtain ⟨stored, present⟩ := Option.filter_eq_some_iff.mp visible
      refine ⟨rfl, ?_, ?_, fun other different =>
        Table.get?_update_of_ne _ _ different.symm⟩
      · rw [visible, Option.map_some, beq_iff_eq.mp same]
      · rw [PlatformDb.findEnterprise, Table.get?_update_self, stored, Option.map_some,
          Option.filter_some, if_pos present, Option.map_some]
  · contradiction

/-- A statement that its call audits has moved the rows as the entry says, or is a first decision
that found the row made. -/
theorem PlatformMove.tells (move : PlatformMove db task tasks after) (sound : task.Sound db)
    (audited : task.audited = some entry) :
    (entry.Tells db after ∧ (after.enterprises ≠ db.enterprises ∨
        after.enterpriseFeatures ≠ db.enterpriseFeatures)) ∨
      entry.isFirst = true ∧ after = db := by
  cases move with
  | reads _ unaudited => exact absurd (unaudited.symm.trans audited) (by simp)
  | audits records =>
      cases task with
      | auditRequested | auditDecided | auditUpdated => contradiction
      | _ => contradiction
  | looks | operates | writes | onboards => contradiction
  | asks made =>
      obtain rfl := Option.some.inj audited
      have told := requestAccess_tells made
      obtain ⟨featureId, old, offered, first, moves⟩ := told
      refine .inl ⟨⟨featureId, old, offered, first, moves⟩, .inr (moves.changed ?_)⟩
      rcases first with rfl | rfl
      · decide
      · decide
  | grants found =>
      obtain rfl := Option.some.inj audited
      rcases insertEnterpriseFeature_tells found with moves | same
      · exact .inl ⟨moves, .inr (moves.changed (Option.some_ne_none _).symm)⟩
      · exact .inr ⟨rfl, same⟩
  | @decides found update matched =>
      obtain rfl := Option.some.inj audited
      obtain ⟨⟨new, edge⟩, row, there, enterprise, feature⟩ := sound
      have moves := updateEnterpriseFeatureStatus_tells matched there enterprise feature
      refine .inl ⟨?_, .inr (moves.changed ?_)⟩
      · rw [new] at moves
        exact moves
      · intro same
        exact transitions_irrefl edge (Option.some.inj same)
  | changes matched =>
      obtain rfl := Option.some.inj audited
      have moves := updateEnterpriseStatus_tells matched
      exact .inl ⟨moves, .inl (moves.changed (enterpriseTransitions_irrefl sound))⟩

/-- What no call audits changes nothing, is a sweep's or founds a business. -/
theorem PlatformMove.unaudited (move : PlatformMove db task tasks after)
    (unaudited : task.audited = none) :
    (after.enterprises = db.enterprises ∧ after.enterpriseFeatures = db.enterpriseFeatures) ∨
      task.isSweepWrite = true ∨ task = .onboard := by
  cases move with
  | reads | looks | operates => exact .inl ⟨rfl, rfl⟩
  | audits => exact .inl ⟨audit_enterprises db _, audit_features db _⟩
  | asks | grants | decides | changes => contradiction
  | writes => exact .inr (.inl rfl)
  | onboards => exact .inr (.inr rfl)

end Moves

/-! ### What a statement leaves to be audited -/

section Books

variable {db after : PlatformDb} {task : PlatformTask} {tasks : List PlatformTask}
  {entry : AuditEntry} {moment : Moment}

theorem PlatformTask.records_silent (silent : task.entry = none) : task.records entry = 0 := by
  rw [records, silent]
  rfl

theorem weigh_onward (onward : ∀ next ∈ tasks, next.Onward db) :
    Machine.weigh (PlatformTask.records entry) tasks = 0 := by
  induction tasks with
  | nil => rfl
  | cons task tasks ih =>
      rw [Machine.weigh_cons, ih fun next member => onward next (List.mem_cons_of_mem _ member),
        PlatformTask.records_silent (onward task List.mem_cons_self).silent]

theorem requestAccess_audits (db : PlatformDb) (request : FeatureRequest) :
    (db.requestAccess request).1.audits = db.audits := by
  unfold PlatformDb.requestAccess
  split
  · rfl
  · split
    · rfl
    · split
      · rfl
      · rfl

theorem insertEnterpriseFeature_audits (db : PlatformDb) (input : GrantInput) :
    (db.insertEnterpriseFeature input).1.audits = db.audits := by
  unfold PlatformDb.insertEnterpriseFeature
  split
  · rfl
  · rfl

theorem updateEnterpriseFeatureStatus_audits (db : PlatformDb) (update : StatusUpdate) :
    (db.updateEnterpriseFeatureStatus update).1.audits = db.audits := by
  unfold PlatformDb.updateEnterpriseFeatureStatus
  split
  · rfl
  · rfl

theorem updateEnterpriseStatus_audits (db : PlatformDb) (id : Nat) (old new : EnterpriseStatus) :
    (db.updateEnterpriseStatus id old new).1.audits = db.audits := by
  unfold PlatformDb.updateEnterpriseStatus
  split
  · rfl
  · rfl

theorem count_audit (db : PlatformDb) (entry other : AuditEntry) :
    (db.audit entry).audits.count other +
        (if entry = other ∧ db.auditFails = true then 1 else 0) =
      db.audits.count other + if entry = other then 1 else 0 := by
  unfold PlatformDb.audit
  cases db.auditFails with
  | true => simp
  | false => simp [List.count_cons]

/-- A call audits what it has written at its next step, or that step fails. -/
theorem PlatformMove.books (move : PlatformMove db task tasks after) (entry : AuditEntry) :
    after.audits.count entry + Machine.weigh (PlatformTask.records entry) tasks +
        (if task.entry = some entry ∧ db.auditFails = true then 1 else 0) =
      db.audits.count entry + task.records entry + if task.audited = some entry then 1 else 0 := by
  -- A write leaves the audits as they are and one of them to be made.
  have leaves : ∀ {middle : PlatformDb} {next : PlatformTask} {own : AuditEntry},
      middle.audits = db.audits → task.entry = none → task.audited = some own →
      next.entry = some own →
      middle.audits.count entry + Machine.weigh (PlatformTask.records entry) [next] +
          (if task.entry = some entry ∧ db.auditFails = true then 1 else 0) =
        db.audits.count entry + task.records entry +
          if task.audited = some entry then 1 else 0 := by
    intro middle next own same silent audited records
    rw [same, PlatformTask.records_silent silent, silent, audited, Machine.weigh_cons,
      Machine.weigh_nil, PlatformTask.records, records]
    simp
  cases move with
  | reads silent unaudited onward =>
      rw [weigh_onward onward, PlatformTask.records_silent silent, silent, unaudited]
      simp
  | looks | operates | onboards => simp [PlatformTask.records, PlatformTask.entry,
      PlatformTask.audited]
  | @audits _ own records =>
      have unaudited : task.audited = none := by
        cases task with
        | auditRequested | auditDecided | auditUpdated => rfl
        | _ => contradiction
      have counted := count_audit db own entry
      rw [PlatformTask.records, records, unaudited, Machine.weigh_nil]
      simp only [Option.some.injEq, reduceCtorEq, if_false]
      omega
  | asks made => exact leaves (requestAccess_audits _ _) rfl rfl rfl
  | grants found => exact leaves (insertEnterpriseFeature_audits _ _) rfl rfl rfl
  | decides matched => exact leaves (updateEnterpriseFeatureStatus_audits _ _) rfl rfl rfl
  | changes matched => exact leaves (updateEnterpriseStatus_audits _ _ _ _) rfl rfl rfl
  | @writes passes lookedAt due _ onward =>
      rw [weigh_onward onward]
      simp [PlatformTask.records, PlatformTask.entry, PlatformTask.audited, PlatformDb.writeExpired]

theorem changes_iff : task.changes db moment = true ↔
    (platformStep db task moment).1.enterprises ≠ db.enterprises ∨
      (platformStep db task moment).1.enterpriseFeatures ≠ db.enterpriseFeatures := by
  rw [PlatformTask.changes, Bool.or_eq_true, bne_iff_ne, bne_iff_ne]

theorem refused_unchanged {error : PlatformError}
    (refused : task.statement (db.atMoment moment) = .error error)
    (same : platformStep db task moment =
      ({ db.atMoment moment with refused := (task, error) :: db.refused }, [])) :
    task.entry = none ∧ task.changes db moment = false ∧ ∀ entry, task.audited = some entry →
      entry.isFirst = false := by
  refine ⟨?_, ?_, ?_⟩
  · cases task with
    | auditRequested | auditDecided | auditUpdated => contradiction
    | _ => rfl
  · rw [Bool.eq_false_iff, Ne, changes_iff, same]
    simp [PlatformDb.atMoment]
  · intro entry audited
    cases task with
    | insertEnterpriseFeature => contradiction
    | requestAccess | updateEnterpriseFeatureStatus | updateEnterpriseStatus =>
        obtain rfl := Option.some.inj audited
        rfl
    | _ => contradiction

theorem AuditEntry.Tells.of_atMoment (tells : entry.Tells (db.atMoment moment) after) :
    entry.Tells db after := by
  cases entry with
  | enterpriseUpdated => exact ⟨tells.features, tells.was, tells.is, tells.others⟩
  | featureRequested =>
      obtain ⟨featureId, old, offered, first, moves⟩ := tells
      exact ⟨featureId, old, offered, first, moves.enterprises, moves.row⟩
  | featureDecided => exact ⟨tells.enterprises, tells.row⟩

/-- A step that changes rows is a sweep's, founds a business, or is audited as what it is. -/
theorem changes_told (sound : task.Sound db) (changes : task.changes db moment = true) :
    task.isSweepWrite = true ∨ task = .onboard ∨ ∃ entry, task.audited = some entry ∧
      entry.Tells db (platformStep db task moment).1 := by
  rcases platformStep_cases db task moment with ⟨tasks, after, move, same⟩ | ⟨error, refused, same⟩
  · cases audited : task.audited with
    | none =>
        rcases move.unaudited audited with ⟨enterprises, features⟩ | sweep | founds
        · rw [changes_iff, same] at changes
          exact (changes.elim (· enterprises) (· features)).elim
        · exact .inl sweep
        · exact .inr (.inl founds)
    | some entry =>
        rcases move.tells (sound.atMoment moment) audited with ⟨tells, -⟩ | ⟨-, unchanged⟩
        · rw [same]
          exact .inr (.inr ⟨entry, rfl, tells.of_atMoment⟩)
        · rw [changes_iff, same, unchanged] at changes
          exact (changes.elim (· rfl) (· rfl)).elim
  · rw [(refused_unchanged refused same).2.1] at changes
    contradiction

theorem platformStep_books (sound : task.Sound db) (entry : AuditEntry) :
    (platformStep db task moment).1.audits.count entry +
        Machine.weigh (PlatformTask.records entry) (platformStep db task moment).2 +
        (if task.swallows entry db moment = true then 1 else 0) =
      db.audits.count entry + task.records entry +
        (if task.writes entry db moment = true then 1 else 0) +
        if task.loses entry db moment = true then 1 else 0 := by
  simp only [PlatformTask.swallows, PlatformTask.writes, PlatformTask.loses, Bool.and_eq_true,
    beq_iff_eq, Bool.not_eq_true']
  rcases platformStep_cases db task moment with ⟨tasks, after, move, same⟩ | ⟨error, refused, same⟩
  · have books : after.audits.count entry + Machine.weigh (PlatformTask.records entry) tasks +
        (if task.entry = some entry ∧ moment.auditFails = true then 1 else 0) =
        db.audits.count entry + task.records entry +
          if task.audited = some entry then 1 else 0 := move.books entry
    rw [same]
    by_cases audited : task.audited = some entry
    · rcases move.tells (sound.atMoment moment) audited with ⟨-, changed⟩ | ⟨first, unchanged⟩
      · have changes : task.changes db moment = true := by
          rw [changes_iff, same]
          exact changed
        simpa [audited, changes] using books
      · have changes : task.changes db moment = false := by
          rw [Bool.eq_false_iff, Ne, changes_iff, same, unchanged]
          simp [PlatformDb.atMoment]
        simpa [audited, first, changes] using books
    · simpa [audited] using books
  · obtain ⟨silent, unchanged, later⟩ := refused_unchanged refused same
    have lost : ¬(task.audited = some entry ∧ entry.isFirst = true) := fun both => by
      rw [later entry both.1] at both
      exact Bool.false_ne_true both.2
    rw [same, PlatformTask.records_silent silent, silent, unchanged]
    simp [lost, PlatformDb.atMoment]

theorem opensWith_made {enterpriseId featureId : Nat}
    (opens : task.opensWith enterpriseId featureId db moment = true) :
    db.findEnterpriseFeature enterpriseId featureId = none ∧ ∃ id row,
      (platformStep db task moment).1.enterpriseFeatures.get? id = some row ∧
        row.enterpriseId = enterpriseId ∧ row.featureId = featureId := by
  rw [PlatformTask.opensWith, Bool.and_eq_true] at opens
  obtain ⟨told, changes⟩ := opens
  obtain ⟨entry, audited, about⟩ := Option.any_eq_true _ _ |>.mp told
  cases task with
  | insertEnterpriseFeature found =>
      obtain rfl := Option.some.inj audited
      simp only [FoundFeature.entry, AuditEntry.isFirst, AuditEntry.isAbout, Bool.true_and,
        Bool.and_eq_true, beq_iff_eq] at about
      obtain ⟨rfl, rfl⟩ := about
      have step : platformStep db (.insertEnterpriseFeature found) moment =
          ((PlatformDb.insertEnterpriseFeature (db.atMoment moment) found.grant).1,
            [.auditDecided found none]) := platformStep_of_ok rfl
      rw [changes_iff, step] at changes
      rw [step]
      cases looked : db.findEnterpriseFeature found.enterpriseId found.featureId with
      | some stored =>
          have there : (db.atMoment moment).findEnterpriseFeature found.grant.enterpriseId
              found.grant.featureId = some stored := looked
          simp only [PlatformDb.insertEnterpriseFeature, there] at changes
          exact (changes.elim (· rfl) (· rfl)).elim
      | none =>
          have missing : (db.atMoment moment).findEnterpriseFeature found.grant.enterpriseId
              found.grant.featureId = none := looked
          simp only [PlatformDb.insertEnterpriseFeature, missing]
          exact ⟨trivial, _, _, Table.get?_insert_self _ _, rfl, rfl⟩
  | requestAccess | updateEnterpriseFeatureStatus | updateEnterpriseStatus =>
      obtain rfl := Option.some.inj audited
      contradiction
  | _ => contradiction

end Books

/-! ### Runs -/

section Runs

variable {start pool : Pool PlatformDb PlatformTask} {db : PlatformDb}
  {events : List (Event PlatformTask PlatformCall Moment)}

theorem howMany_ran (task : PlatformTask) (moment : Moment)
    (wanted : PlatformDb → PlatformTask → Moment → Bool) :
    howMany db (.ran task moment :: events) wanted = howMany db events wanted +
      if wanted (platformMachine.storeAfter db events) task moment = true then 1 else 0 :=
  List.countP_cons ..

/-- What is audited, pending and lost of an entry balances with what was written. -/
theorem run_books (entry : AuditEntry) (run : PlatformRun ⟨db, []⟩ events pool) :
    pool.shared.audits.count entry +
        Machine.weigh (PlatformTask.records entry) pool.processes.flatten +
        howMany db events (PlatformTask.swallows entry) =
      db.audits.count entry + howMany db events (PlatformTask.writes entry) +
        howMany db events (PlatformTask.loses entry) := by
  refine platformMachine.run_weighed (PlatformTask.records entry)
    (fun events shared pending => shared.audits.count entry + pending +
        howMany db events (PlatformTask.swallows entry) =
      db.audits.count entry + howMany db events (PlatformTask.writes entry) +
        howMany db events (PlatformTask.loses entry)) rfl ?_ ?_ run
  · intro events shared call others _ balanced
    have silent : Machine.weigh (PlatformTask.records entry) (PlatformCall.opening call) = 0 := by
      cases call with
      | request | decideFeature | setEnterpriseStatus | sweep | onboard | operate => rfl
    change _ + (Machine.weigh _ (PlatformCall.opening call) + others) + _ = _
    rw [silent, Nat.zero_add]
    exact balanced
  · intro events moved process task moment others before queued waiting _ balanced
    have sound := run_sound rfl before.reaches process queued task waiting
    have books := @platformStep_books _ _ moment sound entry
    have there := before.storeAfter_eq
    dsimp only at there balanced ⊢
    rw [howMany_ran, howMany_ran, howMany_ran, there]
    change (platformStep moved.shared task moment).1.audits.count entry +
      (Machine.weigh _ (platformStep moved.shared task moment).2 + others) + _ = _
    omega

/-- Every step of a run takes place in a state that is reached, and what it does holds of it. -/
theorem turns_sound (fresh : start.processes = []) (run : PlatformRun start events pool) :
    ∀ turn ∈ platformMachine.turns start.shared events, turn.task.Sound turn.shared := by
  induction run with
  | start => exact List.forall_mem_nil _
  | opened _ _ _ ih => exact ih
  | ran before index task rest moment next _ ih =>
      intro turn member
      rcases List.mem_cons.mp member with rfl | earlier
      · rw [before.storeAfter_eq]
        exact run_sound fresh before.reaches _ (List.mem_of_getElem? next) task List.mem_cons_self
      · exact ih turn earlier

theorem run_firsts {enterpriseId featureId : Nat} (fresh : start.processes = [])
    (run : PlatformRun start events pool) :
    howMany start.shared events (PlatformTask.opensWith enterpriseId featureId) ≤ 1 ∧
      (0 < howMany start.shared events (PlatformTask.opensWith enterpriseId featureId) →
        ∃ id row, pool.shared.enterpriseFeatures.get? id = some row ∧
          row.enterpriseId = enterpriseId ∧ row.featureId = featureId) := by
  induction run with
  | start => exact ⟨Nat.zero_le 1, fun some_ => absurd some_ (Nat.lt_irrefl 0)⟩
  | opened _ _ _ ih => exact ih
  | @ran events shared processes before index task rest moment next permitted ih =>
      obtain ⟨once, made⟩ := ih
      have sound := run_sound fresh before.reaches _ (List.mem_of_getElem? next) task
        List.mem_cons_self
      rw [howMany_ran, before.storeAfter_eq]
      cases opens : task.opensWith enterpriseId featureId shared moment with
      | true =>
          obtain ⟨missing, there⟩ := opensWith_made opens
          have none_ : howMany start.shared events
              (PlatformTask.opensWith enterpriseId featureId) = 0 := by
            apply Nat.eq_zero_of_not_pos
            intro some_
            obtain ⟨id, row, found, enterprise, feature⟩ := made some_
            have unlike := Table.find?_eq_none.mp missing id row found
            rw [enterprise, feature, beq_self_eq_true, beq_self_eq_true] at unlike
            contradiction
          rw [none_]
          exact ⟨Nat.le_refl 1, fun _ => there⟩
      | false =>
          refine ⟨once, fun some_ => ?_⟩
          obtain ⟨id, row, found, enterprise, feature⟩ := made some_
          obtain ⟨late, kept⟩ := @platformStep_next shared task sound moment
          obtain ⟨later, still, same⟩ := kept.kept id row found
          exact ⟨id, later, still, same.enterpriseId.trans enterprise,
            same.featureId.trans feature⟩

/-- However calls interleave: every statement that changes a business or a feature of one is the
write of a sweep, founds a business, or is one whose call audits just that; of every entry, what
is audited, what is still to be and what a failed insert has swallowed are together as many as
the statements that made such a change, and the first decisions that came too late; and of the
first decisions about one feature of one business, at most one has made the row. -/
theorem writes_audited_once {start pool : Pool PlatformDb PlatformTask}
    {events : List (Event PlatformTask PlatformCall Moment)} (fresh : start.processes = [])
    (run : PlatformRun start events pool) :
    (∀ turn ∈ platformMachine.turns start.shared events,
      turn.task.changes turn.shared turn.choice = true →
        turn.task.isSweepWrite = true ∨ turn.task = .onboard ∨
          ∃ entry, turn.task.audited = some entry ∧
            entry.Tells turn.shared (platformStep turn.shared turn.task turn.choice).1) ∧
      (∀ entry, pool.shared.audits.count entry +
          Machine.weigh (PlatformTask.records entry) pool.processes.flatten +
          howMany start.shared events (PlatformTask.swallows entry) =
        start.shared.audits.count entry +
          howMany start.shared events (PlatformTask.writes entry) +
          howMany start.shared events (PlatformTask.loses entry)) ∧
      ∀ enterpriseId featureId,
        howMany start.shared events (PlatformTask.opensWith enterpriseId featureId) ≤ 1 := by
  refine ⟨fun turn member => changes_told (turns_sound fresh run turn member), fun entry => ?_,
    fun enterpriseId featureId => (run_firsts fresh run).1⟩
  obtain ⟨db, processes⟩ := start
  subst fresh
  exact run_books entry run

end Runs

/-! ### Requests -/

section Requests

variable {db : PlatformDb} {one other : FeatureRequest} {start pool : Pool PlatformDb PlatformTask}

def FeatureRequest.Same (one other : FeatureRequest) : Prop :=
  one.enterpriseId = other.enterpriseId ∧ one.featureKey = other.featureKey

theorem requestAccess_made (made : (db.requestAccess one).2 = true) :
    (db.requestAccess one).1.features = db.features ∧
      ∃ featureId stored, db.requestable one.featureKey = some featureId ∧
        (db.requestAccess one).1.findEnterpriseFeature one.enterpriseId featureId = some stored ∧
        stored.row.status = .accessRequested := by
  cases offered : db.requestable one.featureKey with
  | none =>
      simp only [PlatformDb.requestAccess, offered] at made
      contradiction
  | some featureId =>
      cases found : db.findEnterpriseFeature one.enterpriseId featureId with
      | none =>
          simp only [PlatformDb.requestAccess, offered, found]
          refine ⟨trivial, featureId, _, rfl, Table.find?_insert_new found ?_, rfl⟩
          rw [beq_self_eq_true, beq_self_eq_true]
          rfl
      | some stored =>
          by_cases declined : stored.row.status = .declined
          · simp only [PlatformDb.requestAccess, offered, found, if_pos declined]
            exact ⟨trivial, featureId, _, rfl, Table.find?_update_self (fun row => rfl) found, rfl⟩
          · simp only [PlatformDb.requestAccess, offered, found, if_neg declined] at made
            contradiction

theorem requestAccess_again {featureId : Nat} {stored : Stored EnterpriseFeatureRow}
    (offered : db.requestable one.featureKey = some featureId)
    (found : db.findEnterpriseFeature one.enterpriseId featureId = some stored)
    (pending : stored.row.status = .accessRequested) : (db.requestAccess one).2 = false := by
  unfold PlatformDb.requestAccess
  simp only [offered, found, pending]
  rfl

theorem requestAccess_later (moment : Moment) :
    ((db.atMoment moment).requestAccess one).2 = (db.requestAccess one).2 := by
  cases offered : db.requestable one.featureKey with
  | none =>
      have still : (db.atMoment moment).requestable one.featureKey = none := offered
      simp only [PlatformDb.requestAccess, offered, still]
  | some featureId =>
      have still : (db.atMoment moment).requestable one.featureKey = some featureId := offered
      cases found : db.findEnterpriseFeature one.enterpriseId featureId with
      | none =>
          have there : (db.atMoment moment).findEnterpriseFeature one.enterpriseId featureId = none := found
          simp only [PlatformDb.requestAccess, offered, still, found, there]
      | some stored =>
          have there : (db.atMoment moment).findEnterpriseFeature one.enterpriseId featureId = some stored := found
          simp only [PlatformDb.requestAccess, offered, still, found, there]
          split
          · rfl
          · rfl

theorem requestAccess_step {old : Option EnterpriseFeatureStatus} {moment : Moment}
    (made : (db.requestAccess one).2 = true) :
    platformStep db (.requestAccess one old) moment =
      (((db.atMoment moment).requestAccess one).1, [.auditRequested one old]) := by
  apply platformStep_of_ok
  rw [← requestAccess_later moment] at made
  change FeaturesService.requestAccess one old (db.atMoment moment) = _
  rw [FeaturesService.requestAccess, if_pos made]

theorem requestAccess_refused {old : Option EnterpriseFeatureStatus} {moment : Moment}
    (lost : (db.requestAccess one).2 = false) :
    platformStep db (.requestAccess one old) moment =
      ({ db.atMoment moment with
          refused := (.requestAccess one old, .featureNotFound) :: db.refused }, []) := by
  have failure : (PlatformTask.requestAccess one old).statement (db.atMoment moment) =
      .error .featureNotFound := by
    change FeaturesService.requestAccess one old (db.atMoment moment) = _
    rw [FeaturesService.requestAccess, requestAccess_later, lost]
    rfl
  unfold platformStep
  rw [transact_of_error failure]
  rfl

/-- Of two requests of a business for one feature that have both looked, the second to write is
answered that there is no such feature, although the first has just been recorded. -/
theorem second_request_refused (fresh : start.processes = [])
    (reached : PlatformSteps start pool) {first second : Nat}
    {old older : Option EnterpriseFeatureStatus} {rest others : List PlatformTask}
    (asks : pool.processes[first]? = some (.requestAccess one old :: rest))
    (also : pool.processes[second]? = some (.requestAccess other older :: others))
    (same : one.Same other) (accepted : (pool.shared.requestAccess one).2 = true)
    (now later : Moment) :
    (old = none ∨ old = some .declined) ∧ (older = none ∨ older = some .declined) ∧
      (platformStep pool.shared (.requestAccess one old) now).2 = [.auditRequested one old] ∧
      platformStep (platformStep pool.shared (.requestAccess one old) now).1
          (.requestAccess other older) later =
        ({ (platformStep pool.shared (.requestAccess one old) now).1.atMoment later with
            refused := (.requestAccess other older, .featureNotFound) ::
              (platformStep pool.shared (.requestAccess one old) now).1.refused }, []) := by
  have sound := run_sound fresh reached
  refine ⟨sound _ (List.mem_of_getElem? asks) _ List.mem_cons_self,
    sound _ (List.mem_of_getElem? also) _ List.mem_cons_self, ?_, ?_⟩
  · rw [requestAccess_step accepted]
  · apply requestAccess_refused
    rw [requestAccess_step accepted]
    rw [← requestAccess_later now] at accepted
    obtain ⟨features, featureId, stored, offered, found, pending⟩ := requestAccess_made accepted
    have still : ((pool.shared.atMoment now).requestAccess one).1.requestable other.featureKey =
        some featureId := by
      rw [← same.2, ← offered]
      unfold PlatformDb.requestable
      rw [← features]
    refine requestAccess_again still ?_ pending
    rw [← same.1]
    exact found

end Requests

def newBusiness : PlatformDb := { onTrial with enterpriseFeatures := ⟨[]⟩ }

def asksForInbox : FeatureRequest where
  enterpriseId := 0
  requestedByEmployeeId := 3
  featureKey := "unified_inbox"

/-- A double click: the second request is told that there is no inbox to ask for. -/
theorem second_request_refused_twice_clicked :
    ∃ pool, PlatformSteps ⟨newBusiness, []⟩ pool ∧
      (platformStep (platformStep pool.shared (.requestAccess asksForInbox none) ⟨1, false⟩).1
        (.requestAccess asksForInbox none) ⟨1, false⟩).1.refused.head? =
          some (.requestAccess asksForInbox none, .featureNotFound) := by
  have runs : (platformMachine.playPool timely ⟨newBusiness, []⟩
      (script [.inl (.request asksForInbox), .inl (.request asksForInbox), .inr (0, 1),
        .inr (1, 1), .inr (0, 1), .inr (1, 1)])).any (fun pool =>
      pool.processes[0]? == some [.requestAccess asksForInbox none] &&
        pool.processes[1]? == some [.requestAccess asksForInbox none] &&
        (pool.shared.requestAccess asksForInbox).2) = true := by
    decide +kernel
  obtain ⟨pool, played, seen⟩ := (Option.any_eq_true _ _).mp runs
  simp only [Bool.and_eq_true, beq_iff_eq] at seen
  have reached : PlatformSteps ⟨newBusiness, []⟩ pool :=
    platformMachine.playPool_sound (fun _ _ passed => passed) played
  refine ⟨pool, reached, ?_⟩
  rw [(second_request_refused rfl reached seen.1.1 seen.1.2 ⟨rfl, rfl⟩ seen.2 ⟨1, false⟩
    ⟨1, false⟩).2.2.2]
  rfl

/-- Two of the staff look before either writes: one grants what the other declines. -/
def grantedAndDeclined : List (PlatformCall ⊕ (Nat × Int)) :=
  [.inl (.decideFeature ⟨some 0, 0, "unified_inbox", .active, none⟩),
    .inl (.decideFeature ⟨some 1, 0, "unified_inbox", .declined, some "unpaid"⟩)] ++
  [0, 0, 0, 1, 1, 1, 0, 1, 0, 1].map fun index => .inr (index, 1)

/-- Both decisions are audited as first ones, and one of them has made the row. -/
theorem both_firsts_audited :
    ∃ pool events, PlatformRun ⟨newBusiness, []⟩ events pool ∧
      (pool.shared.audits.countP fun entry => entry.isFirst && entry.isAbout 0 0) = 2 ∧
      howMany newBusiness events (PlatformTask.opensWith 0 0) ≤ 1 := by
  have runs : (platformMachine.playPool timely ⟨newBusiness, []⟩ (script grantedAndDeclined)).any
      (fun pool => (pool.shared.audits.countP fun entry =>
        entry.isFirst && entry.isAbout 0 0) == 2) = true := by
    decide +kernel
  obtain ⟨pool, played, seen⟩ := (Option.any_eq_true _ _).mp runs
  have reached : PlatformSteps ⟨newBusiness, []⟩ pool :=
    platformMachine.playPool_sound (fun _ _ passed => passed) played
  obtain ⟨events, run⟩ := platformMachine.poolRun_of_reaches reached
  exact ⟨pool, events, run, beq_iff_eq.mp seen, (writes_audited_once rfl run).2.2 0 0⟩

end UnifiedService.Features
