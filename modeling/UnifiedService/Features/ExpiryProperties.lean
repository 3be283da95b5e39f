import UnifiedService.Features.LifecycleProperties

/-! What the sweep of the terms leaves: which features can still be on when their term is over. -/

set_option autoImplicit false

namespace UnifiedService.Features

open UnifiedService.Library

/-! ### Active rows -/

structure EnterpriseFeatureRow.OnUntil (row : EnterpriseFeatureRow) (expiresAt : Int) : Prop where
  active : row.status = .active
  expiresAt : row.expiresAt = some expiresAt

def PlatformDb.OnlyGrants (db after : PlatformDb) : Prop :=
  ∀ id row expiresAt, after.enterpriseFeatures.get? id = some row → row.OnUntil expiresAt →
    (∃ old, db.enterpriseFeatures.get? id = some old ∧ old.OnUntil expiresAt ∧
      old.enabledAt = row.enabledAt) ∨ row.enabledAt = some db.now

namespace PlatformDb

variable {db after : PlatformDb}

theorem OnlyGrants.of_eq (features : after.enterpriseFeatures = db.enterpriseFeatures) :
    db.OnlyGrants after := by
  intro id row expiresAt found on
  rw [features] at found
  exact .inl ⟨row, found, on, rfl⟩

theorem OnlyGrants.insert {row : EnterpriseFeatureRow}
    (features : after.enterpriseFeatures = db.enterpriseFeatures.insert row)
    (endless : row.expiresAt = none) : db.OnlyGrants after := by
  intro id other expiresAt found on
  rw [features, Table.get?_insert] at found
  split at found
  · obtain rfl := Option.some.inj found
    rw [on.expiresAt] at endless
    contradiction
  · exact .inl ⟨other, found, on, rfl⟩

theorem OnlyGrants.update {id : Nat} {change : EnterpriseFeatureRow → EnterpriseFeatureRow}
    (features : after.enterpriseFeatures = db.enterpriseFeatures.update id change)
    (grants : ∀ row, (change row).status = .active → (change row).enabledAt = some db.now) :
    db.OnlyGrants after := by
  intro other row expiresAt found on
  rw [features, Table.get?_update] at found
  split at found
  · obtain ⟨old, was, rfl⟩ := Option.map_eq_some_iff.mp found
    exact .inr (grants old on.active)
  · exact .inl ⟨row, found, on, rfl⟩

theorem off_of_writeExpired {lookedAt : Int} {due : List Nat} {id : Nat}
    {row : EnterpriseFeatureRow}
    (found : (db.writeExpired lookedAt due).enterpriseFeatures.get? id = some row)
    (active : row.status = .active) :
    id ∉ due ∧ db.enterpriseFeatures.get? id = some row := by
  rw [writeExpired, Table.get?_updateWhere] at found
  obtain ⟨old, was, same⟩ := Option.map_eq_some_iff.mp found
  split at same
  · subst same
    contradiction
  · next spared =>
      subst same
      refine ⟨fun picked => spared (List.contains_iff_mem.mpr picked), was⟩

theorem OnlyGrants.asks (db : PlatformDb) (request : FeatureRequest) :
    db.OnlyGrants (db.requestAccess request).1 := by
  unfold requestAccess
  split
  · exact .of_eq rfl
  · split
    · exact .insert rfl rfl
    · split
      · exact .update rfl fun row active => by contradiction
      · exact .of_eq rfl

theorem OnlyGrants.grants (db : PlatformDb) (input : GrantInput) :
    db.OnlyGrants (db.insertEnterpriseFeature input).1 := by
  unfold insertEnterpriseFeature
  split
  · exact .of_eq rfl
  · exact .insert rfl rfl

theorem OnlyGrants.decides (db : PlatformDb) (update : StatusUpdate) :
    db.OnlyGrants (db.updateEnterpriseFeatureStatus update).1 := by
  unfold updateEnterpriseFeatureStatus
  split
  · exact .update rfl fun row active => if_pos active
  · exact .of_eq rfl

end PlatformDb

section Moves

variable {db after : PlatformDb} {task : PlatformTask} {tasks : List PlatformTask}

theorem PlatformMove.onlyGrants (move : PlatformMove db task tasks after) : db.OnlyGrants after := by
  cases move with
  | reads | looks | operates | onboards => exact .of_eq rfl
  | audits => exact .of_eq (audit_features db _)
  | asks => exact .asks db _
  | grants => exact .grants db _
  | decides => exact .decides db _
  | changes => exact .of_eq (updateEnterpriseStatus_features _ _ _ _)
  | writes =>
      intro id row expiresAt found on
      exact .inl ⟨row, (PlatformDb.off_of_writeExpired found on.active).2, on, rfl⟩

theorem PlatformMove.now_eq (move : PlatformMove db task tasks after) : after.now = db.now := by
  cases move with
  | reads | looks | operates | onboards | writes => rfl
  | audits =>
      unfold PlatformDb.audit
      split
      · rfl
      · rfl
  | asks =>
      unfold PlatformDb.requestAccess
      grind
  | grants =>
      unfold PlatformDb.insertEnterpriseFeature
      grind
  | decides =>
      unfold PlatformDb.updateEnterpriseFeatureStatus
      grind
  | changes =>
      unfold PlatformDb.updateEnterpriseStatus
      grind

end Moves

/-! ### What a sweep has seen -/

/-- A look that found less than a batch found everything that was due, but what has been granted
since. -/
def SeenAll (db : PlatformDb) (lookedAt : Int) (due : List Nat) : Prop :=
  lookedAt ≤ db.now ∧
    (due.length < sweepBatch → ∀ id row expiresAt, db.enterpriseFeatures.get? id = some row →
      row.OnUntil expiresAt → expiresAt ≤ lookedAt →
        id ∈ due ∨ ∃ enabledAt, row.enabledAt = some enabledAt ∧ lookedAt ≤ enabledAt)

def PlatformTask.Seen (db : PlatformDb) : PlatformTask → Prop
  | .writeExpired _ lookedAt due => SeenAll db lookedAt due
  | _ => True

section Looks

variable {db after : PlatformDb} {lookedAt : Int} {due : List Nat}

theorem selectDue_all {limit id : Nat} {row : EnterpriseFeatureRow}
    (few : (db.selectDue limit).length < limit)
    (found : db.enterpriseFeatures.get? id = some row)
    (due : PlatformDb.isDue db.now row = true) : id ∈ db.selectDue limit := by
  unfold PlatformDb.selectDue at few ⊢
  rw [List.length_map, List.length_take] at few
  rw [List.take_of_length_le (by omega)]
  have listed : (⟨id, row⟩ : Stored EnterpriseFeatureRow) ∈
      (db.enterpriseFeatures.select (PlatformDb.isDue db.now)).insertionSort
        PlatformDb.expiresBefore :=
    (List.mem_insertionSort _).mpr (Table.mem_select.mpr ⟨found, due⟩)
  exact List.mem_map_of_mem listed

theorem SeenAll.look (db : PlatformDb) : SeenAll db db.now (db.selectDue sweepBatch) := by
  refine ⟨Int.le_refl _, fun few id row expiresAt found on ended => .inl ?_⟩
  refine selectDue_all few found ?_
  rw [PlatformDb.isDue, on.active, on.expiresAt, Option.any_some, beq_self_eq_true, Bool.true_and]
  exact decide_eq_true ended

theorem SeenAll.later {moment : Moment} (seen : SeenAll db lookedAt due)
    (passed : db.now ≤ moment.now) : SeenAll (db.atMoment moment) lookedAt due :=
  ⟨seen.1.trans passed, seen.2⟩

theorem SeenAll.onlyGrants (seen : SeenAll db lookedAt due) (grants : db.OnlyGrants after)
    (now : after.now = db.now) : SeenAll after lookedAt due := by
  refine ⟨now ▸ seen.1, fun few id row expiresAt found on ended => ?_⟩
  rcases grants id row expiresAt found on with ⟨old, was, before, same⟩ | granted
  · rw [← same]
    exact seen.2 few id old expiresAt was before ended
  · exact .inr ⟨db.now, granted, seen.1⟩

end Looks

section Runs

variable {start pool : Pool PlatformDb PlatformTask}

theorem PlatformTask.Seen.of_other {db : PlatformDb} {task : PlatformTask}
    (other : task.isSweepWrite = false) : task.Seen db := by
  cases task with
  | writeExpired => contradiction
  | _ => trivial

theorem PlatformMove.seen {db after : PlatformDb} {task : PlatformTask}
    {tasks : List PlatformTask} (move : PlatformMove db task tasks after) :
    ∀ next ∈ tasks, next.Seen after := by
  cases move with
  | reads _ _ onward => exact fun next member => .of_other (onward next member).other
  | writes onward => exact fun next member => .of_other (onward next member).other
  | looks passes => exact List.forall_mem_singleton.mpr (SeenAll.look db)
  | operates | audits | onboards => exact List.forall_mem_nil _
  | asks | grants | decides | changes => exact List.forall_mem_singleton.mpr trivial

theorem PlatformTask.Seen.mono {db after : PlatformDb} {task : PlatformTask} (seen : task.Seen db)
    (still : ∀ lookedAt due, SeenAll db lookedAt due → SeenAll after lookedAt due) :
    task.Seen after := by
  cases task with
  | writeExpired passes lookedAt due => exact still lookedAt due seen
  | _ => trivial

theorem platformStep_seen {db : PlatformDb} {task : PlatformTask} {moment : Moment}
    (passed : db.now ≤ moment.now) :
    (∀ next ∈ (platformStep db task moment).2, next.Seen (platformStep db task moment).1) ∧
      ∀ other : PlatformTask, other.Seen db → other.Seen (platformStep db task moment).1 := by
  rcases platformStep_cases db task moment with ⟨tasks, after, move, same⟩ | ⟨error, -, same⟩
  · rw [same]
    refine ⟨move.seen, fun other seen => seen.mono fun lookedAt due all => ?_⟩
    exact (all.later passed).onlyGrants move.onlyGrants move.now_eq
  · rw [same]
    refine ⟨List.forall_mem_nil _, fun other seen => seen.mono fun lookedAt due all => ?_⟩
    exact (all.later passed).onlyGrants (.of_eq rfl) rfl

theorem run_seen (fresh : start.processes = []) (reached : PlatformSteps start pool) :
    ∀ process ∈ pool.processes, ∀ task ∈ process, task.Seen pool.shared := by
  refine (platformMachine.pool_invariant_from (fun _ => True) PlatformTask.Seen ?_ ?_ trivial
    (by simp [fresh]) reached).2
  · intro db call _ _ task member
    cases call with
    | request | decideFeature | setEnterpriseStatus | sweep | onboard | operate =>
        obtain rfl := List.mem_singleton.mp member
        trivial
  · intro db task moment _ _ passes
    exact ⟨trivial, platformStep_seen (of_decide_eq_true passes)⟩

/-- When a sweep has written a batch that was not full, a feature whose term was over at its
look is on only if it has been granted since. -/
theorem sweep_leaves_none_due {start pool : Pool PlatformDb PlatformTask}
    (fresh : start.processes = []) (reached : PlatformSteps start pool) {index passes : Nat}
    {lookedAt : Int} {due : List Nat} {rest : List PlatformTask}
    (writing : pool.processes[index]? = some (.writeExpired passes lookedAt due :: rest))
    (last : due.length < sweepBatch) (moment : Moment) {id : Nat} {row : EnterpriseFeatureRow}
    {expiresAt : Int}
    (found : (platformStep pool.shared (.writeExpired passes lookedAt due)
      moment).1.enterpriseFeatures.get? id = some row)
    (active : row.status = .active) (term : row.expiresAt = some expiresAt)
    (ended : expiresAt ≤ lookedAt) :
    ∃ enabledAt, row.enabledAt = some enabledAt ∧ lookedAt ≤ enabledAt := by
  obtain ⟨tasks, success⟩ := @writeExpired_statement (pool.shared.atMoment moment) passes lookedAt
    due
  rw [platformStep_of_ok success] at found
  obtain ⟨spared, there⟩ := PlatformDb.off_of_writeExpired found active
  have seen := run_seen fresh reached _ (List.mem_of_getElem? writing) _ List.mem_cons_self
  rcases seen.2 last id row expiresAt there ⟨active, term⟩ ended with picked | granted
  · exact absurd picked spared
  · exact granted

end Runs

/-- The trial has been swept, a second sweep looks, and the staff grants it before that writes. -/
def grantedInBetween : List (PlatformCall ⊕ (Nat × Int)) :=
  [.inl .sweep, .inr (0, 11), .inr (0, 11), .inl .sweep, .inr (1, 11),
    .inl (.decideFeature ⟨some 0, 0, "unified_inbox", .active, none⟩),
    .inr (2, 12), .inr (2, 12), .inr (2, 12), .inr (2, 12)]

/-- The grant outlasts the sweep that looked before it. -/
theorem sweep_leaves_a_later_grant :
    ∃ pool row enabledAt, PlatformSteps ⟨onTrial, []⟩ pool ∧
      (platformStep pool.shared (.writeExpired maxSweepPasses 11 [])
        ⟨13, false⟩).1.enterpriseFeatures.get? 0 = some row ∧ row.status = .active ∧
      row.enabledAt = some enabledAt ∧ 11 ≤ enabledAt := by
  have runs : (platformMachine.playPool timely ⟨onTrial, []⟩ (script grantedInBetween)).any
      (fun pool => pool.processes[1]? == some [.writeExpired maxSweepPasses 11 []] &&
        ((platformStep pool.shared (.writeExpired maxSweepPasses 11 [])
          ⟨13, false⟩).1.enterpriseFeatures.get? 0).any fun row =>
            row.status == .active && row.expiresAt == some 10) = true := by
    decide +kernel
  obtain ⟨pool, played, seen⟩ := (Option.any_eq_true _ _).mp runs
  rw [Bool.and_eq_true, beq_iff_eq] at seen
  obtain ⟨row, found, on⟩ := (Option.any_eq_true _ _).mp seen.2
  rw [Bool.and_eq_true, beq_iff_eq, beq_iff_eq] at on
  have reached : PlatformSteps ⟨onTrial, []⟩ pool :=
    platformMachine.playPool_sound (fun _ _ passed => passed) played
  obtain ⟨enabledAt, granted, since⟩ :=
    sweep_leaves_none_due rfl reached seen.1 (by decide) ⟨13, false⟩ found on.1 on.2 (by decide)
  exact ⟨pool, row, enabledAt, reached, found, on.1, granted, since⟩

/-! ### A sweep alone -/

section Alone

variable {db after : PlatformDb} {lookedAt time : Int} {limit : Nat}

def PlatformDb.endedBy (db : PlatformDb) (time : Int) : List (Stored EnterpriseFeatureRow) :=
  db.enterpriseFeatures.select (PlatformDb.isDue time)

def PlatformDb.overdue (db : PlatformDb) (limit : Nat) : List (Stored EnterpriseFeatureRow) :=
  ((db.endedBy db.now).insertionSort PlatformDb.expiresBefore).take limit

theorem selectDue_eq (limit : Nat) : db.selectDue limit = (db.overdue limit).map (·.id) := rfl

theorem mem_endedBy {stored : Stored EnterpriseFeatureRow} :
    stored ∈ db.endedBy time ↔ db.enterpriseFeatures.get? stored.id = some stored.row ∧
      PlatformDb.isDue time stored.row = true :=
  Table.mem_select

theorem isDue_mono {row : EnterpriseFeatureRow} (due : PlatformDb.isDue lookedAt row = true)
    (passed : lookedAt ≤ time) : PlatformDb.isDue time row = true := by
  rw [PlatformDb.isDue, Bool.and_eq_true] at due ⊢
  refine ⟨due.1, ?_⟩
  obtain ⟨expiresAt, term, ended⟩ := (Option.any_eq_true _ _).mp due.2
  rw [term, Option.any_some, decide_eq_true_eq]
  exact (of_decide_eq_true ended).trans passed

theorem mem_of_mem_overdue {stored : Stored EnterpriseFeatureRow}
    (member : stored ∈ db.overdue limit) : stored ∈ db.endedBy db.now :=
  (List.mem_insertionSort _).mp (List.mem_of_mem_take member)

theorem endedBy_distinct (db : PlatformDb) (time : Int) :
    ((db.endedBy time).map (·.id)).Nodup :=
  List.pairwise_map.mpr (Table.select_pairwise_ne _ _)

theorem overdue_distinct (db : PlatformDb) (limit : Nat) :
    ((db.overdue limit).map (·.id)).Nodup := by
  have sorted : (((db.endedBy db.now).insertionSort PlatformDb.expiresBefore).map (·.id)).Nodup :=
    ((List.perm_insertionSort _ _).map _).nodup_iff.mpr (endedBy_distinct db db.now)
  exact sorted.sublist ((List.take_sublist limit _).map _)

theorem mem_endedBy_writeExpired {due : List Nat} {stored : Stored EnterpriseFeatureRow} :
    stored ∈ (db.writeExpired lookedAt due).endedBy time ↔
      stored ∈ db.endedBy time ∧ stored.id ∉ due := by
  rw [mem_endedBy, mem_endedBy]
  constructor
  · intro ⟨found, ended⟩
    have active : stored.row.status = .active :=
      beq_iff_eq.mp (Bool.and_eq_true_iff.mp ended).1
    obtain ⟨spared, there⟩ := PlatformDb.off_of_writeExpired found active
    exact ⟨⟨there, ended⟩, spared⟩
  · intro ⟨⟨found, ended⟩, spared⟩
    refine ⟨?_, ended⟩
    have unpicked : ¬due.contains stored.id = true := fun picked =>
      spared (List.contains_iff_mem.mp picked)
    rw [PlatformDb.writeExpired, Table.get?_updateWhere, found, Option.map_some, if_neg unpicked]

/-- A batch takes its rows off what is on with its term over, at the look and later. -/
theorem length_endedBy_writeExpired (passed : db.now ≤ time) :
    ((db.writeExpired lookedAt (db.selectDue limit)).endedBy time).length +
        (db.selectDue limit).length = (db.endedBy time).length := by
  have taken : ∀ stored ∈ db.overdue limit, stored ∈ db.endedBy time := by
    intro stored member
    obtain ⟨found, ended⟩ := mem_endedBy.mp (mem_of_mem_overdue member)
    exact mem_endedBy.mpr ⟨found, isDue_mono ended passed⟩
  have parts : ((db.writeExpired lookedAt (db.selectDue limit)).endedBy time ++
      db.overdue limit).Perm (db.endedBy time) := by
    refine (List.perm_ext_iff_of_nodup ?_ (List.Nodup.of_map _ (endedBy_distinct db time))).mpr ?_
    · refine List.nodup_append.mpr ⟨List.Nodup.of_map _ (endedBy_distinct _ time),
        List.Nodup.of_map _ (overdue_distinct db limit), ?_⟩
      rintro left here right there rfl
      refine (mem_endedBy_writeExpired.mp here).2 ?_
      rw [selectDue_eq]
      exact List.mem_map_of_mem there
    · intro stored
      rw [List.mem_append, mem_endedBy_writeExpired]
      constructor
      · rintro (⟨ended, -⟩ | picked)
        · exact ended
        · exact taken stored picked
      · intro ended
        by_cases picked : stored.id ∈ db.selectDue limit
        · obtain ⟨other, member, same⟩ := List.mem_map.mp (selectDue_eq limit ▸ picked)
          have one := (mem_endedBy.mp (taken other member)).1
          rw [same, (mem_endedBy.mp ended).1] at one
          obtain ⟨id, row⟩ := stored
          obtain ⟨id', row'⟩ := other
          subst same
          have equal : row = row' := Option.some.inj one
          subst equal
          exact .inr member
        · exact .inl ⟨ended, picked⟩
  rw [← parts.length_eq, List.length_append, selectDue_eq, List.length_map]

theorem late_writeExpired (limit : Nat) :
    (db.writeExpired lookedAt (db.selectDue limit)).late = db.late := by
  have none_ : db.lateOf (db.selectDue limit) = [] := by
    apply List.filter_eq_nil_iff.mpr
    intro id picked moved
    obtain ⟨stored, taken, rfl⟩ := List.mem_map.mp (selectDue_eq limit ▸ picked)
    obtain ⟨found, ended⟩ := mem_endedBy.mp (mem_of_mem_overdue taken)
    rw [found, Option.any_some, bne_iff_ne] at moved
    exact moved (beq_iff_eq.mp (Bool.and_eq_true_iff.mp ended).1)
  change db.lateOf (db.selectDue limit) ++ db.late = db.late
  rw [none_, List.nil_append]

def alone (db : PlatformDb) : Event PlatformTask PlatformCall Moment → Bool
  | .opened _ => false
  | .ran _ moment => decide (db.now ≤ moment.now)

def SoloRun : Pool PlatformDb PlatformTask → List (Event PlatformTask PlatformCall Moment) →
    Pool PlatformDb PlatformTask → Prop :=
  platformMachine.PoolRun fun db event => alone db event = true

theorem tasks_of_last {left : Nat} {due : List Nat} (last : due.length < sweepBatch ∨ left ≤ 1) :
    (PlatformTask.writeExpired left lookedAt due).statement db =
      .ok ([], db.writeExpired lookedAt due) := by
  change SweeperWorker.writeExpired left lookedAt due db = _
  rw [SweeperWorker.writeExpired, if_pos last]

theorem tasks_of_more {left : Nat} {due : List Nat}
    (more : ¬(due.length < sweepBatch ∨ left + 1 ≤ 1)) :
    (PlatformTask.writeExpired (left + 1) lookedAt due).statement db =
      .ok ([.expireDue left], db.writeExpired lookedAt due) := by
  change SweeperWorker.writeExpired (left + 1) lookedAt due db = _
  rw [SweeperWorker.writeExpired, if_neg more]
  rfl

/-- What a sweep has done with so many of its passes left: each pass it has used has switched
off a batch of what is on with its term over, and none of it late. -/
structure SweepKeeps (passes left : Nat) (db after : PlatformDb) : Prop where
  late : after.late = db.late
  off : ∀ time, after.now ≤ time →
    (after.endedBy time).length + sweepBatch * passes ≤
      (db.endedBy time).length + sweepBatch * left

/-- The newest steps are a look and its write, and what was over at the look is off. -/
def EndsSwept (events : List (Event PlatformTask PlatformCall Moment)) (after : PlatformDb) :
    Prop :=
  ∃ left due write look earlier,
    events = .ran (.writeExpired left look.now due) write :: .ran (.expireDue left) look :: earlier ∧
      ∀ id row expiresAt, after.enterpriseFeatures.get? id = some row → row.OnUntil expiresAt →
        look.now < expiresAt

/-- Where a sweep stands: about to look, about to write what it has just found, or done. -/
inductive SweepStands (passes : Nat) (db : PlatformDb) :
    List (Event PlatformTask PlatformCall Moment) → Pool PlatformDb PlatformTask → Prop where
  | looks {events : List (Event PlatformTask PlatformCall Moment)} {after : PlatformDb}
      {left : Nat} (some_ : 0 < left) (steps : events.length + 2 * left = 2 * passes)
      (keeps : SweepKeeps passes left db after) :
      SweepStands passes db events ⟨after, [[.expireDue left]]⟩
  | writes {earlier : List (Event PlatformTask PlatformCall Moment)} {after : PlatformDb}
      {left : Nat} {look : Moment} (some_ : 0 < left)
      (steps : earlier.length + 2 * left = 2 * passes) (now : after.now = look.now)
      (keeps : SweepKeeps passes left db after) :
      SweepStands passes db (.ran (.expireDue left) look :: earlier)
        ⟨after, [[.writeExpired left look.now (after.selectDue sweepBatch)]]⟩
  | done {events : List (Event PlatformTask PlatformCall Moment)} {after : PlatformDb}
      (steps : events.length ≤ 2 * passes) (late : after.late = db.late)
      (swept : (db.endedBy after.now).length < sweepBatch * passes → EndsSwept events after) :
      SweepStands passes db events ⟨after, [[]]⟩

/-- A look that finds less than a batch leaves nothing on whose term was over then. -/
theorem swept_of_few {id : Nat} {row : EnterpriseFeatureRow} {expiresAt : Int}
    (few : (db.selectDue limit).length < limit)
    (found : (db.writeExpired lookedAt (db.selectDue limit)).enterpriseFeatures.get? id = some row)
    (on : row.OnUntil expiresAt) : db.now < expiresAt := by
  by_contra ended
  obtain ⟨spared, there⟩ := PlatformDb.off_of_writeExpired found on.active
  refine spared (selectDue_all few there ?_)
  rw [PlatformDb.isDue, on.active, on.expiresAt, Option.any_some, beq_self_eq_true, Bool.true_and]
  exact decide_eq_true (by omega)

theorem SweepKeeps.write {passes left : Nat} {moment : Moment}
    (keeps : SweepKeeps passes (left + 1) db after) (passed : after.now ≤ moment.now)
    (full : (after.selectDue sweepBatch).length = sweepBatch) :
    SweepKeeps passes left db
      ((after.atMoment moment).writeExpired lookedAt (after.selectDue sweepBatch)) := by
  refine ⟨(@late_writeExpired after lookedAt sweepBatch).trans keeps.late, fun time later => ?_⟩
  have before := keeps.off time (passed.trans later)
  have batch := @length_endedBy_writeExpired after lookedAt time sweepBatch (passed.trans later)
  change ((after.writeExpired lookedAt (after.selectDue sweepBatch)).endedBy time).length + _ ≤ _
  rw [Nat.mul_succ] at before
  omega

theorem sweepStands_written {passes left : Nat} {look moment : Moment}
    {earlier : List (Event PlatformTask PlatformCall Moment)} (some_ : 0 < left)
    (steps : earlier.length + 2 * left = 2 * passes) (now : after.now = look.now)
    (keeps : SweepKeeps passes left db after) (passed : after.now ≤ moment.now) :
    SweepStands passes db
      (.ran (.writeExpired left look.now (after.selectDue sweepBatch)) moment ::
        .ran (.expireDue left) look :: earlier)
      ⟨(platformStep after (.writeExpired left look.now (after.selectDue sweepBatch)) moment).1,
        [(platformStep after (.writeExpired left look.now (after.selectDue sweepBatch))
          moment).2]⟩ := by
  obtain ⟨left, rfl⟩ := Nat.exists_eq_succ_of_ne_zero some_.ne'
  have size : (after.selectDue sweepBatch).length ≤ sweepBatch := by
    rw [selectDue_eq, List.length_map]
    exact List.length_take_le _ _
  have late : ((after.atMoment moment).writeExpired look.now (after.selectDue sweepBatch)).late =
      db.late := (@late_writeExpired after look.now sweepBatch).trans keeps.late
  by_cases few : (after.selectDue sweepBatch).length < sweepBatch
  · rw [platformStep_of_ok (tasks_of_last (.inl few))]
    refine .done (by simp only [List.length_cons]; omega) late fun _ =>
      ⟨_, _, _, look, _, rfl, fun id row expiresAt found on => ?_⟩
    rw [← now]
    exact swept_of_few few found on
  · have full : (after.selectDue sweepBatch).length = sweepBatch := by omega
    have left_ := @SweepKeeps.write db after look.now passes left moment keeps passed full
    by_cases none_ : left = 0
    · subst none_
      rw [platformStep_of_ok (tasks_of_last (.inr (Nat.le_refl 1)))]
      refine .done (by simp only [List.length_cons]; omega) late fun fits => ?_
      have most := left_.off _ (Int.le_refl _)
      rw [Nat.mul_zero] at most
      dsimp only at fits
      omega
    · rw [platformStep_of_ok (tasks_of_more (by omega))]
      refine .looks (Nat.pos_of_ne_zero none_) ?_ left_
      simp only [List.length_cons]
      omega

theorem SweepStands.ran {passes : Nat} {events : List (Event PlatformTask PlatformCall Moment)}
    {pool : Pool PlatformDb PlatformTask} (stands : SweepStands passes db events pool)
    {index : Nat} {task : PlatformTask} {rest : List PlatformTask} {moment : Moment}
    (next : pool.processes[index]? = some (task :: rest))
    (passed : pool.shared.now ≤ moment.now) :
    SweepStands passes db (.ran task moment :: events)
      ⟨(platformStep pool.shared task moment).1,
        pool.processes.set index ((platformStep pool.shared task moment).2 ++ rest)⟩ := by
  have first : index = 0 := by
    obtain ⟨within, -⟩ := List.getElem?_eq_some_iff.mp next
    cases stands with
    | looks | writes | done => exact Nat.lt_one_iff.mp within
  subst first
  cases stands with
  | @looks _ after left some_ steps keeps =>
      obtain ⟨rfl, rfl⟩ := List.cons.inj (Option.some.inj next)
      rw [show platformStep after (.expireDue left) moment = (after.atMoment moment,
        [.writeExpired left moment.now ((after.atMoment moment).selectDue sweepBatch)]) from
        platformStep_of_ok rfl]
      exact .writes some_ steps rfl ⟨keeps.late, fun time later => keeps.off time (passed.trans later)⟩
  | @writes earlier after left look some_ steps now keeps =>
      obtain ⟨rfl, rfl⟩ := List.cons.inj (Option.some.inj next)
      rw [List.append_nil]
      exact sweepStands_written some_ steps now keeps passed
  | done => simp at next

theorem sweep_stands {passes : Nat} {events : List (Event PlatformTask PlatformCall Moment)}
    {pool : Pool PlatformDb PlatformTask} (some_ : 0 < passes)
    (run : SoloRun ⟨db, [[.expireDue passes]]⟩ events pool) : SweepStands passes db events pool := by
  induction run with
  | start => exact .looks some_ (Nat.zero_add _) ⟨rfl, fun _ _ => Nat.le_refl _⟩
  | opened _ _ permitted => contradiction
  | ran _ index task rest moment next permitted ih =>
      exact ih.ran next (of_decide_eq_true permitted)

/-- A sweep that nothing comes between, at whatever pace, takes at most two steps for each of
its passes, can always take the next one until it is done, and writes no row late. When it is
done, every feature whose term was over at its last look is off, if its passes hold all whose
term is over by the end. -/
theorem sweep_alone {passes : Nat} {events : List (Event PlatformTask PlatformCall Moment)}
    {pool : Pool PlatformDb PlatformTask} (some_ : 0 < passes)
    (run : SoloRun ⟨db, [[.expireDue passes]]⟩ events pool) :
    events.length ≤ 2 * passes ∧ pool.shared.late = db.late ∧
      (pool.processes = [[]] ∨ ∀ moment : Moment, pool.shared.now ≤ moment.now →
        ∃ task next, SoloRun ⟨db, [[.expireDue passes]]⟩ (.ran task moment :: events) next) ∧
      (pool.processes = [[]] → (db.endedBy pool.shared.now).length < sweepBatch * passes →
        ∃ left due write look earlier,
          events = .ran (.writeExpired left look.now due) write ::
            .ran (.expireDue left) look :: earlier ∧
          ∀ id row expiresAt, pool.shared.enterpriseFeatures.get? id = some row →
            row.OnUntil expiresAt → look.now < expiresAt) := by
  have goes : ∀ {task : PlatformTask}, pool.processes = [[task]] → ∀ moment : Moment,
      pool.shared.now ≤ moment.now →
      ∃ task next, SoloRun ⟨db, [[.expireDue passes]]⟩ (.ran task moment :: events) next := by
    intro task waits moment passed
    obtain ⟨shared, processes⟩ := pool
    subst waits
    exact ⟨task, _, run.ran 0 task [] moment rfl (decide_eq_true passed)⟩
  cases sweep_stands some_ run with
  | looks left steps keeps =>
      exact ⟨by omega, keeps.late, .inr (goes rfl), fun finished => by simp at finished⟩
  | writes left steps now keeps =>
      refine ⟨?_, keeps.late, .inr (goes rfl), fun finished => by simp at finished⟩
      rw [List.length_cons]
      omega
  | done steps late swept => exact ⟨steps, late, .inl rfl, fun _ => swept⟩

end Alone

/-- The trial ends at 10: a sweep that looks at 9 and writes at 10 leaves it on. -/
theorem sweep_alone_before_the_end :
    ∃ pool events, SoloRun ⟨onTrial, [[.expireDue maxSweepPasses]]⟩ events pool ∧
      pool.processes = [[]] ∧ pool.shared.late = [] ∧
      pool.shared.endedBy pool.shared.now ≠ [] ∧
      ∃ left due write look earlier,
        events = .ran (.writeExpired left look.now due) write ::
          .ran (.expireDue left) look :: earlier ∧
        ∀ id row expiresAt, pool.shared.enterpriseFeatures.get? id = some row →
          row.OnUntil expiresAt → look.now < expiresAt := by
  have runs : (platformMachine.playPool alone ⟨onTrial, [[.expireDue maxSweepPasses]]⟩
      (script [.inr (0, 9), .inr (0, 10)])).any (fun pool => pool.processes == [[]] &&
        pool.shared.endedBy pool.shared.now != [] &&
        decide ((onTrial.endedBy pool.shared.now).length < sweepBatch * maxSweepPasses)) = true := by
    decide +kernel
  obtain ⟨pool, played, seen⟩ := (Option.any_eq_true _ _).mp runs
  simp only [Bool.and_eq_true, beq_iff_eq, bne_iff_ne, decide_eq_true_eq] at seen
  obtain ⟨events, run⟩ := platformMachine.poolRun_of_reaches
    (platformMachine.playPool_sound (fun _ _ passed => passed) played)
  obtain ⟨-, late, -, swept⟩ := sweep_alone (by decide) run
  exact ⟨pool, events, run, seen.1.1, late, seen.1.2, swept seen.1.1 seen.2⟩

end UnifiedService.Features
