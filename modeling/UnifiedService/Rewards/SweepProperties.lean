import Mathlib.Data.Prod.Lex
import UnifiedService.Library.Sweep
import UnifiedService.Rewards.CapProperties

/-! The grant sweep over held awards: a batch at a time, the longest due first, and an award
that fails keeps its place. -/

set_option autoImplicit false

namespace UnifiedService.Rewards

open UnifiedService.Library

/-! ### The queue of held awards -/

/-- Where a held award stands in the sweep: by the end of its hold, then by its id. -/
def sweepPlace (award : Stored RewardAwardRow) : Int ×ₗ Nat :=
  toLex (award.row.heldUntil.getD 0, award.id)

def RewardDb.waitingAwards (db : RewardDb) : Finset (Int ×ₗ Nat) :=
  ((db.awards.select fun award => award.status == .held && award.heldUntil.isSome).map
    sweepPlace).toFinset

def HeldAt (db : RewardDb) (id : Nat) (row : RewardAwardRow) : Prop :=
  db.awards.get? id = some row ∧ row.status = .held

theorem mem_waitingAwards {db : RewardDb} {heldUntil : Int} {id : Nat} :
    toLex (heldUntil, id) ∈ db.waitingAwards ↔
      ∃ row, HeldAt db id row ∧ row.heldUntil = some heldUntil := by
  rw [RewardDb.waitingAwards, List.mem_toFinset, List.mem_map]
  constructor
  · rintro ⟨⟨other, row⟩, listed, same⟩
    obtain ⟨found, wanted⟩ := Table.mem_select.mp listed
    rw [Bool.and_eq_true, beq_iff_eq, Option.isSome_iff_exists] at wanted
    obtain ⟨held, hold, ends⟩ := wanted
    obtain ⟨sameEnd, rfl⟩ := Prod.mk.inj (toLex.injective same)
    rw [ends, Option.getD_some] at sameEnd
    exact ⟨row, ⟨found, held⟩, sameEnd ▸ ends⟩
  · rintro ⟨row, ⟨found, held⟩, ends⟩
    refine ⟨⟨id, row⟩, Table.mem_select.mpr ⟨found, by simp [held, ends]⟩, ?_⟩
    rw [sweepPlace, ends, Option.getD_some]

/-- Due awards sorted by the end of their holds, and by id where these are equal. -/
def RewardDb.dueAwards (db : RewardDb) (now : Int) : List (Stored RewardAwardRow) :=
  RewardDb.orderBy (fun award => award.row.heldUntil.getD 0) <|
    db.awards.select fun award =>
      award.status == .held && award.heldUntil.any fun heldUntil => decide (heldUntil ≤ now)

theorem dueAwards_sorted (db : RewardDb) (now : Int) :
    ((db.dueAwards now).map sweepPlace).Pairwise (· < ·) := by
  have listed := Table.select_pairwise_lt db.awards fun award =>
    award.status == .held && award.heldUntil.any fun heldUntil => decide (heldUntil ≤ now)
  have agree := listed.imp fun {first second : Stored RewardAwardRow} earlier => by
    show first.row.heldUntil.getD 0 ≤ second.row.heldUntil.getD 0 ↔
      sweepPlace first ≤ sweepPlace second
    rw [sweepPlace, sweepPlace, Prod.Lex.toLex_le_toLex]
    dsimp only
    omega
  rw [RewardDb.dueAwards, RewardDb.orderBy, Sweep.map_insertionSort_of sweepPlace agree]
  have different := List.pairwise_map.mpr (listed.imp fun {first second} earlier =>
    show sweepPlace first ≠ sweepPlace second from fun same =>
      earlier.ne (Prod.mk.inj (toLex.injective same)).2)
  have apart := ((List.perm_insertionSort (· ≤ ·) _).nodup_iff).mpr different
  exact ((List.pairwise_insertionSort _ _).and apart).imp fun both => lt_of_le_of_ne both.1 both.2

theorem mem_dueAwards {db : RewardDb} {now heldUntil : Int} {id : Nat} :
    toLex (heldUntil, id) ∈ (db.dueAwards now).map sweepPlace ↔
      toLex (heldUntil, id) ∈ db.waitingAwards ∧ heldUntil ≤ now := by
  rw [mem_waitingAwards, List.mem_map]
  constructor
  · rintro ⟨⟨other, row⟩, listed, same⟩
    obtain ⟨found, wanted⟩ := Table.mem_select.mp (mem_orderBy.mp listed)
    rw [Bool.and_eq_true, beq_iff_eq, Option.any_eq_true] at wanted
    obtain ⟨held, hold, ends, elapsed⟩ := wanted
    obtain ⟨sameEnd, rfl⟩ := Prod.mk.inj (toLex.injective same)
    rw [ends, Option.getD_some] at sameEnd
    exact ⟨⟨row, ⟨found, held⟩, sameEnd ▸ ends⟩, sameEnd ▸ of_decide_eq_true elapsed⟩
  · rintro ⟨⟨row, ⟨found, held⟩, ends⟩, elapsed⟩
    refine ⟨⟨id, row⟩, mem_orderBy.mpr (Table.mem_select.mpr ⟨found, ?_⟩), ?_⟩
    · simp [held, ends, elapsed]
    · rw [sweepPlace, ends, Option.getD_some]

theorem mem_claimed {db : RewardDb} {now heldUntil : Int} {id limit : Nat}
    (waits : toLex (heldUntil, id) ∈ db.waitingAwards) :
    toLex (heldUntil, id) ∈ (db.claimDueHeldAwards now limit).map sweepPlace ↔
      heldUntil ≤ now ∧
        (Sweep.inFront db.waitingAwards (toLex (heldUntil, id))).card < limit := by
  have batch : db.claimDueHeldAwards now limit = (db.dueAwards now).take limit := rfl
  rw [batch, List.map_take, Sweep.mem_take_iff (dueAwards_sorted db now), mem_dueAwards]
  have front : heldUntil ≤ now →
      Sweep.inFront ((db.dueAwards now).map sweepPlace).toFinset (toLex (heldUntil, id)) =
        Sweep.inFront db.waitingAwards (toLex (heldUntil, id)) := by
    intro elapsed
    ext place
    obtain ⟨⟨ends, other⟩, rfl⟩ := toLex.surjective place
    rw [Sweep.mem_inFront, Sweep.mem_inFront, List.mem_toFinset, mem_dueAwards, and_assoc]
    refine and_congr_right fun _ => and_iff_right_of_imp fun earlier => ?_
    rcases Prod.Lex.toLex_lt_toLex.mp earlier with less | ⟨same, -⟩
    · exact less.le.trans elapsed
    · exact same.le.trans elapsed
  constructor
  · rintro ⟨⟨-, elapsed⟩, room⟩
    exact ⟨elapsed, front elapsed ▸ room⟩
  · rintro ⟨elapsed, room⟩
    exact ⟨⟨waits, elapsed⟩, (front elapsed).symm ▸ room⟩

/-! ### One sweep -/

def NoneArrives (db next : RewardDb) : Prop :=
  ∀ id row, HeldAt next id row → ∃ before, db.awards.get? id = some before

/-- A step of a sweep while no new awards arrive, at which every attempt at an award leaves
it in the status that is this award's own: held if it fails at every attempt. -/
def Attempts (intl : Intl) (since : Int) (leaves : Nat → RewardAwardStatus) (db : RewardDb) :
    Event EngineTask EngineCall EngineChoice → Prop
  | .opened _ => False
  | .ran task choice => since ≤ choice.now ∧ NoneArrives db (engineStep intl db task choice).1 ∧
      ∀ award, task = .grantHeld award →
        ((engineStep intl db task choice).1.awards.get? award.id).map (·.status) =
          some (leaves award.id)

def EngineTask.ofSweep : EngineTask → Bool
  | .grantHeld _ | .offerBalanceThresholds _ | .findRules _ | .evaluate _ _ => true
  | .claimDueHeldAwards | .findBySource _ | .reverse _ _ | .manage _ => false

section Steps

variable {intl : Intl} {since : Int} {leaves : Nat → RewardAwardStatus} {db next : RewardDb}
  {task : EngineTask} {choice : EngineChoice} {id : Nat} {row : RewardAwardRow}

theorem spawned_ofSweep {spawned : EngineTask} (ofSweep : task.ofSweep = true)
    (member : spawned ∈ (engineStep intl db task choice).2) :
    spawned.ofSweep = true ∧ spawned.subject = none := by
  cases engineStep_spawned member with
  | evaluate | offerBalanceThresholds | findRules => exact ⟨rfl, rfl⟩
  | grantHeld | reverse => contradiction

/-- A task that acts on no award leaves the held awards held, and adds none. -/
theorem heldAt_of_no_subject (none : task.subject = none)
    (arrives : NoneArrives db (engineStep intl db task choice).1) :
    HeldAt (engineStep intl db task choice).1 id row ↔ HeldAt db id row := by
  have kept : ∀ {id row}, db.awards.get? id = some row →
      (engineStep intl db task choice).1.awards.get? id = some row := fun found =>
    (engineStep_effect intl db task choice).awards_kept (by rw [none]; simp) found
  constructor
  · rintro ⟨found, held⟩
    obtain ⟨before, there⟩ := arrives id row ⟨found, held⟩
    obtain rfl := Option.some.inj ((kept there).symm.trans found)
    exact ⟨there, held⟩
  · rintro ⟨found, held⟩
    exact ⟨kept found, held⟩

theorem heldAt_grantHeld {award : Stored RewardAwardRow}
    (attempts : Attempts intl since leaves db (.ran (.grantHeld award) choice)) :
    HeldAt (engineStep intl db (.grantHeld award) choice).1 id row ↔
      HeldAt db id row ∧ (award.id = id → leaves id = .held) := by
  have status := attempts.2.2 award rfl
  have effect := engineStep_effect intl db (.grantHeld award) choice
  generalize (engineStep intl db (.grantHeld award) choice).1 = after at status effect
  -- What an attempt writes, it writes to its award, and it is not held then.
  have written : ∀ change : RewardAwardRow → RewardAwardRow,
      after.awards = db.awards.update award.id change →
      (∀ old, (change old).status ≠ .held) →
      (HeldAt after id row ↔ HeldAt db id row ∧ (award.id = id → leaves id = .held)) := by
    intro change updated ends
    rw [updated, Table.get?_update_self, Option.map_map] at status
    obtain ⟨old, -, left⟩ := Option.map_eq_some_iff.mp status
    rw [HeldAt, HeldAt, updated, Table.get?_update]
    by_cases same : award.id = id
    · rw [if_pos same]
      subst same
      constructor
      · rintro ⟨found, held⟩
        obtain ⟨old, -, rfl⟩ := Option.map_eq_some_iff.mp found
        exact absurd held (ends old)
      · rintro ⟨-, fails⟩
        exact absurd (left.trans (fails rfl)) (ends old)
    · rw [if_neg same]
      exact (and_iff_left fun equal => absurd equal same).symm
  cases effect with
  | unchanged =>
      refine (and_iff_left_of_imp ?_).symm
      rintro ⟨found, held⟩ rfl
      rw [found] at status
      exact (Option.some.inj status).symm.trans held
  | swept _ _ effect =>
      cases effect with
      | unchanged =>
          refine (and_iff_left_of_imp ?_).symm
          rintro ⟨found, held⟩ rfl
          rw [found] at status
          exact (Option.some.inj status).symm.trans held
      | worthless old rule reasonCode => exact written _ rfl (by simp)
      | granted old rule basisPoints paid => exact written _ rfl (by simp)

end Steps

def SweptTo (intl : Intl) (since : Int) (leaves : Nat → RewardAwardStatus) (db : RewardDb)
    (tasks : List EngineTask) (next : RewardDb) : Prop :=
  Relation.ReflTransGen ((engine intl).SessionStep (Attempts intl since leaves))
    ⟨db, tasks⟩ ⟨next, []⟩

/-- Calls of `grantDueAwards`, one after another. -/
inductive GrantSweeps (intl : Intl) (since : Int) (leaves : Nat → RewardAwardStatus) :
    Nat → RewardDb → RewardDb → Prop where
  | none (db : RewardDb) : GrantSweeps intl since leaves 0 db db
  | next {count : Nat} {db middle last : RewardDb}
      (first : SweptTo intl since leaves db ((engine intl).opening .grantDueAwards) middle)
      (later : GrantSweeps intl since leaves count middle last) :
      GrantSweeps intl since leaves (count + 1) db last

section Sweeps

variable {intl : Intl} {since : Int} {leaves : Nat → RewardAwardStatus} {db next last : RewardDb}
  {tasks : List EngineTask} {id count : Nat} {row : RewardAwardRow}

/-- What is left of a sweep ends the awards it still has to attempt, but for those that
fail, and leaves the others held. -/
theorem swept_held (swept : SweptTo intl since leaves db tasks next)
    (ofSweep : ∀ task ∈ tasks, task.ofSweep = true) :
    HeldAt next id row ↔
      HeldAt db id row ∧ ((∃ task ∈ tasks, task.subject = some id) → leaves id = .held) := by
  unfold SweptTo at swept
  generalize start : (⟨db, tasks⟩ : Session RewardDb EngineTask) = session at swept
  induction swept using Relation.ReflTransGen.head_induction_on generalizing db tasks with
  | refl =>
      obtain ⟨rfl, rfl⟩ := Session.mk.inj start
      simp
  | head step later ih =>
      cases step with
      | opened call permitted => exact permitted.elim
      | ran task rest choice permitted =>
          obtain ⟨rfl, rfl⟩ := Session.mk.inj start
          have own := ofSweep task List.mem_cons_self
          have spawned : ∀ other ∈ (engineStep intl db task choice).2,
              other.ofSweep = true ∧ other.subject = none := fun other member =>
            spawned_ofSweep own member
          rw [ih (fun other member => (List.mem_append.mp member).elim
            (fun added => (spawned other added).1)
            (fun left => ofSweep other (List.mem_cons_of_mem task left))) rfl]
          have pending : (∃ other ∈ (engineStep intl db task choice).2 ++ rest,
              other.subject = some id) ↔ ∃ other ∈ rest, other.subject = some id := by
            constructor
            · rintro ⟨other, member, acts⟩
              rcases List.mem_append.mp member with added | left
              · rw [(spawned other added).2] at acts
                contradiction
              · exact ⟨other, left, acts⟩
            · rintro ⟨other, left, acts⟩
              exact ⟨other, List.mem_append_right _ left, acts⟩
          have here : HeldAt (engineStep intl db task choice).1 id row ↔
              HeldAt db id row ∧ (task.subject = some id → leaves id = .held) := by
            cases task with
            | grantHeld award =>
                rw [heldAt_grantHeld permitted]
                simp [EngineTask.subject]
            | offerBalanceThresholds _ | findRules _ | evaluate _ _ =>
                rw [heldAt_of_no_subject rfl permitted.2.1]
                simp [EngineTask.subject]
            | claimDueHeldAwards | findBySource _ | reverse _ _ | manage _ => contradiction
          show HeldAt (engineStep intl db task choice).1 id row ∧ _ ↔ _
          rw [pending, here, List.exists_mem_cons_iff, or_imp, and_assoc]

theorem claimed_iff {now ends : Int} {limit : Nat} (here : HeldAt db id row)
    (hold : row.heldUntil = some ends) :
    (∃ task ∈ (db.claimDueHeldAwards now limit).map EngineTask.grantHeld,
        task.subject = some id) ↔
      toLex (ends, id) ∈ (db.claimDueHeldAwards now limit).map sweepPlace := by
  rw [List.mem_map]
  constructor
  · rintro ⟨task, member, acts⟩
    obtain ⟨award, listed, rfl⟩ := List.mem_map.mp member
    obtain ⟨found, -⟩ := Table.mem_select.mp (mem_orderBy.mp (List.mem_of_mem_take listed))
    obtain rfl := Option.some.inj acts
    obtain same := Option.some.inj (found.symm.trans here.1)
    exact ⟨award, listed, by rw [sweepPlace, same, hold, Option.getD_some]⟩
  · rintro ⟨award, listed, same⟩
    exact ⟨.grantHeld award, List.mem_map_of_mem listed,
      congrArg some (Prod.mk.inj (toLex.injective same)).2⟩

theorem swept_opening
    (swept : SweptTo intl since leaves db ((engine intl).opening .grantDueAwards) next) :
    ∃ now, since ≤ now ∧ SweptTo intl since leaves db
      ((db.claimDueHeldAwards now grantBatchSize).map .grantHeld) next := by
  rcases swept.cases_head with done | ⟨middle, step, later⟩
  · cases done
  · cases step with
    | ran task rest choice permitted =>
        refine ⟨choice.now, permitted.1, ?_⟩
        simpa [SweptTo, engine, engineStep] using later

theorem batch_ofSweep (awards : List (Stored RewardAwardRow)) :
    ∀ task ∈ awards.map EngineTask.grantHeld, task.ofSweep = true := by
  intro task member
  obtain ⟨award, -, rfl⟩ := List.mem_map.mp member
  rfl

theorem sweep_round
    (swept : SweptTo intl since leaves db ((engine intl).opening .grantDueAwards) next) :
    ∃ due : Int ×ₗ Nat → Prop, (∀ place, (ofLex place).1 ≤ since → due place) ∧
      Sweep.Round grantBatchSize (fun place => leaves (ofLex place).2 = .held) due
        db.waitingAwards next.waitingAwards := by
  obtain ⟨now, reached, batch⟩ := swept_opening swept
  refine ⟨fun place => (ofLex place).1 ≤ now, fun place elapsed => elapsed.trans reached,
    ⟨fun place => ?_⟩⟩
  obtain ⟨⟨ends, id⟩, rfl⟩ := toLex.surjective place
  have held : ∀ row, HeldAt next id row ↔ _ := fun row => swept_held batch (batch_ofSweep _)
  rw [mem_waitingAwards]
  constructor
  · rintro ⟨row, here, hold⟩
    obtain ⟨before, spared⟩ := (held row).mp here
    have waits := mem_waitingAwards.mpr ⟨row, before, hold⟩
    refine ⟨waits, Classical.or_iff_not_imp_right.mpr fun taken => spared ?_⟩
    exact (claimed_iff before hold).mpr ((mem_claimed waits).mpr (not_not.mp taken))
  · rintro ⟨waits, fate⟩
    obtain ⟨row, before, hold⟩ := mem_waitingAwards.mp waits
    refine ⟨row, (held row).mpr ⟨before, fun claimed => ?_⟩, hold⟩
    exact fate.resolve_right fun spared =>
      spared ((mem_claimed waits).mp ((claimed_iff before hold).mp claimed))

theorem sweeps_rounds (sweeps : GrantSweeps intl since leaves count db last) {place : Int ×ₗ Nat}
    (elapsed : (ofLex place).1 ≤ since) :
    Sweep.Rounds grantBatchSize (fun place => leaves (ofLex place).2 = .held) place count
      db.waitingAwards last.waitingAwards := by
  induction sweeps with
  | none => exact .none _
  | next first later ih =>
      obtain ⟨due, reaches, round⟩ := sweep_round first
      refine .next due (fun other earlier => reaches other ?_) round ih
      rcases Prod.Lex.le_iff.mp earlier with less | ⟨same, -⟩
      · exact less.le.trans elapsed
      · exact same.le.trans elapsed

theorem sweeps_held (sweeps : GrantSweeps intl since leaves count db last)
    (held : HeldAt last id row) : HeldAt db id row := by
  induction sweeps with
  | none => exact held
  | next first later ih =>
      obtain ⟨now, -, batch⟩ := swept_opening first
      exact ((swept_held batch (batch_ofSweep _)).mp (ih held)).1

def HeldOrGranted (db : RewardDb) (id : Nat) : Prop :=
  ∃ row, db.awards.get? id = some row ∧ (row.status = .held ∨ row.status = .granted)

theorem swept_heldOrGranted (grants : leaves id = .granted)
    (swept : SweptTo intl since leaves db tasks next)
    (ofSweep : ∀ task ∈ tasks, task.ofSweep = true) (start : HeldOrGranted db id) :
    HeldOrGranted next id := by
  unfold SweptTo at swept
  generalize from_ : (⟨db, tasks⟩ : Session RewardDb EngineTask) = session at swept
  induction swept using Relation.ReflTransGen.head_induction_on generalizing db tasks with
  | refl =>
      obtain ⟨rfl, rfl⟩ := Session.mk.inj from_
      exact start
  | head step later ih =>
      cases step with
      | opened call permitted => exact permitted.elim
      | ran task rest choice permitted =>
          obtain ⟨rfl, rfl⟩ := Session.mk.inj from_
          have own := ofSweep task List.mem_cons_self
          refine ih (fun other member => ?_) ?_ rfl
          · rcases List.mem_append.mp member with added | left
            · exact (spawned_ofSweep own added).1
            · exact ofSweep other (List.mem_cons_of_mem task left)
          · obtain ⟨row, found, status⟩ := start
            have effect := engineStep_effect intl db task choice
            by_cases acts : task.subject = some id
            · cases task with
              | grantHeld award =>
                  obtain rfl := Option.some.inj acts
                  obtain ⟨after, there, left⟩ := Option.map_eq_some_iff.mp
                    (permitted.2.2 award rfl)
                  exact ⟨after, there, .inr (left.trans grants)⟩
              | offerBalanceThresholds _ | findRules _ | evaluate _ _ | claimDueHeldAwards
              | findBySource _ | reverse _ _ | manage _ => contradiction
            · exact ⟨row, effect.awards_kept acts found, status⟩

theorem sweeps_heldOrGranted (grants : leaves id = .granted)
    (sweeps : GrantSweeps intl since leaves count db last) (start : HeldOrGranted db id) :
    HeldOrGranted last id := by
  induction sweeps with
  | none => exact start
  | next first later ih =>
      obtain ⟨now, -, batch⟩ := swept_opening first
      exact ih (swept_heldOrGranted grants batch (batch_ofSweep _) start)

/-- A due award whose grant succeeds is granted by more sweeps than there are held awards in
front of it, if and only if fewer than a batch of those fail at every attempt. -/
theorem sweeps_grant_iff (intl : Intl) (since : Int) (leaves : Nat → RewardAwardStatus)
    (count : Nat) (db last : RewardDb) (sweeps : GrantSweeps intl since leaves count db last)
    (id : Nat) (award : RewardAwardRow) (ends : Int) (held : HeldAt db id award)
    (hold : award.heldUntil = some ends) (due : ends ≤ since) (grants : leaves id = .granted)
    (enough : (Sweep.inFront db.waitingAwards (toLex (ends, id))).card < count) :
    (last.awards.get? id).map (·.status) = some .granted ↔
      (Sweep.stuck (fun place => leaves (ofLex place).2 = .held) db.waitingAwards
        (toLex (ends, id))).card < grantBatchSize := by
  have rounds : Sweep.Rounds _ _ (toLex (ends, id)) _ _ _ := sweeps_rounds sweeps due
  have waits := mem_waitingAwards.mpr ⟨award, held, hold⟩
  obtain ⟨row, found, status⟩ := sweeps_heldOrGranted grants sweeps
    ⟨award, held.1, .inl held.2⟩
  rw [found, Option.map_some, Option.some.injEq]
  constructor
  · intro granted
    by_contra many
    obtain ⟨other, there, -⟩ := mem_waitingAwards.mp (rounds.blocked (not_lt.mp many) waits)
    obtain rfl := Option.some.inj (found.symm.trans there.1)
    exact absurd (granted.symm.trans there.2) (by decide)
  · intro few
    have passed := rounds.passes (by simp [grants]) few enough
    refine status.resolve_left fun still => passed ?_
    have before := sweeps_held sweeps ⟨found, still⟩
    obtain rfl := Option.some.inj (held.1.symm.trans before.1)
    exact mem_waitingAwards.mpr ⟨award, ⟨found, still⟩, hold⟩

end Sweeps

/-! ### A batch of failures -/

def heldRule (enterpriseId programId : Nat) (config : RewardBenefitConfig) : RewardRuleRow :=
  { onceForAComment 24 with enterpriseId, programId, benefits := [{ config }] }

def heldAward (enterpriseId programId sourceRefId : Nat) (heldUntil : Int) : RewardAwardRow where
  enterpriseId := enterpriseId
  programId := programId
  ruleId := programId
  ruleVersion := 1
  customerId := 7
  channelId := none
  sourceRefKind := "comment"
  sourceRefId := sourceRefId
  status := .held
  heldUntil := some heldUntil
  occurredAtUtc := 0
  periodKey := none
  reasonCode := none
  factorBasisPoints := none

/-- Business 1 owes money for comments and has given up its currency; business 2 owes points
for one comment, whose hold ended last. -/
def owing (comments : Nat) : RewardDb :=
  { RewardDb.launch (fun enterpriseId =>
      if enterpriseId = 1 then { openBusiness with currencyCode := none } else openBusiness)
      (fun _ _ => none) ⟨[runningProgram, { runningProgram with enterpriseId := 2 }]⟩
      ⟨[heldRule 1 0 (.grantCurrency 100 none), heldRule 2 1 (.grantPoints 10)]⟩ with
    awards := ⟨(List.range comments).map (heldAward 1 0 · 0) ++ [heldAward 2 1 comments 1]⟩ }

/-- Every attempt at money fails, and the attempt at the points succeeds. -/
def owedLeaves (comments : Nat) (id : Nat) : RewardAwardStatus :=
  if id < comments then .held else .granted

/-- Money without a currency throws, and its transaction leaves what it found. -/
theorem owed_money_fails (comments id sourceRefId : Nat) :
    engineStep fixedIntl (owing comments) (.grantHeld ⟨id, heldAward 1 0 sourceRefId 0⟩) later =
      (owing comments, []) := by
  have fails : grantHeldAward fixedIntl ⟨id, heldAward 1 0 sourceRefId 0⟩ later.factor
      (owing comments) = .ok (.notGranted, owing comments) ∨
      grantHeldAward fixedIntl ⟨id, heldAward 1 0 sourceRefId 0⟩ later.factor
        (owing comments) = .error (.app .enterpriseCurrencyNotSet []) := by
    unfold grantHeldAward
    split
    · exact .inl rfl
    · exact .inr rfl
  rcases fails with idle | thrown
  · rw [engineStep, transact_of_ok idle]
  · rw [engineStep, transact_of_error thrown]

theorem swept_of_failing {intl : Intl} {since : Int} {leaves : Nat → RewardAwardStatus}
    {db : RewardDb} {awards : List (Stored RewardAwardRow)} (choice : EngineChoice)
    (reached : since ≤ choice.now)
    (fails : ∀ award ∈ awards, engineStep intl db (.grantHeld award) choice = (db, []) ∧
      (db.awards.get? award.id).map (·.status) = some (leaves award.id)) :
    SweptTo intl since leaves db (awards.map .grantHeld) db := by
  induction awards with
  | nil => exact .refl
  | cons award rest ih =>
      obtain ⟨idle, left⟩ := fails award List.mem_cons_self
      have step : (engine intl).SessionStep (Attempts intl since leaves)
          ⟨db, .grantHeld award :: rest.map .grantHeld⟩
          ⟨(engineStep intl db (.grantHeld award) choice).1,
            (engineStep intl db (.grantHeld award) choice).2 ++ rest.map .grantHeld⟩ := by
        refine .ran _ _ choice ⟨reached, fun id row here => ⟨row, ?_⟩, fun other same => ?_⟩
        · rw [idle] at here
          exact here.1
        · obtain rfl := EngineTask.grantHeld.inj same
          rw [idle]
          exact left
      rw [idle] at step
      exact .head step (ih fun other member => fails other (List.mem_cons_of_mem award member))

theorem owing_batch : (owing 100).claimDueHeldAwards later.now grantBatchSize =
    (List.range 100).map fun id => ⟨id, heldAward 1 0 id 0⟩ := by
  decide +kernel

theorem owing_swept : SweptTo fixedIntl 1 (owedLeaves 100) (owing 100)
    ((engine fixedIntl).opening .grantDueAwards) (owing 100) := by
  have claim : (engine fixedIntl).SessionStep (Attempts fixedIntl 1 (owedLeaves 100))
      ⟨owing 100, [.claimDueHeldAwards]⟩
      ⟨owing 100, ((owing 100).claimDueHeldAwards later.now grantBatchSize).map .grantHeld ++ []⟩ :=
    .ran _ _ later ⟨by decide, fun id row here => ⟨row, here.1⟩, fun award same => by cases same⟩
  refine .head claim ?_
  rw [List.append_nil, owing_batch]
  refine swept_of_failing later (by decide) fun award listed => ?_
  obtain ⟨id, small, rfl⟩ := List.mem_map.mp listed
  have within := List.mem_range.mp small
  refine ⟨owed_money_fails 100 id id, ?_⟩
  have first : (owing 100).awards.get? id = some (heldAward 1 0 id 0) := by
    rw [owing, Table.get?, List.getElem?_append_left (by simpa using within),
      List.getElem?_map, List.getElem?_range within]
    rfl
  rw [first, owedLeaves, if_pos within]
  rfl

def checkAttempts (leaves : Nat → RewardAwardStatus) (db : RewardDb) :
    Event EngineTask EngineCall EngineChoice → Bool
  | .opened _ => false
  | .ran task choice =>
      let next := (engineStep fixedIntl db task choice).1
      decide (1 ≤ choice.now) && next.awards.nextId == db.awards.nextId &&
        match task with
        | .grantHeld award =>
            (next.awards.get? award.id).map (·.status) == some (leaves award.id)
        | _ => true

theorem checkAttempts_sound {leaves : Nat → RewardAwardStatus} {db : RewardDb}
    {event : Event EngineTask EngineCall EngineChoice}
    (passed : checkAttempts leaves db event = true) : Attempts fixedIntl 1 leaves db event := by
  cases event with
  | opened call => contradiction
  | ran task choice =>
      simp only [checkAttempts, Bool.and_eq_true, beq_iff_eq, decide_eq_true_eq] at passed
      obtain ⟨⟨reached, same⟩, left⟩ := passed
      refine ⟨reached, fun id row here => ?_, ?_⟩
      · have within := Table.get?_isSome_iff.mp (Option.isSome_iff_exists.mpr ⟨row, here.1⟩)
        exact Option.isSome_iff_exists.mp (Table.get?_isSome_iff.mpr (same ▸ within))
      · rintro award rfl
        exact beq_iff_eq.mp left

/-- With one failure in front of it, the award is granted by the first sweep or the second. -/
theorem sweeps_grant_iff_one_failure : ∃ last,
    GrantSweeps fixedIntl 1 (owedLeaves 1) 2 (owing 1) last ∧
      (last.awards.get? 1).map (·.status) = some .granted := by
  let sweep := fun db (steps : Nat) => (engine fixedIntl).playSession
    (checkAttempts (owedLeaves 1)) ⟨db, (engine fixedIntl).opening .grantDueAwards⟩
    (List.replicate steps (.inr later))
  have runs : (sweep (owing 1) 4).any (fun first => first.tasks.isEmpty &&
      (sweep first.shared 2).any fun second => second.tasks.isEmpty) = true := by
    decide +kernel
  obtain ⟨⟨middle, none⟩, played, done⟩ := (Option.any_eq_true _ _).mp runs
  obtain ⟨empty, again⟩ := Bool.and_eq_true _ _ ▸ done
  obtain ⟨⟨last, nothing⟩, playedAgain, emptyAgain⟩ := (Option.any_eq_true _ _).mp again
  obtain rfl := List.isEmpty_iff.mp empty
  obtain rfl := List.isEmpty_iff.mp emptyAgain
  have sweeps : GrantSweeps fixedIntl 1 (owedLeaves 1) 2 (owing 1) last :=
    .next ((engine fixedIntl).playSession_sound (fun _ _ => checkAttempts_sound) played)
      (.next ((engine fixedIntl).playSession_sound (fun _ _ => checkAttempts_sound) playedAgain)
        (.none last))
  exact ⟨last, sweeps, (sweeps_grant_iff fixedIntl 1 (owedLeaves 1) 2 (owing 1) last sweeps 1
    (heldAward 2 1 1 1) 1 ⟨by decide +kernel, rfl⟩ rfl (by decide) rfl (by decide +kernel)).mpr
    (by decide +kernel)⟩

/-- However often the sweep runs, the award behind a full batch of failures stays held. -/
theorem sweep_blocked :
    ¬ ∀ (intl : Intl) (since : Int) (leaves : Nat → RewardAwardStatus) (db : RewardDb) (id : Nat)
      (award : RewardAwardRow) (ends : Int), HeldAt db id award →
      award.heldUntil = some ends → ends ≤ since → leaves id = .granted →
      ∃ count, ∀ last, GrantSweeps intl since leaves count db last →
        (last.awards.get? id).map (·.status) = some .granted := by
  intro claimed
  have waits : HeldAt (owing 100) 100 (heldAward 2 1 100 1) := ⟨by decide +kernel, rfl⟩
  obtain ⟨count, granted⟩ := claimed fixedIntl 1 (owedLeaves 100) (owing 100) 100 _ 1 waits rfl
    (by decide) rfl
  have sweeps : ∀ count, GrantSweeps fixedIntl 1 (owedLeaves 100) count (owing 100)
      (owing 100) := by
    intro count
    induction count with
    | zero => exact .none _
    | succ count ih => exact .next owing_swept ih
  have still := granted _ (sweeps count)
  rw [waits.1] at still
  contradiction

end UnifiedService.Rewards
