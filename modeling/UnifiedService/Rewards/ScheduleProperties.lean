import Mathlib.Data.List.Perm.Basic
import UnifiedService.Rewards.Conditions
import UnifiedService.Rewards.Programs

/-! The weekly schedule as a time window and back: what the fold into days keeps,
and which instants a rule's windows admit. -/

set_option autoImplicit false

namespace UnifiedService.Rewards

open UnifiedService.Library

def TimeSlot.isWholeDay (slot : TimeSlot) : Bool :=
  decide (slot.start = startOfDay ∧ slot.end = lastMinute)

def WholeDaysAlone (slots : List TimeSlot) : Prop :=
  slots.Pairwise fun first second =>
    first.days = second.days → first.isWholeDay = false ∧ second.isWholeDay = false

instance (slots : List TimeSlot) : Decidable (WholeDaysAlone slots) :=
  inferInstanceAs (Decidable (slots.Pairwise _))

theorem WholeDaysAlone.perm {slots other : List TimeSlot} (alone : WholeDaysAlone slots)
    (same : slots.Perm other) : WholeDaysAlone other := by
  refine (same.pairwise_iff fun one => ?_).mp alone
  exact fun days => (one days.symm).symm

def DaySlots.slots (byDay : DaySlots) : List TimeSlot :=
  byDay.flatMap fun entry => scheduleSlots { isoDay := entry.1, slots := entry.2 }

theorem scheduleSlots_days {day : ScheduleDay} {slot : TimeSlot} (member : slot ∈ scheduleSlots day) :
    slot.days = [day.isoDay] := by
  unfold scheduleSlots at member
  split at member
  · rw [List.mem_singleton.mp member]
  · obtain ⟨_, -, rfl⟩ := List.mem_map.mp member
    rfl

theorem scheduleSlots_ne_nil (day : ScheduleDay) : scheduleSlots day ≠ [] := by
  unfold scheduleSlots
  split
  · simp
  · next some =>
      intro none
      exact some (by rw [List.isEmpty_iff, List.map_eq_nil_iff.mp none])

theorem DaySlots.hold_cases (byDay : DaySlots) (isoDay : Nat) (added : List ScheduleSlot) :
    (∃ before held after, byDay = before ++ (isoDay, held) :: after ∧
      byDay.hold isoDay added = before ++ (isoDay, held ++ added) :: after) ∨
    byDay.hold isoDay added = byDay ++ [(isoDay, added)] := by
  induction byDay with
  | nil => exact .inr rfl
  | cons entry rest ih =>
      obtain ⟨day, held⟩ := entry
      simp only [DaySlots.hold]
      split
      · next same =>
          subst same
          exact .inl ⟨[], held, rest, rfl, rfl⟩
      · rcases ih with ⟨before, kept, after, rfl, extended⟩ | started
        · rw [extended]
          exact .inl ⟨(day, held) :: before, kept, after, rfl, rfl⟩
        · rw [started]
          exact .inr rfl

theorem DaySlots.addSlot_slots {byDay : DaySlots} {slot : TimeSlot} {isoDay : Nat}
    (oneDay : slot.days = [isoDay])
    (alone : ∀ other ∈ byDay.slots, other.days = slot.days →
      other.isWholeDay = false ∧ slot.isWholeDay = false) :
    (byDay.addSlot slot).slots.Perm (byDay.slots ++ [slot]) := by
  obtain ⟨days, start, finish⟩ := slot
  obtain rfl : days = [isoDay] := oneDay
  simp only [DaySlots.addSlot, List.foldl_cons, List.foldl_nil]
  rcases byDay.hold_cases isoDay (if start = startOfDay ∧ finish = lastMinute then []
    else [{ start, «end» := finish }]) with ⟨before, held, after, rfl, extended⟩ | started
  · -- The day is there: by `alone` it has hours, and so has the slot.
    rw [extended]
    have ofDay : ∀ other ∈ scheduleSlots { isoDay, slots := held },
        other.isWholeDay = false ∧ ¬ (start = startOfDay ∧ finish = lastMinute) := by
      intro other member
      have both := alone other (List.mem_flatMap.mpr ⟨(isoDay, held), by simp, member⟩)
        (scheduleSlots_days member)
      exact ⟨both.1, of_decide_eq_false both.2⟩
    obtain ⟨witness, present⟩ := List.exists_mem_of_ne_nil _ (scheduleSlots_ne_nil { isoDay, slots := held })
    have hours : held ≠ [] := by
      rintro rfl
      have whole := (ofDay { days := [isoDay], start := startOfDay, «end» := lastMinute }
        (List.mem_singleton_self _)).1
      simp [TimeSlot.isWholeDay] at whole
    rw [if_neg (ofDay witness present).2]
    have joined : scheduleSlots { isoDay, slots := held ++ [{ start, «end» := finish }] } =
        scheduleSlots { isoDay, slots := held } ++ [{ days := [isoDay], start, «end» := finish }] := by
      simp [scheduleSlots, hours]
    simp only [DaySlots.slots, List.flatMap_append, List.flatMap_cons, joined]
    refine List.perm_iff_count.mpr fun other => ?_
    simp only [List.count_append]
    omega
  · rw [started]
    simp only [DaySlots.slots, List.flatMap_append, List.flatMap_cons, List.flatMap_nil,
      List.append_nil]
    refine List.Perm.of_eq (congrArg _ ?_)
    split
    · next whole =>
        obtain ⟨rfl, rfl⟩ := whole
        rfl
    · rfl

theorem DaySlots.foldl_addSlot_slots {slots : List TimeSlot} {byDay : DaySlots}
    (oneDay : ∀ slot ∈ slots, ∃ isoDay, slot.days = [isoDay])
    (alone : WholeDaysAlone (byDay.slots ++ slots)) :
    (slots.foldl DaySlots.addSlot byDay).slots.Perm (byDay.slots ++ slots) := by
  induction slots generalizing byDay with
  | nil => rw [List.append_nil]; exact .refl _
  | cons slot rest ih =>
      obtain ⟨isoDay, ofDay⟩ := oneDay slot List.mem_cons_self
      have step : (byDay.addSlot slot).slots.Perm (byDay.slots ++ [slot]) :=
        DaySlots.addSlot_slots ofDay fun other member =>
          (List.pairwise_append.mp alone).2.2 other member slot List.mem_cons_self
      have joined : ((byDay.addSlot slot).slots ++ rest).Perm (byDay.slots ++ slot :: rest) := by
        rw [List.append_cons]
        exact step.append_right rest
      exact (ih (fun other member => oneDay other (List.mem_cons_of_mem slot member))
        (alone.perm joined.symm)).trans joined

/-! ### There and back -/

theorem foldl_addCondition {conditions : List RewardConditionConfig} {byDay : DaySlots}
    (others : ∀ condition ∈ conditions, condition.conditionKind ≠ .timeWindow) :
    conditions.foldl DaySlots.addCondition byDay = byDay := by
  induction conditions with
  | nil => rfl
  | cons condition rest ih =>
      have kept : byDay.addCondition condition = byDay := by
        cases condition with
        | timeWindow slots => exact absurd rfl (others _ List.mem_cons_self)
        | customerTenure days => rfl
        | contentMatch keywords => rfl
      rw [List.foldl_cons, kept]
      exact ih fun other member => others other (List.mem_cons_of_mem condition member)

def weekSlots (days : List ScheduleDay) : List TimeSlot := days.flatMap scheduleSlots

theorem weekSlots_isEmpty (days : List ScheduleDay) : (weekSlots days).isEmpty = days.isEmpty := by
  cases days with
  | nil => rfl
  | cons day rest =>
      have some := scheduleSlots_ne_nil day
      simp [weekSlots, some]

theorem weekSlots_oneDay {days : List ScheduleDay} {slot : TimeSlot} (member : slot ∈ weekSlots days) :
    ∃ isoDay, slot.days = [isoDay] := by
  obtain ⟨day, -, ofDay⟩ := List.mem_flatMap.mp member
  exact ⟨day.isoDay, scheduleSlots_days ofDay⟩

/-- The days read back stand for the same slots, as long as each whole day was alone. -/
theorem conditionsToSchedule_slots {schedule : ProgramSchedule}
    {conditions : List RewardConditionConfig}
    (others : ∀ condition ∈ conditions, condition.conditionKind ≠ .timeWindow)
    (alone : WholeDaysAlone (weekSlots schedule.days)) :
    (weekSlots (conditionsToSchedule (programConditions schedule conditions))).Perm
      (weekSlots schedule.days) := by
  have folded : ((programConditions schedule conditions).foldl DaySlots.addCondition []).slots.Perm
      (weekSlots schedule.days) := by
    unfold programConditions
    split
    · next always =>
        rw [foldl_addCondition others, List.isEmpty_iff.mp always]
        exact .refl _
    · rw [List.foldl_cons, foldl_addCondition others]
      exact DaySlots.foldl_addSlot_slots (fun slot => weekSlots_oneDay) alone
  refine List.Perm.trans ?_ folded
  rw [weekSlots, conditionsToSchedule, List.flatMap_map]
  exact (List.perm_insertionSort _ _).flatMap_right _

/-- A whole day beside other hours of its day folds away. -/
example : conditionsToSchedule (programConditions
    { days := [{ isoDay := 5 }, { isoDay := 5, slots := [⟨⟨10, 0⟩, ⟨11, 0⟩⟩] }] } []) =
      [{ isoDay := 5, slots := [⟨⟨10, 0⟩, ⟨11, 0⟩⟩] }] := by decide

/-! ### The instants a rule's windows admit -/

/-- Do the time windows among a rule's conditions admit a local day and minute? One
that cannot be read admits nothing. -/
def windowsAdmit (conditions : List RewardConditionConfig) (parts : LocalParts) : Bool :=
  conditions.all fun condition =>
    match condition with
    | .timeWindow _ =>
        match condition.parse with
        | some (.timeWindow slots) => slotsAdmit slots parts
        | _ => false
    | .customerTenure _ | .contentMatch _ => true

theorem windowsAdmit_others {conditions : List RewardConditionConfig} (parts : LocalParts)
    (others : ∀ condition ∈ conditions, condition.conditionKind ≠ .timeWindow) :
    windowsAdmit conditions parts = true := by
  refine List.all_eq_true.mpr fun condition member => ?_
  cases condition with
  | timeWindow slots => exact absurd rfl (others _ member)
  | customerTenure days => rfl
  | contentMatch keywords => rfl

/-- The bounds `RewardConditionConfigSchema` puts on the slots of a time window. -/
def readableSlots (slots : List TimeSlot) : Bool :=
  decide (1 ≤ slots.length ∧ slots.length ≤ 32) && slots.all fun slot =>
    decide (1 ≤ slot.days.length ∧ slot.days.length ≤ 7) && slot.days.all isIsoDay

theorem windowsAdmit_single (slots : List TimeSlot) (parts : LocalParts) :
    windowsAdmit [.timeWindow slots] parts = (readableSlots slots && slotsAdmit slots parts) := by
  have parsed : (RewardConditionConfig.timeWindow slots).parse =
      if readableSlots slots = true then some (.timeWindow slots) else none := by
    simp only [RewardConditionConfig.parse, readableSlots, Bool.and_eq_true, decide_eq_true_eq,
      and_assoc]
  simp only [windowsAdmit, List.all_cons, List.all_nil, Bool.and_true, parsed]
  cases readable : readableSlots slots <;> simp

theorem windowsAdmit_perm {slots other : List TimeSlot} (same : slots.Perm other)
    (parts : LocalParts) :
    windowsAdmit [.timeWindow slots] parts = windowsAdmit [.timeWindow other] parts := by
  rw [windowsAdmit_single, windowsAdmit_single, readableSlots, readableSlots, slotsAdmit,
    slotsAdmit, same.length_eq, same.all_eq, same.any_eq]

theorem windowsAdmit_programConditions {schedule : ProgramSchedule}
    {conditions : List RewardConditionConfig} (parts : LocalParts)
    (others : ∀ condition ∈ conditions, condition.conditionKind ≠ .timeWindow) :
    windowsAdmit (programConditions schedule conditions) parts =
      (schedule.days.isEmpty || windowsAdmit [.timeWindow (weekSlots schedule.days)] parts) := by
  have rest := windowsAdmit_others parts others
  unfold programConditions
  split
  · next always => rw [always, rest, Bool.true_or]
  · next some =>
      rw [Bool.not_eq_true] at some
      rw [windowsAdmit] at rest
      simp only [windowsAdmit, List.all_cons, rest, some, Bool.false_or, List.all_nil]
      rfl

theorem windowsAdmit_there_and_back {schedule later : ProgramSchedule}
    {conditions laterConditions : List RewardConditionConfig}
    (others : ∀ condition ∈ conditions, condition.conditionKind ≠ .timeWindow)
    (laterOthers : ∀ condition ∈ laterConditions, condition.conditionKind ≠ .timeWindow)
    (alone : WholeDaysAlone (weekSlots schedule.days))
    (read : later.days = conditionsToSchedule (programConditions schedule conditions))
    (parts : LocalParts) :
    windowsAdmit (programConditions later laterConditions) parts =
      windowsAdmit (programConditions schedule conditions) parts := by
  have same := conditionsToSchedule_slots others alone
  rw [← read] at same
  rw [windowsAdmit_programConditions parts others, windowsAdmit_programConditions parts laterOthers,
    windowsAdmit_perm same, ← weekSlots_isEmpty, ← weekSlots_isEmpty, same.isEmpty_eq]

end UnifiedService.Rewards
