import Mathlib.Data.List.Induction
import UnifiedService.Rewards.ScheduleProperties

/-! Which slots of a schedule survive the trip into days and back, and which instants
are lost with the others. -/

set_option autoImplicit false

namespace UnifiedService.Rewards

open UnifiedService.Library

/-! ### The fold into days -/

def slotsOfDay (slots : List TimeSlot) (isoDay : Nat) : List TimeSlot :=
  slots.filter fun slot => slot.days == [isoDay]

def hoursOf (slots : List TimeSlot) : List ScheduleSlot :=
  (slots.filter fun slot => !slot.isWholeDay).map fun slot =>
    { start := slot.start, «end» := slot.end }

theorem DaySlots.lookup_hold (byDay : DaySlots) (isoDay other : Nat) (added : List ScheduleSlot) :
    (byDay.hold isoDay added).lookup other =
      if other = isoDay then some ((byDay.lookup isoDay).getD [] ++ added)
      else byDay.lookup other := by
  induction byDay with
  | nil =>
      by_cases same : other = isoDay
      · simp [DaySlots.hold, same]
      · simp [DaySlots.hold, same]
  | cons entry rest ih =>
      obtain ⟨day, held⟩ := entry
      simp only [DaySlots.hold]
      split
      · next here =>
          subst here
          by_cases same : other = day
          · simp [same]
          · simp [same, beq_false_of_ne same, List.lookup_cons]
      · next elsewhere =>
          have passed : (isoDay == day) = false := beq_false_of_ne (Ne.symm elsewhere)
          rw [List.lookup_cons, ih, List.lookup_cons, List.lookup_cons, passed]
          by_cases same : other = isoDay
          · subst same
            simp [passed]
          · simp only [same, if_false]

theorem DaySlots.keys_hold (byDay : DaySlots) (isoDay : Nat) (added : List ScheduleSlot) :
    (byDay.hold isoDay added).map Prod.fst =
      if isoDay ∈ byDay.map Prod.fst then byDay.map Prod.fst
      else byDay.map Prod.fst ++ [isoDay] := by
  induction byDay with
  | nil => rfl
  | cons entry rest ih =>
      obtain ⟨day, held⟩ := entry
      simp only [DaySlots.hold]
      split
      · next here => simp [here]
      · next elsewhere =>
          have different : ¬ isoDay = day := fun same => elsewhere same.symm
          simp only [List.map_cons, ih, List.mem_cons, different, false_or]
          split <;> rfl

theorem DaySlots.hold_nodup {byDay : DaySlots} (distinct : (byDay.map Prod.fst).Nodup)
    (isoDay : Nat) (added : List ScheduleSlot) :
    ((byDay.hold isoDay added).map Prod.fst).Nodup := by
  rw [DaySlots.keys_hold]
  split
  · exact distinct
  · next absent =>
      rw [List.nodup_append]
      refine ⟨distinct, List.nodup_singleton _, fun day member other isLast => ?_⟩
      rw [List.mem_singleton.mp isLast]
      exact fun same => absent (same ▸ member)

theorem DaySlots.mem_iff_lookup {byDay : DaySlots} (distinct : (byDay.map Prod.fst).Nodup)
    (isoDay : Nat) (held : List ScheduleSlot) :
    (isoDay, held) ∈ byDay ↔ byDay.lookup isoDay = some held := by
  induction byDay with
  | nil => simp
  | cons entry rest ih =>
      obtain ⟨day, kept⟩ := entry
      rw [List.map_cons, List.nodup_cons] at distinct
      obtain ⟨absent, others⟩ := distinct
      rw [List.mem_cons, ih others, List.lookup_cons]
      by_cases same : isoDay = day
      · subst same
        have none : rest.lookup isoDay = none := by
          refine List.lookup_eq_none_iff.mpr fun entry member => ?_
          rw [bne_iff_ne]
          rintro rfl
          exact absurd (List.mem_map_of_mem member) absent
        simp [none, eq_comm]
      · simp [same, beq_false_of_ne same]

theorem hoursOf_append (first second : List TimeSlot) :
    hoursOf (first ++ second) = hoursOf first ++ hoursOf second := by
  rw [hoursOf, List.filter_append, List.map_append]
  rfl

theorem hoursOf_singleton (days : List Nat) (start finish : WallClock) :
    hoursOf [{ days, start, «end» := finish }] =
      if start = startOfDay ∧ finish = lastMinute then [] else [{ start, «end» := finish }] := by
  by_cases whole : start = startOfDay ∧ finish = lastMinute
  · obtain ⟨rfl, rfl⟩ := whole
    rfl
  · have hours : TimeSlot.isWholeDay { days, start, «end» := finish } = false :=
      decide_eq_false whole
    rw [if_neg whole, hoursOf, List.filter_cons_of_pos (by rw [hours]; rfl)]
    rfl

theorem slotsOfDay_append (slots more : List TimeSlot) (isoDay : Nat) :
    slotsOfDay (slots ++ more) isoDay = slotsOfDay slots isoDay ++ slotsOfDay more isoDay :=
  List.filter_append ..

theorem foldl_addSlot_lookup {slots : List TimeSlot}
    (oneDay : ∀ slot ∈ slots, ∃ isoDay, slot.days = [isoDay]) :
    ((slots.foldl DaySlots.addSlot []).map Prod.fst).Nodup ∧
      ∀ isoDay, (slots.foldl DaySlots.addSlot []).lookup isoDay =
        if slotsOfDay slots isoDay = [] then none else some (hoursOf (slotsOfDay slots isoDay)) := by
  induction slots using List.reverseRecOn with
  | nil => exact ⟨List.nodup_nil, fun _ => rfl⟩
  | append_singleton before slot ih =>
      obtain ⟨distinct, looked⟩ := ih fun other member => oneDay other (List.mem_append_left _ member)
      obtain ⟨day, ofDay⟩ := oneDay slot (List.mem_append_right _ (List.mem_singleton_self _))
      obtain ⟨days, start, finish⟩ := slot
      obtain rfl : days = [day] := ofDay
      rw [List.foldl_append]
      simp only [List.foldl_cons, List.foldl_nil, DaySlots.addSlot]
      refine ⟨DaySlots.hold_nodup distinct _ _, fun isoDay => ?_⟩
      rw [DaySlots.lookup_hold, looked, looked, slotsOfDay_append]
      by_cases same : isoDay = day
      · subst same
        have here : slotsOfDay [{ days := [isoDay], start, «end» := finish }] isoDay =
            [{ days := [isoDay], start, «end» := finish }] := by
          simp [slotsOfDay]
        have known : slotsOfDay before isoDay ++ [{ days := [isoDay], start, «end» := finish }] ≠ [] :=
          List.append_ne_nil_of_right_ne_nil _ (List.cons_ne_nil _ _)
        rw [if_pos rfl, here, if_neg known, hoursOf_append, hoursOf_singleton]
        by_cases fresh : slotsOfDay before isoDay = []
        · rw [if_pos fresh, fresh]
          rfl
        · rw [if_neg fresh]
          rfl
      · have elsewhere : slotsOfDay [{ days := [day], start, «end» := finish }] isoDay = [] := by
          simp [slotsOfDay, Ne.symm same]
        rw [if_neg same, elsewhere, List.append_nil]

/-! ### What survives -/

def Dropped (slots : List TimeSlot) (slot : TimeSlot) : Prop :=
  slot.isWholeDay = true ∧ ∃ other ∈ slots, other.days = slot.days ∧ other.isWholeDay = false

theorem mem_foldl_addSlot_slots {slots : List TimeSlot}
    (oneDay : ∀ slot ∈ slots, ∃ isoDay, slot.days = [isoDay]) (slot : TimeSlot) :
    slot ∈ (slots.foldl DaySlots.addSlot []).slots ↔ slot ∈ slots ∧ ¬ Dropped slots slot := by
  obtain ⟨distinct, looked⟩ := foldl_addSlot_lookup oneDay
  have wholeDay : ∀ {other : TimeSlot} {isoDay : Nat}, other.days = [isoDay] →
      other.isWholeDay = true →
      other = { days := [isoDay], start := startOfDay, «end» := lastMinute } := by
    intro other isoDay ofDay whole
    obtain ⟨days, start, finish⟩ := other
    obtain ⟨rfl, rfl⟩ : start = startOfDay ∧ finish = lastMinute := of_decide_eq_true whole
    exact congrArg (fun days => TimeSlot.mk days startOfDay lastMinute) ofDay
  have ofThatDay : ∀ {other : TimeSlot} {isoDay : Nat},
      other ∈ slotsOfDay slots isoDay ↔ other ∈ slots ∧ other.days = [isoDay] := by
    intro other isoDay
    rw [slotsOfDay, List.mem_filter, beq_iff_eq]
  have noHours : ∀ {isoDay : Nat}, hoursOf (slotsOfDay slots isoDay) = [] ↔
      ∀ other ∈ slots, other.days = [isoDay] → other.isWholeDay = true := by
    intro isoDay
    rw [hoursOf, List.map_eq_nil_iff, List.filter_eq_nil_iff]
    constructor
    · intro all other member ofDay
      simpa using all other (ofThatDay.mpr ⟨member, ofDay⟩)
    · intro all other member
      obtain ⟨isSlot, ofDay⟩ := ofThatDay.mp member
      simpa using all other isSlot ofDay
  simp only [DaySlots.slots, List.mem_flatMap, Prod.exists, DaySlots.mem_iff_lookup distinct, looked]
  constructor
  · rintro ⟨isoDay, held, found, member⟩
    split at found
    · contradiction
    · next some =>
        obtain rfl := Option.some.inj found
        have ofDay := scheduleSlots_days member
        dsimp only at ofDay
        obtain ⟨witness, isWitness⟩ := List.exists_mem_of_ne_nil _ some
        obtain ⟨isSlot, witnessDay⟩ := ofThatDay.mp isWitness
        rw [scheduleSlots] at member
        split at member
        · next empty =>
            have allWhole := noHours.mp (List.isEmpty_iff.mp empty)
            obtain rfl := List.mem_singleton.mp member
            rw [← wholeDay witnessDay (allWhole witness isSlot witnessDay)]
            refine ⟨isSlot, fun dropped => ?_⟩
            obtain ⟨-, other, isOther, sameDays, hours⟩ := dropped
            rw [allWhole other isOther (sameDays.trans witnessDay)] at hours
            contradiction
        · obtain ⟨hour, isHour, rfl⟩ := List.mem_map.mp member
          obtain ⟨source, isSource, rfl⟩ := List.mem_map.mp isHour
          obtain ⟨isOfDay, hours⟩ := List.mem_filter.mp isSource
          obtain ⟨isSource, sourceDay⟩ := ofThatDay.mp isOfDay
          obtain ⟨days, start, finish⟩ := source
          obtain rfl : days = [isoDay] := sourceDay
          refine ⟨isSource, fun dropped => ?_⟩
          rw [dropped.1] at hours
          contradiction
  · rintro ⟨isSlot, kept⟩
    obtain ⟨isoDay, ofDay⟩ := oneDay slot isSlot
    have known : slotsOfDay slots isoDay ≠ [] :=
      List.ne_nil_of_mem (ofThatDay.mpr ⟨isSlot, ofDay⟩)
    refine ⟨isoDay, _, if_neg known, ?_⟩
    cases whole : slot.isWholeDay with
    | true =>
        have allWhole : hoursOf (slotsOfDay slots isoDay) = [] := by
          refine noHours.mpr fun other isOther otherDay => ?_
          by_contra hours
          exact kept ⟨whole, other, isOther, otherDay.trans ofDay.symm, by simpa using hours⟩
        rw [allWhole, wholeDay ofDay whole]
        exact List.mem_singleton_self _
    | false =>
        have isHour : (⟨slot.start, slot.end⟩ : ScheduleSlot) ∈ hoursOf (slotsOfDay slots isoDay) := by
          refine List.mem_map.mpr ⟨slot, List.mem_filter.mpr ⟨ofThatDay.mpr ⟨isSlot, ofDay⟩, ?_⟩, rfl⟩
          rw [whole]
          rfl
        have some : ¬ (hoursOf (slotsOfDay slots isoDay)).isEmpty = true := by
          rw [List.isEmpty_iff]
          exact List.ne_nil_of_mem isHour
        rw [scheduleSlots, if_neg some]
        refine List.mem_map.mpr ⟨_, isHour, ?_⟩
        obtain ⟨days, start, finish⟩ := slot
        obtain rfl : days = [isoDay] := ofDay
        rfl

/-! ### The instants that are lost -/

def LocalParts.inWeek (parts : LocalParts) : Bool :=
  isIsoDay parts.isoDay && decide (parts.minutes < endOfDay)

/-- Do the time windows among conditions admit a local day and minute, each checked as it
stands? -/
def windowsCheck (conditions : List RewardConditionConfig) (parts : LocalParts) : Bool :=
  conditions.all fun condition =>
    match condition with
    | .timeWindow slots => slotsAdmit slots parts
    | .customerTenure _ | .contentMatch _ => true

/-- A whole day that stands beside hours of its own day adds nothing to them: the hours of
the schedule admit all of it. -/
def WholeDaysCovered (slots : List TimeSlot) : Prop :=
  ∀ slot ∈ slots, Dropped slots slot → ∀ parts : LocalParts, parts.inWeek = true →
    slot.days = [parts.isoDay] →
    slotsAdmit (slots.filter fun other => !other.isWholeDay) parts = true

theorem wholeDay_admits {slot : TimeSlot} {isoDay : Nat} {parts : LocalParts}
    (whole : slot.isWholeDay = true) (ofDay : slot.days = [isoDay]) (inWeek : parts.inWeek = true) :
    slotAdmits slot parts = true ↔ parts.isoDay = isoDay := by
  obtain ⟨days, start, finish⟩ := slot
  obtain ⟨rfl, rfl⟩ : start = startOfDay ∧ finish = lastMinute := of_decide_eq_true whole
  obtain rfl : days = [isoDay] := ofDay
  simp only [LocalParts.inWeek, Bool.and_eq_true, decide_eq_true_eq] at inWeek
  have bounds : startOfDay.toMinutes = 0 ∧ endMinute lastMinute = endOfDay := by decide
  simp [slotAdmits, bounds.1, bounds.2, inWeek.2]

theorem slotsAdmit_iff {slots : List TimeSlot} {parts : LocalParts} :
    slotsAdmit slots parts = true ↔ ∃ slot ∈ slots, slotAdmits slot parts = true := by
  rw [slotsAdmit, List.any_eq_true]

theorem survivors_admit_iff {slots later : List TimeSlot}
    (oneDay : ∀ slot ∈ slots, ∃ isoDay, slot.days = [isoDay])
    (survives : ∀ slot, slot ∈ later ↔ slot ∈ slots ∧ ¬ Dropped slots slot) :
    (∀ parts : LocalParts, parts.inWeek = true → slotsAdmit later parts = slotsAdmit slots parts) ↔
      WholeDaysCovered slots := by
  constructor
  · intro same slot member dropped parts inWeek ofDay
    have before : slotsAdmit slots parts = true :=
      slotsAdmit_iff.mpr ⟨slot, member, (wholeDay_admits dropped.1 ofDay inWeek).mpr rfl⟩
    rw [← same parts inWeek] at before
    obtain ⟨other, survived, admits⟩ := slotsAdmit_iff.mp before
    obtain ⟨isSlot, kept⟩ := (survives other).mp survived
    refine slotsAdmit_iff.mpr ⟨other, List.mem_filter.mpr ⟨isSlot, ?_⟩, admits⟩
    -- A whole day that admits the instant is of the dropped day, and would be dropped itself.
    cases whole : other.isWholeDay with
    | false => rfl
    | true =>
        obtain ⟨otherDay, ofOther⟩ := oneDay other isSlot
        obtain rfl := (wholeDay_admits whole ofOther inWeek).mp admits
        obtain ⟨-, hour, isHour, sameDays, hours⟩ := dropped
        exact absurd ⟨whole, hour, isHour, sameDays.trans (ofDay.trans ofOther.symm), hours⟩ kept
  · intro covered parts inWeek
    rw [Bool.eq_iff_iff, slotsAdmit_iff]
    constructor
    · rintro ⟨slot, survived, admits⟩
      exact slotsAdmit_iff.mpr ⟨slot, ((survives slot).mp survived).1, admits⟩
    · intro before
      obtain ⟨slot, member, admits⟩ := slotsAdmit_iff.mp before
      by_cases dropped : Dropped slots slot
      · obtain ⟨isoDay, ofDay⟩ := oneDay slot member
        obtain rfl := (wholeDay_admits dropped.1 ofDay inWeek).mp admits
        obtain ⟨other, isHour, admitsToo⟩ :=
          slotsAdmit_iff.mp (covered slot member dropped parts inWeek ofDay)
        obtain ⟨isSlot, hours⟩ := List.mem_filter.mp isHour
        refine ⟨other, (survives other).mpr ⟨isSlot, fun again => ?_⟩, admitsToo⟩
        rw [again.1] at hours
        contradiction
      · exact ⟨slot, (survives slot).mpr ⟨member, dropped⟩, admits⟩

theorem windowsCheck_programConditions {schedule : ProgramSchedule}
    {conditions : List RewardConditionConfig} (parts : LocalParts)
    (others : ∀ condition ∈ conditions, condition.conditionKind ≠ .timeWindow) :
    windowsCheck (programConditions schedule conditions) parts =
      (schedule.days.isEmpty || slotsAdmit (weekSlots schedule.days) parts) := by
  have rest : windowsCheck conditions parts = true := by
    refine List.all_eq_true.mpr fun condition member => ?_
    cases condition with
    | timeWindow slots => exact absurd rfl (others _ member)
    | customerTenure days => rfl
    | contentMatch keywords => rfl
  unfold programConditions
  split
  · next always => rw [always, rest, Bool.true_or]
  · next some =>
      rw [Bool.not_eq_true] at some
      rw [windowsCheck] at rest
      simp only [windowsCheck, List.all_cons, rest, some, Bool.false_or, Bool.and_true]
      rfl

theorem mem_weekSlots_read {schedule : ProgramSchedule} {conditions : List RewardConditionConfig}
    (others : ∀ condition ∈ conditions, condition.conditionKind ≠ .timeWindow) (slot : TimeSlot) :
    slot ∈ weekSlots (conditionsToSchedule (programConditions schedule conditions)) ↔
      slot ∈ weekSlots schedule.days ∧ ¬ Dropped (weekSlots schedule.days) slot := by
  have folded : (programConditions schedule conditions).foldl DaySlots.addCondition [] =
      (weekSlots schedule.days).foldl DaySlots.addSlot [] := by
    unfold programConditions
    split
    · next always =>
        rw [foldl_addCondition others, List.isEmpty_iff.mp always]
        rfl
    · rw [List.foldl_cons, foldl_addCondition others]
      rfl
  rw [← mem_foldl_addSlot_slots fun slot => weekSlots_oneDay, weekSlots, conditionsToSchedule,
    List.flatMap_map, folded, DaySlots.slots]
  exact ((List.perm_insertionSort _ _).flatMap_right _).mem_iff

/-- Reading the days back and saving them admits the same instants exactly where every
whole day listed beside hours of its own day is covered by hours. -/
theorem schedule_transposition_keeps_instants (schedule : ProgramSchedule)
    (conditions laterConditions : List RewardConditionConfig)
    (others : ∀ condition ∈ conditions, condition.conditionKind ≠ .timeWindow)
    (laterOthers : ∀ condition ∈ laterConditions, condition.conditionKind ≠ .timeWindow) :
    (∀ parts : LocalParts, parts.inWeek = true →
      windowsCheck (programConditions
        { schedule with days := conditionsToSchedule (programConditions schedule conditions) }
        laterConditions) parts =
        windowsCheck (programConditions schedule conditions) parts) ↔
      WholeDaysCovered (weekSlots schedule.days) := by
  have survives := @mem_weekSlots_read schedule _ others
  have sameEmpty : (conditionsToSchedule (programConditions schedule conditions)).isEmpty =
      schedule.days.isEmpty := by
    rw [← weekSlots_isEmpty, ← weekSlots_isEmpty, Bool.eq_iff_iff, List.isEmpty_iff,
      List.isEmpty_iff]
    constructor
    · intro nothing
      by_contra some
      obtain ⟨slot, member⟩ := List.exists_mem_of_ne_nil _ some
      have lost : ∀ other ∈ weekSlots schedule.days, Dropped (weekSlots schedule.days) other := by
        intro other isSlot
        by_contra kept
        have survived := (survives other).mpr ⟨isSlot, kept⟩
        rw [nothing] at survived
        contradiction
      -- What drops a slot has hours, so it is not dropped itself.
      obtain ⟨-, other, isOther, -, hours⟩ := lost slot member
      rw [(lost other isOther).1] at hours
      contradiction
    · intro nothing
      refine List.eq_nil_iff_forall_not_mem.mpr fun slot member => ?_
      have isSlot := ((survives slot).mp member).1
      rw [nothing] at isSlot
      contradiction
  rw [← survivors_admit_iff (fun slot => weekSlots_oneDay) survives]
  simp only [windowsCheck_programConditions _ others, windowsCheck_programConditions _ laterOthers,
    sameEmpty]
  cases empty : schedule.days.isEmpty with
  | false => simp only [Bool.false_or]
  | true =>
      have none : weekSlots schedule.days = [] := by
        rw [← List.isEmpty_iff, weekSlots_isEmpty, empty]
      have noneRead : weekSlots (conditionsToSchedule (programConditions schedule conditions)) = [] := by
        rw [← List.isEmpty_iff, weekSlots_isEmpty, sameEmpty, empty]
      simp [none, noneRead]

def allOfFriday : ProgramSchedule where
  days :=
    [{ isoDay := 5
       slots := [⟨startOfDay, lastMinute⟩, ⟨⟨10, 0⟩, ⟨11, 0⟩⟩] }]

/-- Friday night and all of Saturday come back as they went. -/
theorem schedule_transposition_keeps_instants_weekend :
    let weekend : ProgramSchedule :=
      { days := [{ isoDay := 5, slots := [⟨⟨22, 0⟩, ⟨2, 0⟩⟩] }, { isoDay := 6 }] }
    ∀ parts : LocalParts, parts.inWeek = true →
      windowsCheck (programConditions
        { weekend with days := conditionsToSchedule (programConditions weekend []) } []) parts =
        windowsCheck (programConditions weekend []) parts := by
  intro weekend
  refine (schedule_transposition_keeps_instants weekend [] [] nofun nofun).mpr ?_
  intro slot member dropped
  obtain ⟨whole, other, isOther, sameDays, hours⟩ := dropped
  have slots : weekSlots weekend.days =
      [⟨[5], ⟨22, 0⟩, ⟨2, 0⟩⟩, ⟨[6], startOfDay, lastMinute⟩] := rfl
  rw [slots] at member isOther
  simp only [List.mem_cons, List.not_mem_nil, or_false] at member isOther
  rcases member with rfl | rfl <;> rcases isOther with rfl | rfl
  · exact absurd whole (by decide)
  · exact absurd whole (by decide)
  · exact absurd sameDays (by decide)
  · exact absurd hours (by decide)

/-- The whole of Friday shrinks to one hour. -/
theorem whole_day_beside_hours_shrinks :
    ¬ ∀ (schedule : ProgramSchedule), schedule.days.all ScheduleDay.accepted = true →
      schedule.days.length ≤ 7 → ∀ parts : LocalParts, parts.inWeek = true →
        windowsCheck (programConditions
          { schedule with days := conditionsToSchedule (programConditions schedule []) } []) parts =
          windowsCheck (programConditions schedule []) parts := by
  intro claimed
  have same := claimed allOfFriday (by decide) (by decide) ⟨5, 0⟩ (by decide)
  exact absurd same (by decide)

end UnifiedService.Rewards
