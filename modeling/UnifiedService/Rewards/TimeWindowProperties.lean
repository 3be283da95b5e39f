import UnifiedService.Rewards.Conditions

/-! A time window against its reading: each slot opens on each of its days for one interval
of the circular week. -/

set_option autoImplicit false

namespace UnifiedService.Rewards

/-- A moment of the local week. Monday is day zero. -/
structure LocalTime where
  day : Fin 7
  minute : Fin 1440
  deriving DecidableEq, Repr

def weekdayName : Fin 7 → String
  | 0 => "Mon"
  | 1 => "Tue"
  | 2 => "Wed"
  | 3 => "Thu"
  | 4 => "Fri"
  | 5 => "Sat"
  | 6 => "Sun"

/-- What is taken of `Intl`: it renders the local time, and midnight as hour 0 or 24. -/
structure Intl.Renders (intl : Intl) (localTime : Int → String → LocalTime) : Prop where
  weekday : ∀ instant timezone, (intl.clockParts instant timezone).weekday =
    weekdayName (localTime instant timezone).day
  hour : ∀ instant timezone, (intl.clockParts instant timezone).hour =
      (localTime instant timezone).minute / 60 ∨
    (intl.clockParts instant timezone).hour = 24 ∧
      (localTime instant timezone).minute.val / 60 = 0
  minute : ∀ instant timezone, (intl.clockParts instant timezone).minute =
    (localTime instant timezone).minute % 60

def weekLength : Int := 7 * 1440

def LocalTime.weekMinute (time : LocalTime) : Int := time.day * 1440 + time.minute

/-- An interval of the circular week, without its end. -/
def WithinWeek (start length moment : Int) : Prop := (moment - start) % weekLength < length

instance (start length moment : Int) : Decidable (WithinWeek start length moment) :=
  inferInstanceAs (Decidable (_ < _))

def TimeSlot.opensAt (slot : TimeSlot) (isoDay : Nat) : Int :=
  ((isoDay : Int) - 1) * 1440 + slot.start.toMinutes

def TimeSlot.closing (slot : TimeSlot) : Int :=
  if slot.end = ⟨23, 59⟩ then 1440 else slot.end.toMinutes

/-- A slot that ends before it starts goes on into the next day. -/
def TimeSlot.openFor (slot : TimeSlot) : Int :=
  if slot.closing < slot.start.toMinutes then slot.closing + 1440 - slot.start.toMinutes
  else slot.closing - slot.start.toMinutes

section Slots

variable {slot : TimeSlot} {time : LocalTime}

theorem WallClock.toMinutes_lt (clock : WallClock) : clock.toMinutes < 1440 := by
  obtain ⟨⟨hour, fewHours⟩, ⟨minute, fewMinutes⟩⟩ := clock
  simp only [WallClock.toMinutes]
  omega

theorem WallClock.toMinutes_inj {clock other : WallClock}
    (same : clock.toMinutes = other.toMinutes) : clock = other := by
  obtain ⟨⟨hour, fewHours⟩, ⟨minute, fewMinutes⟩⟩ := clock
  obtain ⟨⟨otherHour, fewOthers⟩, ⟨otherMinute, fewOtherMinutes⟩⟩ := other
  simp only [WallClock.toMinutes] at same
  have hours : hour = otherHour := by omega
  have minutes : minute = otherMinute := by omega
  subst hours minutes
  rfl

theorem endMinute_eq (slot : TimeSlot) : (endMinute slot.end : Int) = slot.closing := by
  have last : slot.end.toMinutes = 23 * 60 + 59 ↔ slot.end = ⟨23, 59⟩ :=
    ⟨fun same => WallClock.toMinutes_inj same, fun same => by rw [same]; rfl⟩
  unfold endMinute TimeSlot.closing endOfDay
  by_cases whole : slot.end = ⟨23, 59⟩
  · rw [if_pos whole, if_pos (last.mpr whole)]
    rfl
  · rw [if_neg whole, if_neg fun same => whole (last.mp same)]

theorem weekOffset {later minute start : Int} (few : 0 ≤ later) (week : later < 7)
    (early : 0 ≤ minute) (late : minute < 1440) (begins : 0 ≤ start) (before : start < 1440) :
    (later * 1440 + (minute - start)) % weekLength =
      if later = 0 ∧ minute < start then minute - start + weekLength
      else later * 1440 + (minute - start) := by
  unfold weekLength
  split <;> omega

theorem withinWeek_iff {isoDay : Nat} (first : 1 ≤ isoDay) (last : isoDay ≤ 7) :
    WithinWeek (slot.opensAt isoDay) slot.openFor time.weekMinute ↔
      if slot.start.toMinutes ≤ endMinute slot.end then
        isoDay = time.day + 1 ∧ slot.start.toMinutes ≤ time.minute ∧
          time.minute < endMinute slot.end
      else
        isoDay = time.day + 1 ∧ slot.start.toMinutes ≤ time.minute ∨
          isoDay = (if time.day.val = 0 then 7 else time.day.val) ∧
            time.minute < endMinute slot.end := by
  have starts := slot.start.toMinutes_lt
  have ends : endMinute slot.end ≤ 1440 := by
    unfold endMinute endOfDay
    have := slot.end.toMinutes_lt
    split <;> omega
  obtain ⟨⟨day, fewDays⟩, ⟨minute, fewMinutes⟩⟩ := time
  unfold WithinWeek TimeSlot.opensAt TimeSlot.openFor LocalTime.weekMinute weekLength
  rw [← endMinute_eq]
  generalize slot.start.toMinutes = start at *
  generalize endMinute slot.end = finish at *
  dsimp only
  -- The days from the slot's day to this one, around the week.
  obtain ⟨later, few, week, gap⟩ : ∃ later : Int, 0 ≤ later ∧ later < 7 ∧
      ((day : Int) - (isoDay - 1) = later ∨ (day : Int) - (isoDay - 1) + 7 = later) := by
    rcases Nat.lt_or_ge day (isoDay - 1) with wrapped | ahead
    · exact ⟨day - (isoDay - 1) + 7, by omega, by omega, .inr rfl⟩
    · exact ⟨day - (isoDay - 1), by omega, by omega, .inl rfl⟩
  have around : ((day : Int) * 1440 + minute - (((isoDay : Int) - 1) * 1440 + start)) %
      (7 * 1440) = (later * 1440 + ((minute : Int) - start)) % weekLength := by
    unfold weekLength
    omega
  have offset := weekOffset few week (by omega : (0 : Int) ≤ minute) (by omega)
    (by omega : (0 : Int) ≤ start) (by omega)
  have sameDay : isoDay = day + 1 ↔ later = 0 := by omega
  have nextDay : isoDay = (if day = 0 then 7 else day) ↔ later = 1 := by
    split <;> omega
  rw [around, offset, sameDay, nextDay]
  clear around offset sameDay nextDay gap
  unfold weekLength
  split <;> split <;> split <;> omega

theorem slotAdmits_iff (days : slot.days.all isIsoDay = true) :
    slotAdmits slot ⟨time.day.val + 1, time.minute.val⟩ = true ↔
      ∃ isoDay ∈ slot.days, WithinWeek (slot.opensAt isoDay) slot.openFor time.weekMinute := by
  have each := exists_congr fun isoDay => and_congr_right fun member : isoDay ∈ slot.days =>
    have within := of_decide_eq_true (List.all_eq_true.mp days isoDay member)
    @withinWeek_iff slot time isoDay within.1 within.2
  have previous : (if time.day.val + 1 = 1 then 7 else time.day.val + 1 - 1) =
      if time.day.val = 0 then 7 else time.day.val := by
    split <;> split <;> omega
  rw [each]
  unfold slotAdmits
  dsimp only
  rw [previous]
  generalize (if time.day.val = 0 then 7 else time.day.val) = previousDay
  split
  · simp only [Bool.and_eq_true, List.contains_iff_mem, decide_eq_true_eq]
    constructor
    · rintro ⟨⟨member, started⟩, running⟩
      exact ⟨_, member, rfl, started, running⟩
    · rintro ⟨isoDay, member, rfl, started, running⟩
      exact ⟨⟨member, started⟩, running⟩
  · simp only [Bool.or_eq_true, Bool.and_eq_true, List.contains_iff_mem, decide_eq_true_eq]
    constructor
    · rintro (⟨member, started⟩ | ⟨member, running⟩)
      · exact ⟨_, member, .inl ⟨rfl, started⟩⟩
      · exact ⟨_, member, .inr ⟨rfl, running⟩⟩
    · rintro ⟨isoDay, member, ⟨rfl, started⟩ | ⟨rfl, running⟩⟩
      · exact .inl ⟨member, started⟩
      · exact .inr ⟨member, running⟩

end Slots

theorem localParts_eq {intl : Intl} {localTime : Int → String → LocalTime}
    (renders : intl.Renders localTime) (instant : Int) (timezone : String) :
    localParts intl instant timezone =
      ⟨(localTime instant timezone).day.val + 1, (localTime instant timezone).minute.val⟩ := by
  have weekday := renders.weekday instant timezone
  have hour := renders.hour instant timezone
  have minute := renders.minute instant timezone
  have number : ∀ day, weekdayNumber (weekdayName day) = day.val + 1 := by decide
  have minutes : (intl.clockParts instant timezone).hour % 24 * 60 +
      (intl.clockParts instant timezone).minute = (localTime instant timezone).minute.val := by
    omega
  unfold localParts
  dsimp only
  rw [weekday, number, minutes]

/-- A time window passes exactly in the union of its slots' intervals of the week. -/
theorem time_window_is_a_union_of_intervals (intl : Intl)
    (localTime : Int → String → LocalTime) (renders : intl.Renders localTime)
    (slots : List TimeSlot)
    (accepted : (RewardConditionConfig.timeWindow slots).parse = some (.timeWindow slots))
    (context : ConditionContext) (timezone : String)
    (located : context.timezone = some timezone) :
    checkTimeWindow intl slots context = true ↔
      ∃ slot ∈ slots, ∃ isoDay ∈ slot.days,
        WithinWeek (slot.opensAt isoDay) slot.openFor
          (localTime context.occurredAtUtc timezone).weekMinute := by
  have days : ∀ slot ∈ slots, slot.days.all isIsoDay = true := by
    intro slot member
    rw [RewardConditionConfig.parse] at accepted
    split at accepted
    · next bounds =>
        exact (Bool.and_eq_true _ _ ▸ List.all_eq_true.mp bounds.2.2 slot member).2
    · contradiction
  unfold checkTimeWindow slotsAdmit
  rw [located]
  dsimp only
  rw [localParts_eq renders, List.any_eq_true]
  exact exists_congr fun slot => and_congr_right fun member => slotAdmits_iff (days slot member)

/-! ### A Friday night -/

def greenwichTime (instant : Int) (_timezone : String) : LocalTime where
  day := ⟨((instant / 86400000 + 3) % 7).toNat, by omega⟩
  minute := ⟨(instant / 60000 % 1440).toNat, by omega⟩

def greenwichClock : Intl where
  civilDate _ _ := ⟨1970, 1, 1⟩
  clockParts instant timezone :=
    let time := greenwichTime instant timezone
    { weekday := weekdayName time.day
      hour := if time.minute.val / 60 = 0 then 24 else time.minute.val / 60
      minute := time.minute.val % 60 }
  supportsCurrency _ := false
  toUpperCase text := text
  toLowerCase text := text

theorem greenwichClock_renders : greenwichClock.Renders greenwichTime := by
  constructor
  · intro instant timezone
    rfl
  · intro instant timezone
    simp only [greenwichClock]
    split
    · next midnight => exact .inr ⟨rfl, midnight⟩
    · exact .inl rfl
  · intro instant timezone
    rfl

/-- Friday from ten in the evening until two passes on Saturday at half past midnight. -/
theorem friday_night_passes : checkTimeWindow greenwichClock [⟨[5], ⟨22, 0⟩, ⟨2, 0⟩⟩]
    { occurredAtUtc := 174600000, timezone := some "Europe/London", content := none,
      customerFirstSeenAt := none } = true :=
  (time_window_is_a_union_of_intervals greenwichClock greenwichTime greenwichClock_renders
    [⟨[5], ⟨22, 0⟩, ⟨2, 0⟩⟩] (by decide) _ "Europe/London" rfl).mpr
    ⟨_, List.mem_cons_self, 5, List.mem_cons_self, by decide +kernel⟩

end UnifiedService.Rewards
