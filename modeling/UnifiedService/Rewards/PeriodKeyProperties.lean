import UnifiedService.Library.Calendar
import UnifiedService.Library.Digits
import UnifiedService.Rewards.Calendar
import Std.Data.String.ToInt

/-! Cap period keys against the calendar: the keys of a scope partition time as its periods
do, and the keys of two scopes are never the same. -/

set_option autoImplicit false

namespace UnifiedService.Rewards

open UnifiedService.Library

/-! ### The calendar -/

def CivilDate.civil (date : CivilDate) : Library.CivilDate where
  year := date.year
  month := date.month.toNat
  day := date.day.toNat

def CivilDate.number (date : CivilDate) : Int := dayOf date.civil

/-- What is taken of `Intl`: a local date is a date of the calendar. -/
def Intl.Gregorian (intl : Intl) : Prop :=
  ∀ instant timezone, (intl.civilDate instant timezone).civil.Valid

section Dates

variable {date other : CivilDate}

/-- Month and day within their ranges, whatever the length of the month. -/
def CivilDate.InRange (date : CivilDate) : Prop :=
  1 ≤ date.month ∧ date.month ≤ 12 ∧ 1 ≤ date.day ∧ date.day ≤ 31

theorem CivilDate.ranges (valid : date.civil.Valid) : date.InRange := by
  have first := valid.month_pos
  have last := valid.month_le
  have least := valid.day_pos
  have most := valid.day_le
  have length : monthLength date.civil.year date.civil.month ≤ 31 := by
    unfold monthLength
    split
    · split <;> decide
    all_goals decide
  unfold CivilDate.InRange CivilDate.civil at *
  dsimp only at *
  omega

theorem daysFromCivil_eq (ranges : date.InRange) : daysFromCivil date = date.number := by
  obtain ⟨year, month, day⟩ := date
  unfold CivilDate.InRange at ranges
  unfold daysFromCivil CivilDate.number dayOf CivilDate.civil
  dsimp only at *
  obtain ⟨months, rfl⟩ : ∃ months : Nat, month = months := ⟨month.toNat, by omega⟩
  obtain ⟨days, rfl⟩ : ∃ days : Nat, day = days := ⟨day.toNat, by omega⟩
  have few : months ≤ 12 := by omega
  rcases Nat.lt_or_ge 2 months with after | before
  · have march : (months + 9) % 12 = months - 3 := by omega
    simp only [Int.toNat_natCast, if_neg (by omega : ¬months ≤ 2),
      if_neg (by omega : ¬(months : Int) ≤ 2), march, daysBefore]
    omega
  · have march : (months + 9) % 12 = months + 9 := Nat.mod_eq_of_lt (by omega)
    simp only [Int.toNat_natCast, if_pos before, if_pos (by omega : (months : Int) ≤ 2), march,
      daysBefore]
    omega

theorem getUTCFullYear_eq (days : Int) : getUTCFullYear days = (civilDate days).year := by
  obtain ⟨day, day_eq⟩ : ∃ day : Nat, ((days + 719468) % 146097).toNat = day := ⟨_, rfl⟩
  obtain ⟨year, worked, few, before, -⟩ := yearOfEra_spec (by omega : day < 146097)
  have rest : days + 719468 - (days + 719468) / 146097 * 146097 = (day : Int) := by omega
  have whole : ((day : Int) - day / 1460 + day / 36524 - day / 146096) / 365 = (year : Int) := by
    omega
  have length : (day : Int) - (365 * year + year / 4 - year / 100) =
      (day - (365 * year + year / 4 - year / 100) : Nat) := by omega
  unfold getUTCFullYear civilDate
  simp only [day_eq, worked, rest, whole, length]
  generalize day - (365 * year + year / 4 - year / 100) = dayOfYear
  by_cases early : (5 * dayOfYear + 2) / 153 < 10
  · rw [if_pos early, if_neg (by omega)]
  · rw [if_neg early, if_pos (by omega)]

theorem thursdayOf_eq (days : Int) : thursdayOf days = isoThursday days := by
  unfold thursdayOf isoDayOfWeek isoThursday mondayOf
  dsimp only
  split <;> omega

end Dates

/-! ### The texts of keys -/

section Texts

variable {value another : Int} {letter : Char}

theorem toString_letters (value : Int) :
    (toString value).toList = Nat.toDigits 10 value.natAbs ∨
      (toString value).toList = '-' :: Nat.toDigits 10 value.natAbs := by
  cases value with
  | ofNat number => exact .inl Nat.toList_repr
  | negSucc number =>
      right
      have text : toString (Int.negSucc number) = "-" ++ Nat.repr (number + 1) := rfl
      rw [text, String.toList_append, Nat.toList_repr]
      rfl

theorem notMem_toString (noDigit : letter.isDigit = false) (noSign : letter ≠ '-') (value : Int) :
    letter ∉ (toString value).toList := by
  have clean := notMem_toDigits noDigit value.natAbs
  rcases toString_letters value with same | same
  · rwa [same]
  · rw [same, List.mem_cons]
    exact fun member => member.elim noSign clean

theorem dash_notMem_tail (value : Int) : '-' ∉ (toString value).toList.tail := by
  have clean := notMem_toDigits (by decide : '-'.isDigit = false) value.natAbs
  rcases toString_letters value with same | same
  · rw [same]
    exact fun member => clean (List.mem_of_mem_tail member)
  · rw [same]
    exact clean

theorem toString_ne_nil (value : Int) : (toString value).toList ≠ [] := by
  rcases toString_letters value with same | same
  · rw [same]
    exact Nat.toDigits_ne_nil
  · rw [same]
    exact List.cons_ne_nil _ _

theorem pad_letters (value : Int) : (pad value).toList = (toString value).toList ∨
    (pad value).toList = '0' :: (toString value).toList := by
  unfold pad
  dsimp only
  split
  · exact .inr String.toList_append
  · exact .inl rfl

theorem notMem_pad (noDigit : letter.isDigit = false) (noSign : letter ≠ '-') (value : Int) :
    letter ∉ (pad value).toList := by
  have clean := notMem_toString noDigit noSign value
  rcases pad_letters value with same | same
  · rwa [same]
  · rw [same, List.mem_cons]
    refine fun member => member.elim (fun zero => ?_) clean
    subst zero
    contradiction

theorem toString_of_nonneg (nonneg : 0 ≤ value) :
    (toString value).toList = Nat.toDigits 10 value.toNat := by
  obtain ⟨number, rfl⟩ := Int.eq_ofNat_of_zero_le nonneg
  exact Nat.toList_repr

theorem pad_eq (nonneg : 0 ≤ value) : pad value = padded 2 value.toNat := by
  have digits := toString_of_nonneg nonneg
  have some := List.length_pos_iff.mpr (toString_ne_nil value)
  have length : (toString value).length = (toString value).toList.length := rfl
  unfold pad padded
  dsimp only
  rw [← String.toList_inj, String.toList_ofList, ← digits]
  split
  · have one : 2 - (toString value).toList.length = 1 := by omega
    rw [one, String.toList_append]
    rfl
  · have none : 2 - (toString value).toList.length = 0 := by omega
    rw [none]
    rfl

theorem pad_inj (nonneg : 0 ≤ value) (few : value < 100) (otherNonneg : 0 ≤ another)
    (otherFew : another < 100) (same : pad value = pad another) : value = another := by
  rw [pad_eq nonneg, pad_eq otherNonneg] at same
  have first := readDigits_padded Nat.two_pos (by omega : value.toNat < 10 ^ 2) []
  have second := readDigits_padded Nat.two_pos (by omega : another.toNat < 10 ^ 2) []
  rw [same, second] at first
  have equal := (Prod.mk.inj (Option.some.inj first)).1
  omega

theorem dash_notMem_pad (nonneg : 0 ≤ value) : '-' ∉ (pad value).toList := by
  rw [pad_eq nonneg]
  intro member
  have digit := List.all_eq_true.mp (padded_digits 2 value.toNat) '-' member
  contradiction

end Texts

def dayKey (date : CivilDate) : String := s!"{date.year}-{pad date.month}-{pad date.day}"

def monthKey (date : CivilDate) : String := s!"{date.year}-{pad date.month}"

def weekKey (weekYear week : Int) : String := s!"{weekYear}-W{pad week}"

theorem toString_text (text : String) : toString text = text := rfl

theorem dash_letters : "-".toList = ['-'] := rfl

theorem dayKey_letters (date : CivilDate) : (dayKey date).toList = (toString date.year).toList ++
    '-' :: ((pad date.month).toList ++ '-' :: (pad date.day).toList) := by
  simp [dayKey, toString_text, dash_letters, String.toList_append]

theorem monthKey_letters (date : CivilDate) : (monthKey date).toList =
    (toString date.year).toList ++ '-' :: (pad date.month).toList := by
  simp [monthKey, toString_text, dash_letters, String.toList_append]

theorem weekKey_letters (weekYear week : Int) : (weekKey weekYear week).toList =
    ((toString weekYear).toList ++ ['-']) ++ 'W' :: (pad week).toList := by
  have sign : "-W".toList = ['-', 'W'] := rfl
  simp [weekKey, toString_text, sign, String.toList_append]

section Keys

variable {date other : CivilDate}

theorem monthKey_inj (valid : date.civil.Valid) (otherValid : other.civil.Valid) :
    monthKey date = monthKey other ↔ date.year = other.year ∧ date.month = other.month := by
  obtain ⟨first, last, -, -⟩ := CivilDate.ranges valid
  obtain ⟨otherFirst, otherLast, -, -⟩ := CivilDate.ranges otherValid
  constructor
  · intro same
    rw [← String.toList_inj, monthKey_letters, monthKey_letters] at same
    obtain ⟨years, months⟩ := append_cons_last_inj (dash_notMem_pad (by omega))
      (dash_notMem_pad (by omega)) same
    exact ⟨Int.repr_injective (String.toList_inj.mp years),
      pad_inj (by omega) (by omega) (by omega) (by omega) (String.toList_inj.mp months)⟩
  · rintro ⟨years, months⟩
    unfold monthKey
    rw [years, months]

theorem dayKey_inj (valid : date.civil.Valid) (otherValid : other.civil.Valid) :
    dayKey date = dayKey other ↔ date = other := by
  obtain ⟨first, last, least, most⟩ := CivilDate.ranges valid
  obtain ⟨otherFirst, otherLast, otherLeast, otherMost⟩ := CivilDate.ranges otherValid
  refine ⟨fun same => ?_, congrArg _⟩
  rw [← String.toList_inj, dayKey_letters, dayKey_letters, ← List.cons_append, ← List.append_assoc,
    ← List.cons_append, ← List.append_assoc] at same
  obtain ⟨months, days⟩ := append_cons_last_inj (dash_notMem_pad (by omega))
    (dash_notMem_pad (by omega)) same
  rw [← monthKey_letters, ← monthKey_letters, String.toList_inj] at months
  obtain ⟨years, month_eq⟩ := (monthKey_inj valid otherValid).mp months
  have day_eq := pad_inj (by omega) (by omega) (by omega) (by omega) (String.toList_inj.mp days)
  obtain ⟨year, month, day⟩ := date
  obtain ⟨otherYear, otherMonth, otherDay⟩ := other
  dsimp only at *
  rw [years, month_eq, day_eq]

theorem weekKey_inj {weekYear otherYear week otherWeek : Int} :
    weekKey weekYear week = weekKey otherYear otherWeek ↔
      weekYear = otherYear ∧ pad week = pad otherWeek := by
  have clean : ∀ year : Int, 'W' ∉ (toString year).toList ++ ['-'] := by
    intro year member
    rcases List.mem_append.mp member with inside | last
    · exact notMem_toString (by decide) (by decide) year inside
    · exact absurd (List.mem_singleton.mp last) (by decide)
  constructor
  · intro same
    rw [← String.toList_inj, weekKey_letters, weekKey_letters] at same
    obtain ⟨years, weeks⟩ := append_cons_first_inj (clean weekYear) (clean otherYear) same
    exact ⟨Int.repr_injective (String.toList_inj.mp (List.append_cancel_right years)),
      String.toList_inj.mp weeks⟩
  · rintro ⟨rfl, weeks⟩
    unfold weekKey
    rw [weeks]

def scopeOfKey (key : String) : RewardCapScope :=
  if 'L' ∈ key.toList then .lifetime
  else if 'W' ∈ key.toList then .week
  else
    match key.toList.tail.count '-' with
    | 0 => .year
    | 1 => .month
    | _ => .day

theorem scopeOfKey_week (weekYear week : Int) : scopeOfKey (weekKey weekYear week) = .week := by
  have noLifetime : 'L' ∉ (weekKey weekYear week).toList := by
    rw [weekKey_letters, List.append_assoc]
    refine fun member => (List.mem_append.mp member).elim
      (notMem_toString (by decide) (by decide) weekYear) fun after => ?_
    simp [notMem_pad, (by decide : 'L'.isDigit = false)] at after
  have isWeek : 'W' ∈ (weekKey weekYear week).toList := by
    rw [weekKey_letters]
    exact List.mem_append_right _ List.mem_cons_self
  rw [scopeOfKey, if_neg noLifetime, if_pos isWeek]

theorem scopeOfKey_dated {key : String} {year : Int} {rest : List Char}
    (same : key.toList = (toString year).toList ++ rest)
    (noLifetime : 'L' ∉ rest) (noWeek : 'W' ∉ rest) :
    scopeOfKey key = match rest.count '-' with
      | 0 => .year
      | 1 => .month
      | _ => .day := by
  have clean : 'L' ∉ (toString year).toList := notMem_toString (by decide) (by decide) year
  have cleanWeek : 'W' ∉ (toString year).toList :=
    notMem_toString (by decide) (by decide) year
  have dashes : key.toList.tail.count '-' = rest.count '-' := by
    rw [same, List.tail_append_of_ne_nil (toString_ne_nil year), List.count_append,
      List.count_eq_zero_of_not_mem (dash_notMem_tail year), Nat.zero_add]
  unfold scopeOfKey
  rw [dashes, same, if_neg fun member => (List.mem_append.mp member).elim clean noLifetime,
    if_neg fun member => (List.mem_append.mp member).elim cleanWeek noWeek]

theorem scopeOfKey_day (valid : date.civil.Valid) : scopeOfKey (dayKey date) = .day := by
  obtain ⟨first, -, least, -⟩ := CivilDate.ranges valid
  have dashes : ('-' :: ((pad date.month).toList ++ '-' :: (pad date.day).toList)).count '-' =
      2 := by
    rw [List.count_cons_self, List.count_append, List.count_cons_self,
      List.count_eq_zero_of_not_mem (dash_notMem_pad (by omega)),
      List.count_eq_zero_of_not_mem (dash_notMem_pad (by omega))]
  rw [scopeOfKey_dated (dayKey_letters date), dashes]
  all_goals simp [notMem_pad, (by decide : 'L'.isDigit = false), (by decide : 'W'.isDigit = false)]

theorem scopeOfKey_month (valid : date.civil.Valid) : scopeOfKey (monthKey date) = .month := by
  obtain ⟨first, -, -, -⟩ := CivilDate.ranges valid
  have dashes : ('-' :: (pad date.month).toList).count '-' = 1 := by
    rw [List.count_cons_self, List.count_eq_zero_of_not_mem (dash_notMem_pad (by omega))]
  rw [scopeOfKey_dated (monthKey_letters date), dashes]
  all_goals simp [notMem_pad, (by decide : 'L'.isDigit = false), (by decide : 'W'.isDigit = false)]

theorem scopeOfKey_year (year : Int) : scopeOfKey (toString year) = .year :=
  scopeOfKey_dated (List.append_nil _).symm List.not_mem_nil List.not_mem_nil

/-! ### Weeks -/

def isoWeekName (day : Int) : String := weekKey (isoWeekYear day) (isoWeekNumber day)

theorem isoWeekName_inj {day another : Int} :
    isoWeekName day = isoWeekName another ↔ mondayOf day = mondayOf another := by
  have range := isoWeekNumber_range day
  have otherRange := isoWeekNumber_range another
  rw [← isoWeek_inj, isoWeekName, isoWeekName, weekKey_inj]
  refine and_congr_right fun _ => ⟨fun same => ?_, congrArg _⟩
  exact pad_inj (by omega) (by omega) (by omega) (by omega) same

/-- `Date.UTC` reads the year as it is written. -/
def yearAsWritten (year : Int) : Bool := !(decide (0 ≤ year) && decide (year ≤ 99))

def CivilDate.asWritten (date : CivilDate) : Bool :=
  yearAsWritten date.year && yearAsWritten (isoWeekYear date.number)

theorem yearAsWritten_iff {year : Int} : yearAsWritten year = true ↔ year < 0 ∨ 99 < year := by
  simp [yearAsWritten]

theorem dateUTC_eq (ranges : date.InRange) (written : yearAsWritten date.year = true) :
    dateUTC date = date.number := by
  rw [yearAsWritten_iff] at written
  unfold dateUTC
  rw [if_neg (by omega)]
  exact daysFromCivil_eq ranges

/-- The years of the first century are read as those of the twentieth. -/
theorem dateUTC_of_not (ranges : date.InRange) (misread : yearAsWritten date.year = false) :
    dateUTC date = ({ date with year := 1900 + date.year } : CivilDate).number := by
  have early : ¬(date.year < 0 ∨ 99 < date.year) := by
    rw [← yearAsWritten_iff, misread]
    exact Bool.false_ne_true
  unfold dateUTC
  rw [if_pos (by omega)]
  exact daysFromCivil_eq ranges

def CivilDate.fourth (year : Int) : CivilDate := ⟨year, 1, 4⟩

theorem fourth_inRange (year : Int) : (CivilDate.fourth year).InRange :=
  ⟨Int.le_refl 1, (by decide : (1 : Int) ≤ 12), (by decide : (1 : Int) ≤ 4),
    (by decide : (4 : Int) ≤ 31)⟩

theorem fourth_dateUTC {year : Int} (written : yearAsWritten year = true) :
    dateUTC ⟨year, 1, 4⟩ = (CivilDate.fourth year).number :=
  dateUTC_eq (fourth_inRange year) written

theorem fourth_misread {year : Int} (misread : yearAsWritten year = false) :
    dateUTC ⟨year, 1, 4⟩ = (CivilDate.fourth (1900 + year)).number :=
  dateUTC_of_not (fourth_inRange year) misread

theorem fourth_number (year : Int) :
    (CivilDate.fourth year).number = dayOf ⟨year, 1, 1⟩ + 3 := by
  simp [CivilDate.fourth, CivilDate.number, CivilDate.civil, dayOf]
  omega

theorem isoWeekNumber_eq (day : Int) : 1 + (isoThursday day -
    isoThursday (CivilDate.fourth (isoWeekYear day)).number) / 7 = isoWeekNumber day := by
  rw [fourth_number]
  unfold isoWeekNumber isoThursday mondayOf
  omega

theorem isoWeekKey_eq (ranges : date.InRange) (written : date.asWritten = true) :
    isoWeekKey date = isoWeekName date.number := by
  obtain ⟨own, weeks⟩ := Bool.and_eq_true _ _ ▸ written
  have year : getUTCFullYear (isoThursday date.number) = isoWeekYear date.number :=
    getUTCFullYear_eq _
  unfold isoWeekKey isoWeekName weekKey
  simp only [dateUTC_eq ranges own, thursdayOf_eq, year, fourth_dateUTC weeks,
    isoWeekNumber_eq]

theorem isoWeekYear_near (ranges : date.InRange) : date.year - 1 ≤ isoWeekYear date.number ∧
    isoWeekYear date.number ≤ date.year + 1 := by
  obtain ⟨first, last, least, most⟩ := ranges
  have within := dayOf_year date.civil (by simp only [CivilDate.civil]; omega)
    (by simp only [CivilDate.civil]; omega) (by simp only [CivilDate.civil]; omega)
    (by simp only [CivilDate.civil]; omega)
  change dayOf ⟨date.year, 1, 1⟩ ≤ date.number ∧
    date.number ≤ dayOf ⟨date.year, 1, 1⟩ + 365 at within
  unfold isoWeekYear isoThursday mondayOf
  exact civilDate_near (by omega) (by omega)

theorem dash_mem_pad {value : Int} (negative : value < 0) : '-' ∈ (pad value).toList := by
  obtain ⟨number, rfl⟩ := Int.eq_negSucc_of_lt_zero negative
  have text : toString (Int.negSucc number) = "-" ++ Nat.repr (number + 1) := rfl
  have dash : '-' ∈ (toString (Int.negSucc number)).toList := by
    rw [text, String.toList_append]
    exact List.mem_append_left _ (List.mem_singleton.mpr rfl)
  rcases pad_letters (Int.negSucc number) with same | same
  · rwa [same]
  · rw [same]
    exact List.mem_cons_of_mem _ dash

theorem isoWeekKey_ne (ranges : date.InRange) (misread : date.asWritten = false) :
    isoWeekKey date ≠ isoWeekName date.number := by
  have near := isoWeekYear_near ranges
  intro same
  unfold isoWeekKey at same
  cases own : yearAsWritten date.year with
  | false =>
      -- The week is one of the twentieth century, which the date is not near.
      have moved : ({ date with year := 1900 + date.year } : CivilDate).InRange := ranges
      have movedNear := isoWeekYear_near moved
      rw [dateUTC_of_not ranges own] at same
      have years := (weekKey_inj.mp same).1
      rw [getUTCFullYear_eq, thursdayOf_eq] at years
      change isoWeekYear _ = _ at years
      have early : ¬(date.year < 0 ∨ 99 < date.year) := by
        rw [← yearAsWritten_iff, own]
        exact Bool.false_ne_true
      dsimp only at movedNear
      omega
  | true =>
      -- The year of the week is right, but its first Thursday is looked for too late.
      have weeks : yearAsWritten (isoWeekYear date.number) = false := by
        unfold CivilDate.asWritten at misread
        rwa [own, Bool.true_and] at misread
      have year : getUTCFullYear (isoThursday date.number) = isoWeekYear date.number :=
        getUTCFullYear_eq _
      rw [dateUTC_eq ranges own] at same
      have pads := (weekKey_inj.mp same).2
      rw [thursdayOf_eq, thursdayOf_eq, year, fourth_misread weeks,
        fourth_number] at pads
      have range := isoWeekNumber_range date.number
      have clean := dash_notMem_pad (by omega : 0 ≤ isoWeekNumber date.number)
      rw [← pads] at clean
      refine clean (dash_mem_pad ?_)
      have later := newYear_later
        (by omega : isoWeekYear date.number < 1900 + isoWeekYear date.number)
      have within := (civilDate_within (isoThursday date.number)).2
      change _ ≤ dayOf ⟨isoWeekYear date.number, 1, 1⟩ + 365 at within
      generalize isoWeekYear date.number = weekYear at *
      unfold isoThursday mondayOf at *
      omega

end Keys

/-! ### Periods -/

section Periods

variable (intl : Intl) (first second : Int) (timezone : String)

/-- The local dates of two instants are told apart by their keys as the periods tell them
apart, keys of different scopes differ, and weeks are named as ISO 8601 names them. -/
structure PartitionsTime : Prop where
  day : derivePeriodKey intl first timezone .day = derivePeriodKey intl second timezone .day ↔
    localYmd intl first timezone = localYmd intl second timezone
  week : derivePeriodKey intl first timezone .week = derivePeriodKey intl second timezone .week ↔
    mondayOf (localYmd intl first timezone).number =
      mondayOf (localYmd intl second timezone).number
  month : derivePeriodKey intl first timezone .month =
      derivePeriodKey intl second timezone .month ↔
    (localYmd intl first timezone).year = (localYmd intl second timezone).year ∧
      (localYmd intl first timezone).month = (localYmd intl second timezone).month
  year : derivePeriodKey intl first timezone .year = derivePeriodKey intl second timezone .year ↔
    (localYmd intl first timezone).year = (localYmd intl second timezone).year
  scopes : ∀ scope other key, derivePeriodKey intl first timezone scope = some key →
    derivePeriodKey intl second timezone other = some key → scope = other
  weekNames : ∀ instant, instant = first ∨ instant = second →
    derivePeriodKey intl instant timezone .week =
      some (isoWeekName (localYmd intl instant timezone).number)

variable {intl}

theorem scopeOfKey_derivePeriodKey (correct : intl.Gregorian) (instant : Int)
    {scope : RewardCapScope} {key : String}
    (derived : derivePeriodKey intl instant timezone scope = some key) :
    scopeOfKey key = scope := by
  cases scope with
  | none => contradiction
  | lifetime =>
      obtain rfl := Option.some.inj derived
      decide
  | day =>
      obtain rfl := Option.some.inj derived
      exact scopeOfKey_day (correct instant timezone)
  | week =>
      obtain rfl := Option.some.inj derived
      exact scopeOfKey_week _ _
  | month =>
      obtain rfl := Option.some.inj derived
      exact scopeOfKey_month (correct instant timezone)
  | year =>
      obtain rfl := Option.some.inj derived
      exact scopeOfKey_year _

/-- The keys partition time if and only if neither date, nor the week it lies in, belongs to
one of the years 0 to 99. -/
theorem period_keys_partition (intl : Intl) (correct : intl.Gregorian) (first second : Int)
    (timezone : String) :
    PartitionsTime intl first second timezone ↔
      (localYmd intl first timezone).asWritten = true ∧
        (localYmd intl second timezone).asWritten = true := by
  have valid : (localYmd intl first timezone).civil.Valid := correct first timezone
  have otherValid : (localYmd intl second timezone).civil.Valid := correct second timezone
  constructor
  · intro partitions
    have written : ∀ instant, instant = first ∨ instant = second →
        (localYmd intl instant timezone).asWritten = true := by
      intro instant which
      by_contra misread
      exact isoWeekKey_ne (CivilDate.ranges (correct instant timezone)) (Bool.eq_false_iff.mpr misread)
        (Option.some.inj (partitions.weekNames instant which))
    exact ⟨written first (.inl rfl), written second (.inr rfl)⟩
  · rintro ⟨written, otherWritten⟩
    have name := isoWeekKey_eq (CivilDate.ranges valid) written
    have otherName := isoWeekKey_eq (CivilDate.ranges otherValid) otherWritten
    constructor
    · exact (Option.some_inj).trans (dayKey_inj valid otherValid)
    · simp only [derivePeriodKey, Option.some_inj, name, otherName]
      exact isoWeekName_inj
    · exact (Option.some_inj).trans (monthKey_inj valid otherValid)
    · exact (Option.some_inj).trans ⟨Int.repr_injective, congrArg _⟩
    · intro scope other key derived otherDerived
      rw [← scopeOfKey_derivePeriodKey timezone correct first derived,
        scopeOfKey_derivePeriodKey timezone correct second otherDerived]
    · rintro instant (rfl | rfl)
      · exact congrArg some name
      · exact congrArg some otherName

end Periods

def greenwich : Intl where
  civilDate instant _ :=
    let date := civilDate (instant / 86400000)
    ⟨date.year, date.month, date.day⟩
  clockParts _ _ := ⟨"Mon", 0, 0⟩
  supportsCurrency _ := false
  toUpperCase text := text
  toLowerCase text := text

theorem greenwich_gregorian : greenwich.Gregorian := by
  intro instant timezone
  exact civilDate_valid (instant / 86400000)

/-- The third of January of the year 50 shares its week with that of 1950. -/
theorem week_of_another_century :
    ¬PartitionsTime greenwich (dayOf ⟨50, 1, 3⟩ * 86400000) (dayOf ⟨1950, 1, 3⟩ * 86400000)
      "Europe/London" := by
  intro partitions
  have weeks := partitions.week.mp (by decide +kernel)
  exact absurd weeks (by decide +kernel)

/-- A week at the turn of a year. -/
theorem new_year_partition : PartitionsTime greenwich (dayOf ⟨2025, 12, 29⟩ * 86400000)
    (dayOf ⟨2026, 1, 4⟩ * 86400000) "Europe/London" :=
  (period_keys_partition greenwich greenwich_gregorian _ _ _).mpr (by decide +kernel)

end UnifiedService.Rewards
