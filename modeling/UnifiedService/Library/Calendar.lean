import Mathlib.Tactic.IntervalCases
import UnifiedService.Library.IsoDate

/-! The Gregorian calendar: dates that exist, the numbers of their days, and ISO weeks. -/

set_option autoImplicit false

namespace UnifiedService.Library

def isLeap (year : Int) : Bool := year % 4 == 0 && (year % 100 != 0 || year % 400 == 0)

theorem isLeap_iff {year : Int} :
    isLeap year = true ↔ year % 4 = 0 ∧ (year % 100 ≠ 0 ∨ year % 400 = 0) := by
  simp [isLeap]

def monthLength (year : Int) : Nat → Nat
  | 2 => if isLeap year then 29 else 28
  | 4 | 6 | 9 | 11 => 30
  | _ => 31

structure CivilDate.Valid (date : CivilDate) : Prop where
  month_pos : 1 ≤ date.month
  month_le : date.month ≤ 12
  day_pos : 1 ≤ date.day
  day_le : date.day ≤ monthLength date.year date.month

/-! ### The years of an era -/

/-- A year that begins in March ends with a leap day if the year it runs into is a leap year. -/
def endsInLeap (yearOfEra : Nat) : Bool := isLeap (yearOfEra + 1)

theorem endsInLeap_iff {yearOfEra : Nat} : endsInLeap yearOfEra = true ↔
    (yearOfEra + 1) % 4 = 0 ∧ ((yearOfEra + 1) % 100 ≠ 0 ∨ (yearOfEra + 1) % 400 = 0) := by
  rw [endsInLeap, isLeap_iff]
  omega

theorem isLeap_era (era : Int) (yearOfEra : Nat) :
    isLeap (yearOfEra + era * 400 + 1) = endsInLeap yearOfEra := by
  rw [Bool.eq_iff_iff, endsInLeap_iff, isLeap_iff]
  omega

theorem daysBefore_succ (year : Nat) : daysBefore (year + 1) =
    daysBefore year + 365 + if (year + 1) % 4 = 0 ∧ (year + 1) % 100 ≠ 0 then 1 else 0 := by
  unfold daysBefore
  split <;> omega

theorem endsInLeap_of_last : ∀ year < 400,
    (daysBefore year + 365 - (daysBefore year + 365) / 1460 + (daysBefore year + 365) / 36524 -
      (daysBefore year + 365) / 146096) / 365 = year → endsInLeap year = true := by
  decide +kernel

/-! ### Dates and day numbers -/

theorem marchMonth_cases {month : Nat} (first : 1 ≤ month) (last : month ≤ 12) :
    ((month + 9) % 12 < 10 ∧ ¬month ≤ 2 ∧ (month + 9) % 12 + 3 = month) ∨
      (¬(month + 9) % 12 < 10 ∧ month ≤ 2 ∧ (month + 9) % 12 - 9 = month) := by
  rcases Nat.lt_or_ge 2 month with after | before
  · have march : (month + 9) % 12 = month - 3 := by omega
    exact .inl ⟨by omega, by omega, by omega⟩
  · have march : (month + 9) % 12 = month + 9 := Nat.mod_eq_of_lt (by omega)
    exact .inr ⟨by omega, by omega, by omega⟩

theorem monthLength_spec {year : Int} {day : Nat}
    (within : day ≤ 364 ∨ day = 365 ∧ isLeap year = true) :
    day - (153 * ((5 * day + 2) / 153) + 2) / 5 + 1 ≤
      monthLength year (if (5 * day + 2) / 153 < 10 then (5 * day + 2) / 153 + 3
        else (5 * day + 2) / 153 - 9) := by
  obtain ⟨march, march_eq⟩ : ∃ march, (5 * day + 2) / 153 = march := ⟨_, rfl⟩
  rw [march_eq]
  have last : march ≤ 11 := by omega
  interval_cases march
  case «11» =>
    rcases within with common | ⟨rfl, leap⟩
    · have short : 28 ≤ monthLength year 2 := by
        simp only [monthLength]
        split <;> omega
      exact (by omega : _ ≤ 28).trans short
    · simp [monthLength, leap]
  all_goals
    simp only [monthLength, reduceIte, Nat.reduceLT, Nat.reduceAdd, Nat.reduceSub]
    omega

theorem civilDate_valid (days : Int) : (civilDate days).Valid := by
  obtain ⟨first, last, least, -⟩ := civilDate_ranges days
  refine ⟨first, last, least, ?_⟩
  obtain ⟨year, worked, few, before, length⟩ :=
    yearOfEra_spec (by omega : ((days + 719468) % 146097).toNat < 146097)
  unfold civilDate
  simp only [worked]
  generalize ((days + 719468) % 146097).toNat = dayOfEra at *
  have fold : 365 * year + year / 4 - year / 100 = daysBefore year := rfl
  rw [fold] at before length ⊢
  obtain ⟨day, day_eq⟩ : ∃ day, dayOfEra - daysBefore year = day := ⟨_, rfl⟩
  rw [day_eq] at length ⊢
  apply monthLength_spec
  rcases Nat.lt_or_eq_of_le length with common | rfl
  · exact .inl (by omega)
  · have whole : dayOfEra = daysBefore year + 365 := by omega
    rw [whole] at worked
    have leap := endsInLeap_of_last year few worked
    rw [← isLeap_era ((days + 719468) / 146097)] at leap
    exact .inr ⟨rfl, leap⟩

/-! ### ISO weeks -/

/-- The Monday of a day's week. The first of January 1970 was a Thursday. -/
def mondayOf (day : Int) : Int := day - (day + 3) % 7

def isoThursday (day : Int) : Int := mondayOf day + 3

def isoWeekYear (day : Int) : Int := (civilDate (isoThursday day)).year

/-- How many Thursdays of its year have come by that of the week. -/
def isoWeekNumber (day : Int) : Int :=
  (isoThursday day - dayOf ⟨isoWeekYear day, 1, 1⟩) / 7 + 1

theorem dayOf_year (date : CivilDate) (first : 1 ≤ date.month) (last : date.month ≤ 12)
    (least : 1 ≤ date.day) (most : date.day ≤ 31) :
    dayOf ⟨date.year, 1, 1⟩ ≤ dayOf date ∧ dayOf date ≤ dayOf ⟨date.year, 1, 1⟩ + 365 := by
  obtain ⟨year, month, day⟩ := date
  have marches := marchMonth_cases first last
  unfold dayOf
  dsimp only at *
  generalize march_eq : (month + 9) % 12 = march at *
  generalize dayOfYear_eq : (153 * march + 2) / 5 + day - 1 = dayOfYear at *
  have newYear : (1 : Nat) ≤ 2 ∧ (153 * ((1 + 9) % 12) + 2) / 5 + 1 - 1 = 306 := by decide
  rw [if_pos newYear.1, newYear.2]
  rcases marches with ⟨early, after, month_eq⟩ | ⟨late, before, month_eq⟩
  · have summer : dayOfYear ≤ 305 := by omega
    rw [if_neg after]
    have whole : daysBefore (year % 400).toNat + 146097 * (year / 400) =
        daysBefore ((year - 1) % 400).toNat + 146097 * ((year - 1) / 400) + 365 ∨
        daysBefore (year % 400).toNat + 146097 * (year / 400) =
        daysBefore ((year - 1) % 400).toNat + 146097 * ((year - 1) / 400) + 366 := by
      by_cases first : year % 400 = 0
      · have zero : (year % 400).toNat = 0 := by omega
        have last : ((year - 1) % 400).toNat = 399 := by omega
        have era : (year - 1) / 400 = year / 400 - 1 := by omega
        rw [zero, last, era, (by decide : daysBefore 0 = 0), (by decide : daysBefore 399 = 145731)]
        omega
      · have next : (year % 400).toNat = ((year - 1) % 400).toNat + 1 := by omega
        have era : (year - 1) / 400 = year / 400 := by omega
        rw [next, daysBefore_succ, era]
        split <;> omega
    omega
  · have winter : 306 ≤ dayOfYear := by omega
    rw [if_pos before]
    omega

theorem civilDate_within (day : Int) : dayOf ⟨(civilDate day).year, 1, 1⟩ ≤ day ∧
    day ≤ dayOf ⟨(civilDate day).year, 1, 1⟩ + 365 := by
  obtain ⟨first, last, least, most⟩ := civilDate_ranges day
  have within := dayOf_year _ first last least most
  rwa [dayOf_civilDate] at within

theorem newYear_eq (year : Int) : dayOf ⟨year, 1, 1⟩ =
    365 * (year - 1) + (year - 1) / 4 - (year - 1) / 100 + (year - 1) / 400 - 719162 := by
  simp only [dayOf, daysBefore]
  rw [if_pos (by decide : 1 ≤ 2)]
  omega

theorem newYear_later {year later : Int} (before : year < later) :
    dayOf ⟨year, 1, 1⟩ + 365 * (later - year) ≤ dayOf ⟨later, 1, 1⟩ := by
  rw [newYear_eq, newYear_eq]
  omega

/-- Close to a year no day lies further away than in the next one. -/
theorem civilDate_near {day year : Int} (least : dayOf ⟨year, 1, 1⟩ - 3 ≤ day)
    (most : day ≤ dayOf ⟨year, 1, 1⟩ + 368) :
    year - 1 ≤ (civilDate day).year ∧ (civilDate day).year ≤ year + 1 := by
  obtain ⟨lower, upper⟩ := civilDate_within day
  generalize (civilDate day).year = other at *
  constructor
  · by_contra early
    have later := newYear_later (by omega : other < year)
    omega
  · by_contra late
    have later := newYear_later (by omega : year < other)
    omega

theorem isoWeekNumber_range (day : Int) : 1 ≤ isoWeekNumber day ∧ isoWeekNumber day ≤ 53 := by
  have within := civilDate_within (isoThursday day)
  unfold isoWeekNumber isoWeekYear
  omega

theorem isoWeek_inj {day other : Int} :
    isoWeekYear day = isoWeekYear other ∧ isoWeekNumber day = isoWeekNumber other ↔
      mondayOf day = mondayOf other := by
  constructor
  · rintro ⟨year, week⟩
    unfold isoWeekNumber at week
    rw [year] at week
    unfold isoThursday mondayOf at *
    omega
  · intro same
    have thursday : isoThursday day = isoThursday other := congrArg (· + 3) same
    have year : isoWeekYear day = isoWeekYear other := by
      unfold isoWeekYear
      rw [thursday]
    unfold isoWeekNumber
    rw [year, thursday]
    exact ⟨rfl, rfl⟩

end UnifiedService.Library
