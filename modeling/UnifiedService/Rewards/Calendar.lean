import UnifiedService.Rewards.Vocabulary

/-! Calendar arithmetic of the reward engine: cap period keys and local clocks.
What `Intl` and Unicode tables decide is a parameter. -/

set_option autoImplicit false

namespace UnifiedService.Rewards

structure CivilDate where
  year : Int
  month : Int
  day : Int
  deriving DecidableEq, Repr

structure ClockParts where
  weekday : String
  hour : Nat
  minute : Nat
  deriving DecidableEq, Repr

/-- What the runtime's locale data decides. Instants are milliseconds since 1970. -/
structure Intl where
  /-- `Intl.DateTimeFormat('en-CA', …)` in a timezone. -/
  civilDate : Int → String → CivilDate
  /-- `Intl.DateTimeFormat('en-GB', …).formatToParts` in a timezone. -/
  clockParts : Int → String → ClockParts
  /-- `Intl.supportedValuesOf('currency')`. -/
  supportsCurrency : String → Bool
  toUpperCase : String → String
  toLowerCase : String → String

def localYmd (intl : Intl) (instant : Int) (timezone : String) : CivilDate :=
  intl.civilDate instant timezone

structure LocalParts where
  isoDay : Nat
  minutes : Nat
  deriving DecidableEq, Repr

def weekdayNumber : String → Nat
  | "Mon" => 1
  | "Tue" => 2
  | "Wed" => 3
  | "Thu" => 4
  | "Fri" => 5
  | "Sat" => 6
  | "Sun" => 7
  | _ => 0

def localParts (intl : Intl) (instant : Int) (timezone : String) : LocalParts :=
  let parts := intl.clockParts instant timezone
  -- Midnight is rendered as hour 24.
  let hour := parts.hour % 24
  { isoDay := weekdayNumber parts.weekday, minutes := hour * 60 + parts.minute }

/-- Days since 1970-01-01 of a proleptic Gregorian date. -/
def daysFromCivil (date : CivilDate) : Int :=
  let year := if date.month ≤ 2 then date.year - 1 else date.year
  let era := year / 400
  let yearOfEra := year - era * 400
  let monthFromMarch := if date.month ≤ 2 then date.month + 9 else date.month - 3
  let dayOfYear := (153 * monthFromMarch + 2) / 5 + date.day - 1
  let dayOfEra := yearOfEra * 365 + yearOfEra / 4 - yearOfEra / 100 + dayOfYear
  era * 146097 + dayOfEra - 719468

def getUTCFullYear (days : Int) : Int :=
  let shifted := days + 719468
  let era := shifted / 146097
  let dayOfEra := shifted - era * 146097
  let yearOfEra :=
    (dayOfEra - dayOfEra / 1460 + dayOfEra / 36524 - dayOfEra / 146096) / 365
  let dayOfYear := dayOfEra - (365 * yearOfEra + yearOfEra / 4 - yearOfEra / 100)
  let monthFromMarch := (5 * dayOfYear + 2) / 153
  yearOfEra + era * 400 + if 10 ≤ monthFromMarch then 1 else 0

/-- `Date.UTC`, in days. It reads the years 0 to 99 as 1900 to 1999. -/
def dateUTC (date : CivilDate) : Int :=
  daysFromCivil
    { date with year := if 0 ≤ date.year ∧ date.year ≤ 99 then 1900 + date.year else date.year }

/-- `getUTCDay() || 7`: Monday is 1, Sunday is 7. -/
def isoDayOfWeek (days : Int) : Int :=
  let weekday := (days + 4) % 7
  if weekday = 0 then 7 else weekday

def thursdayOf (days : Int) : Int := days + 4 - isoDayOfWeek days

def pad (value : Int) : String :=
  let text := toString value
  if text.length < 2 then "0" ++ text else text

def isoWeekKey (date : CivilDate) : String :=
  let thursday := thursdayOf (dateUTC date)
  let weekYear := getUTCFullYear thursday
  let firstThursday := thursdayOf (dateUTC { year := weekYear, month := 1, day := 4 })
  -- Two Thursdays are whole weeks apart, so the division is exact.
  let week := 1 + (thursday - firstThursday) / 7
  s!"{weekYear}-W{pad week}"

def derivePeriodKey (intl : Intl) (instant : Int) (timezone : String) :
    RewardCapScope → Option String
  | .none => none
  | .lifetime => some "LIFETIME"
  | .day =>
      let date := localYmd intl instant timezone
      some s!"{date.year}-{pad date.month}-{pad date.day}"
  | .week => some (isoWeekKey (localYmd intl instant timezone))
  | .month =>
      let date := localYmd intl instant timezone
      some s!"{date.year}-{pad date.month}"
  | .year => some (toString (localYmd intl instant timezone).year)

example : isoWeekKey { year := 2025, month := 12, day := 29 } = "2026-W01" := by decide

end UnifiedService.Rewards
