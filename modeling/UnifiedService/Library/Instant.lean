import Mathlib.Data.Int.Notation

/-! Instants in milliseconds, as `Date.prototype.toISOString` prints them. -/

set_option autoImplicit false

namespace UnifiedService.Library

structure CivilDate where
  year : Int
  month : Nat
  day : Nat
  deriving DecidableEq, Repr

/-- The date of a day, counted from the first of January 1970. Years begin in March
while it is worked out, so that a leap day is the last of its year. -/
def civilDate (days : Int) : CivilDate :=
  let shifted := days + 719468
  let era := shifted / 146097
  let dayOfEra := (shifted % 146097).toNat
  let yearOfEra := (dayOfEra - dayOfEra / 1460 + dayOfEra / 36524 - dayOfEra / 146096) / 365
  let dayOfYear := dayOfEra - (365 * yearOfEra + yearOfEra / 4 - yearOfEra / 100)
  let marchMonth := (5 * dayOfYear + 2) / 153
  { year := yearOfEra + era * 400 + if marchMonth < 10 then 0 else 1
    month := if marchMonth < 10 then marchMonth + 3 else marchMonth - 9
    day := dayOfYear - (153 * marchMonth + 2) / 5 + 1 }

def padded (width number : Nat) : String :=
  String.ofList (List.replicate (width - (Nat.toDigits 10 number).length) '0' ++
    Nat.toDigits 10 number)

/-- Four digits, or a sign and six. -/
def yearText (year : Int) : String :=
  if 0 ≤ year ∧ year ≤ 9999 then padded 4 year.toNat
  else (if year < 0 then "-" else "+") ++ padded 6 year.natAbs

def toIsoString (instant : Int) : String :=
  let date := civilDate (instant / 86400000)
  let rest := (instant % 86400000).toNat
  yearText date.year ++ "-" ++ padded 2 date.month ++ "-" ++ padded 2 date.day ++ "T" ++
    padded 2 (rest / 3600000) ++ ":" ++ padded 2 (rest / 60000 % 60) ++ ":" ++
    padded 2 (rest / 1000 % 60) ++ "." ++ padded 3 (rest % 1000) ++ "Z"

example : toIsoString 1709164800123 = "2024-02-29T00:00:00.123Z" := by decide +kernel

example : toIsoString (-1) = "1969-12-31T23:59:59.999Z" := by decide +kernel

end UnifiedService.Library
