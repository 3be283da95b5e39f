import Mathlib.Algebra.Group.Nat.Defs
import UnifiedService.Library.Instant
import Std.Data.String.ToNat

/-! The text of an instant read back. `readIso` reads the full form of the ECMAScript date
format; every instant a `Date` holds is read back from what `toIsoString` prints. -/

set_option autoImplicit false

namespace UnifiedService.Library

def daysBefore (yearOfEra : Nat) : Nat := 365 * yearOfEra + yearOfEra / 4 - yearOfEra / 100

/-- The day of a date. A day past the end of its month runs on into the next. -/
def dayOf (date : CivilDate) : Int :=
  let year := if date.month ≤ 2 then date.year - 1 else date.year
  let yearOfEra := (year % 400).toNat
  let dayOfYear := (153 * ((date.month + 9) % 12) + 2) / 5 + date.day - 1
  year / 400 * 146097 + (daysBefore yearOfEra + dayOfYear) - 719468

theorem yearOfEra_spec {day : Nat} (within : day < 146097) :
    ∃ year, (day - day / 1460 + day / 36524 - day / 146096) / 365 = year ∧ year < 400 ∧
      365 * year + year / 4 - year / 100 ≤ day ∧
      day - (365 * year + year / 4 - year / 100) ≤ 365 := by
  by_cases last : day = 146096
  · subst last
    exact ⟨399, by decide⟩
  · -- Centuries of 36524 days, cycles of four years, and the days of a cycle.
    obtain ⟨century, cycle, rest, rfl, centuries, cycles, rests⟩ : ∃ century cycle rest,
        day = 36524 * century + 1461 * cycle + rest ∧ century ≤ 3 ∧
        1461 * cycle + rest ≤ 36523 ∧ rest ≤ 1460 :=
      ⟨day / 36524, day % 36524 / 1461, day % 36524 % 1461, by omega, by omega, by omega, by omega⟩
    obtain ⟨extra, below, above⟩ : ∃ extra, 1460 * extra ≤ 24 * century + cycle + rest ∧
        24 * century + cycle + rest < 1460 * extra + 1460 :=
      ⟨(24 * century + cycle + rest) / 1460, by omega, by omega⟩
    have leaps : (36524 * century + 1461 * cycle + rest) / 1460 = 25 * century + cycle + extra := by
      omega
    have hundreds : (36524 * century + 1461 * cycle + rest) / 36524 = century := by omega
    have eras : (36524 * century + 1461 * cycle + rest) / 146096 = 0 := by omega
    obtain ⟨years, least, most⟩ : ∃ years, 365 * years ≤ rest - extra ∧
        rest - extra < 365 * years + 365 := ⟨(rest - extra) / 365, by omega, by omega⟩
    have few : years ≤ 3 := by omega
    have short : cycle ≤ 24 := by omega
    refine ⟨100 * century + 4 * cycle + years, ?_, ?_⟩
    · rw [leaps, hundreds, eras]
      clear leaps hundreds eras
      omega
    · have before : 365 * (100 * century + 4 * cycle + years) +
          (100 * century + 4 * cycle + years) / 4 - (100 * century + 4 * cycle + years) / 100 =
          36524 * century + 1461 * cycle + 365 * years := by
        have fours : (100 * century + 4 * cycle + years) / 4 = 25 * century + cycle := by omega
        have whole : (100 * century + 4 * cycle + years) / 100 = century := by omega
        rw [fours, whole]
        omega
      rw [before]
      clear before leaps hundreds eras
      omega

theorem civilDate_ranges (days : Int) :
    1 ≤ (civilDate days).month ∧ (civilDate days).month ≤ 12 ∧
      1 ≤ (civilDate days).day ∧ (civilDate days).day ≤ 31 := by
  obtain ⟨year, worked, -, -, length⟩ :=
    yearOfEra_spec (by omega : ((days + 719468) % 146097).toNat < 146097)
  unfold civilDate
  simp only [worked]
  generalize ((days + 719468) % 146097).toNat - (365 * year + year / 4 - year / 100) = day at *
  split <;> omega

theorem civilDate_year {days : Int} (range : days.natAbs ≤ 100000000) :
    (civilDate days).year.natAbs < 1000000 := by
  obtain ⟨year, worked, few, -, -⟩ :=
    yearOfEra_spec (by omega : ((days + 719468) % 146097).toNat < 146097)
  unfold civilDate
  simp only [worked]
  clear worked
  split <;> omega

theorem dayOf_civilDate (days : Int) : dayOf (civilDate days) = days := by
  obtain ⟨year, worked, few, before, length⟩ :=
    yearOfEra_spec (by omega : ((days + 719468) % 146097).toNat < 146097)
  have whole : ((((days + 719468) % 146097).toNat : Nat) : Int) = (days + 719468) % 146097 :=
    Int.toNat_of_nonneg (Int.emod_nonneg _ (by omega))
  have split := Int.mul_ediv_add_emod (days + 719468) 146097
  unfold dayOf civilDate
  simp only [worked]
  generalize (days + 719468) / 146097 = era at *
  rw [← whole] at split
  clear whole worked
  generalize ((days + 719468) % 146097).toNat = dayOfEra at *
  obtain ⟨day, parted⟩ : ∃ day, dayOfEra = 365 * year + year / 4 - year / 100 + day :=
    ⟨_, (Nat.add_sub_of_le before).symm⟩
  have rest : dayOfEra - (365 * year + year / 4 - year / 100) = day := by omega
  rw [rest] at length ⊢
  by_cases early : (5 * day + 2) / 153 < 10
  · have later : ¬ (5 * day + 2) / 153 + 3 ≤ 2 := by omega
    have year_eq : ((year : Int) + era * 400 + 0) / 400 = era := by omega
    have rest_eq : (((year : Int) + era * 400 + 0) % 400).toNat = year := by omega
    have month_eq : ((5 * day + 2) / 153 + 3 + 9) % 12 = (5 * day + 2) / 153 := by omega
    simp only [if_pos early, if_neg later, year_eq, rest_eq, month_eq, daysBefore]
    omega
  · have earlier : (5 * day + 2) / 153 - 9 ≤ 2 := by omega
    have year_eq : ((year : Int) + era * 400 + 1 - 1) / 400 = era := by omega
    have rest_eq : (((year : Int) + era * 400 + 1 - 1) % 400).toNat = year := by omega
    have month_eq : ((5 * day + 2) / 153 - 9 + 9) % 12 = (5 * day + 2) / 153 := by omega
    simp only [if_neg early, if_pos earlier, year_eq, rest_eq, month_eq, daysBefore]
    omega

section Reader

def readLetter (letter : Char) : List Char → Option (List Char)
  | first :: rest => if first = letter then some rest else none
  | [] => none

def readDigits (width : Nat) (letters : List Char) : Option (Nat × List Char) :=
  let digits := letters.take width
  if digits.length = width ∧ digits.all Char.isDigit then
    some (Nat.ofDigitChars 10 digits 0, letters.drop width)
  else none

/-- Four digits, or a sign and six. There is no year minus zero. -/
def readYear : List Char → Option (Int × List Char)
  | '+' :: letters => (readDigits 6 letters).map fun read => ((read.1 : Int), read.2)
  | '-' :: letters => (readDigits 6 letters).bind fun read =>
      if read.1 = 0 then none else some (-(read.1 : Int), read.2)
  | letters => (readDigits 4 letters).map fun read => ((read.1 : Int), read.2)

/-- Hours, minutes, seconds and milliseconds, in milliseconds. A day may be said to end at
its twenty-fourth hour. -/
def timeOf (hours minutes seconds rest : Nat) : Option Nat :=
  if (hours ≤ 23 ∧ minutes ≤ 59 ∧ seconds ≤ 59) ∨
      (hours = 24 ∧ minutes = 0 ∧ seconds = 0 ∧ rest = 0) then
    some (3600000 * hours + 60000 * minutes + 1000 * seconds + rest)
  else none

/-- The instant that a full date and time of the ECMAScript format names, in UTC. -/
def readIso (text : String) : Option Int := do
  let (year, letters) ← readYear text.toList
  let (month, letters) ← (readLetter '-' letters).bind (readDigits 2)
  let (day, letters) ← (readLetter '-' letters).bind (readDigits 2)
  let (hours, letters) ← (readLetter 'T' letters).bind (readDigits 2)
  let (minutes, letters) ← (readLetter ':' letters).bind (readDigits 2)
  let (seconds, letters) ← (readLetter ':' letters).bind (readDigits 2)
  let (rest, letters) ← (readLetter '.' letters).bind (readDigits 3)
  let time ← timeOf hours minutes seconds rest
  if letters = ['Z'] ∧ 1 ≤ month ∧ month ≤ 12 ∧ 1 ≤ day ∧ day ≤ 31 then
    some (dayOf ⟨year, month, day⟩ * 86400000 + time)
  else none

@[simp] theorem readLetter_self (letter : Char) (rest : List Char) :
    readLetter letter (letter :: rest) = some rest := if_pos rfl

theorem padded_digits (width number : Nat) :
    (padded width number).toList.all Char.isDigit = true := by
  unfold padded
  rw [String.toList_ofList, List.all_append, Bool.and_eq_true]
  constructor
  · exact List.all_eq_true.mpr fun letter member => by
      rw [(List.mem_replicate.mp member).2]
      rfl
  · exact List.all_eq_true.mpr fun letter member =>
      Nat.isDigit_of_mem_toDigits (by decide) (by decide) member

theorem readDigits_padded {width number : Nat} (room : 0 < width) (fits : number < 10 ^ width)
    (rest : List Char) :
    readDigits width ((padded width number).toList ++ rest) = some (number, rest) := by
  have short : (Nat.toDigits 10 number).length ≤ width :=
    (Nat.length_toDigits_le_iff (by decide) room).mpr fits
  have length : (padded width number).toList.length = width := by
    unfold padded
    rw [String.toList_ofList, List.length_append, List.length_replicate]
    omega
  have number_eq : Nat.ofDigitChars 10 (padded width number).toList 0 = number := by
    unfold padded
    rw [String.toList_ofList, Nat.ofDigitChars_append, Nat.ofDigitChars_replicate_zero,
      Nat.mul_zero, Nat.ofDigitChars_ten_toDigits]
  unfold readDigits
  rw [List.take_left' length, List.drop_left' length]
  dsimp only
  rw [if_pos ⟨length, padded_digits width number⟩, number_eq]

theorem readYear_digits {letters rest : List Char} {number : Nat}
    (read : readDigits 4 letters = some (number, rest)) :
    readYear letters = some ((number : Int), rest) := by
  have signless : ∀ sign : Char, sign.isDigit = false → ∀ others, letters ≠ sign :: others := by
    rintro sign noDigit others rfl
    have stops : ¬ ((List.take 4 (sign :: others)).length = 4 ∧
        (List.take 4 (sign :: others)).all Char.isDigit = true) := by
      rintro ⟨-, digits⟩
      rw [List.take_succ_cons, List.all_cons, noDigit, Bool.false_and] at digits
      exact Bool.false_ne_true digits
    rw [readDigits, if_neg stops] at read
    cases read
  unfold readYear
  split
  · exact absurd rfl (signless '+' rfl _)
  · exact absurd rfl (signless '-' rfl _)
  · rw [read]
    rfl

theorem readYear_yearText {year : Int} (range : year.natAbs < 1000000) (rest : List Char) :
    readYear ((yearText year).toList ++ rest) = some (year, rest) := by
  unfold yearText
  split
  · rename_i within
    rw [readYear_digits (readDigits_padded (by decide) (by omega) rest),
      Int.toNat_of_nonneg within.1]
  · rename_i outside
    have read := readDigits_padded (by decide : 0 < 6) range rest
    split
    · rename_i before
      have present : year.natAbs ≠ 0 := by omega
      have sign : "-".toList = ['-'] := rfl
      rw [String.toList_append, List.append_assoc, sign, List.singleton_append, readYear, read,
        Option.bind_some, if_neg present]
      have signed : -(year.natAbs : Int) = year := by omega
      rw [signed]
    · rename_i after
      have sign : "+".toList = ['+'] := rfl
      rw [String.toList_append, List.append_assoc, sign, List.singleton_append, readYear, read,
        Option.map_some]
      have signed : (year.natAbs : Int) = year := by omega
      rw [signed]

theorem readIso_toIsoString {instant : Int} (range : instant.natAbs ≤ 8640000000000000) :
    readIso (toIsoString instant) = some instant := by
  have ranges := civilDate_ranges (instant / 86400000)
  have back := dayOf_civilDate (instant / 86400000)
  have year := civilDate_year (by omega : (instant / 86400000).natAbs ≤ 100000000)
  obtain ⟨rest, rest_eq, within⟩ : ∃ rest, (instant % 86400000).toNat = rest ∧ rest < 86400000 :=
    ⟨_, rfl, by omega⟩
  have hours : rest / 3600000 < 10 ^ 2 := by omega
  have minutes : rest / 60000 % 60 < 10 ^ 2 := by omega
  have seconds : rest / 1000 % 60 < 10 ^ 2 := by omega
  have millis : rest % 1000 < 10 ^ 3 := by omega
  have month : (civilDate (instant / 86400000)).month < 10 ^ 2 := by omega
  have day : (civilDate (instant / 86400000)).day < 10 ^ 2 := by omega
  have time : timeOf (rest / 3600000) (rest / 60000 % 60) (rest / 1000 % 60) (rest % 1000) =
      some rest := by
    unfold timeOf
    rw [if_pos (by omega)]
    congr 1
    omega
  have dash : "-".toList = ['-'] := rfl
  have colon : ":".toList = [':'] := rfl
  have point : ".".toList = ['.'] := rfl
  have start : "T".toList = ['T'] := rfl
  have zone : "Z".toList = ['Z'] := rfl
  unfold readIso toIsoString
  rw [rest_eq]
  simp only [String.toList_append, List.append_assoc, dash, colon, point, start, zone,
    List.cons_append, List.nil_append, readYear_yearText year, Option.bind_eq_bind,
    Option.bind_some, readLetter_self, readDigits_padded Nat.two_pos month,
    readDigits_padded Nat.two_pos day, readDigits_padded Nat.two_pos hours,
    readDigits_padded Nat.two_pos minutes, readDigits_padded Nat.two_pos seconds,
    readDigits_padded (Nat.succ_pos 2) millis, time]
  rw [if_pos ⟨trivial, ranges⟩, ← rest_eq, back, Int.toNat_of_nonneg (Int.emod_nonneg _ (by omega)),
    Int.mul_comm, Int.mul_ediv_add_emod]

def isIsoLetter (letter : Char) : Bool :=
  letter.isDigit || ['-', ':', '.', 'T', 'Z', '+'].contains letter

theorem toIsoString_letters (instant : Int) :
    (toIsoString instant).toList.all isIsoLetter = true := by
  have digits : ∀ width number, (padded width number).toList.all isIsoLetter = true := by
    intro width number
    refine List.all_eq_true.mpr fun letter member => ?_
    unfold isIsoLetter
    rw [List.all_eq_true.mp (padded_digits width number) letter member, Bool.true_or]
  have year : ∀ year, (yearText year).toList.all isIsoLetter = true := by
    intro year
    unfold yearText
    split
    · exact digits _ _
    · rw [String.toList_append, List.all_append, digits, Bool.and_true]
      split <;> decide
  unfold toIsoString
  simp only [String.toList_append, List.all_append, digits, year, Bool.true_and, Bool.and_true]
  decide

end Reader

/-- A valid `Date`: an instant in the range of the type. -/
structure JsDate where
  getTime : Int
  inRange : getTime.natAbs ≤ 8640000000000000
  deriving DecidableEq, Repr

namespace JsDate

def toISOString (date : JsDate) : String := toIsoString date.getTime

/-- `new Date(text)` of a string by its UTF-16 units, unless it is an invalid date. What is not
in the full format is left to the runtime. -/
def ofUnits (runtime : List Nat → Option JsDate) (units : List Nat) : Option JsDate :=
  match readIso (String.ofList (units.map Char.ofNat)) with
  | some instant => if range : instant.natAbs ≤ 8640000000000000 then some ⟨instant, range⟩ else none
  | none => runtime units

theorem ofUnits_toISOString (runtime : List Nat → Option JsDate) (date : JsDate) :
    ofUnits runtime (date.toISOString.toList.map Char.toNat) = some date := by
  have back : Char.ofNat ∘ Char.toNat = id := funext Char.ofNat_toNat
  unfold ofUnits
  rw [List.map_map, back, List.map_id, String.ofList_toList, toISOString,
    readIso_toIsoString date.inRange]
  exact dif_pos date.inRange

end JsDate

end UnifiedService.Library
