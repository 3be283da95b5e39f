import UnifiedService.Library.Columns
import UnifiedService.Library.Double
import UnifiedService.Library.JsonText

/-! What the usage headers of a response say of each pool of calls. -/

set_option autoImplicit false

namespace UnifiedService.Usage

open UnifiedService.Library
open UnifiedService.Library.JsonText (Value)

inductive MetaUsageMeter where
  | app | businessUseCase | unknown
  deriving DecidableEq, Repr

def MetaUsageMeter.text : MetaUsageMeter → String
  | .app => "app"
  | .businessUseCase => "business_use_case"
  | .unknown => "unknown"

def maxRecordedPercentage : Int := 1000

def maxRecordedRegainMinutes : Int := 7 * 24 * 60

def maxProductLength : Nat := 40

def maxBusinessIdLength : Nat := 64

/-- The UTF-16 units of a text that is cut off at so many. -/
@[ext]
structure Clipped (limit : Nat) where
  units : List Nat
  short : units.length ≤ limit
  deriving Repr

instance {limit : Nat} : DecidableEq (Clipped limit) := fun _ _ =>
  decidable_of_iff _ Clipped.ext_iff.symm

/-- `text.slice(0, limit)`. -/
def clip (limit : Nat) (units : List Nat) : Clipped limit :=
  ⟨units.take limit, List.length_take_le ..⟩

abbrev Percentage := Ranged 0 maxRecordedPercentage

abbrev RegainMinutes := Ranged 0 maxRecordedRegainMinutes

structure MetaUsageReading where
  meter : MetaUsageMeter
  product : Option (Clipped maxProductLength)
  providerScopeId : Option (Clipped maxBusinessIdLength)
  callPct : Option Percentage
  cpuPct : Option Percentage
  timePct : Option Percentage
  regainMinutes : Option RegainMinutes
  deriving DecidableEq, Repr

abbrev UsageHeaderSource := String → Option String

def appHeader : String := "x-app-usage"

def businessHeader : String := "x-business-use-case-usage"

def readJsonHeader (source : UsageHeaderSource) (name : String) : Option Value :=
  match source name with
  | none | some "" => none
  | some raw => (JsonText.parse raw).toOption

def roundedTo (bound : Int) (reaches : 0 ≤ bound) (value : ℚ) (nonneg : 0 ≤ value) :
    Ranged 0 bound :=
  ⟨min (Double.mathRound value) bound, le_min (Double.mathRound_nonneg nonneg) reaches,
    min_le_right ..⟩

def percentage : Option Value → Option Percentage
  | some (.number mantissa exponent) =>
      (Double.ofDecimal mantissa exponent).bind fun value =>
        if nonneg : 0 ≤ value then some (roundedTo maxRecordedPercentage (by decide) value nonneg)
        else none
  | _ => none

def positiveMinutes : Option Value → Option RegainMinutes
  | some (.number mantissa exponent) =>
      (Double.ofDecimal mantissa exponent).bind fun value =>
        if positive : 0 < value then
          some (roundedTo maxRecordedRegainMinutes (by decide) value positive.le)
        else none
  | _ => none

/-- `entry.type`, if it is a text that is not empty. -/
def rawProduct (entry : Value) : Option (List Nat) :=
  match entry.field "type" with
  | some (.text units) => if units = [] then none else some units
  | _ => none

def readingFrom (meter : MetaUsageMeter) (providerScopeId : Option (Clipped maxBusinessIdLength))
    (entry : Value) : MetaUsageReading where
  meter
  product := (rawProduct entry).map (clip maxProductLength)
  providerScopeId
  callPct := percentage (entry.field "call_count")
  cpuPct := percentage (entry.field "total_cputime")
  timePct := percentage (entry.field "total_time")
  regainMinutes := positiveMinutes (entry.field "estimated_time_to_regain_access")

def appReadings (source : UsageHeaderSource) : List MetaUsageReading :=
  match readJsonHeader source appHeader with
  | some (.record fields) => [readingFrom .app none (.record fields)]
  | _ => []

def scopeReadings (id : List Nat) (value : Value) : List MetaUsageReading :=
  (match value with
    | .list items => items
    | other => [other]).filterMap fun (entry : Value) =>
      if entry.isObject then
        some (readingFrom .businessUseCase (some (clip maxBusinessIdLength id)) entry)
      else none

def businessReadings (source : UsageHeaderSource) : List MetaUsageReading :=
  match readJsonHeader source businessHeader with
  | some (.record fields) =>
      (Value.entries fields).flatMap fun entry => scopeReadings entry.1 entry.2
  | _ => []

def parseUsageReadings (source : UsageHeaderSource) : List MetaUsageReading :=
  appReadings source ++ businessReadings source

theorem mem_parseUsageReadings {source : UsageHeaderSource} {reading : MetaUsageReading}
    (read : reading ∈ parseUsageReadings source) :
    (reading.meter = .app ∧ reading.providerScopeId = none) ∨
      (reading.meter = .businessUseCase ∧ ∃ id, reading.providerScopeId = some id) := by
  rcases List.mem_append.mp read with fromApp | fromBusiness
  · unfold appReadings at fromApp
    split at fromApp
    · rw [List.mem_singleton] at fromApp
      subst fromApp
      exact .inl ⟨rfl, rfl⟩
    · cases fromApp
  · unfold businessReadings at fromBusiness
    split at fromBusiness
    · obtain ⟨entry, -, fromEntry⟩ := List.mem_flatMap.mp fromBusiness
      obtain ⟨value, -, made⟩ := List.mem_filterMap.mp fromEntry
      split at made
      · cases made
        exact .inr ⟨rfl, _, rfl⟩
      · cases made
    · cases fromBusiness

end UnifiedService.Usage
