import UnifiedService.Library.JsString
import UnifiedService.Rewards.Calendar

/-! The wire contract of reward programs: benefit and condition payloads, the
programme form, and the refinements a form must pass. -/

set_option autoImplicit false

namespace UnifiedService.Rewards

open UnifiedService.Library

/-! ### Benefits -/

inductive RewardBenefitConfig where
  | grantPoints (points : Int)
  | grantCurrency (minorUnits : Int) (currencyCode : Option String)
  | issueEntitlement (itemRef : String) (validForDays : Option Nat)
  | convertValue (burnPoints grantMinor : Int) (currencyCode : Option String)
  deriving DecidableEq, Repr

def RewardBenefitConfig.benefitKind : RewardBenefitConfig → RewardBenefitKind
  | .grantPoints _ => .grantPoints
  | .grantCurrency _ _ => .grantCurrency
  | .issueEntitlement _ _ => .issueEntitlement
  | .convertValue _ _ _ => .convertValue

/-- `CurrencyCodeSchema`: trimmed, upper-cased, and on the list. -/
def parseCurrencyCode (intl : Intl) (code : String) : Option String :=
  let code := intl.toUpperCase (jsTrim code)
  if intl.supportsCurrency code then some code else none

/-- An optional currency: absent is accepted, present must parse. -/
def parseOptionalCurrency (intl : Intl) : Option String → Option (Option String)
  | none => some none
  | some code => (parseCurrencyCode intl code).map some

/-- `z.number().int().positive()` over what a number can hold exactly. -/
def isPositiveInt (value : Int) : Bool := decide (0 < value) && isSafeInteger value

/-- `RewardBenefitConfigSchema`: the payload as parsing leaves it, or a refusal. -/
def RewardBenefitConfig.parse (intl : Intl) : RewardBenefitConfig → Option RewardBenefitConfig
  | .grantPoints points => if isPositiveInt points then some (.grantPoints points) else none
  | .grantCurrency minorUnits currencyCode =>
      if isPositiveInt minorUnits then
        (parseOptionalCurrency intl currencyCode).map (.grantCurrency minorUnits)
      else none
  | .issueEntitlement itemRef validForDays =>
      let itemRef := jsTrim itemRef
      if 1 ≤ jsLength itemRef ∧ jsLength itemRef ≤ 64 ∧
          validForDays.all (fun days => decide (0 < days ∧ days ≤ 3650)) then
        some (.issueEntitlement itemRef validForDays)
      else none
  | .convertValue burnPoints grantMinor currencyCode =>
      if isPositiveInt burnPoints && isPositiveInt grantMinor then
        (parseOptionalCurrency intl currencyCode).map (.convertValue burnPoints grantMinor)
      else none

structure RewardBenefitInput where
  config : RewardBenefitConfig
  awardMode : RewardAwardMode := .fixed
  awardCap : Option Int := none
  deriving DecidableEq, Repr

def RewardBenefitInput.benefitKind (benefit : RewardBenefitInput) : RewardBenefitKind :=
  benefit.config.benefitKind

def RewardBenefitInput.parse (intl : Intl) (benefit : RewardBenefitInput) :
    Option RewardBenefitInput :=
  if benefit.awardCap.all isPositiveInt then
    (benefit.config.parse intl).map fun config => { benefit with config }
  else none

/-! ### Conditions -/

instance neZero_hours : NeZero 24 := ⟨by decide⟩

instance neZero_minutes : NeZero 60 := ⟨by decide⟩

/-- `HH:mm`, 24-hour, local wall clock. -/
structure WallClock where
  hour : Fin 24
  minute : Fin 60
  deriving DecidableEq, Repr

def WallClock.toMinutes (clock : WallClock) : Nat := clock.hour * 60 + clock.minute

structure TimeSlot where
  days : List Nat
  start : WallClock
  «end» : WallClock
  deriving DecidableEq, Repr

inductive RewardConditionConfig where
  | timeWindow (slots : List TimeSlot)
  | customerTenure (minDaysSinceFirstEngagement : Nat)
  | contentMatch (anyOfKeywords : List String)
  deriving DecidableEq, Repr

def RewardConditionConfig.conditionKind : RewardConditionConfig → RewardConditionKind
  | .timeWindow _ => .timeWindow
  | .customerTenure _ => .customerTenure
  | .contentMatch _ => .contentMatch

def isIsoDay (day : Nat) : Bool := decide (1 ≤ day ∧ day ≤ 7)

/-- `RewardConditionConfigSchema`: the payload as parsing leaves it, or a refusal. -/
def RewardConditionConfig.parse : RewardConditionConfig → Option RewardConditionConfig
  | .timeWindow slots =>
      if 1 ≤ slots.length ∧ slots.length ≤ 32 ∧
          slots.all (fun slot =>
            decide (1 ≤ slot.days.length ∧ slot.days.length ≤ 7) && slot.days.all isIsoDay) then
        some (.timeWindow slots)
      else none
  | .customerTenure days =>
      if 0 < days ∧ days ≤ 3650 then some (.customerTenure days) else none
  | .contentMatch keywords =>
      let keywords := keywords.map jsTrim
      if 1 ≤ keywords.length ∧ keywords.length ≤ 32 ∧
          keywords.all (fun word => decide (1 ≤ jsLength word ∧ jsLength word ≤ 60)) then
        some (.contentMatch keywords)
      else none

/-! ### Catalogues -/

/-- `AVAILABLE_TRIGGERS`: the triggers that have a producer. -/
def RewardTriggerKind.isAvailable : RewardTriggerKind → Bool
  | .directMessageInbound | .storyMention | .storyReply | .commentOnOwnPost
  | .commentOnMentionedPost | .referralEntry | .postbackTapped | .pointsBalanceReached => true
  | .postTaggingUs | .messageReaction | .optInGranted | .postCaptionMention | .postLike
  | .postShare => false

/-- `SYSTEM_TRIGGERS`. -/
def RewardTriggerKind.isSystem (trigger : RewardTriggerKind) : Bool :=
  trigger == .pointsBalanceReached

/-- `AVAILABLE_BENEFITS`. -/
def RewardBenefitKind.isAvailable : RewardBenefitKind → Bool
  | .grantPoints | .grantCurrency | .convertValue => true
  | .issueEntitlement => false

/-- `SCALABLE_BENEFITS`, and the `scalable` flag of each handler. -/
def RewardBenefitKind.isScalable : RewardBenefitKind → Bool
  | .grantPoints | .grantCurrency => true
  | .issueEntitlement | .convertValue => false

/-- `requiresTrigger`: empty goes with anything. -/
def RewardBenefitKind.requiresTrigger : RewardBenefitKind → List RewardTriggerKind
  | .convertValue => [.pointsBalanceReached]
  | .grantPoints | .grantCurrency | .issueEntitlement => []

def benefitSuitsTriggers (benefitKind : RewardBenefitKind) (triggers : List RewardTriggerKind) :
    Bool :=
  benefitKind.requiresTrigger.isEmpty ||
    triggers.any fun trigger => benefitKind.requiresTrigger.contains trigger

/-- What a reward does, as a key: two with one key are one reward written twice. -/
def benefitEffectKey : RewardBenefitConfig → String
  | .grantPoints _ => RewardBenefitKind.grantPoints.text
  | .issueEntitlement itemRef _ => RewardBenefitKind.issueEntitlement.text ++ ":" ++ itemRef
  | .grantCurrency _ currencyCode =>
      RewardBenefitKind.grantCurrency.text ++ ":" ++ currencyCode.getD ""
  | .convertValue _ _ currencyCode =>
      RewardBenefitKind.convertValue.text ++ ":" ++ currencyCode.getD ""

def benefitsAreDistinct (benefits : List RewardBenefitInput) : Bool :=
  decide (benefits.map fun benefit => benefitEffectKey benefit.config).Nodup

/-! ### Programmes -/

structure ScheduleSlot where
  start : WallClock
  «end» : WallClock
  deriving DecidableEq, Repr

structure ScheduleDay where
  isoDay : Nat
  slots : List ScheduleSlot := []
  deriving DecidableEq, Repr

/-- When a programme runs. Every part left out means always. -/
structure ProgramSchedule where
  startsAt : Option Int := none
  endsAt : Option Int := none
  days : List ScheduleDay := []
  deriving DecidableEq, Repr

inductive RewardDestination where
  | internal | external
  deriving DecidableEq, Repr

structure CreateRewardProgramInput where
  name : String
  displayName : Option String := none
  triggers : List RewardTriggerKind := []
  minPointsBalance : Option Nat := none
  holdHours : Nat := 0
  capScope : RewardCapScope := .none
  capCount : Nat := 1
  benefits : List RewardBenefitInput := []
  destination : RewardDestination := .internal
  conditions : List RewardConditionConfig := []
  schedule : ProgramSchedule := {}
  deriving DecidableEq, Repr

/-- `ScheduleDaySchema`. -/
def ScheduleDay.accepted (day : ScheduleDay) : Bool :=
  isIsoDay day.isoDay && decide (day.slots.length ≤ 8)

def CreateRewardProgramInput.wellTyped (intl : Intl) (input : CreateRewardProgramInput) : Bool :=
  decide (1 ≤ jsLength input.name ∧ jsLength input.name ≤ 120) && jsTrim input.name == input.name &&
    input.displayName.all (fun name =>
      decide (1 ≤ jsLength name ∧ jsLength name ≤ 160) && jsTrim name == name) &&
    decide (input.triggers.length ≤ 14) &&
    input.minPointsBalance.all (fun balance => decide (0 < balance ∧ balance ≤ 10000000)) &&
    decide (input.holdHours ≤ 720) &&
    decide (0 < input.capCount ∧ input.capCount ≤ 1000) &&
    decide (input.benefits.length ≤ 16) &&
    input.benefits.all (fun benefit => benefit.parse intl == some benefit) &&
    decide (input.conditions.length ≤ 16) &&
    input.conditions.all (fun condition => condition.parse == some condition) &&
    decide (input.schedule.days.length ≤ 7) && input.schedule.days.all ScheduleDay.accepted

structure Refinement where
  holds : CreateRewardProgramInput → Bool
  message : String
  path : List String

/-- The refinements of `CreateRewardProgramSchema`, in its order. -/
def programRefinements : List Refinement :=
  [ { holds := fun form => match form.schedule.startsAt, form.schedule.endsAt with
        | some startsAt, some endsAt => decide (startsAt < endsAt)
        | _, _ => true
      message := "the end of the schedule must be after its start"
      path := ["schedule", "endsAt"] },
    { holds := fun form => form.triggers.all RewardTriggerKind.isAvailable
      message :=
        "that trigger is modelled but has no producer yet, so a rule using it could never fire"
      path := ["triggers"] },
    { holds := fun form =>
        !form.triggers.any RewardTriggerKind.isSystem || form.triggers.length == 1
      message := "a points-balance programme cannot also be driven by social triggers — it is " ++
        "an internal transfer, not an interaction"
      path := ["triggers"] },
    { holds := fun form =>
        form.triggers.contains .pointsBalanceReached == form.minPointsBalance.isSome
      message := "a balance to reach is required for points_balance_reached and means nothing " ++
        "on any other trigger"
      path := ["minPointsBalance"] },
    { holds := fun form =>
        form.holdHours == 0 || !form.triggers.any RewardTriggerKind.isSystem
      message := "a hold only means something for a social trigger; a balance crossing cannot " ++
        "be undone"
      path := ["holdHours"] },
    { holds := fun form => form.triggers.isEmpty || !form.benefits.isEmpty
      message := "choose at least one reward, or the triggers award nothing"
      path := ["benefits"] },
    { holds := fun form => form.benefits.isEmpty || !form.triggers.isEmpty
      message := "rewards need a trigger to hang off; with none, nothing would ever award them"
      path := ["benefits"] },
    { holds := fun form => form.benefits.all fun benefit => benefit.benefitKind.isAvailable
      message := "that reward is modelled but has nothing behind it yet, so it could be " ++
        "promised and never honoured"
      path := ["benefits"] },
    { holds := fun form =>
        form.benefits.all fun benefit => benefitSuitsTriggers benefit.benefitKind form.triggers
      message := "turning points into money only means something when the trigger is the " ++
        "balance itself — pick \"reached a points balance\""
      path := ["benefits"] },
    { holds := fun form =>
        form.benefits.all fun benefit =>
          benefit.awardMode != .upTo || benefit.benefitKind.isScalable
      message := "this reward cannot be \"up to\" — it is exact or it is nothing"
      path := ["benefits"] },
    { holds := fun form =>
        form.conditions.all fun condition => condition.conditionKind != .timeWindow
      message := "days and hours belong in `schedule`, which is the only thing that writes a " ++
        "time window"
      path := ["conditions"] },
    { holds := fun form => benefitsAreDistinct form.benefits
      message := "two rewards here do the same thing — combine them into one, or make them " ++
        "different"
      path := ["benefits"] } ]

def CreateRewardProgramInput.accepted (intl : Intl) (input : CreateRewardProgramInput) : Bool :=
  input.wellTyped intl && programRefinements.all fun refinement => refinement.holds input

/-- `RewardTriggerConfigSchema`: what a trigger matches on beyond its kind. -/
structure RewardTriggerConfig where
  channelIds : Option (List Nat) := none
  minPointsBalance : Option Nat := none
  deriving DecidableEq, Repr

def RewardTriggerConfig.accepted (config : RewardTriggerConfig) : Bool :=
  config.channelIds.all (fun ids =>
      decide (1 ≤ ids.length ∧ ids.length ≤ 50) && ids.all fun id => decide (0 < id)) &&
    config.minPointsBalance.all fun balance => decide (0 < balance ∧ balance ≤ 10000000)

structure TriggerMatchFacts where
  channelId : Option Nat
  pointsBalance : Option Int
  deriving DecidableEq, Repr

def matchesTriggerConfig (config : RewardTriggerConfig) (facts : TriggerMatchFacts) : Bool :=
  (match config.channelIds, facts.channelId with
    | none, _ => true
    | some _, none => false
    | some ids, some channelId => ids.contains channelId) &&
  (match config.minPointsBalance, facts.pointsBalance with
    | none, _ => true
    | some _, none => false
    | some minimum, some balance => decide ((minimum : Int) ≤ balance))

end UnifiedService.Rewards
