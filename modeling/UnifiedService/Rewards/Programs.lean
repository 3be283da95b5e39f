import UnifiedService.Rewards.Benefits

/-! Programmes and their rules: creating, editing, reading a programme back as
its form, and the switches. A rule is superseded, never edited. -/

set_option autoImplicit false

namespace UnifiedService.Rewards

open UnifiedService.Library

/-! ### The schedule and the condition it becomes -/

def startOfDay : WallClock := ⟨0, 0⟩

def lastMinute : WallClock := ⟨23, 59⟩

def scheduleSlots (day : ScheduleDay) : List TimeSlot :=
  if day.slots.isEmpty then [{ days := [day.isoDay], start := startOfDay, «end» := lastMinute }]
  else day.slots.map fun slot => { days := [day.isoDay], start := slot.start, «end» := slot.end }

/-- The conditions a programme's rules carry: the schedule's, plus the others. -/
def programConditions (schedule : ProgramSchedule) (conditions : List RewardConditionConfig) :
    List RewardConditionConfig :=
  if schedule.days.isEmpty then conditions
  else .timeWindow (schedule.days.flatMap scheduleSlots) :: conditions

/-- Days seen so far, in the order they were first seen, with the slots held. -/
abbrev DaySlots := List (Nat × List ScheduleSlot)

/-- `byDay.set(isoDay, held)` after `byDay.get(isoDay) ?? []`. -/
def DaySlots.hold (byDay : DaySlots) (isoDay : Nat) (added : List ScheduleSlot) : DaySlots :=
  match byDay with
  | [] => [(isoDay, added)]
  | (day, held) :: rest =>
      if day = isoDay then (day, held ++ added) :: rest
      else (day, held) :: DaySlots.hold rest isoDay added

def DaySlots.addSlot (byDay : DaySlots) (slot : TimeSlot) : DaySlots :=
  let added := if slot.start = startOfDay ∧ slot.end = lastMinute then []
    else [{ start := slot.start, «end» := slot.end }]
  slot.days.foldl (fun byDay isoDay => byDay.hold isoDay added) byDay

def DaySlots.addCondition (byDay : DaySlots) : RewardConditionConfig → DaySlots
  | .timeWindow slots => slots.foldl DaySlots.addSlot byDay
  | .customerTenure _ | .contentMatch _ => byDay

def conditionsToSchedule (conditions : List RewardConditionConfig) : List ScheduleDay :=
  let byDay := conditions.foldl DaySlots.addCondition []
  (byDay.insertionSort fun first second => first.1 ≤ second.1).map fun entry =>
    { isoDay := entry.1, slots := entry.2 }

/-! ### Guards -/

def assertMoneyHasACurrency (benefits : List RewardBenefitInput)
    (businessCurrency : Option String) : Except RewardError Unit :=
  if businessCurrency.isSome then .ok ()
  else
    let unfunded := benefits.filter fun benefit => match benefit.config with
      | .grantCurrency _ none | .convertValue _ _ none => true
      | _ => false
    if unfunded.isEmpty then .ok ()
    else .error (.app .enterpriseCurrencyNotSet (unfunded.map fun benefit =>
      { field := "benefits"
        issue := benefit.benefitKind.text ++
          " needs a currency, and this business has not set one" }))

/-- A rule that counts days needs to know where the day starts. -/
def assertCalendarRulesHaveATimezone (capScope : RewardCapScope)
    (conditions : List RewardConditionConfig) (businessTimezone : Option String) :
    Except RewardError Unit :=
  if businessTimezone.isSome then .ok ()
  else
    let reasons :=
      (if capScope ≠ .none then
        [s!"a cap of \"once per {capScope.text}\" needs to know when the period turns over"]
      else []) ++
      if conditions.any fun condition => condition.conditionKind == .timeWindow then
        ["a time window needs to know what hour it is for this business"]
      else []
    if reasons.isEmpty then .ok ()
    else .error (.app .enterpriseTimezoneNotSet
      (reasons.map fun issue => { field := "timezone", issue }))

def assertProgramCanRun (input : CreateRewardProgramInput) (business : Business) :
    Except RewardError Unit := do
  assertMoneyHasACurrency input.benefits business.currencyCode
  assertCalendarRulesHaveATimezone input.capScope
    (programConditions input.schedule input.conditions) business.timezone

/-! ### Rules -/

def constantOneFactorProvider : String := "constant_one"

structure RuleInput where
  triggerKind : RewardTriggerKind
  triggerConfig : RewardTriggerConfig
  capScope : RewardCapScope
  capCount : Nat
  holdHours : Nat
  reversalPolicy : RewardReversalPolicy
  priority : Nat := 0
  benefits : List RewardBenefitInput
  conditions : List RewardConditionConfig
  version : Nat := 1
  supersedesRuleId : Option Nat := none
  deriving DecidableEq, Repr

def RuleInput.row (input : RuleInput) (enterpriseId programId : Nat) : RewardRuleRow where
  enterpriseId := enterpriseId
  programId := programId
  version := input.version
  supersedesRuleId := input.supersedesRuleId
  triggerKind := input.triggerKind
  triggerConfig := input.triggerConfig
  factorProviderCode := constantOneFactorProvider
  capScope := input.capScope
  capCount := input.capCount
  holdHours := input.holdHours
  reversalPolicy := input.reversalPolicy
  priority := input.priority
  isActive := true
  benefits := input.benefits
  conditions := input.conditions

/-- `reward_rule_benefits_mode_chk`. -/
def modeCheck (benefit : RewardBenefitInput) : Bool :=
  match benefit.awardMode, benefit.awardCap with
  | .upTo, some cap => decide (0 < cap)
  | .upTo, none => false
  | .fixed, cap => cap.isNone

def insertBenefits : List RewardBenefitInput → Except RewardError Unit
  | [] => .ok ()
  | benefit :: rest =>
      if !benefit.awardCap.all fitsInt then .error .numericOutOfRange
      else if modeCheck benefit then insertBenefits rest
      else .error (.checkViolation "reward_rule_benefits_mode_chk")

def createRuleWithin (enterpriseId programId : Nat) (input : RuleInput) :
    Statement RewardDb RewardError Nat := fun db => do
  insertBenefits input.benefits
  pure (db.rules.nextId,
    { db with rules := db.rules.insert (input.row enterpriseId programId) })

def CreateRewardProgramInput.ruleFor (input : CreateRewardProgramInput)
    (triggerKind : RewardTriggerKind) (version : Nat) (supersedesRuleId : Option Nat) :
    RuleInput where
  triggerKind := triggerKind
  triggerConfig :=
    if triggerKind = .pointsBalanceReached then { minPointsBalance := input.minPointsBalance }
    else {}
  capScope := input.capScope
  capCount := input.capCount
  holdHours := input.holdHours
  reversalPolicy := .none
  benefits := input.benefits
  conditions := programConditions input.schedule input.conditions
  version := version
  supersedesRuleId := supersedesRuleId

def createRules (enterpriseId programId : Nat) (input : CreateRewardProgramInput)
    (previous : RewardTriggerKind → Option (Nat × Nat)) :
    List RewardTriggerKind → Statement RewardDb RewardError Unit
  | [], db => .ok ((), db)
  | triggerKind :: rest, db => do
      let prior := previous triggerKind
      let (_, db) ← createRuleWithin enterpriseId programId
        (input.ruleFor triggerKind (match prior with | some (_, version) => version + 1 | none => 1)
          (prior.map Prod.fst)) db
      createRules enterpriseId programId input previous rest db

/-! ### Programmes -/

def noopForwardProvider : String := "noop"

def providerFor : RewardDestination → Option String
  | .external => some noopForwardProvider
  | .internal => none

/-- `reward_programs_name_uniq`: another live programme of the business has the name. -/
def RewardDb.nameTaken (intl : Intl) (db : RewardDb) (enterpriseId : Nat) (name : String)
    (except : Option Nat) : Bool :=
  (db.programs.select fun program =>
      program.enterpriseId == enterpriseId &&
        intl.toLowerCase program.name == intl.toLowerCase name).any
    fun program => some program.id != except

/-- A programme without triggers needs nothing of the business. -/
def assertBusinessSuits (input : CreateRewardProgramInput) (business : Business) :
    Except RewardError Unit :=
  if input.triggers.isEmpty then .ok () else assertProgramCanRun input business

def createProgram (intl : Intl) (enterpriseId : Nat) (input : CreateRewardProgramInput) :
    Statement RewardDb RewardError Nat := fun db => do
  assertBusinessSuits input (db.businesses enterpriseId)
  if db.nameTaken intl enterpriseId input.name none then
    .error (.uniqueViolation "reward_programs_name_uniq")
  else
    let programId := db.programs.nextId
    let program : RewardProgramRow :=
      { enterpriseId, name := input.name, displayName := input.displayName, status := .draft
        startsAt := input.schedule.startsAt, endsAt := input.schedule.endsAt
        forwardProviderCode := providerFor input.destination }
    let (_, db) ← createRules enterpriseId programId input (fun _ => none) input.triggers
      { db with programs := db.programs.insert program }
    pure (programId, db)

/-- The programme's own fields. An archived programme is refused. -/
def RewardDb.updateDetails (intl : Intl) (db : RewardDb) (enterpriseId programId : Nat)
    (input : CreateRewardProgramInput) : Except RewardError RewardDb :=
  match db.findProgramById enterpriseId programId with
  | none => .error (.app .rewardProgramNotFound [])
  | some program =>
      if program.row.status = .archived then .error (.app .rewardProgramArchived [])
      else if db.nameTaken intl enterpriseId input.name (some programId) then
        .error (.uniqueViolation "reward_programs_name_uniq")
      else .ok { db with programs := db.programs.update programId fun row =>
        { row with
          name := input.name
          displayName := input.displayName
          startsAt := input.schedule.startsAt
          endsAt := input.schedule.endsAt
          forwardProviderCode := providerFor input.destination } }

def RewardDb.activeRules (db : RewardDb) (enterpriseId programId : Nat) :
    List (Stored RewardRuleRow) :=
  db.rules.select fun rule =>
    rule.enterpriseId == enterpriseId && rule.programId == programId && rule.isActive

def RewardDb.deactivateProgramRules (db : RewardDb) (enterpriseId programId : Nat) : RewardDb :=
  { db with rules := ⟨db.rules.rows.map fun rule =>
      if rule.enterpriseId = enterpriseId ∧ rule.programId = programId then
        { rule with isActive := false }
      else rule⟩ }

def holdNewest (held : RewardTriggerKind → Option (Nat × Nat)) (rule : Stored RewardRuleRow) :
    RewardTriggerKind → Option (Nat × Nat) := fun triggerKind =>
  if triggerKind = rule.row.triggerKind then
    match held triggerKind with
    | some (id, version) =>
        if version < rule.row.version then some (rule.id, rule.row.version)
        else some (id, version)
    | none => some (rule.id, rule.row.version)
  else held triggerKind

def newestOfEach (retired : List (Stored RewardRuleRow)) :
    RewardTriggerKind → Option (Nat × Nat) :=
  retired.foldl holdNewest fun _ => none

/-- Editing a programme: every active rule goes off, then one rule per trigger is
written beside them. -/
def updateProgram (intl : Intl) (enterpriseId programId : Nat)
    (input : CreateRewardProgramInput) : Statement RewardDb RewardError Unit := fun db =>
  match db.findProgramById enterpriseId programId with
  | none => .error (.app .rewardProgramNotFound [])
  | some _ => do
      assertBusinessSuits input (db.businesses enterpriseId)
      let db ← db.updateDetails intl enterpriseId programId input
      let retired := db.activeRules enterpriseId programId
      createRules enterpriseId programId input (newestOfEach retired) input.triggers
        (db.deactivateProgramRules enterpriseId programId)

def setProgramStatus (enterpriseId programId : Nat) (status : RewardProgramStatus) :
    Statement RewardDb RewardError Unit := fun db =>
  match db.findProgramById enterpriseId programId with
  | none => .error (.app .rewardProgramNotFound [])
  | some program =>
      if program.row.status = .archived then .error (.app .rewardProgramArchived [])
      else .ok ((), { db with programs := db.programs.update programId fun row =>
        { row with status } })

def setRuleActive (enterpriseId ruleId : Nat) (isActive : Bool) :
    Statement RewardDb RewardError Unit := fun db =>
  match db.findRuleById enterpriseId ruleId with
  | none => .error (.app .rewardRuleNotFound [])
  | some _ => .ok ((), { db with rules := db.rules.update ruleId fun row => { row with isActive } })

/-! ### A programme read back as its form -/

def defaultPage : Nat := 50

/-- Rules in a programme, whatever their version and switch, bounded. -/
def RewardDb.listForProgram (db : RewardDb) (enterpriseId programId limit : Nat) :
    List (Stored RewardRuleRow) :=
  let rules := db.rules.select fun rule =>
    rule.enterpriseId == enterpriseId && rule.programId == programId
  (RewardDb.orderBy (fun rule => (rule.row.priority : Int)) rules).take limit

def RewardDb.loadConditionsForRules (db : RewardDb) (enterpriseId : Nat)
    (rules : List (Stored RewardRuleRow)) : List (Nat × RewardConditionConfig) :=
  (RewardDb.orderBy (fun rule => (rule.id : Int)) rules).flatMap fun rule =>
    (db.loadConditions enterpriseId rule.id rule.row.version).map fun condition =>
      (rule.id, condition)

def distinctConditions (seen : List RewardConditionConfig) :
    List RewardConditionConfig → List RewardConditionConfig
  | [] => []
  | condition :: rest =>
      if seen.contains condition then distinctConditions seen rest
      else condition :: distinctConditions (condition :: seen) rest

structure ProgramConfiguration where
  status : RewardProgramStatus
  form : CreateRewardProgramInput
  uniform : Bool
  deriving DecidableEq, Repr

def programConfiguration (db : RewardDb) (enterpriseId programId : Nat) :
    Except RewardError ProgramConfiguration :=
  match db.findProgramById enterpriseId programId with
  | none => .error (.app .rewardProgramNotFound [])
  | some program =>
      let rules := (db.listForProgram enterpriseId programId defaultPage).filter fun rule =>
        rule.row.isActive
      let first := rules.head?
      let everyCondition := db.loadConditionsForRules enterpriseId rules
      let conditionsOf (ruleId : Nat) : List RewardConditionConfig :=
        (everyCondition.filter fun entry => entry.1 == ruleId).map Prod.snd
      let stored := (first.map fun rule => conditionsOf rule.id).getD []
      let others := (everyCondition.map Prod.snd).filter fun condition =>
        condition.conditionKind != .timeWindow
      let uniform := rules.all fun rule => first.all fun first =>
        rule.row.capScope == first.row.capScope && rule.row.capCount == first.row.capCount &&
          rule.row.holdHours == first.row.holdHours &&
          (conditionsOf rule.id).isPerm (conditionsOf first.id)
      let balanceRule := rules.find? fun rule => rule.row.triggerKind == .pointsBalanceReached
      .ok
        { status := program.row.status
          form :=
            { name := program.row.name
              displayName := program.row.displayName
              triggers := rules.map fun rule => rule.row.triggerKind
              minPointsBalance := balanceRule.bind fun rule =>
                rule.row.triggerConfig.minPointsBalance
              holdHours := (first.map fun rule => rule.row.holdHours).getD 0
              capScope := (first.map fun rule => rule.row.capScope).getD .none
              capCount := (first.map fun rule => rule.row.capCount).getD 1
              benefits := (first.map fun rule =>
                db.loadBenefits enterpriseId rule.id rule.row.version).getD []
              destination :=
                if program.row.forwardProviderCode.isNone then .internal else .external
              conditions := distinctConditions [] others
              schedule :=
                { startsAt := program.row.startsAt
                  endsAt := program.row.endsAt
                  days := conditionsToSchedule stored } }
          uniform }

/-! ### Adjustments -/

structure AdjustRewardBalanceInput where
  customerId : Nat
  walletKind : RewardWalletKind
  currencyCode : Option String
  amount : Int
  occurredAtUtc : Int
  idempotencyKey : String
  deriving DecidableEq, Repr

/-- A human moving value for one named customer, under the key the client sent. -/
def adjustBalance (enterpriseId : Nat) (input : AdjustRewardBalanceInput) :
    Statement RewardDb RewardError Unit := fun db => do
  let (wallet, db) ← RewardDb.onStore (WalletStore.ensureCustomerWallet
    { enterpriseId
      customerId := input.customerId
      walletKind := input.walletKind
      currencyCode := if input.walletKind = .points then none else input.currencyCode }) db
  let (_, db) ← RewardDb.onStore (WalletStore.postUnchecked
    { enterpriseId
      walletId := wallet.id
      entryKind := .adjust
      amount := input.amount
      idempotencyKey := "adjust:" ++ input.idempotencyKey
      occurredAtUtc := input.occurredAtUtc
      reasonCode := some "manual_adjustment" }) db
  pure ((), db)

end UnifiedService.Rewards
