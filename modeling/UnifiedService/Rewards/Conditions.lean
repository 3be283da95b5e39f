import UnifiedService.Rewards.Contract

/-! The condition handlers: whether an event qualifies. Conditions AND, and an
empty list passes. -/

set_option autoImplicit false

namespace UnifiedService.Rewards

open UnifiedService.Library

structure ConditionContext where
  occurredAtUtc : Int
  timezone : Option String
  content : Option String
  customerFirstSeenAt : Option Int
  deriving DecidableEq, Repr

def endOfDay : Nat := 24 * 60

/-- An end time, with `23:59` read as the end of the day. -/
def endMinute (clock : WallClock) : Nat :=
  if clock.toMinutes = 23 * 60 + 59 then endOfDay else clock.toMinutes

/-- Does one slot admit a local day and minute? A slot that starts after its end
wraps into the next day. -/
def slotAdmits (slot : TimeSlot) (parts : LocalParts) : Bool :=
  let start := slot.start.toMinutes
  let finish := endMinute slot.end
  if start ≤ finish then
    slot.days.contains parts.isoDay && decide (start ≤ parts.minutes) &&
      decide (parts.minutes < finish)
  else
    let previousDay := if parts.isoDay = 1 then 7 else parts.isoDay - 1
    (slot.days.contains parts.isoDay && decide (start ≤ parts.minutes)) ||
      (slot.days.contains previousDay && decide (parts.minutes < finish))

def slotsAdmit (slots : List TimeSlot) (parts : LocalParts) : Bool :=
  slots.any fun slot => slotAdmits slot parts

/-- No timezone fails closed. -/
def checkTimeWindow (intl : Intl) (slots : List TimeSlot) (context : ConditionContext) : Bool :=
  match context.timezone with
  | none => false
  | some timezone => slotsAdmit slots (localParts intl context.occurredAtUtc timezone)

/-- An unknown first-seen date fails closed. -/
def checkCustomerTenure (minDays : Nat) (context : ConditionContext) : Bool :=
  match context.customerFirstSeenAt with
  | none => false
  | some firstSeen =>
      decide ((minDays : Int) * (24 * 60 * 60 * 1000) ≤ context.occurredAtUtc - firstSeen)

def includes (needle : List Char) : List Char → Bool
  | [] => needle.isEmpty
  | first :: rest => needle.isPrefixOf (first :: rest) || includes needle rest

/-- Case-insensitive substring of the text; a trigger without text fails closed. -/
def checkContentMatch (intl : Intl) (keywords : List String) (context : ConditionContext) : Bool :=
  match context.content with
  | none => false
  | some content =>
      jsTrim content != "" && keywords.any fun word =>
        includes (intl.toLowerCase word).toList (intl.toLowerCase content).toList

/-- One stored condition: parsed, then checked. An unreadable one fails. -/
def checkOne (intl : Intl) (condition : RewardConditionConfig) (context : ConditionContext) :
    Bool :=
  match condition.parse with
  | none => false
  | some (.timeWindow slots) => checkTimeWindow intl slots context
  | some (.customerTenure minDays) => checkCustomerTenure minDays context
  | some (.contentMatch keywords) => checkContentMatch intl keywords context

inductive ConditionOutcome where
  | passed
  | failed (failedKind : RewardConditionKind)
  deriving DecidableEq, Repr

def ConditionOutcome.hasPassed : ConditionOutcome → Bool
  | .passed => true
  | .failed _ => false

def evaluateConditions (intl : Intl) (context : ConditionContext) :
    List RewardConditionConfig → ConditionOutcome
  | [] => .passed
  | condition :: rest =>
      if checkOne intl condition context then evaluateConditions intl context rest
      else .failed condition.conditionKind

end UnifiedService.Rewards
