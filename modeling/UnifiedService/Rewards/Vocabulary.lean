import Mathlib.Data.Int.Notation

/-! The words of the reward tables and the errors a reward statement can throw. -/

set_option autoImplicit false

namespace UnifiedService.Rewards

inductive RewardTriggerKind where
  | directMessageInbound | storyReply | storyMention | messageReaction | postbackTapped
  | optInGranted | referralEntry | commentOnOwnPost | commentOnMentionedPost | postTaggingUs
  | postCaptionMention | postLike | postShare | pointsBalanceReached
  deriving DecidableEq, Repr

inductive RewardConditionKind where
  | timeWindow | customerTenure | contentMatch
  deriving DecidableEq, Repr

def RewardConditionKind.text : RewardConditionKind → String
  | .timeWindow => "time_window"
  | .customerTenure => "customer_tenure"
  | .contentMatch => "content_match"

inductive RewardBenefitKind where
  | grantPoints | grantCurrency | issueEntitlement | convertValue
  deriving DecidableEq, Repr

def RewardBenefitKind.text : RewardBenefitKind → String
  | .grantPoints => "grant_points"
  | .grantCurrency => "grant_currency"
  | .issueEntitlement => "issue_entitlement"
  | .convertValue => "convert_value"

inductive RewardAwardMode where
  | fixed | upTo
  deriving DecidableEq, Repr

inductive RewardProgramStatus where
  | draft | active | paused | archived
  deriving DecidableEq, Repr

inductive RewardCapScope where
  | lifetime | day | week | month | year | none
  deriving DecidableEq, Repr

def RewardCapScope.text : RewardCapScope → String
  | .lifetime => "lifetime"
  | .day => "day"
  | .week => "week"
  | .month => "month"
  | .year => "year"
  | .none => "none"

inductive RewardAwardStatus where
  | held | granted | reversed | skippedCap | skippedCondition | skippedZeroFactor | expired
  deriving DecidableEq, Repr

inductive RewardReversalPolicy where
  | none | onContentDeleted
  deriving DecidableEq, Repr

inductive RewardBenefitStatus where
  | applied | compensated | failed | dead
  deriving DecidableEq, Repr

inductive RewardWalletKind where
  | points | currency
  deriving DecidableEq, Repr

inductive RewardAccountKind where
  | customer | systemTransit | systemExternal
  deriving DecidableEq, Repr

inductive RewardEntryKind where
  | earn | burn | convertOut | convertIn | forwardOut | transitIn | transitOut | externalOut
  | forwardBack | reversal | adjust | transferIn | transferOut
  deriving DecidableEq, Repr

inductive RewardEntitlementStatus where
  | issued | reserved | redeemed | expired | revoked
  deriving DecidableEq, Repr

inductive ErrorCode where
  | enterpriseCurrencyNotSet | enterpriseTimezoneNotSet | rewardProgramNotFound
  | rewardProgramArchived | rewardRuleNotFound | rewardBenefitNotScalable | validationFailed
  | conflict
  deriving DecidableEq, Repr

structure ErrorDetail where
  field : String
  issue : String
  deriving DecidableEq, Repr

/-- What a reward statement or service can throw. A throw inside a transaction
rolls every statement of that transaction back. -/
inductive RewardError where
  | walletNotFound (walletId : Nat)
  | debitNeedsNegativeAmount
  | insufficientPoints (required available : Int)
  | unsafeBigint (value : Int)
  | numericOutOfRange
  | uniqueViolation (index : String)
  | checkViolation (constraint : String)
  | benefitDoesNotMatchSchema (benefitKind : RewardBenefitKind) (ruleId version : Nat)
  | app (code : ErrorCode) (details : List ErrorDetail)
  deriving DecidableEq, Repr

def RewardError.message : RewardError → Option String
  | .walletNotFound walletId => some s!"reward wallet {walletId} not found for this enterprise"
  | .debitNeedsNegativeAmount => some "debitIfSufficient needs a negative amount"
  | .insufficientPoints required available =>
      some s!"conversion needs {required} points, balance is {available}"
  | .unsafeBigint value =>
      some (s!"BIGINT {value} exceeds Number.MAX_SAFE_INTEGER and cannot be represented " ++
        "without precision loss. The id strategy must change before this point.")
  | .benefitDoesNotMatchSchema benefitKind ruleId version =>
      some (s!"benefit {benefitKind.text} on rule {ruleId} v{version} " ++
        "does not match its schema")
  | .numericOutOfRange | .uniqueViolation _ | .checkViolation _ | .app _ _ => none

def maxSafeInteger : Int := 9007199254740991

def isSafeInteger (value : Int) : Bool := decide (-maxSafeInteger ≤ value ∧ value ≤ maxSafeInteger)

/-- The parser registered for `int8` columns: it throws past the safe range. -/
def readBigint (value : Int) : Except RewardError Int :=
  if isSafeInteger value then .ok value else .error (.unsafeBigint value)

def fitsBigint (value : Int) : Bool :=
  decide (-9223372036854775808 ≤ value ∧ value ≤ 9223372036854775807)

def writeBigint (value : Int) : Except RewardError Int :=
  if fitsBigint value then .ok value else .error .numericOutOfRange

def fitsInt (value : Int) : Bool := decide (-2147483648 ≤ value ∧ value ≤ 2147483647)

theorem readBigint_ok {value result : Int} (read : readBigint value = .ok result) :
    result = value ∧ isSafeInteger value = true := by
  unfold readBigint at read
  split at read <;> simp_all

theorem readBigint_of_safe {value : Int} (safe : isSafeInteger value = true) :
    readBigint value = .ok value := if_pos safe

theorem writeBigint_ok {value result : Int} (written : writeBigint value = .ok result) :
    result = value ∧ fitsBigint value = true := by
  unfold writeBigint at written
  split at written <;> simp_all

theorem writeBigint_of_fits {value : Int} (fits : fitsBigint value = true) :
    writeBigint value = .ok value := if_pos fits

theorem fitsBigint_of_safe {value : Int} (safe : isSafeInteger value = true) :
    fitsBigint value = true := by
  obtain ⟨low, high⟩ : -maxSafeInteger ≤ value ∧ value ≤ maxSafeInteger := of_decide_eq_true safe
  unfold maxSafeInteger at low high
  exact decide_eq_true ⟨by omega, by omega⟩

end UnifiedService.Rewards
