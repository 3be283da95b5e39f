import UnifiedService.Rewards.CapProperties
import UnifiedService.Rewards.ProgramProperties

/-! Storing a form the contract accepts: which of its benefits the tables refuse. -/

set_option autoImplicit false

namespace UnifiedService.Rewards

open UnifiedService.Library

def RewardError.isConstraintViolation : RewardError → Bool
  | .checkViolation _ | .uniqueViolation _ => true
  | _ => false

def Violates {Value : Type} (result : Except RewardError Value) : Prop :=
  ∃ error, result = .error error ∧ error.isConstraintViolation = true

theorem violates_bind {Value Result : Type} {source : Except RewardError Value}
    {continuation : Value → Except RewardError Result} :
    Violates (source >>= continuation) ↔
      Violates source ∨ ∃ value, source = .ok value ∧ Violates (continuation value) := by
  cases source with
  | ok value => simp [Violates, bind, Except.bind]
  | error error => simp [Violates, bind, Except.bind]

theorem not_violates_ok {Value : Type} (value : Value) :
    ¬Violates (.ok value : Except RewardError Value) := by
  rintro ⟨error, failed, -⟩
  contradiction

def RewardBenefitInput.capFits (benefit : RewardBenefitInput) : Bool :=
  benefit.awardCap.all fitsInt

/-- Up to the first cap that does not fit its column, caps go with `up_to` and with nothing
else. -/
def capsGoWithModes (benefits : List RewardBenefitInput) : Bool :=
  (benefits.takeWhile RewardBenefitInput.capFits).all modeCheck

theorem insertBenefits_violates {benefits : List RewardBenefitInput} :
    Violates (insertBenefits benefits) ↔ capsGoWithModes benefits = false := by
  induction benefits with
  | nil =>
      constructor
      · rintro ⟨error, failed, -⟩
        contradiction
      · intro refused
        contradiction
  | cons benefit rest ih =>
      have cap : benefit.awardCap.all fitsInt = benefit.capFits := rfl
      unfold insertBenefits
      rw [cap]
      cases fits : benefit.capFits with
      | false =>
          have stops : capsGoWithModes (benefit :: rest) = true := by
            rw [capsGoWithModes, List.takeWhile_cons_of_neg (by rw [fits]; exact Bool.false_ne_true)]
            rfl
          rw [stops]
          constructor
          · rintro ⟨error, failed, violation⟩
            obtain rfl := Except.error.inj failed
            contradiction
          · intro refused
            contradiction
      | true =>
          have goesOn : capsGoWithModes (benefit :: rest) =
              (modeCheck benefit && capsGoWithModes rest) := by
            rw [capsGoWithModes, List.takeWhile_cons_of_pos fits]
            rfl
          rw [goesOn]
          cases mode : modeCheck benefit with
          | false => exact ⟨fun _ => rfl, fun _ => ⟨_, rfl, rfl⟩⟩
          | true => exact ih

section Storing

variable {intl : Intl} {db : RewardDb} {enterpriseId : Nat} {input : CreateRewardProgramInput}

theorem createRuleWithin_violates {programId : Nat} {rule : RuleInput} :
    Violates (createRuleWithin enterpriseId programId rule db) ↔
      Violates (insertBenefits rule.benefits) := by
  rw [createRuleWithin, violates_bind]
  constructor
  · rintro (refused | ⟨_, -, later⟩)
    · exact refused
    · exact absurd later (not_violates_ok _)
  · exact .inl

theorem createRules_violates {programId : Nat}
    {previous : RewardTriggerKind → Option (Nat × Nat)} {triggers : List RewardTriggerKind} :
    Violates (createRules enterpriseId programId input previous triggers db) ↔
      triggers ≠ [] ∧ Violates (insertBenefits input.benefits) := by
  induction triggers generalizing db with
  | nil => exact ⟨fun failed => absurd failed (not_violates_ok _), fun refused => absurd rfl refused.1⟩
  | cons triggerKind rest ih =>
      rw [createRules, violates_bind, createRuleWithin_violates]
      constructor
      · rintro (refused | ⟨_, -, later⟩)
        · exact ⟨List.cons_ne_nil _ _, refused⟩
        · exact ⟨List.cons_ne_nil _ _, (ih.mp later).2⟩
      · exact fun refused => .inl refused.2

theorem accepted_benefits (accepted : input.accepted intl = true) (none : input.triggers = []) :
    input.benefits = [] := by
  have refinements := (Bool.and_eq_true _ _ ▸ accepted).2
  simp only [programRefinements, List.all_cons, Bool.and_eq_true] at refinements
  have hung := refinements.2.2.2.2.2.2.1
  simpa [none] using hung

variable (input) in
theorem assertBusinessSuits_ok {business : Business} (funded : business.currencyCode.isSome = true)
    (located : business.timezone.isSome = true) : assertBusinessSuits input business = .ok () := by
  simp [assertBusinessSuits, assertProgramCanRun, assertMoneyHasACurrency,
    assertCalendarRulesHaveATimezone, funded, located, bind, Except.bind]

theorem rules_violate (accepted : input.accepted intl = true) :
    input.triggers ≠ [] ∧ Violates (insertBenefits input.benefits) ↔
      capsGoWithModes input.benefits = false := by
  rw [insertBenefits_violates]
  refine ⟨And.right, fun refused => ⟨fun none => ?_, refused⟩⟩
  rw [accepted_benefits accepted none] at refused
  contradiction

theorem createProgram_violates (accepted : input.accepted intl = true)
    (suits : assertBusinessSuits input (db.businesses enterpriseId) = .ok ())
    (free : db.nameTaken intl enterpriseId input.name none = false) :
    Violates (createProgram intl enterpriseId input db) ↔
      capsGoWithModes input.benefits = false := by
  rw [← rules_violate accepted, createProgram, suits, free]
  change Violates (createRules _ _ _ _ _ _ >>= _) ↔ _
  rw [violates_bind, createRules_violates]
  constructor
  · rintro (refused | ⟨_, -, later⟩)
    · exact refused
    · exact absurd later (not_violates_ok _)
  · exact .inl

theorem updateProgram_violates {programId : Nat} {program : Stored RewardProgramRow}
    (accepted : input.accepted intl = true)
    (suits : assertBusinessSuits input (db.businesses enterpriseId) = .ok ())
    (found : db.findProgramById enterpriseId programId = some program)
    (live : program.row.status ≠ .archived)
    (free : db.nameTaken intl enterpriseId input.name (some programId) = false) :
    Violates (updateProgram intl enterpriseId programId input db) ↔
      capsGoWithModes input.benefits = false := by
  rw [← rules_violate accepted]
  simp only [updateProgram, found, suits, RewardDb.updateDetails, if_neg live, free]
  exact createRules_violates

/-- A form the contract accepts is stored without a constraint violation if and only if up to
the first cap that does not fit its column, caps go with `up_to` and with nothing else. -/
theorem accepted_form_violates_nothing (intl : Intl) (db : RewardDb) (enterpriseId : Nat)
    (input : CreateRewardProgramInput) (accepted : input.accepted intl = true)
    (funded : (db.businesses enterpriseId).currencyCode.isSome = true)
    (located : (db.businesses enterpriseId).timezone.isSome = true) :
    (db.nameTaken intl enterpriseId input.name none = false →
      (¬Violates (createProgram intl enterpriseId input db) ↔
        capsGoWithModes input.benefits = true)) ∧
    ∀ programId program, db.findProgramById enterpriseId programId = some program →
      program.row.status ≠ .archived →
      db.nameTaken intl enterpriseId input.name (some programId) = false →
      (¬Violates (updateProgram intl enterpriseId programId input db) ↔
        capsGoWithModes input.benefits = true) := by
  have suits := assertBusinessSuits_ok input funded located
  constructor
  · intro free
    rw [createProgram_violates accepted suits free, Bool.not_eq_false]
  · intro programId program found live free
    rw [updateProgram_violates accepted suits found live free, Bool.not_eq_false]

end Storing

def cappedForm (awardMode : RewardAwardMode) (awardCap : Option Int) : CreateRewardProgramInput where
  name := "Comments, capped"
  triggers := [.commentOnOwnPost]
  benefits := [{ config := .grantPoints 10, awardMode, awardCap }]

theorem cappedForm_stores : ¬Violates (createProgram fixedIntl 1 (cappedForm .upTo (some 20))
    (launchOnce 0)) :=
  ((accepted_form_violates_nothing fixedIntl (launchOnce 0) 1 (cappedForm .upTo (some 20))
    (by decide +kernel) rfl rfl).1 (by decide +kernel)).mpr (by decide)

/-- A fixed amount with a cap beside it is accepted, and cannot be stored. -/
theorem cappedForm_refused : ¬∀ form : CreateRewardProgramInput, form.accepted fixedIntl = true →
    (launchOnce 0).nameTaken fixedIntl 1 form.name none = false →
    ¬Violates (createProgram fixedIntl 1 form (launchOnce 0)) := by
  intro claimed
  refine claimed (cappedForm .fixed (some 5)) (by decide +kernel) (by decide +kernel) ?_
  exact ⟨.checkViolation "reward_rule_benefits_mode_chk", by rfl, rfl⟩

end UnifiedService.Rewards
