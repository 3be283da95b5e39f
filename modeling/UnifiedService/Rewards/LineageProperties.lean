import Mathlib.Data.List.Nodup
import UnifiedService.Rewards.SupersessionProperties

/-! Rule lineages over any sequence of management calls: what an edit leaves
active, and how versions run along the rules it supersedes. -/

set_option autoImplicit false

namespace UnifiedService.Rewards

open UnifiedService.Library

def manageAll (intl : Intl) (calls : List ManagementCall) (db : RewardDb) : RewardDb :=
  calls.foldl (fun db call => (transact (call.statement intl) db).2) db

theorem manageAll_keeps {intl : Intl} (holds : RewardDb → Prop) {calls : List ManagementCall}
    (kept : ∀ call ∈ calls, ∀ db next, holds db → call.statement intl db = .ok ((), next) →
      holds next)
    {db : RewardDb} (initially : holds db) : holds (manageAll intl calls db) := by
  induction calls generalizing db with
  | nil => exact initially
  | cons call rest ih =>
      refine ih (fun other member => kept other (List.mem_cons_of_mem call member)) ?_
      exact transact_keeps holds initially fun _ next =>
        kept call List.mem_cons_self db next initially

/-! ### Versions along a lineage -/

def Supersedes (db : RewardDb) (newer older : Nat) : Prop :=
  ∃ rule, db.rules.get? newer = some rule ∧ rule.supersedesRuleId = some older

/-- Along every chain of superseded rules the version strictly increases. -/
def VersionsIncrease (db : RewardDb) : Prop :=
  ∀ newer older, Relation.TransGen (Supersedes db) newer older →
    ∃ rule superseded, db.rules.get? newer = some rule ∧ db.rules.get? older = some superseded ∧
      superseded.version < rule.version

def LinksIncrease (db : RewardDb) : Prop :=
  ∀ id rule older, db.rules.get? id = some rule → rule.supersedesRuleId = some older →
    ∃ superseded, db.rules.get? older = some superseded ∧ superseded.version < rule.version

theorem LinksIncrease.versionsIncrease {db : RewardDb} (links : LinksIncrease db) :
    VersionsIncrease db := by
  intro newer older chain
  induction chain with
  | single link =>
      obtain ⟨rule, found, supersedes⟩ := link
      obtain ⟨superseded, present, less⟩ := links newer rule _ found supersedes
      exact ⟨rule, superseded, found, present, less⟩
  | tail _ link ih =>
      obtain ⟨rule, middle, found, middleFound, less⟩ := ih
      obtain ⟨_, again, supersedes⟩ := link
      obtain rfl := Option.some.inj (middleFound.symm.trans again)
      obtain ⟨superseded, present, lower⟩ := links _ middle _ middleFound supersedes
      exact ⟨rule, superseded, found, present, Nat.lt_trans lower less⟩

theorem LinksIncrease.switched {db next : RewardDb} (links : LinksIncrease db)
    (grow : RulesGrow db next)
    (origin : ∀ id rule, next.rules.get? id = some rule → db.rules.get? id ≠ none) :
    LinksIncrease next := by
  intro id rule older found supersedes
  obtain ⟨old, oldFound⟩ := Option.ne_none_iff_exists'.mp (origin id rule found)
  obtain ⟨isActive, later⟩ := grow id old oldFound
  obtain rfl := Option.some.inj (later.symm.trans found)
  obtain ⟨superseded, present, less⟩ := links id old older oldFound supersedes
  obtain ⟨_, still⟩ := grow older superseded present
  exact ⟨_, still, less⟩

theorem LinksIncrease.withNewRules {db : RewardDb} {input : CreateRewardProgramInput}
    {enterpriseId programId : Nat} {previous : RewardTriggerKind → Option (Nat × Nat)}
    (links : LinksIncrease db)
    (chained : ∀ triggerKind id version, previous triggerKind = some (id, version) →
      ∃ rule, db.rules.get? id = some rule ∧ rule.version = version) :
    LinksIncrease (db.withNewRules input enterpriseId programId previous) := by
  have grow := RulesGrow.withNewRules db input enterpriseId programId previous
  intro id rule older found supersedes
  rcases withNewRules_get? found with old | ⟨-, triggerKind, -, rfl⟩
  · obtain ⟨superseded, present, less⟩ := links id rule older old supersedes
    obtain ⟨_, still⟩ := grow older superseded present
    exact ⟨_, still, less⟩
  · obtain ⟨⟨priorId, version⟩, prior, same⟩ := Option.map_eq_some_iff.mp supersedes
    obtain ⟨superseded, present, versionSame⟩ := chained triggerKind priorId version prior
    obtain ⟨_, still⟩ := grow priorId superseded present
    obtain rfl : priorId = older := same
    refine ⟨_, still, ?_⟩
    simp only [CreateRewardProgramInput.newRule, CreateRewardProgramInput.ruleFor, RuleInput.row,
      prior, versionSame]
    omega

theorem newestOfEach_some {retired : List (Stored RewardRuleRow)} {triggerKind : RewardTriggerKind}
    {id version : Nat} (held : newestOfEach retired triggerKind = some (id, version)) :
    ∃ rule ∈ retired, rule.id = id ∧ rule.row.version = version := by
  have folded : ∀ (rest : List (Stored RewardRuleRow))
      (start : RewardTriggerKind → Option (Nat × Nat)),
      rest.foldl holdNewest start triggerKind = some (id, version) →
      start triggerKind = some (id, version) ∨
        ∃ rule ∈ rest, rule.id = id ∧ rule.row.version = version := by
    intro rest
    induction rest with
    | nil => exact fun start held => .inl held
    | cons rule rest ih =>
        intro start held
        rcases ih (holdNewest start rule) held with here | ⟨other, member, same⟩
        · unfold holdNewest at here
          split at here
          · split at here
            · next holding =>
                split at here
                · obtain ⟨rfl, rfl⟩ := Prod.mk.inj (Option.some.inj here)
                  exact .inr ⟨rule, List.mem_cons_self, rfl, rfl⟩
                · obtain ⟨rfl, rfl⟩ := Prod.mk.inj (Option.some.inj here)
                  exact .inl holding
            · obtain ⟨rfl, rfl⟩ := Prod.mk.inj (Option.some.inj here)
              exact .inr ⟨rule, List.mem_cons_self, rfl, rfl⟩
          · exact .inl here
        · exact .inr ⟨other, List.mem_cons_of_mem rule member, same⟩
  exact (folded retired _ held).resolve_left (by simp)

theorem deactivateProgramRules_origin {db : RewardDb} {enterpriseId programId id : Nat}
    {rule : RewardRuleRow}
    (found : (db.deactivateProgramRules enterpriseId programId).rules.get? id = some rule) :
    db.rules.get? id ≠ none := fun missing => by
  rw [deactivateProgramRules_missing enterpriseId programId missing] at found
  contradiction

theorem LinksIncrease.manage {intl : Intl} {call : ManagementCall} {db next : RewardDb}
    (links : LinksIncrease db) (success : call.statement intl db = .ok ((), next)) :
    LinksIncrease next := by
  have effect := manage_effect success
  have switchedOnly : call.form? db = none → LinksIncrease next := by
    refine fun formless => links.switched effect.rules fun id rule found missing => ?_
    obtain ⟨_, _, _, _, _, form, -⟩ := effect.written id rule found missing
    rw [formless] at form
    contradiction
  cases call with
  | createProgram enterpriseId input =>
      obtain ⟨⟨programId, after⟩, created, done⟩ := bind_eq_ok.mp success
      obtain ⟨-, rfl⟩ := Prod.mk.inj (Except.ok.inj done)
      obtain ⟨-, program, -, rfl⟩ := createProgram_ok created
      have same : LinksIncrease { db with programs := db.programs.insert program } := links
      exact same.withNewRules fun _ _ _ none => nomatch none
  | updateProgram enterpriseId programId input =>
      obtain ⟨change, -, rfl⟩ := updateProgram_ok success
      have grow := RulesGrow.deactivateProgramRules
        { db with programs := db.programs.update programId change } enterpriseId programId
      have off : LinksIncrease ({ db with programs := db.programs.update programId change }
          |>.deactivateProgramRules enterpriseId programId) :=
        LinksIncrease.switched links grow fun _ _ => deactivateProgramRules_origin
      refine off.withNewRules fun triggerKind id version held => ?_
      obtain ⟨rule, retired, rfl, rfl⟩ := newestOfEach_some held
      obtain ⟨_, later⟩ := grow rule.id rule.row (Table.mem_select.mp retired).1
      exact ⟨_, later, rfl⟩
  | setProgramStatus enterpriseId programId status => exact switchedOnly rfl
  | setRuleActive enterpriseId ruleId isActive => exact switchedOnly rfl
  | adjustBalance enterpriseId input => exact switchedOnly rfl

/-! ### One live rule per trigger -/

def RewardDb.liveRules (db : RewardDb) (enterpriseId programId : Nat)
    (triggerKind : RewardTriggerKind) : Nat :=
  db.rules.count fun rule =>
    rule.enterpriseId == enterpriseId && rule.programId == programId && rule.isActive &&
      rule.triggerKind == triggerKind

/-- An edit leaves one active rule for each time its form lists the trigger. -/
theorem updateProgram_liveRules {intl : Intl} {enterpriseId programId : Nat}
    {input : CreateRewardProgramInput} {db next : RewardDb}
    (updated : updateProgram intl enterpriseId programId input db = .ok ((), next))
    (triggerKind : RewardTriggerKind) :
    next.liveRules enterpriseId programId triggerKind = input.triggers.count triggerKind := by
  obtain ⟨change, -, rfl⟩ := updateProgram_ok updated
  simp only [RewardDb.liveRules, RewardDb.withNewRules, RewardDb.deactivateProgramRules,
    Table.count, List.countP_append, List.countP_map]
  have retired : db.rules.rows.countP ((fun rule =>
      rule.enterpriseId == enterpriseId && rule.programId == programId && rule.isActive &&
        rule.triggerKind == triggerKind) ∘ fun rule =>
          if rule.enterpriseId = enterpriseId ∧ rule.programId = programId then
            { rule with isActive := false } else rule) = 0 := by
    refine List.countP_eq_zero.mpr fun rule _ => ?_
    by_cases ours : rule.enterpriseId = enterpriseId ∧ rule.programId = programId
    · simp [ours]
    · simp only [Function.comp_apply, if_neg ours]
      intro live
      simp only [Bool.and_eq_true, beq_iff_eq] at live
      exact ours live.1.1
  rw [retired, Nat.zero_add, List.count]
  refine List.countP_congr fun other _ => ?_
  simp [CreateRewardProgramInput.newRule, CreateRewardProgramInput.ruleFor, RuleInput.row]

/-- After an edit, each listed trigger has exactly one active rule and no other has
any, versions increasing along every lineage, exactly when no trigger is listed twice. -/
theorem one_live_rule_per_trigger (intl : Intl) (businesses : Nat → Business)
    (firstSeenAt : Nat → Nat → Option Int) (calls : List ManagementCall)
    (enterpriseId programId : Nat) (input : CreateRewardProgramInput) (next : RewardDb)
    (updated : updateProgram intl enterpriseId programId input
      (manageAll intl calls (.launch businesses firstSeenAt .empty .empty)) = .ok ((), next)) :
    ((∀ triggerKind, next.liveRules enterpriseId programId triggerKind =
        if triggerKind ∈ input.triggers then 1 else 0) ∧ VersionsIncrease next) ↔
      input.triggers.Nodup := by
  have links : LinksIncrease (manageAll intl calls (.launch businesses firstSeenAt .empty .empty)) :=
    manageAll_keeps LinksIncrease (fun _ _ _ _ links success => links.manage success)
      fun id rule older found => by simp [RewardDb.launch] at found
  have nextLinks : LinksIncrease next := by
    have success : (ManagementCall.updateProgram enterpriseId programId input).statement intl
        (manageAll intl calls (.launch businesses firstSeenAt .empty .empty)) = .ok ((), next) :=
      updated
    exact links.manage success
  simp only [updateProgram_liveRules updated]
  constructor
  · rintro ⟨once, -⟩
    refine List.nodup_iff_count_le_one.mpr fun triggerKind => ?_
    rw [once triggerKind]
    split <;> omega
  · refine fun distinct => ⟨fun triggerKind => ?_, nextLinks.versionsIncrease⟩
    rw [distinct.count]

/-- A saved form of one trigger leaves its one rule. -/
theorem one_live_rule_per_trigger_saved_once :
    ∃ next, updateProgram fixedIntl 1 0 commentForm
        (manageAll fixedIntl [.createProgram 1 commentForm, .setRuleActive 1 0 false]
          (.launch (fun _ => openBusiness) (fun _ _ => none) .empty .empty)) = .ok ((), next) ∧
      (∀ triggerKind, next.liveRules 1 0 triggerKind =
        if triggerKind ∈ commentForm.triggers then 1 else 0) ∧ VersionsIncrease next := by
  have saves : (updateProgram fixedIntl 1 0 commentForm
      (manageAll fixedIntl [.createProgram 1 commentForm, .setRuleActive 1 0 false]
        (.launch (fun _ => openBusiness) (fun _ _ => none) .empty .empty))).toOption.any
          (fun _ => true) = true := by
    decide +kernel
  obtain ⟨⟨_, next⟩, updated, -⟩ := toOption_any_eq_true.mp saves
  exact ⟨next, updated, (one_live_rule_per_trigger fixedIntl _ _ _ 1 0 commentForm next
    updated).mpr (by decide)⟩

def commentTwiceForm : CreateRewardProgramInput :=
  { commentForm with triggers := [.commentOnOwnPost, .commentOnOwnPost] }

/-- A form that lists its trigger twice is accepted, and leaves two active rules for it. -/
theorem repeated_trigger_leaves_two_rules :
    ¬ ∀ (intl : Intl) (businesses : Nat → Business) (firstSeenAt : Nat → Nat → Option Int)
      (calls : List ManagementCall) (enterpriseId programId : Nat)
      (input : CreateRewardProgramInput) (next : RewardDb), input.accepted intl = true →
      updateProgram intl enterpriseId programId input
        (manageAll intl calls (.launch businesses firstSeenAt .empty .empty)) = .ok ((), next) →
      (∀ triggerKind, next.liveRules enterpriseId programId triggerKind =
        if triggerKind ∈ input.triggers then 1 else 0) ∧ VersionsIncrease next := by
  intro claimed
  have twice : (updateProgram fixedIntl 1 0 commentTwiceForm
      (manageAll fixedIntl [.createProgram 1 commentForm]
        (.launch (fun _ => openBusiness) (fun _ _ => none) .empty .empty))).toOption.any
          (fun outcome => outcome.2.liveRules 1 0 .commentOnOwnPost == 2) = true := by
    decide +kernel
  obtain ⟨⟨_, next⟩, updated, live⟩ := toOption_any_eq_true.mp twice
  rw [beq_iff_eq] at live
  have one := (claimed fixedIntl _ _ _ 1 0 commentTwiceForm next (by decide +kernel)
    updated).1 .commentOnOwnPost
  rw [live] at one
  exact absurd one (by decide)

end UnifiedService.Rewards
