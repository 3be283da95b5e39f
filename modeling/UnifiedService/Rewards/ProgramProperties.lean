import UnifiedService.Rewards.Programs

/-! What creating and editing a programme writes: one rule per listed trigger,
and nothing but the switch of the rules that were there. -/

set_option autoImplicit false

namespace UnifiedService.Rewards

open UnifiedService.Library

def CreateRewardProgramInput.newRule (input : CreateRewardProgramInput)
    (enterpriseId programId : Nat) (previous : RewardTriggerKind → Option (Nat × Nat))
    (triggerKind : RewardTriggerKind) : RewardRuleRow :=
  (input.ruleFor triggerKind
    (match previous triggerKind with | some (_, version) => version + 1 | none => 1)
    ((previous triggerKind).map Prod.fst)).row enterpriseId programId

def RewardDb.withNewRules (db : RewardDb) (input : CreateRewardProgramInput)
    (enterpriseId programId : Nat) (previous : RewardTriggerKind → Option (Nat × Nat)) :
    RewardDb :=
  { db with rules :=
      ⟨db.rules.rows ++ input.triggers.map (input.newRule enterpriseId programId previous)⟩ }

theorem createRules_iff {enterpriseId programId : Nat} {input : CreateRewardProgramInput}
    {previous : RewardTriggerKind → Option (Nat × Nat)} {triggers : List RewardTriggerKind}
    {db next : RewardDb} :
    createRules enterpriseId programId input previous triggers db = .ok ((), next) ↔
      (triggers ≠ [] → insertBenefits input.benefits = .ok ()) ∧
      next = { db with rules :=
        ⟨db.rules.rows ++ triggers.map (input.newRule enterpriseId programId previous)⟩ } := by
  induction triggers generalizing db with
  | nil =>
      constructor
      · intro created
        obtain ⟨-, rfl⟩ := Prod.mk.inj (Except.ok.inj created)
        simp
      · rintro ⟨-, rfl⟩
        simp [createRules]
  | cons triggerKind rest ih =>
      have one : ∀ after, createRuleWithin enterpriseId programId
          (input.ruleFor triggerKind
            (match previous triggerKind with | some (_, version) => version + 1 | none => 1)
            ((previous triggerKind).map Prod.fst)) db = .ok after ↔
          insertBenefits input.benefits = .ok () ∧
            after = (db.rules.nextId, { db with
              rules := db.rules.insert
                (input.newRule enterpriseId programId previous triggerKind) }) := by
        intro after
        rw [createRuleWithin, bind_eq_ok]
        constructor
        · rintro ⟨_, inserted, done⟩
          exact ⟨inserted, (Except.ok.inj done).symm⟩
        · rintro ⟨inserted, rfl⟩
          exact ⟨(), inserted, rfl⟩
      have step : createRules enterpriseId programId input previous (triggerKind :: rest) db =
            .ok ((), next) ↔
          insertBenefits input.benefits = .ok () ∧
            createRules enterpriseId programId input previous rest { db with
              rules := db.rules.insert
                (input.newRule enterpriseId programId previous triggerKind) } =
              .ok ((), next) := by
        rw [createRules, bind_eq_ok]
        constructor
        · rintro ⟨after, written, remaining⟩
          obtain ⟨inserted, rfl⟩ := (one after).mp written
          exact ⟨inserted, remaining⟩
        · rintro ⟨inserted, remaining⟩
          exact ⟨_, (one _).mpr ⟨inserted, rfl⟩, remaining⟩
      rw [step, ih]
      simp only [ne_eq, reduceCtorEq, not_false_eq_true, forall_const, Table.insert,
        List.append_assoc, List.map_cons, List.cons_append, List.nil_append]
      constructor
      · rintro ⟨inserted, -, same⟩
        exact ⟨inserted, same⟩
      · rintro ⟨inserted, same⟩
        exact ⟨inserted, fun _ => inserted, same⟩

def CreateRewardProgramInput.newProgram (input : CreateRewardProgramInput) (enterpriseId : Nat) :
    RewardProgramRow where
  enterpriseId := enterpriseId
  name := input.name
  displayName := input.displayName
  status := .draft
  startsAt := input.schedule.startsAt
  endsAt := input.schedule.endsAt
  forwardProviderCode := providerFor input.destination

def CreateRewardProgramInput.details (input : CreateRewardProgramInput)
    (program : RewardProgramRow) : RewardProgramRow :=
  { program with
    name := input.name
    displayName := input.displayName
    startsAt := input.schedule.startsAt
    endsAt := input.schedule.endsAt
    forwardProviderCode := providerFor input.destination }

structure Writable (intl : Intl) (db : RewardDb) (enterpriseId : Nat)
    (input : CreateRewardProgramInput) (except : Option Nat) : Prop where
  suits : assertBusinessSuits input (db.businesses enterpriseId) = .ok ()
  named : db.nameTaken intl enterpriseId input.name except = false
  storable : input.triggers ≠ [] → insertBenefits input.benefits = .ok ()

def RewardDb.created (db : RewardDb) (enterpriseId : Nat) (input : CreateRewardProgramInput) :
    RewardDb :=
  ({ db with programs := db.programs.insert (input.newProgram enterpriseId) }).withNewRules input
    enterpriseId db.programs.nextId fun _ => none

theorem createProgram_iff {intl : Intl} {enterpriseId programId : Nat}
    {input : CreateRewardProgramInput} {db next : RewardDb} :
    createProgram intl enterpriseId input db = .ok (programId, next) ↔
      Writable intl db enterpriseId input none ∧ programId = db.programs.nextId ∧
        next = db.created enterpriseId input := by
  rw [createProgram, bind_eq_ok]
  constructor
  · rintro ⟨_, suits, created⟩
    split at created
    · contradiction
    · next free =>
        obtain ⟨⟨_, after⟩, written, done⟩ := bind_eq_ok.mp created
        obtain ⟨rfl, rfl⟩ := Prod.mk.inj (Except.ok.inj done)
        obtain ⟨storable, same⟩ := createRules_iff.mp written
        exact ⟨⟨suits, Bool.eq_false_iff.mpr free, storable⟩, rfl, same⟩
  · rintro ⟨⟨suits, named, storable⟩, rfl, rfl⟩
    refine ⟨(), suits, ?_⟩
    rw [if_neg (by rw [named]; exact Bool.false_ne_true)]
    exact bind_eq_ok.mpr ⟨_, createRules_iff.mpr ⟨storable, rfl⟩, rfl⟩

theorem createProgram_ok {intl : Intl} {enterpriseId programId : Nat}
    {input : CreateRewardProgramInput} {db next : RewardDb}
    (created : createProgram intl enterpriseId input db = .ok (programId, next)) :
    programId = db.programs.nextId ∧ ∃ program : RewardProgramRow,
      program.enterpriseId = enterpriseId ∧
      next = ({ db with programs := db.programs.insert program }).withNewRules input
        enterpriseId programId fun _ => none := by
  obtain ⟨-, rfl, rfl⟩ := createProgram_iff.mp created
  exact ⟨rfl, _, rfl, rfl⟩

def RewardDb.edited (db : RewardDb) (enterpriseId programId : Nat)
    (input : CreateRewardProgramInput) : RewardDb :=
  (({ db with programs := db.programs.update programId input.details }
    ).deactivateProgramRules enterpriseId programId).withNewRules input enterpriseId programId
      (newestOfEach (db.activeRules enterpriseId programId))

theorem updateProgram_iff {intl : Intl} {enterpriseId programId : Nat}
    {input : CreateRewardProgramInput} {db next : RewardDb} :
    updateProgram intl enterpriseId programId input db = .ok ((), next) ↔
      (∃ program, db.findProgramById enterpriseId programId = some program ∧
        program.row.status ≠ .archived) ∧
      Writable intl db enterpriseId input (some programId) ∧
      next = db.edited enterpriseId programId input := by
  unfold updateProgram
  cases found : db.findProgramById enterpriseId programId with
  | none => simp
  | some program =>
      simp only [bind_eq_ok, RewardDb.updateDetails, found, Option.some.injEq]
      constructor
      · rintro ⟨_, suits, detailed, details, written⟩
        split at details
        · contradiction
        · next live =>
            split at details
            · contradiction
            · next free =>
                obtain rfl := Except.ok.inj details
                obtain ⟨storable, same⟩ := createRules_iff.mp written
                exact ⟨⟨program, rfl, live⟩, ⟨suits, Bool.eq_false_iff.mpr free, storable⟩, same⟩
      · rintro ⟨⟨_, rfl, live⟩, ⟨suits, named, storable⟩, rfl⟩
        refine ⟨(), suits, { db with programs := db.programs.update programId input.details }, ?_,
          createRules_iff.mpr ⟨storable, rfl⟩⟩
        rw [if_neg live, if_neg (by rw [named]; exact Bool.false_ne_true)]
        rfl

/-- An edited programme keeps its rows, switched off, beside one new rule per
listed trigger. -/
theorem updateProgram_ok {intl : Intl} {enterpriseId programId : Nat}
    {input : CreateRewardProgramInput} {db next : RewardDb}
    (updated : updateProgram intl enterpriseId programId input db = .ok ((), next)) :
    ∃ change : RewardProgramRow → RewardProgramRow,
      (∀ program, (change program).enterpriseId = program.enterpriseId) ∧
      next = (({ db with programs := db.programs.update programId change }
        ).deactivateProgramRules enterpriseId programId).withNewRules input enterpriseId programId
          (newestOfEach (db.activeRules enterpriseId programId)) := by
  obtain ⟨-, -, rfl⟩ := updateProgram_iff.mp updated
  exact ⟨input.details, fun _ => rfl, rfl⟩

def RulesGrow (db next : RewardDb) : Prop :=
  ∀ id rule, db.rules.get? id = some rule →
    ∃ isActive, next.rules.get? id = some { rule with isActive }

theorem RulesGrow.refl (db : RewardDb) : RulesGrow db db :=
  fun _ rule found => ⟨rule.isActive, found⟩

theorem RulesGrow.of_rules_eq {db next : RewardDb} (same : next.rules = db.rules) :
    RulesGrow db next :=
  fun _ rule found => ⟨rule.isActive, same ▸ found⟩

theorem RulesGrow.trans {first second third : RewardDb} (earlier : RulesGrow first second)
    (later : RulesGrow second third) : RulesGrow first third := by
  intro id rule found
  obtain ⟨isActive, middle⟩ := earlier id rule found
  obtain ⟨switched, last⟩ := later id _ middle
  exact ⟨switched, last⟩

theorem RulesGrow.withNewRules (db : RewardDb) (input : CreateRewardProgramInput)
    (enterpriseId programId : Nat) (previous : RewardTriggerKind → Option (Nat × Nat)) :
    RulesGrow db (db.withNewRules input enterpriseId programId previous) := by
  intro id rule found
  refine ⟨rule.isActive, ?_⟩
  have bound : id < db.rules.rows.length := Table.get?_lt found
  rw [Table.get?] at found ⊢
  rw [RewardDb.withNewRules, List.getElem?_append_left bound, found]

theorem withNewRules_get? {db : RewardDb} {input : CreateRewardProgramInput}
    {enterpriseId programId : Nat} {previous : RewardTriggerKind → Option (Nat × Nat)} {id : Nat}
    {rule : RewardRuleRow}
    (found : (db.withNewRules input enterpriseId programId previous).rules.get? id = some rule) :
    db.rules.get? id = some rule ∨
      (db.rules.get? id = none ∧ ∃ triggerKind ∈ input.triggers,
        rule = input.newRule enterpriseId programId previous triggerKind) := by
  rw [Table.get?, RewardDb.withNewRules] at found
  rcases Nat.lt_or_ge id db.rules.rows.length with before | after
  · rw [List.getElem?_append_left before] at found
    exact .inl found
  · rw [List.getElem?_append_right after] at found
    obtain ⟨triggerKind, member, rfl⟩ := List.mem_map.mp (List.mem_of_getElem? found)
    exact .inr ⟨List.getElem?_eq_none after, triggerKind, member, rfl⟩

theorem deactivateProgramRules_missing {db : RewardDb} {id : Nat} (enterpriseId programId : Nat)
    (missing : db.rules.get? id = none) :
    (db.deactivateProgramRules enterpriseId programId).rules.get? id = none := by
  rw [Table.get?] at missing ⊢
  simp [RewardDb.deactivateProgramRules, missing]

theorem RulesGrow.deactivateProgramRules (db : RewardDb) (enterpriseId programId : Nat) :
    RulesGrow db (db.deactivateProgramRules enterpriseId programId) := by
  intro id rule found
  rw [Table.get?] at found
  simp only [RewardDb.deactivateProgramRules, Table.get?, List.getElem?_map, found,
    Option.map_some]
  split
  · exact ⟨false, rfl⟩
  · exact ⟨rule.isActive, rfl⟩

end UnifiedService.Rewards
