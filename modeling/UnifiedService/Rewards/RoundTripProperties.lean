import UnifiedService.Rewards.LineageProperties
import UnifiedService.Rewards.ScheduleProperties

/-! Reading a programme and saving it back: what every programme made by its form
stores, what the form read back says, and when saving that form changes nothing. -/

set_option autoImplicit false

namespace UnifiedService.Rewards

open UnifiedService.Library

/-! ### The rules of one programme -/

def RewardDb.programRules (db : RewardDb) (enterpriseId programId : Nat) :
    List (Stored RewardRuleRow) :=
  db.rules.select fun rule => rule.enterpriseId == enterpriseId && rule.programId == programId

theorem activeRules_eq (db : RewardDb) (enterpriseId programId : Nat) :
    db.activeRules enterpriseId programId =
      (db.programRules enterpriseId programId).filter fun rule => rule.row.isActive :=
  db.rules.select_and _ _

theorem mem_programRules {db : RewardDb} {enterpriseId programId : Nat}
    {rule : Stored RewardRuleRow} :
    rule ∈ db.programRules enterpriseId programId ↔
      db.rules.get? rule.id = some rule.row ∧ rule.row.enterpriseId = enterpriseId ∧
        rule.row.programId = programId := by
  simp [RewardDb.programRules, Table.mem_select]

theorem programRules_withNewRules (db : RewardDb) (input : CreateRewardProgramInput)
    (enterpriseId programId : Nat) (previous : RewardTriggerKind → Option (Nat × Nat)) :
    ∃ added, (db.withNewRules input enterpriseId programId previous).programRules enterpriseId
          programId = db.programRules enterpriseId programId ++ added ∧
      added.map (·.row) = input.triggers.map (input.newRule enterpriseId programId previous) := by
  obtain ⟨added, listed, rows⟩ := Table.select_append db.rules.rows
    (input.triggers.map (input.newRule enterpriseId programId previous))
    (fun rule => rule.enterpriseId == enterpriseId && rule.programId == programId)
  refine ⟨added, listed, rows.trans ?_⟩
  refine List.filter_eq_self.mpr fun rule member => ?_
  obtain ⟨triggerKind, -, rfl⟩ := List.mem_map.mp member
  simp [CreateRewardProgramInput.newRule, RuleInput.row]

theorem programRules_withNewRules_other {db : RewardDb} {input : CreateRewardProgramInput}
    {enterpriseId programId other : Nat} {previous : RewardTriggerKind → Option (Nat × Nat)}
    (owner : Nat) (different : programId ≠ other) :
    (db.withNewRules input enterpriseId programId previous).programRules owner other =
      db.programRules owner other := by
  obtain ⟨added, listed, rows⟩ := Table.select_append db.rules.rows
    (input.triggers.map (input.newRule enterpriseId programId previous))
    (fun rule => rule.enterpriseId == owner && rule.programId == other)
  have none : added = [] := by
    rw [← List.map_eq_nil_iff, rows, List.filter_eq_nil_iff]
    intro rule member
    obtain ⟨triggerKind, -, rfl⟩ := List.mem_map.mp member
    simp [CreateRewardProgramInput.newRule, RuleInput.row, different]
  rw [none, List.append_nil] at listed
  exact listed

theorem programRules_deactivate (db : RewardDb) (enterpriseId programId : Nat) :
    (db.deactivateProgramRules enterpriseId programId).programRules enterpriseId programId =
      (db.programRules enterpriseId programId).map fun rule =>
        ⟨rule.id, { rule.row with isActive := false }⟩ := by
  rw [RewardDb.programRules, RewardDb.deactivateProgramRules, Table.select_map]
  · refine List.map_congr_left fun rule member => ?_
    obtain ⟨-, ours⟩ := Table.mem_select.mp member
    simp only [Bool.and_eq_true, beq_iff_eq] at ours
    rw [if_pos ours]
  · intro rule
    split <;> rfl

theorem programRules_deactivate_other (db : RewardDb) (enterpriseId owner : Nat)
    {programId other : Nat} (different : programId ≠ other) :
    (db.deactivateProgramRules enterpriseId programId).programRules owner other =
      db.programRules owner other := by
  rw [RewardDb.programRules, RewardDb.deactivateProgramRules, Table.select_map]
  · refine (List.map_congr_left fun rule member => ?_).trans (List.map_id _)
    obtain ⟨-, ours⟩ := Table.mem_select.mp member
    simp only [Bool.and_eq_true, beq_iff_eq] at ours
    rw [if_neg fun both => different (both.2.symm.trans ours.2)]
    rfl
  · intro rule
    split <;> rfl

/-! ### What a saved form leaves -/

/-- The programme's active rules are those its form wrote, behind rules switched off. -/
structure StoredForm (db : RewardDb) (enterpriseId programId : Nat)
    (input : CreateRewardProgramInput) : Prop where
  others : ∀ condition ∈ input.conditions, condition.conditionKind ≠ .timeWindow
  distinct : input.triggers.Nodup
  suits : assertBusinessSuits input (db.businesses enterpriseId) = .ok ()
  storable : input.triggers ≠ [] → insertBenefits input.benefits = .ok ()
  rules : ∃ retired written previous,
    db.programRules enterpriseId programId = retired ++ written ∧
    (∀ rule ∈ retired, rule.row.isActive = false) ∧
    written.map (·.row) = input.triggers.map (input.newRule enterpriseId programId previous)

theorem StoredForm.kept {db next : RewardDb} {enterpriseId programId : Nat}
    {input : CreateRewardProgramInput} (stored : StoredForm db enterpriseId programId input)
    (businesses : next.businesses = db.businesses)
    (rules : next.programRules enterpriseId programId = db.programRules enterpriseId programId) :
    StoredForm next enterpriseId programId input :=
  ⟨stored.others, stored.distinct, businesses ▸ stored.suits, stored.storable,
    rules ▸ stored.rules⟩

/-- No two programmes of a business share a name, however it is cased. -/
def NamesUnique (intl : Intl) (programs : Table RewardProgramRow) : Prop :=
  ∀ first second one other, programs.get? first = some one → programs.get? second = some other →
    one.enterpriseId = other.enterpriseId →
    intl.toLowerCase one.name = intl.toLowerCase other.name → first = second

structure ProgramsHold (intl : Intl) (db : RewardDb) : Prop where
  named : NamesUnique intl db.programs
  live : ∀ id program, db.programs.get? id = some program → program.status ≠ .archived ∧
    ∃ destination, program.forwardProviderCode = providerFor destination
  stored : ∀ id program, db.programs.get? id = some program →
    ∃ input, StoredForm db program.enterpriseId id input
  owned : ∀ id rule, db.rules.get? id = some rule →
    rule.priority = 0 ∧ rule.programId < db.programs.nextId

theorem nameTaken_eq_false {intl : Intl} {db : RewardDb} {enterpriseId : Nat} {name : String}
    {except : Option Nat} :
    db.nameTaken intl enterpriseId name except = false ↔
      ∀ id program, db.programs.get? id = some program → program.enterpriseId = enterpriseId →
        intl.toLowerCase program.name = intl.toLowerCase name → some id = except := by
  rw [RewardDb.nameTaken, List.any_eq_false]
  constructor
  · intro free id program found sameEnterprise sameName
    have taken := free ⟨id, program⟩
      (Table.mem_select.mpr ⟨found, by simp [sameEnterprise, sameName]⟩)
    simpa using taken
  · intro free program member
    obtain ⟨found, same⟩ := Table.mem_select.mp member
    simp only [Bool.and_eq_true, beq_iff_eq] at same
    simpa using free program.id program.row found same.1 same.2

theorem NamesUnique.created {intl : Intl} {db : RewardDb} {program : RewardProgramRow}
    (unique : NamesUnique intl db.programs)
    (free : db.nameTaken intl program.enterpriseId program.name none = false) :
    NamesUnique intl (db.programs.insert program) := by
  have unused := nameTaken_eq_false.mp free
  intro first second one other firstFound secondFound sameEnterprise sameName
  rw [Table.get?_insert] at firstFound secondFound
  split at firstFound <;> split at secondFound
  · next firstLast secondLast => exact firstLast.trans secondLast.symm
  · obtain rfl := Option.some.inj firstFound
    exact nomatch unused second other secondFound sameEnterprise.symm sameName.symm
  · obtain rfl := Option.some.inj secondFound
    exact nomatch unused first one firstFound sameEnterprise sameName
  · exact unique first second one other firstFound secondFound sameEnterprise sameName

theorem NamesUnique.edited {intl : Intl} {db : RewardDb} {programId : Nat}
    {program : RewardProgramRow} {change : RewardProgramRow → RewardProgramRow}
    (unique : NamesUnique intl db.programs) (found : db.programs.get? programId = some program)
    (owner : (change program).enterpriseId = program.enterpriseId)
    (free : db.nameTaken intl program.enterpriseId (change program).name (some programId) = false) :
    NamesUnique intl (db.programs.update programId change) := by
  have unused := nameTaken_eq_false.mp free
  intro first second one other firstFound secondFound sameEnterprise sameName
  rw [Table.get?_update] at firstFound secondFound
  split at firstFound <;> split at secondFound
  · next firstSame secondSame => exact firstSame.symm.trans secondSame
  · next firstSame _ =>
      subst firstSame
      rw [found] at firstFound
      obtain rfl := Option.some.inj firstFound
      rw [owner] at sameEnterprise
      exact (Option.some.inj (unused second other secondFound sameEnterprise.symm sameName.symm)).symm
  · next secondSame =>
      subst secondSame
      rw [found] at secondFound
      obtain rfl := Option.some.inj secondFound
      rw [owner] at sameEnterprise
      exact Option.some.inj (unused first one firstFound sameEnterprise sameName)
  · exact unique first second one other firstFound secondFound sameEnterprise sameName

def ManagementCall.savesForm (intl : Intl) : ManagementCall → Bool
  | .createProgram _ input | .updateProgram _ _ input =>
      input.accepted intl && decide input.triggers.Nodup
  | .setProgramStatus _ _ _ | .setRuleActive _ _ _ | .adjustBalance _ _ => false

theorem accepted_others {intl : Intl} {input : CreateRewardProgramInput}
    (accepted : input.accepted intl = true) :
    ∀ condition ∈ input.conditions, condition.conditionKind ≠ .timeWindow := by
  rw [CreateRewardProgramInput.accepted, Bool.and_eq_true] at accepted
  have refused := accepted.2
  simp only [programRefinements, List.all_cons, Bool.and_eq_true] at refused
  obtain ⟨-, -, -, -, -, -, -, -, -, -, windows, -⟩ := refused
  intro condition member
  exact bne_iff_ne.mp (List.all_eq_true.mp windows condition member)

theorem ProgramsHold.created {intl : Intl} {db : RewardDb} {enterpriseId : Nat}
    {input : CreateRewardProgramInput} (holds : ProgramsHold intl db)
    (others : ∀ condition ∈ input.conditions, condition.conditionKind ≠ .timeWindow)
    (distinct : input.triggers.Nodup) (writable : Writable intl db enterpriseId input none) :
    ProgramsHold intl (db.created enterpriseId input) := by
  have programs : (db.created enterpriseId input).programs =
      db.programs.insert (input.newProgram enterpriseId) := rfl
  refine ⟨?_, ?_, ?_, ?_⟩
  · exact holds.named.created writable.named
  · intro id program found
    rw [programs, Table.get?_insert] at found
    split at found
    · obtain rfl := Option.some.inj found
      exact ⟨by simp [CreateRewardProgramInput.newProgram], input.destination, rfl⟩
    · exact holds.live id program found
  · intro id program found
    rw [programs, Table.get?_insert] at found
    split at found
    · next last =>
        obtain rfl := Option.some.inj found
        subst last
        obtain ⟨added, listed, rows⟩ := programRules_withNewRules
          { db with programs := db.programs.insert (input.newProgram enterpriseId) } input
          enterpriseId db.programs.nextId fun _ => none
        refine ⟨input, others, distinct, writable.suits, writable.storable, _, added, _, listed, ?_,
          rows⟩
        intro rule member
        obtain ⟨ruleFound, -, ofProgram⟩ := mem_programRules.mp member
        have known := (holds.owned rule.id rule.row ruleFound).2
        omega
    · next different =>
        obtain ⟨form, stored⟩ := holds.stored id program found
        exact ⟨form, stored.kept rfl (programRules_withNewRules_other _ (Ne.symm different))⟩
  · intro id rule found
    rw [programs, Table.nextId_insert]
    rcases withNewRules_get? found with old | ⟨-, triggerKind, -, rfl⟩
    · obtain ⟨priority, known⟩ := holds.owned id rule old
      exact ⟨priority, by omega⟩
    · exact ⟨rfl, Nat.lt_succ_self _⟩

theorem findProgramById_some {db : RewardDb} {enterpriseId id : Nat}
    {program : Stored RewardProgramRow}
    (found : db.findProgramById enterpriseId id = some program) :
    program.id = id ∧ db.programs.get? id = some program.row ∧
      program.row.enterpriseId = enterpriseId := by
  obtain ⟨row, present, rfl⟩ := Option.map_eq_some_iff.mp found
  obtain ⟨stored, ours⟩ := Option.filter_eq_some_iff.mp present
  exact ⟨rfl, stored, beq_iff_eq.mp ours⟩

theorem StoredForm.edited {intl : Intl} {db : RewardDb} {enterpriseId programId : Nat}
    {input : CreateRewardProgramInput}
    (others : ∀ condition ∈ input.conditions, condition.conditionKind ≠ .timeWindow)
    (distinct : input.triggers.Nodup)
    (writable : Writable intl db enterpriseId input (some programId)) :
    StoredForm (db.edited enterpriseId programId input) enterpriseId programId input := by
  obtain ⟨added, listed, rows⟩ := programRules_withNewRules
    (({ db with programs := db.programs.update programId input.details }
      ).deactivateProgramRules enterpriseId programId) input enterpriseId programId
    (newestOfEach (db.activeRules enterpriseId programId))
  refine ⟨others, distinct, writable.suits, writable.storable, _, added, _, listed, ?_, rows⟩
  intro rule member
  rw [programRules_deactivate] at member
  obtain ⟨_, -, rfl⟩ := List.mem_map.mp member
  rfl

theorem ProgramsHold.edited {intl : Intl} {db : RewardDb} {enterpriseId programId : Nat}
    {input : CreateRewardProgramInput} {program : RewardProgramRow}
    (holds : ProgramsHold intl db) (found : db.programs.get? programId = some program)
    (owner : program.enterpriseId = enterpriseId)
    (others : ∀ condition ∈ input.conditions, condition.conditionKind ≠ .timeWindow)
    (distinct : input.triggers.Nodup)
    (writable : Writable intl db enterpriseId input (some programId)) :
    ProgramsHold intl (db.edited enterpriseId programId input) := by
  have programs : (db.edited enterpriseId programId input).programs =
      db.programs.update programId input.details := rfl
  refine ⟨?_, ?_, ?_, ?_⟩
  · exact holds.named.edited found rfl (owner ▸ writable.named)
  · intro id later laterFound
    rw [programs, Table.get?_update] at laterFound
    split at laterFound
    · obtain ⟨row, present, rfl⟩ := Option.map_eq_some_iff.mp laterFound
      exact ⟨(holds.live id row present).1, input.destination, rfl⟩
    · exact holds.live id later laterFound
  · intro id later laterFound
    rw [programs, Table.get?_update] at laterFound
    split at laterFound
    · next same =>
        subst same
        rw [found] at laterFound
        obtain rfl := Option.some.inj laterFound
        have sameOwner : (input.details program).enterpriseId = enterpriseId := owner
        rw [sameOwner]
        exact ⟨input, .edited others distinct writable⟩
    · next different =>
        obtain ⟨form, stored⟩ := holds.stored id later laterFound
        refine ⟨form, stored.kept rfl ?_⟩
        exact (programRules_withNewRules_other _ different).trans
          (programRules_deactivate_other _ _ _ different)
  · intro id rule ruleFound
    rw [programs, Table.nextId_update]
    rcases withNewRules_get? ruleFound with old | ⟨-, triggerKind, -, rfl⟩
    · obtain ⟨before, beforeFound⟩ :=
        Option.ne_none_iff_exists'.mp (deactivateProgramRules_origin old)
      obtain ⟨_, later⟩ := RulesGrow.deactivateProgramRules
        { db with programs := db.programs.update programId input.details } enterpriseId programId
        id before beforeFound
      obtain rfl := Option.some.inj (later.symm.trans old)
      exact holds.owned id before beforeFound
    · exact ⟨rfl, Table.get?_lt found⟩

theorem ProgramsHold.manage {intl : Intl} {call : ManagementCall} {db next : RewardDb}
    (holds : ProgramsHold intl db) (saves : call.savesForm intl = true)
    (success : call.statement intl db = .ok ((), next)) : ProgramsHold intl next := by
  cases call with
  | createProgram enterpriseId input =>
      simp only [ManagementCall.savesForm, Bool.and_eq_true, decide_eq_true_eq] at saves
      obtain ⟨⟨programId, after⟩, created, done⟩ := bind_eq_ok.mp success
      obtain ⟨-, rfl⟩ := Prod.mk.inj (Except.ok.inj done)
      obtain ⟨writable, -, rfl⟩ := createProgram_iff.mp created
      exact holds.created (accepted_others saves.1) saves.2 writable
  | updateProgram enterpriseId programId input =>
      simp only [ManagementCall.savesForm, Bool.and_eq_true, decide_eq_true_eq] at saves
      obtain ⟨⟨program, found, -⟩, writable, rfl⟩ := updateProgram_iff.mp success
      obtain ⟨-, present, owner⟩ := findProgramById_some found
      exact holds.edited present owner (accepted_others saves.1) saves.2 writable
  | setProgramStatus enterpriseId programId status => contradiction
  | setRuleActive enterpriseId ruleId isActive => contradiction
  | adjustBalance enterpriseId input => contradiction

/-! ### The form read back -/

/-- The active rules are all reported when they are within the page read, or none are. -/
theorem listForProgram_active {db : RewardDb} {enterpriseId programId : Nat}
    (level : ∀ rule ∈ db.programRules enterpriseId programId, rule.row.priority = 0)
    (room : (db.programRules enterpriseId programId).length ≤ defaultPage ∨
      db.activeRules enterpriseId programId = []) :
    ((db.listForProgram enterpriseId programId defaultPage).filter fun rule => rule.row.isActive) =
      db.activeRules enterpriseId programId := by
  have inOrder : RewardDb.orderBy (fun rule => (rule.row.priority : Int))
      (db.programRules enterpriseId programId) = db.programRules enterpriseId programId := by
    refine List.Pairwise.insertionSort_eq ?_
    refine List.pairwise_of_forall_mem_list fun first firstMember second secondMember => ?_
    dsimp only
    rw [level first firstMember, level second secondMember]
  have listed : db.listForProgram enterpriseId programId defaultPage =
      (db.programRules enterpriseId programId).take defaultPage :=
    congrArg (List.take defaultPage) inOrder
  rw [listed, activeRules_eq]
  rcases room with few | none
  · rw [List.take_of_length_le few]
  · rw [activeRules_eq] at none
    rw [none, List.filter_eq_nil_iff]
    exact fun rule member => List.filter_eq_nil_iff.mp none rule (List.mem_of_mem_take member)

theorem mem_activeRules {db : RewardDb} {enterpriseId programId : Nat}
    {rule : Stored RewardRuleRow} (member : rule ∈ db.activeRules enterpriseId programId) :
    db.rules.get? rule.id = some rule.row ∧ rule.row.enterpriseId = enterpriseId := by
  rw [activeRules_eq] at member
  obtain ⟨found, owner, -⟩ := mem_programRules.mp (List.mem_filter.mp member).1
  exact ⟨found, owner⟩

theorem StoredForm.active {db : RewardDb} {enterpriseId programId : Nat}
    {input : CreateRewardProgramInput} (stored : StoredForm db enterpriseId programId input) :
    ∃ previous, (db.activeRules enterpriseId programId).map (·.row) =
      input.triggers.map (input.newRule enterpriseId programId previous) := by
  obtain ⟨retired, written, previous, listed, off, rows⟩ := stored.rules
  refine ⟨previous, ?_⟩
  have none : retired.filter (fun rule => rule.row.isActive) = [] :=
    List.filter_eq_nil_iff.mpr fun rule member => by simp [off rule member]
  have all : written.filter (fun rule => rule.row.isActive) = written := by
    refine List.filter_eq_self.mpr fun rule member => ?_
    have row : rule.row ∈ written.map (·.row) := List.mem_map.mpr ⟨rule, member, rfl⟩
    rw [rows] at row
    obtain ⟨triggerKind, -, same⟩ := List.mem_map.mp row
    rw [← same]
    rfl
  rw [activeRules_eq, listed, List.filter_append, none, all, List.nil_append, rows]

theorem StoredForm.active_row {db : RewardDb} {enterpriseId programId : Nat}
    {input : CreateRewardProgramInput} (stored : StoredForm db enterpriseId programId input)
    {rule : Stored RewardRuleRow} (member : rule ∈ db.activeRules enterpriseId programId) :
    ∃ previous, ∃ triggerKind ∈ input.triggers,
      rule.row = input.newRule enterpriseId programId previous triggerKind := by
  obtain ⟨previous, rows⟩ := stored.active
  have row : rule.row ∈ (db.activeRules enterpriseId programId).map (·.row) :=
    List.mem_map.mpr ⟨rule, member, rfl⟩
  rw [rows] at row
  obtain ⟨triggerKind, listed, same⟩ := List.mem_map.mp row
  exact ⟨previous, triggerKind, listed, same.symm⟩

theorem StoredForm.active_triggers {db : RewardDb} {enterpriseId programId : Nat}
    {input : CreateRewardProgramInput} (stored : StoredForm db enterpriseId programId input) :
    (db.activeRules enterpriseId programId).map (fun rule => rule.row.triggerKind) =
      input.triggers := by
  obtain ⟨previous, rows⟩ := stored.active
  have same : (fun rule : Stored RewardRuleRow => rule.row.triggerKind) =
      (fun row : RewardRuleRow => row.triggerKind) ∘ fun rule => rule.row := rfl
  rw [same, ← List.map_map, rows, List.map_map]
  exact List.map_id _

theorem loadConditionsForRules_active (db : RewardDb) (enterpriseId programId : Nat) :
    db.loadConditionsForRules enterpriseId (db.activeRules enterpriseId programId) =
      (db.activeRules enterpriseId programId).flatMap fun rule =>
        rule.row.conditions.map fun condition => (rule.id, condition) := by
  have inOrder : RewardDb.orderBy (fun rule => (rule.id : Int))
      (db.activeRules enterpriseId programId) = db.activeRules enterpriseId programId := by
    refine List.Pairwise.insertionSort_eq ?_
    refine (db.rules.select_pairwise_lt _).imp fun less => ?_
    dsimp only
    omega
  rw [RewardDb.loadConditionsForRules, inOrder]
  refine List.flatMap_congr fun rule member => ?_
  obtain ⟨found, owner⟩ := mem_activeRules member
  simp [RewardDb.loadConditions, found, owner]

theorem conditionsOf_first {first : Stored RewardRuleRow} {rest : List (Stored RewardRuleRow)}
    (distinct : ∀ rule ∈ rest, rule.id ≠ first.id) :
    ((((first :: rest).flatMap fun rule =>
      rule.row.conditions.map fun condition => (rule.id, condition)).filter
        fun entry => entry.1 == first.id).map Prod.snd) = first.row.conditions := by
  have mine : (first.row.conditions.map fun condition => (first.id, condition)).filter
      (fun entry => entry.1 == first.id) =
        first.row.conditions.map fun condition => (first.id, condition) :=
    List.filter_eq_self.mpr fun entry member => by
      obtain ⟨_, -, rfl⟩ := List.mem_map.mp member
      simp
  have theirs : (rest.flatMap fun rule =>
      rule.row.conditions.map fun condition => (rule.id, condition)).filter
        (fun entry => entry.1 == first.id) = [] :=
    List.filter_eq_nil_iff.mpr fun entry member => by
      obtain ⟨rule, isRest, inRule⟩ := List.mem_flatMap.mp member
      obtain ⟨_, -, rfl⟩ := List.mem_map.mp inRule
      simpa using distinct rule isRest
  rw [List.flatMap_cons, List.filter_append, mine, theirs, List.append_nil, List.map_map]
  exact List.map_id _

theorem mem_distinctConditions {conditions seen : List RewardConditionConfig}
    {condition : RewardConditionConfig} :
    condition ∈ distinctConditions seen conditions ↔ condition ∈ conditions ∧ condition ∉ seen := by
  induction conditions generalizing seen with
  | nil => simp [distinctConditions]
  | cons first rest ih =>
      simp only [distinctConditions, List.contains_iff_mem]
      split
      · next known =>
          rw [ih, List.mem_cons]
          constructor
          · rintro ⟨later, unseen⟩
            exact ⟨.inr later, unseen⟩
          · rintro ⟨rfl | later, unseen⟩
            · contradiction
            · exact ⟨later, unseen⟩
      · next unknown =>
          rw [List.mem_cons, ih, List.mem_cons, List.mem_cons]
          constructor
          · rintro (rfl | ⟨later, unseen⟩)
            · exact ⟨.inl rfl, unknown⟩
            · exact ⟨.inr later, fun old => unseen (.inr old)⟩
          · rintro ⟨rfl | later, unseen⟩
            · exact .inl rfl
            · by_cases same : condition = first
              · exact .inl same
              · exact .inr ⟨later, fun old => old.elim same unseen⟩

/-- The form read back says what the form saved said, as far as rules carry it. -/
structure Restates (input : CreateRewardProgramInput) (program : RewardProgramRow)
    (form : CreateRewardProgramInput) : Prop where
  name : form.name = program.name
  displayName : form.displayName = program.displayName
  startsAt : form.schedule.startsAt = program.startsAt
  endsAt : form.schedule.endsAt = program.endsAt
  destination : form.destination =
    if program.forwardProviderCode.isNone then .internal else .external
  triggers : form.triggers = input.triggers
  others : ∀ condition ∈ form.conditions, condition.conditionKind ≠ .timeWindow
  minPointsBalance : .pointsBalanceReached ∈ input.triggers →
    form.minPointsBalance = input.minPointsBalance
  holdHours : input.triggers ≠ [] → form.holdHours = input.holdHours
  capScope : input.triggers ≠ [] → form.capScope = input.capScope
  capCount : input.triggers ≠ [] → form.capCount = input.capCount
  benefits : input.triggers ≠ [] → form.benefits = input.benefits
  conditions : input.triggers ≠ [] →
    ∀ condition, condition ∈ form.conditions ↔ condition ∈ input.conditions
  days : input.triggers ≠ [] →
    form.schedule.days = conditionsToSchedule (programConditions input.schedule input.conditions)

theorem mem_programConditions {schedule : ProgramSchedule}
    {conditions : List RewardConditionConfig} {condition : RewardConditionConfig}
    (other : condition.conditionKind ≠ .timeWindow) :
    condition ∈ programConditions schedule conditions ↔ condition ∈ conditions := by
  unfold programConditions
  split
  · exact Iff.rfl
  · rw [List.mem_cons]
    refine ⟨fun member => member.resolve_left ?_, .inr⟩
    rintro rfl
    exact other rfl

theorem mem_readConditions {rules : List (Stored RewardRuleRow)} {input : CreateRewardProgramInput}
    (some : rules ≠ [])
    (others : ∀ condition ∈ input.conditions, condition.conditionKind ≠ .timeWindow)
    (same : ∀ rule ∈ rules,
      rule.row.conditions = programConditions input.schedule input.conditions)
    (condition : RewardConditionConfig) :
    condition ∈ distinctConditions [] (((rules.flatMap fun rule =>
        rule.row.conditions.map fun condition => (rule.id, condition)).map Prod.snd).filter
          fun condition => condition.conditionKind != .timeWindow) ↔
      condition ∈ input.conditions := by
  rw [mem_distinctConditions]
  simp only [List.mem_filter, List.mem_map, List.mem_flatMap, bne_iff_ne, List.not_mem_nil,
    not_false_eq_true, and_true]
  constructor
  · rintro ⟨⟨_, ⟨rule, member, _, present, rfl⟩, rfl⟩, other⟩
    rw [same rule member] at present
    exact (mem_programConditions other).mp present
  · intro listed
    obtain ⟨rule, member⟩ := List.exists_mem_of_ne_nil rules some
    have other := others condition listed
    refine ⟨⟨_, ⟨rule, member, condition, ?_, rfl⟩, rfl⟩, other⟩
    rw [same rule member]
    exact (mem_programConditions other).mpr listed

theorem programConfiguration_restates {db : RewardDb} {enterpriseId programId : Nat}
    {program : Stored RewardProgramRow} {input : CreateRewardProgramInput}
    (found : db.findProgramById enterpriseId programId = some program)
    (stored : StoredForm db enterpriseId programId input)
    (reported : ((db.listForProgram enterpriseId programId defaultPage).filter
      fun rule => rule.row.isActive) = db.activeRules enterpriseId programId) :
    ∃ configuration, programConfiguration db enterpriseId programId = .ok configuration ∧
      Restates input program.row configuration.form := by
  have everyCondition := loadConditionsForRules_active db enterpriseId programId
  have triggers := stored.active_triggers
  have rows : ∀ rule ∈ db.activeRules enterpriseId programId, ∃ previous,
      ∃ triggerKind ∈ input.triggers,
        rule.row = input.newRule enterpriseId programId previous triggerKind :=
    fun _ => stored.active_row
  have read : ∀ rule ∈ db.activeRules enterpriseId programId,
      db.rules.get? rule.id = some rule.row ∧ rule.row.enterpriseId = enterpriseId :=
    fun _ => mem_activeRules
  have ids := db.rules.select_pairwise_lt fun rule =>
    rule.enterpriseId == enterpriseId && rule.programId == programId && rule.isActive
  change (db.activeRules enterpriseId programId).Pairwise _ at ids
  simp only [programConfiguration, found, reported]
  refine ⟨_, rfl, ?_⟩
  dsimp only
  rw [everyCondition]
  clear everyCondition reported
  generalize db.activeRules enterpriseId programId = rules at triggers rows read ids ⊢
  have balance : .pointsBalanceReached ∈ input.triggers →
      ((rules.find? fun rule => rule.row.triggerKind == .pointsBalanceReached).bind fun rule =>
        rule.row.triggerConfig.minPointsBalance) = input.minPointsBalance := by
    intro listed
    rw [← triggers] at listed
    obtain ⟨rule, member, same⟩ := List.mem_map.mp listed
    have present : (rules.find? fun rule =>
        rule.row.triggerKind == .pointsBalanceReached).isSome = true :=
      List.find?_isSome.mpr ⟨rule, member, beq_iff_eq.mpr same⟩
    obtain ⟨balanceRule, balanceFound⟩ := Option.isSome_iff_exists.mp present
    obtain ⟨previous, triggerKind, -, row⟩ := rows balanceRule (List.mem_of_find?_eq_some balanceFound)
    have kind := List.find?_some balanceFound
    rw [beq_iff_eq] at kind
    rw [row] at kind
    obtain rfl : triggerKind = .pointsBalanceReached := kind
    rw [balanceFound, Option.bind_some, row]
    rfl
  have others : ∀ condition ∈ distinctConditions [] (((rules.flatMap fun rule =>
      rule.row.conditions.map fun condition => (rule.id, condition)).map Prod.snd).filter
        fun condition => condition.conditionKind != .timeWindow),
      condition.conditionKind ≠ .timeWindow := fun condition member =>
    bne_iff_ne.mp (List.mem_filter.mp (mem_distinctConditions.mp member).1).2
  cases rules with
  | nil =>
      have none : input.triggers = [] := triggers.symm
      exact
        { name := rfl, displayName := rfl, startsAt := rfl, endsAt := rfl, destination := rfl
          triggers := triggers, others := others, minPointsBalance := balance
          holdHours := (absurd none ·), capScope := (absurd none ·), capCount := (absurd none ·)
          benefits := (absurd none ·), conditions := (absurd none ·), days := (absurd none ·) }
  | cons first rest =>
      obtain ⟨previous, triggerKind, -, row⟩ := rows first List.mem_cons_self
      obtain ⟨firstFound, owner⟩ := read first List.mem_cons_self
      have benefits : db.loadBenefits enterpriseId first.id first.row.version = input.benefits := by
        simp only [RewardDb.loadBenefits, firstFound, owner, and_self, if_true]
        rw [row]
        rfl
      have same : ∀ rule ∈ first :: rest,
          rule.row.conditions = programConditions input.schedule input.conditions := by
        intro rule member
        obtain ⟨_, _, -, ruleRow⟩ := rows rule member
        rw [ruleRow]
        rfl
      have conditions := mem_readConditions (by simp) stored.others same
      have distinct : ∀ rule ∈ rest, rule.id ≠ first.id := fun rule member =>
        Nat.ne_of_gt ((List.pairwise_cons.mp ids).1 rule member)
      refine
        { name := rfl, displayName := rfl, startsAt := rfl, endsAt := rfl, destination := rfl
          triggers := triggers, others := others, minPointsBalance := balance
          holdHours := fun _ => ?_, capScope := fun _ => ?_, capCount := fun _ => ?_
          benefits := fun _ => ?_, conditions := fun _ => conditions, days := fun _ => ?_ }
      · simp only [List.head?_cons, Option.map_some, Option.getD_some, row]
        rfl
      · simp only [List.head?_cons, Option.map_some, Option.getD_some, row]
        rfl
      · simp only [List.head?_cons, Option.map_some, Option.getD_some, row]
        rfl
      · simp only [List.head?_cons, Option.map_some, Option.getD_some, benefits]
      · simp only [List.head?_cons, Option.map_some, Option.getD_some, conditionsOf_first distinct]
        rw [same first List.mem_cons_self]

/-! ### Saving it back -/

structure SameSettings (before after : RewardRuleRow) : Prop where
  triggerConfig : after.triggerKind = before.triggerKind →
    after.triggerConfig = before.triggerConfig
  benefits : after.benefits = before.benefits
  capScope : after.capScope = before.capScope
  capCount : after.capCount = before.capCount
  holdHours : after.holdHours = before.holdHours
  conditions : ∀ condition, condition.conditionKind ≠ .timeWindow →
    (condition ∈ after.conditions ↔ condition ∈ before.conditions)
  admitted : ∀ parts, windowsAdmit after.conditions parts = windowsAdmit before.conditions parts

structure SameProgram (db next : RewardDb) (enterpriseId programId : Nat) : Prop where
  program : next.programs.get? programId = db.programs.get? programId
  triggers : ∀ triggerKind,
    (∃ rule ∈ next.activeRules enterpriseId programId, rule.row.triggerKind = triggerKind) ↔
      ∃ rule ∈ db.activeRules enterpriseId programId, rule.row.triggerKind = triggerKind
  settings : ∀ before ∈ db.activeRules enterpriseId programId,
    ∀ after ∈ next.activeRules enterpriseId programId, SameSettings before.row after.row

def RewardConditionConfig.foldsBack : RewardConditionConfig → Prop
  | .timeWindow slots => WholeDaysAlone slots
  | .customerTenure _ | .contentMatch _ => True

instance (condition : RewardConditionConfig) : Decidable condition.foldsBack :=
  match condition with
  | .timeWindow slots => inferInstanceAs (Decidable (WholeDaysAlone slots))
  | .customerTenure _ | .contentMatch _ => isTrue trivial

/-- What reading a programme back relies on: its rules fit the page read, or none is
active; and each whole day its active rules name is the only slot of its day. -/
structure ReadsBack (db : RewardDb) (enterpriseId programId : Nat) : Prop where
  room : (db.programRules enterpriseId programId).length ≤ defaultPage ∨
    db.activeRules enterpriseId programId = []
  folds : ∀ rule ∈ db.activeRules enterpriseId programId,
    ∀ condition ∈ rule.row.conditions, condition.foldsBack

theorem assertBusinessSuits_restated {input form : CreateRewardProgramInput} {business : Business}
    (triggers : form.triggers = input.triggers)
    (capScope : input.triggers ≠ [] → form.capScope = input.capScope)
    (benefits : input.triggers ≠ [] → form.benefits = input.benefits)
    (windows : input.triggers ≠ [] →
      ((programConditions form.schedule form.conditions).any fun condition =>
          condition.conditionKind == .timeWindow) =
        (programConditions input.schedule input.conditions).any fun condition =>
          condition.conditionKind == .timeWindow)
    (suits : assertBusinessSuits input business = .ok ()) :
    assertBusinessSuits form business = .ok () := by
  by_cases none : input.triggers = []
  · rw [assertBusinessSuits, triggers, none]
    rfl
  · rw [← suits, assertBusinessSuits, assertBusinessSuits, triggers, assertProgramCanRun,
      assertProgramCanRun, benefits none, capScope none, assertCalendarRulesHaveATimezone,
      assertCalendarRulesHaveATimezone, windows none]

theorem programConditions_windows {schedule : ProgramSchedule}
    {conditions : List RewardConditionConfig}
    (others : ∀ condition ∈ conditions, condition.conditionKind ≠ .timeWindow) :
    ((programConditions schedule conditions).any fun condition =>
      condition.conditionKind == .timeWindow) = !schedule.days.isEmpty := by
  have none : (conditions.any fun condition => condition.conditionKind == .timeWindow) = false :=
    List.any_eq_false.mpr fun condition member => by simp [others condition member]
  unfold programConditions
  split
  · next always => rw [none, always]; rfl
  · next some =>
      rw [Bool.not_eq_true] at some
      rw [List.any_cons, none, some]
      rfl

theorem StoredForm.triggers_iff {db : RewardDb} {enterpriseId programId : Nat}
    {input : CreateRewardProgramInput} (stored : StoredForm db enterpriseId programId input)
    (triggerKind : RewardTriggerKind) :
    (∃ rule ∈ db.activeRules enterpriseId programId, rule.row.triggerKind = triggerKind) ↔
      triggerKind ∈ input.triggers := by
  rw [← stored.active_triggers, List.mem_map]

theorem Restates.details {db : RewardDb} {programId : Nat} {program : RewardProgramRow}
    {input form : CreateRewardProgramInput} {destination : RewardDestination}
    (restates : Restates input program form) (found : db.programs.get? programId = some program)
    (provider : program.forwardProviderCode = providerFor destination) :
    (db.programs.update programId form.details).get? programId =
      db.programs.get? programId := by
  have sameProvider : providerFor form.destination = program.forwardProviderCode := by
    rw [restates.destination, provider]
    cases destination <;> rfl
  rw [Table.get?_update_self, found, Option.map_some, CreateRewardProgramInput.details,
    restates.name, restates.displayName, restates.startsAt, restates.endsAt, sameProvider]

/-- A programme whose active rules are all within the page read, and whose whole days
stand alone, can be read and saved back, and is then what it was. -/
theorem ProgramsHold.saved_back {intl : Intl} {db : RewardDb} {enterpriseId programId : Nat}
    {program : Stored RewardProgramRow} (holds : ProgramsHold intl db)
    (found : db.findProgramById enterpriseId programId = some program)
    (readsBack : ReadsBack db enterpriseId programId) :
    ∃ configuration next,
      programConfiguration db enterpriseId programId = .ok configuration ∧
      (∀ rule ∈ db.activeRules enterpriseId programId,
        rule.row.triggerKind ∈ configuration.form.triggers) ∧
      updateProgram intl enterpriseId programId configuration.form db = .ok ((), next) ∧
      SameProgram db next enterpriseId programId := by
  obtain ⟨-, present, owner⟩ := findProgramById_some found
  obtain ⟨input, stored⟩ := holds.stored programId program.row present
  rw [owner] at stored
  have level : ∀ rule ∈ db.programRules enterpriseId programId, rule.row.priority = 0 :=
    fun rule member => (holds.owned rule.id rule.row (mem_programRules.mp member).1).1
  obtain ⟨configuration, read, restates⟩ :=
    programConfiguration_restates found stored (listForProgram_active level readsBack.room)
  -- With active rules, the days read back fold the slots those rules carry.
  have alone : input.triggers ≠ [] → WholeDaysAlone (weekSlots input.schedule.days) := by
    intro some
    by_cases always : input.schedule.days.isEmpty = true
    · rw [List.isEmpty_iff.mp always]
      exact List.Pairwise.nil
    · have actives := stored.active_triggers
      cases rules : db.activeRules enterpriseId programId with
      | nil =>
          rw [rules] at actives
          exact absurd actives.symm some
      | cons first rest =>
          have member : first ∈ db.activeRules enterpriseId programId := by
            rw [rules]
            exact List.mem_cons_self
          obtain ⟨_, _, -, row⟩ := stored.active_row member
          refine readsBack.folds first member (.timeWindow (weekSlots input.schedule.days)) ?_
          have conditions : first.row.conditions =
              programConditions input.schedule input.conditions := by
            rw [row]
            rfl
          rw [conditions, programConditions, if_neg always]
          exact List.mem_cons_self
  have folded : input.triggers ≠ [] →
      configuration.form.schedule.days.isEmpty = input.schedule.days.isEmpty := by
    intro some
    have same := conditionsToSchedule_slots stored.others (alone some)
    rw [← restates.days some] at same
    rw [← weekSlots_isEmpty, ← weekSlots_isEmpty, same.isEmpty_eq]
  have writable : Writable intl db enterpriseId configuration.form (some programId) := by
    refine ⟨assertBusinessSuits_restated restates.triggers restates.capScope restates.benefits
      (fun some => ?_) stored.suits, nameTaken_eq_false.mpr fun id other otherFound sameOwner
        sameName => ?_, fun some => ?_⟩
    · rw [programConditions_windows restates.others, programConditions_windows stored.others,
        folded some]
    · rw [restates.name] at sameName
      exact congrArg _ (holds.named id programId other program.row otherFound present
        (sameOwner.trans owner.symm) sameName)
    · rw [restates.triggers] at some
      rw [restates.benefits some]
      exact stored.storable some
  have storedNext := StoredForm.edited restates.others (restates.triggers ▸ stored.distinct) writable
  refine ⟨configuration, db.edited enterpriseId programId configuration.form, read, ?_,
    updateProgram_iff.mpr ⟨⟨program, found, (holds.live programId program.row present).1⟩,
      writable, rfl⟩, ?_, fun triggerKind => ?_, fun before member after laterMember => ?_⟩
  · intro rule member
    rw [restates.triggers, ← stored.active_triggers]
    exact List.mem_map.mpr ⟨rule, member, rfl⟩
  · obtain ⟨destination, provider⟩ := (holds.live programId program.row present).2
    exact restates.details present provider
  · rw [stored.triggers_iff, storedNext.triggers_iff, restates.triggers]
  · obtain ⟨_, triggerKind, listed, row⟩ := stored.active_row member
    obtain ⟨_, laterKind, -, laterRow⟩ := storedNext.active_row laterMember
    have some := List.ne_nil_of_mem listed
    rw [row, laterRow]
    refine
      { triggerConfig := fun same => ?_
        benefits := restates.benefits some
        capScope := restates.capScope some
        capCount := restates.capCount some
        holdHours := restates.holdHours some
        conditions := fun condition other => ?_
        admitted := fun parts => ?_ }
    · obtain rfl : laterKind = triggerKind := same
      show (if laterKind = .pointsBalanceReached then
          ({ minPointsBalance := configuration.form.minPointsBalance } : RewardTriggerConfig)
        else {}) = if laterKind = .pointsBalanceReached then
          { minPointsBalance := input.minPointsBalance } else {}
      split
      · next balance => rw [restates.minPointsBalance (balance ▸ listed)]
      · rfl
    · exact (mem_programConditions other).trans ((restates.conditions some condition).trans
        (mem_programConditions other).symm)
    · exact windowsAdmit_there_and_back stored.others restates.others (alone some)
        (restates.days some) parts

/-- For every programme made by creations and edits: where its rules fit the page read,
or none is active, and whole days stand alone, the form read back names every active
trigger, and saving that form leaves the programme as it was. -/
theorem saved_back_unchanged (intl : Intl) (businesses : Nat → Business)
    (firstSeenAt : Nat → Nat → Option Int) (calls : List ManagementCall)
    (saves : ∀ call ∈ calls, call.savesForm intl = true) (db : RewardDb)
    (reached : db = manageAll intl calls (.launch businesses firstSeenAt .empty .empty))
    (enterpriseId programId : Nat) (program : Stored RewardProgramRow)
    (found : db.findProgramById enterpriseId programId = some program)
    (readsBack : ReadsBack db enterpriseId programId) :
    ∃ configuration next,
      programConfiguration db enterpriseId programId = .ok configuration ∧
      (∀ rule ∈ db.activeRules enterpriseId programId,
        rule.row.triggerKind ∈ configuration.form.triggers) ∧
      updateProgram intl enterpriseId programId configuration.form db = .ok ((), next) ∧
      SameProgram db next enterpriseId programId := by
  have holds : ProgramsHold intl db := by
    rw [reached]
    refine manageAll_keeps (ProgramsHold intl)
      (fun call member _ _ holds success => holds.manage (saves call member) success) ?_
    refine ⟨?_, ?_, ?_, ?_⟩
    · exact fun _ _ _ _ found => by simp [RewardDb.launch] at found
    · exact fun _ _ found => by simp [RewardDb.launch] at found
    · exact fun _ _ found => by simp [RewardDb.launch] at found
    · exact fun _ _ found => by simp [RewardDb.launch] at found
  exact holds.saved_back found readsBack

def weekendForm : CreateRewardProgramInput :=
  { commentForm with schedule :=
      { days := [{ isoDay := 5 }, { isoDay := 6, slots := [⟨⟨9, 0⟩, ⟨12, 0⟩⟩] }] } }

/-- A programme saved twice reads back. -/
theorem saved_back_unchanged_weekend :
    ∃ configuration next, programConfiguration
        (manageAll fixedIntl [.createProgram 1 commentForm, .updateProgram 1 0 weekendForm]
          (.launch (fun _ => openBusiness) (fun _ _ => none) .empty .empty)) 1 0 =
            .ok configuration ∧
      updateProgram fixedIntl 1 0 configuration.form
        (manageAll fixedIntl [.createProgram 1 commentForm, .updateProgram 1 0 weekendForm]
          (.launch (fun _ => openBusiness) (fun _ _ => none) .empty .empty)) = .ok ((), next) ∧
      SameProgram
        (manageAll fixedIntl [.createProgram 1 commentForm, .updateProgram 1 0 weekendForm]
          (.launch (fun _ => openBusiness) (fun _ _ => none) .empty .empty)) next 1 0 := by
  have listed : ((manageAll fixedIntl
      [.createProgram 1 commentForm, .updateProgram 1 0 weekendForm]
      (.launch (fun _ => openBusiness) (fun _ _ => none) .empty .empty)).findProgramById 1 0).any
        (fun _ => true) = true := by
    decide +kernel
  obtain ⟨program, found, -⟩ := (Option.any_eq_true _ _).mp listed
  obtain ⟨configuration, next, read, -, saved, same⟩ := saved_back_unchanged fixedIntl
    (fun _ => openBusiness) (fun _ _ => none)
    [.createProgram 1 commentForm, .updateProgram 1 0 weekendForm] (by decide +kernel) _ rfl 1 0
    program found ⟨.inl (by decide +kernel), by decide +kernel⟩
  exact ⟨configuration, next, read, saved, same⟩

def sevenTriggersForm : CreateRewardProgramInput :=
  { commentForm with triggers :=
      [.directMessageInbound, .storyMention, .storyReply, .commentOnOwnPost,
        .commentOnMentionedPost, .referralEntry, .postbackTapped] }

/-- After seven saves of seven triggers the page read holds retired rules and one active
one, so the form read back has lost six triggers. -/
theorem eighth_version_reads_one_trigger :
    ¬ ∀ (intl : Intl) (businesses : Nat → Business) (firstSeenAt : Nat → Nat → Option Int)
      (calls : List ManagementCall), (∀ call ∈ calls, call.savesForm intl = true) →
      ∀ (db : RewardDb), db = manageAll intl calls (.launch businesses firstSeenAt .empty .empty) →
      ∀ (enterpriseId programId : Nat) (program : Stored RewardProgramRow),
      db.findProgramById enterpriseId programId = some program →
      ∃ configuration next,
        programConfiguration db enterpriseId programId = .ok configuration ∧
        (∀ rule ∈ db.activeRules enterpriseId programId,
          rule.row.triggerKind ∈ configuration.form.triggers) ∧
        updateProgram intl enterpriseId programId configuration.form db = .ok ((), next) ∧
        SameProgram db next enterpriseId programId := by
  intro claimed
  have lost : (programConfiguration (manageAll fixedIntl
      (.createProgram 1 sevenTriggersForm :: List.replicate 7 (.updateProgram 1 0 sevenTriggersForm))
      (.launch (fun _ => openBusiness) (fun _ _ => none) .empty .empty)) 1 0).toOption.any
        (fun configuration => configuration.form.triggers == [.directMessageInbound]) = true ∧
      ((manageAll fixedIntl
        (.createProgram 1 sevenTriggersForm ::
          List.replicate 7 (.updateProgram 1 0 sevenTriggersForm))
        (.launch (fun _ => openBusiness) (fun _ _ => none) .empty .empty)).activeRules 1 0).any
          (fun rule => rule.row.triggerKind == .postbackTapped) = true ∧
      ((manageAll fixedIntl
        (.createProgram 1 sevenTriggersForm ::
          List.replicate 7 (.updateProgram 1 0 sevenTriggersForm))
        (.launch (fun _ => openBusiness) (fun _ _ => none) .empty .empty)).findProgramById 1 0).any
          (fun _ => true) = true := by
    decide +kernel
  obtain ⟨reported, active, listed⟩ := lost
  obtain ⟨program, found, -⟩ := (Option.any_eq_true _ _).mp listed
  obtain ⟨configuration, read, triggers⟩ := toOption_any_eq_true.mp reported
  obtain ⟨rule, member, tapped⟩ := List.any_eq_true.mp active
  rw [beq_iff_eq] at triggers tapped
  obtain ⟨_, next, readAgain, all, -⟩ := claimed fixedIntl _ _ _ (by decide +kernel) _ rfl 1 0
    program found
  obtain rfl := Except.ok.inj (read.symm.trans readAgain)
  have named := all rule member
  rw [triggers, tapped] at named
  exact absurd named (by decide)

end UnifiedService.Rewards
