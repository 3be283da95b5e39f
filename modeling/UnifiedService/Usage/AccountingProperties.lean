import Mathlib.Algebra.BigOperators.Fin
import Mathlib.Tactic.Abel
import UnifiedService.Usage.Figures

/-! What the table of usage comes to after any number of processes have counted and flushed, in
any order. -/

set_option autoImplicit false

namespace UnifiedService.Usage

open UnifiedService.Library
open UnifiedService.Library.Accumulation (Highest IsHighest total gather)

/-! ### What the statement adds -/

def ProviderUsageBucket.figures (row : ProviderUsageBucket) : Figures :=
  (row.calls, row.throttledCalls, row.failedCalls, ⟨row.callPct⟩, ⟨row.cpuPct⟩, ⟨row.timePct⟩,
    ⟨row.regainMinutes⟩)

def UsageColumns.figures (stored : UsageColumns) : Figures :=
  (stored.calls.value.toNat, stored.throttledCalls.value.toNat, stored.failedCalls.value.toNat,
    reported stored.callPct, reported stored.cpuPct, reported stored.timePct,
    reported stored.regainMinutes)

theorem ProviderUsageBucket.StoredAs.figures_eq {row : ProviderUsageBucket} {stored : UsageColumns}
    (same : row.StoredAs stored) : stored.figures = row.figures := by
  unfold UsageColumns.figures ProviderUsageBucket.figures reported
  rw [same.calls, same.throttledCalls, same.failedCalls, same.callPct, same.cpuPct, same.timePct,
    same.regainMinutes]
  rfl

theorem UsageColumns.folded_eq_some {stored excluded merged : UsageColumns}
    (made : stored.folded excluded = some merged) :
    merged.key = stored.key ∧ merged.figures = stored.figures + excluded.figures := by
  unfold folded at made
  obtain ⟨calls, callsHeld, made⟩ := Option.bind_eq_some_iff.mp made
  obtain ⟨throttled, throttledHeld, made⟩ := Option.bind_eq_some_iff.mp made
  obtain ⟨failed, failedHeld, made⟩ := Option.bind_eq_some_iff.mp made
  cases made
  refine ⟨rfl, ?_⟩
  unfold figures
  rw [Ranged.store_eq_some callsHeld, Ranged.store_eq_some throttledHeld,
    Ranged.store_eq_some failedHeld, reported_highest, reported_highest, reported_highest,
    reported_highest, Int.toNat_add stored.calls.least excluded.calls.least,
    Int.toNat_add stored.throttledCalls.least excluded.throttledCalls.least,
    Int.toNat_add stored.failedCalls.least excluded.failedCalls.least]
  rfl

def storedOf (key : List Nat × Nat) (table : List UsageColumns) : Figures :=
  total UsageColumns.key UsageColumns.figures key table

theorem upsert_eq_some {table after : List UsageColumns} {row : UsageColumns}
    (distinct : (table.map (·.key)).Nodup) (written : upsert table row = some after) :
    (after.map (·.key)).Nodup ∧ ∀ key,
      storedOf key after = storedOf key table + if row.key = key then row.figures else 0 := by
  unfold upsert at written
  obtain ⟨merged, made, rfl⟩ := Option.map_eq_some_iff.mp written
  cases found : table.find? fun (stored : UsageColumns) => stored.key = row.key with
  | some stored =>
      rw [found] at made
      obtain ⟨keyed, summed⟩ := UsageColumns.folded_eq_some made
      have same : stored.key = row.key := by simpa using List.find?_some found
      have there := List.mem_of_find?_eq_some found
      refine ⟨Accumulation.nodup_gather (fun _ _ => keyed.trans same) (keyed.trans same) distinct,
        fun key => Accumulation.total_gather distinct (fun other member its => ?_)
          (fun absent => absurd (same ▸ List.mem_map_of_mem there) absent) key⟩
      have one : other = stored :=
        List.inj_on_of_nodup_map distinct member there (its.trans same.symm)
      subst one
      exact ⟨same, keyed.trans same, summed⟩
  | none =>
      rw [found] at made
      cases made
      refine ⟨Accumulation.nodup_gather (fun _ _ => rfl) rfl distinct, fun key =>
        Accumulation.total_gather distinct (fun stored there same => ?_) (fun _ => ⟨rfl, rfl⟩) key⟩
      exact absurd (decide_eq_true same) (List.find?_eq_none.mp found stored there)

def handedOf (key : List Nat × Nat) (rows : List ProviderUsageBucket) : Figures :=
  total ProviderUsageBucket.storedKey ProviderUsageBucket.figures key rows

theorem foldlM_upsert {rows : List UsageColumns} {table after : List UsageColumns}
    (distinct : (table.map (·.key)).Nodup) (written : rows.foldlM upsert table = some after) :
    (after.map (·.key)).Nodup ∧ ∀ key,
      storedOf key after = storedOf key table + storedOf key rows := by
  induction rows generalizing table with
  | nil =>
      cases written
      exact ⟨distinct, fun key => (add_zero _).symm⟩
  | cons row rows ih =>
      rw [List.foldlM_cons] at written
      obtain ⟨next, first, rest⟩ := Option.bind_eq_some_iff.mp written
      obtain ⟨still, here⟩ := upsert_eq_some distinct first
      obtain ⟨kept, later⟩ := ih still rest
      refine ⟨kept, fun key => ?_⟩
      rw [later, here, add_assoc]
      exact congrArg _ (Accumulation.total_cons key row rows).symm

theorem storedOf_columns {rows : List ProviderUsageBucket} {columns : List UsageColumns}
    (short : ∀ row ∈ rows, row.scopeKey.length ≤ maxScopeKeyLength)
    (fitted : rows.mapM (·.columns?) = some columns) (key : List Nat × Nat) :
    storedOf key columns = handedOf key rows := by
  induction rows generalizing columns with
  | nil =>
      cases fitted
      rfl
  | cons row rows ih =>
      rw [List.mapM_cons] at fitted
      obtain ⟨stored, first, fitted⟩ := Option.bind_eq_some_iff.mp fitted
      obtain ⟨others, rest, fitted⟩ := Option.bind_eq_some_iff.mp fitted
      cases fitted
      have same := ProviderUsageBucket.columns?_eq_some first
      rw [storedOf, handedOf, Accumulation.total_cons, Accumulation.total_cons, ← storedOf,
        ← handedOf, ih (fun other member => short other (List.mem_cons_of_mem _ member)) rest,
        same.key_eq (short row List.mem_cons_self), same.figures_eq]

theorem record_eq_some {rows : List ProviderUsageBucket} {table after : List UsageColumns}
    (short : ∀ row ∈ rows, row.scopeKey.length ≤ maxScopeKeyLength)
    (distinct : (table.map (·.key)).Nodup) (written : record rows table = some after) :
    (after.map (·.key)).Nodup ∧ rows.length * usageColumns ≤ maxParameters ∧
      ∀ key, storedOf key after = storedOf key table + handedOf key rows := by
  unfold record at written
  split at written
  · next nothing =>
      subst nothing
      cases written
      exact ⟨distinct, Nat.zero_le _, fun key => (add_zero _).symm⟩
  · split at written
    · cases written
    · next few =>
        obtain ⟨columns, fitted, written⟩ := Option.bind_eq_some_iff.mp written
        split at written
        · obtain ⟨kept, added⟩ := foldlM_upsert distinct written
          refine ⟨kept, Nat.not_lt.mp few, fun key => ?_⟩
          rw [added]
          rw [storedOf_columns short fitted]
        · cases written

/-! ### The processes -/

structure UsageSystem (Process : Type) where
  collectors : Process → MetaUsageCollector
  flushing : Process → List (List PendingBucket)
  table : List UsageColumns

/-- What a process does next: it sees a response, a flush takes what is held, or one that has
taken finds the owners and is written. -/
inductive UsageAct where
  | observe (nowMs : Nat) (observation : MetaUsageObservation)
  | take
  | write (index nowMs : Nat) (answer : List (List Nat) → List ProviderScopeOwner)

namespace UsageSystem

variable {Process : Type} [DecidableEq Process]

def empty : UsageSystem Process := ⟨fun _ => .empty, fun _ => [], []⟩

/-- One step, unless it is a flush that fails. A flush of nothing ends at once. -/
def step (system : UsageSystem Process) (process : Process) :
    UsageAct → Option (UsageSystem Process)
  | .observe nowMs observation =>
      some { system with
        collectors := Function.update system.collectors process
          ((system.collectors process).observe nowMs observation) }
  | .take =>
      if (system.collectors process).pending = [] then some system
      else
        some { system with
          collectors := Function.update system.collectors process
            (system.collectors process).taken
          flushing := Function.update system.flushing process
            (system.flushing process ++ [(system.collectors process).pending]) }
  | .write index nowMs answer => do
      let batch ← (system.flushing process)[index]?
      let (rows, owners) ← flushRows nowMs answer (system.collectors process).owners batch
      let table ← record rows system.table
      return {
        collectors := Function.update system.collectors process
          { system.collectors process with owners, dropped := 0 }
        flushing := Function.update system.flushing process
          ((system.flushing process).eraseIdx index)
        table }

def run (system : UsageSystem Process) (steps : List (Process × UsageAct)) :
    Option (UsageSystem Process) :=
  steps.foldlM (fun system next => system.step next.1 next.2) system

def AllFlushed (system : UsageSystem Process) : Prop :=
  ∀ process, (system.collectors process).pending = [] ∧ system.flushing process = []

end UsageSystem

/-! ### What is counted is held, on its way or stored -/

def storedKey (key : List Nat × Nat) : List Nat × Nat := (codePoints key.1, key.2)

structure Response where
  nowMs : Nat
  observation : MetaUsageObservation
  deriving DecidableEq, Repr

def Response.countings (response : Response) : List Counting :=
  response.observation.countings response.nowMs

def Response.names (response : Response) : List (List Nat × Nat) :=
  response.countings.map fun counting => storedKey counting.key

def UsageAct.response? : UsageAct → Option Response
  | .observe nowMs observation => some ⟨nowMs, observation⟩
  | .take | .write _ _ _ => none

def responsesOf {Process : Type} (steps : List (Process × UsageAct)) : List Response :=
  steps.filterMap fun next => next.2.response?

section Conservation

variable {Process : Type} [DecidableEq Process] [Fintype Process]

/-- What a process has counted since its last flush, and before each flush it has begun, with
what is stored, is all that was counted. -/
def Conserves (system : UsageSystem Process) (countings : List Counting) : Prop :=
  (system.table.map (·.key)).Nodup ∧
    ∃ (since : Process → List Counting) (begun : Process → List (List Counting)),
      (∀ process, (system.collectors process).pending = pendingOf (since process) ∧
        system.flushing process = (begun process).map pendingOf) ∧
      ∀ key, storedOf key system.table +
          ∑ process, figuresOf storedKey key ((begun process).flatten ++ since process) =
        figuresOf storedKey key countings

omit [DecidableEq Process] in
theorem conserves_empty : Conserves (.empty : UsageSystem Process) [] := by
  refine ⟨List.nodup_nil, fun _ => [], fun _ => [], fun _ => ⟨rfl, rfl⟩, fun key => ?_⟩
  have none_ : ∑ _process : Process, figuresOf storedKey key ([] : List Counting) = 0 :=
    Finset.sum_eq_zero fun _ _ => rfl
  exact (congrArg _ none_).trans (add_zero _)

theorem Conserves.observe {system : UsageSystem Process} {countings : List Counting}
    (conserves : Conserves system countings) (process : Process) (nowMs : Nat)
    (observation : MetaUsageObservation) :
    Conserves { system with
        collectors := Function.update system.collectors process
          ((system.collectors process).observe nowMs observation) }
      (countings ++ observation.countings nowMs) := by
  obtain ⟨distinct, since, begun, agree, sums⟩ := conserves
  refine ⟨distinct, Function.update since process (since process ++ observation.countings nowMs),
    begun, fun other => ⟨?_, (agree other).2⟩, fun key => ?_⟩
  · dsimp only
    by_cases same : other = process
    · subst same
      rw [Function.update_self, Function.update_self]
      exact pending_observe (agree other).1 nowMs observation
    · rw [Function.update_of_ne same, Function.update_of_ne same]
      exact (agree other).1
  · have grown : (fun other => figuresOf storedKey key ((begun other).flatten ++
        Function.update since process (since process ++ observation.countings nowMs) other)) =
        Function.update (fun other => figuresOf storedKey key ((begun other).flatten ++ since other))
          process (figuresOf storedKey key ((begun process).flatten ++ since process) +
            figuresOf storedKey key (observation.countings nowMs)) := by
      funext other
      by_cases same : other = process
      · subst same
        rw [Function.update_self, Function.update_self, ← List.append_assoc]
        exact Accumulation.total_append ..
      · rw [Function.update_of_ne same, Function.update_of_ne same]
    rw [grown, Accumulation.sum_update_add, ← add_assoc, sums]
    exact (Accumulation.total_append ..).symm

theorem Conserves.take {system : UsageSystem Process} {countings : List Counting}
    (conserves : Conserves system countings) (process : Process) :
    Conserves { system with
        collectors := Function.update system.collectors process (system.collectors process).taken
        flushing := Function.update system.flushing process
          (system.flushing process ++ [(system.collectors process).pending]) } countings := by
  obtain ⟨distinct, since, begun, agree, sums⟩ := conserves
  refine ⟨distinct, Function.update since process [],
    Function.update begun process (begun process ++ [since process]), fun other => ?_,
    fun key => ?_⟩
  · dsimp only
    by_cases same : other = process
    · subst same
      rw [Function.update_self, Function.update_self, Function.update_self, Function.update_self]
      refine ⟨rfl, ?_⟩
      rw [(agree other).1, (agree other).2, List.map_append, List.map_singleton]
    · rw [Function.update_of_ne same, Function.update_of_ne same, Function.update_of_ne same,
        Function.update_of_ne same]
      exact agree other
  · rw [← sums]
    congr 1
    refine Finset.sum_congr rfl fun other _ => ?_
    by_cases same : other = process
    · subst same
      rw [Function.update_self, Function.update_self, List.flatten_append, List.append_nil,
        List.flatten_singleton]
    · rw [Function.update_of_ne same, Function.update_of_ne same]

theorem heldOf_written {countings : List Counting} {owners : List Nat → Option CachedOwner}
    {table after : List UsageColumns} (distinct : (table.map (·.key)).Nodup)
    (written : record ((pendingOf countings).map (toRow owners)) table = some after) :
    (after.map (·.key)).Nodup ∧
      ∀ key, storedOf key after = storedOf key table + figuresOf storedKey key countings := by
  have held := held_pendingOf countings
  obtain ⟨kept, few, added⟩ := record_eq_some (fun row member => by
    obtain ⟨bucket, there, rfl⟩ := List.mem_map.mp member
    exact held.length_scopeKey_le bucket there) distinct written
  have room : (pendingOf countings).length < metaUsageMaxPendingBuckets := by
    rw [List.length_map] at few
    unfold usageColumns maxParameters at few
    unfold metaUsageMaxPendingBuckets
    omega
  refine ⟨kept, fun key => ?_⟩
  rw [added, ← held.figures room storedKey key]
  congr 1
  unfold handedOf heldOf total
  rw [List.filter_map, List.map_map]
  rfl

theorem Conserves.write {system : UsageSystem Process} {countings : List Counting}
    (conserves : Conserves system countings) {process : Process} {index : Nat}
    {batch : List PendingBucket} (begun_ : (system.flushing process)[index]? = some batch)
    {owners : List Nat → Option CachedOwner} {after : List UsageColumns}
    (written : record (batch.map (toRow owners)) system.table = some after)
    {collector : MetaUsageCollector}
    (keeps : collector.pending = (system.collectors process).pending) :
    Conserves {
      collectors := Function.update system.collectors process collector
      flushing := Function.update system.flushing process
        ((system.flushing process).eraseIdx index)
      table := after } countings := by
  obtain ⟨distinct, since, begun, agree, sums⟩ := conserves
  rw [(agree process).2, List.getElem?_map] at begun_
  obtain ⟨interval, there, rfl⟩ := Option.map_eq_some_iff.mp begun_
  obtain ⟨kept, added⟩ := heldOf_written distinct written
  refine ⟨kept, since, Function.update begun process ((begun process).eraseIdx index),
    fun other => ?_, fun key => ?_⟩
  · dsimp only
    by_cases same : other = process
    · subst same
      rw [Function.update_self, Function.update_self, Function.update_self, keeps, (agree other).2,
        List.eraseIdx_map]
      exact ⟨(agree other).1, rfl⟩
    · rw [Function.update_of_ne same, Function.update_of_ne same, Function.update_of_ne same]
      exact agree other
  · rw [added, ← sums]
    have shrunk : (fun other => figuresOf storedKey key ((begun other).flatten ++ since other)) =
        Function.update
          (fun other => figuresOf storedKey key ((Function.update begun process
            ((begun process).eraseIdx index) other).flatten ++ since other))
          process (figuresOf storedKey key ((Function.update begun process
            ((begun process).eraseIdx index) process).flatten ++ since process) +
              figuresOf storedKey key interval) := by
      funext other
      by_cases same : other = process
      · subst same
        obtain ⟨bound, at_⟩ := List.getElem?_eq_some_iff.mp there
        have parts := List.getElem_cons_eraseIdx_perm bound
        rw [at_] at parts
        have split : figuresOf storedKey key (begun other).flatten =
            figuresOf storedKey key interval +
              figuresOf storedKey key ((begun other).eraseIdx index).flatten := by
          unfold figuresOf
          rw [← Accumulation.total_perm parts.flatten, List.flatten_cons,
            Accumulation.total_append]
        have apart (left right : List Counting) : figuresOf storedKey key (left ++ right) =
            figuresOf storedKey key left + figuresOf storedKey key right :=
          Accumulation.total_append ..
        rw [Function.update_self, Function.update_self, apart, apart, split]
        abel
      · rw [Function.update_of_ne same, Function.update_of_ne same]
    rw [shrunk, Accumulation.sum_update_add, add_right_comm, add_assoc]

theorem Conserves.step {system after : UsageSystem Process} {countings : List Counting}
    (conserves : Conserves system countings) {process : Process} {act : UsageAct}
    (done : system.step process act = some after) :
    Conserves after (countings ++ act.response?.toList.flatMap Response.countings) := by
  cases act with
  | observe nowMs observation =>
      cases done
      rw [UsageAct.response?, Option.toList_some, List.flatMap_singleton]
      exact conserves.observe process nowMs observation
  | take =>
      rw [UsageAct.response?, Option.toList_none, List.flatMap_nil, List.append_nil]
      rw [UsageSystem.step] at done
      split at done
      · cases done
        exact conserves
      · cases done
        exact conserves.take process
  | write index nowMs answer =>
      rw [UsageAct.response?, Option.toList_none, List.flatMap_nil, List.append_nil]
      rw [UsageSystem.step] at done
      obtain ⟨batch, begun, done⟩ := Option.bind_eq_some_iff.mp done
      obtain ⟨⟨rows, owners⟩, handed, done⟩ := Option.bind_eq_some_iff.mp done
      obtain ⟨table, written, done⟩ := Option.bind_eq_some_iff.mp done
      cases done
      obtain ⟨resolved, -, made⟩ := Option.map_eq_some_iff.mp handed
      cases made
      exact conserves.write begun written rfl

theorem run_conserves {steps : List (Process × UsageAct)} {final : UsageSystem Process}
    (ran : UsageSystem.empty.run steps = some final) :
    Conserves final ((responsesOf steps).flatMap Response.countings) := by
  induction steps using List.reverseRecOn generalizing final with
  | nil =>
      cases ran
      exact conserves_empty
  | append_singleton steps next ih =>
      unfold UsageSystem.run at ran
      rw [List.foldlM_append] at ran
      obtain ⟨system, before, last⟩ := Option.bind_eq_some_iff.mp ran
      rw [List.foldlM_cons] at last
      obtain ⟨after, done, last⟩ := Option.bind_eq_some_iff.mp last
      cases last
      have told : responsesOf (steps ++ [next]) =
          responsesOf steps ++ next.2.response?.toList := by
        unfold responsesOf
        rw [List.filterMap_append]
        cases heard : next.2.response? <;> simp [heard]
      rw [told, List.flatMap_append]
      exact (ih before).step done

theorem stored_eq_counted {steps : List (Process × UsageAct)} {final : UsageSystem Process}
    (ran : UsageSystem.empty.run steps = some final) (flushed : final.AllFlushed) :
    (final.table.map (·.key)).Nodup ∧ ∀ key, storedOf key final.table =
      figuresOf storedKey key ((responsesOf steps).flatMap Response.countings) := by
  obtain ⟨distinct, since, begun, agree, sums⟩ := run_conserves ran
  refine ⟨distinct, fun key => ?_⟩
  rw [← sums key, Finset.sum_eq_zero, add_zero]
  intro process _
  obtain ⟨pending, flushing⟩ := agree process
  obtain ⟨nothing, none_⟩ := flushed process
  rw [none_, eq_comm, List.map_eq_nil_iff] at flushing
  have quiet : since process = [] := by
    rw [nothing] at pending
    have held := held_pendingOf (since process)
    rw [← pending] at held
    refine List.eq_nil_iff_forall_not_mem.mpr fun counting counted => ?_
    exact absurd (held.named (by decide) counting counted) List.not_mem_nil
  rw [flushing, quiet]
  rfl

end Conservation

/-! ### What the table says -/

def namingCount (key : List Nat × Nat) (ends : MetaUsageObservation → Bool)
    (responses : List Response) : Nat :=
  responses.countP fun response => decide (key ∈ response.names) && ends response.observation

def reportedOf (key : List Nat × Nat) (figure : MetaUsageReading → Option Percentage)
    (responses : List Response) : List Int :=
  ((responses.flatMap Response.countings).filter fun counting =>
    storedKey counting.key = key).filterMap fun counting =>
      (counting.reading.bind figure).map (·.value)

structure UsageColumns.Accounts (row : UsageColumns) (responses : List Response) : Prop where
  calls : row.calls.value = namingCount row.key (fun _ => true) responses
  throttledCalls : row.throttledCalls.value = namingCount row.key (·.throttled) responses
  failedCalls : row.failedCalls.value = namingCount row.key (·.failed) responses
  callPct : IsHighest (row.callPct.map (·.value)) (reportedOf row.key (·.callPct) responses)
  cpuPct : IsHighest (row.cpuPct.map (·.value)) (reportedOf row.key (·.cpuPct) responses)
  timePct : IsHighest (row.timePct.map (·.value)) (reportedOf row.key (·.timePct) responses)

/-- Each pool and minute that is named has one row, which accounts for it. -/
def AddsUp (table : List UsageColumns) (responses : List Response) : Prop :=
  (table.map (·.key)).Nodup ∧ (∀ response ∈ responses, ∀ key ∈ response.names,
    key ∈ table.map (·.key)) ∧ ∀ row ∈ table, row.Accounts responses

theorem outcomes_figuresOf (key : List Nat × Nat) (response : Response) :
    (figuresOf storedKey key response.countings).1 = response.names.count key ∧
      (figuresOf storedKey key response.countings).2.1 =
        response.names.count key * response.observation.throttled.toNat ∧
      (figuresOf storedKey key response.countings).2.2.1 =
        response.names.count key * response.observation.failed.toNat := by
  have own : ∀ counting ∈ response.countings, counting.observation = response.observation := by
    intro counting counted
    unfold Response.countings MetaUsageObservation.countings at counted
    split at counted
    · rw [List.mem_singleton.mp counted]
    · obtain ⟨reading, -, rfl⟩ := List.mem_map.mp counted
      rfl
  unfold Response.names
  generalize response.countings = countings at own
  induction countings with
  | nil => exact ⟨rfl, (Nat.zero_mul _).symm, (Nat.zero_mul _).symm⟩
  | cons counting countings ih =>
      obtain ⟨calls, throttled, failed⟩ :=
        ih fun other member => own other (List.mem_cons_of_mem _ member)
      have more : figuresOf storedKey key (counting :: countings) =
          (if storedKey counting.key = key then counting.figures else 0) +
            figuresOf storedKey key countings := Accumulation.total_cons ..
      rw [more, List.map_cons, List.count_cons]
      by_cases same : storedKey counting.key = key
      · simp only [same, if_true, beq_self_eq_true, Prod.fst_add, Prod.snd_add, calls, throttled,
          failed, Counting.figures, own counting List.mem_cons_self, Nat.add_mul, Nat.one_mul]
        exact ⟨Nat.add_comm .., Nat.add_comm .., Nat.add_comm ..⟩
      · have other : (storedKey counting.key == key) = false := beq_false_of_ne same
        simp only [same, other, if_false, Bool.false_eq_true, zero_add, Nat.add_zero]
        exact ⟨calls, throttled, failed⟩

def namings (key : List Nat × Nat) (ends : MetaUsageObservation → Bool)
    (responses : List Response) : Nat :=
  (responses.map fun response =>
    response.names.count key * (ends response.observation).toNat).sum

theorem namings_cons (key : List Nat × Nat) (ends : MetaUsageObservation → Bool)
    (response : Response) (responses : List Response) :
    namings key ends (response :: responses) =
      response.names.count key * (ends response.observation).toNat +
        namings key ends responses := rfl

theorem namingCount_cons (key : List Nat × Nat) (ends : MetaUsageObservation → Bool)
    (response : Response) (responses : List Response) :
    namingCount key ends (response :: responses) = namingCount key ends responses +
      if key ∈ response.names ∧ ends response.observation = true then 1 else 0 := by
  simp [namingCount, List.countP_cons]

theorem outcomes_responses (key : List Nat × Nat) (responses : List Response) :
    (figuresOf storedKey key (responses.flatMap Response.countings)).1 =
        namings key (fun _ => true) responses ∧
      (figuresOf storedKey key (responses.flatMap Response.countings)).2.1 =
        namings key (·.throttled) responses ∧
      (figuresOf storedKey key (responses.flatMap Response.countings)).2.2.1 =
        namings key (·.failed) responses := by
  induction responses with
  | nil => exact ⟨rfl, rfl, rfl⟩
  | cons response responses ih =>
      obtain ⟨calls, throttled, failed⟩ := ih
      obtain ⟨oneCalls, oneThrottled, oneFailed⟩ := outcomes_figuresOf key response
      have more : figuresOf storedKey key ((response :: responses).flatMap Response.countings) =
          figuresOf storedKey key response.countings +
            figuresOf storedKey key (responses.flatMap Response.countings) := by
        rw [List.flatMap_cons]
        exact Accumulation.total_append ..
      simp only [more, namings_cons, Prod.fst_add, Prod.snd_add, oneCalls, oneThrottled, oneFailed,
        calls, throttled, failed, Bool.toNat_true, Nat.mul_one, and_self]

theorem namings_eq {responses : List Response} (once : ∀ response ∈ responses, response.names.Nodup)
    (key : List Nat × Nat) (ends : MetaUsageObservation → Bool) :
    namings key ends responses = namingCount key ends responses := by
  induction responses with
  | nil => rfl
  | cons response responses ih =>
      have rest := ih fun other member => once other (List.mem_cons_of_mem _ member)
      have single := once response List.mem_cons_self
      rw [namings_cons, namingCount_cons, rest, single.count, Nat.add_comm]
      by_cases named : key ∈ response.names
      · cases ends response.observation <;> simp [named]
      · simp [named]

theorem namingCount_le (key : List Nat × Nat) (responses : List Response) :
    namingCount key (fun _ => true) responses ≤ namings key (fun _ => true) responses := by
  induction responses with
  | nil => exact Nat.le_refl 0
  | cons response responses ih =>
      rw [namings_cons, namingCount_cons, Bool.toNat_true, Nat.mul_one]
      by_cases named : key ∈ response.names
      · have positive := List.count_pos_iff.mpr named
        rw [if_pos ⟨named, rfl⟩]
        omega
      · rw [if_neg fun both => named both.1]
        exact ih.trans (Nat.le_add_left ..)

theorem count_le_one {key : List Nat × Nat} {responses : List Response}
    (agree : namings key (fun _ => true) responses = namingCount key (fun _ => true) responses) :
    ∀ response ∈ responses, response.names.count key ≤ 1 := by
  induction responses with
  | nil => exact fun _ member => absurd member List.not_mem_nil
  | cons response responses ih =>
      have least := namingCount_le key responses
      rw [namings_cons, namingCount_cons, Bool.toNat_true, Nat.mul_one] at agree
      have here : response.names.count key ≤ 1 ∧
          namings key (fun _ => true) responses = namingCount key (fun _ => true) responses := by
        by_cases named : key ∈ response.names
        · have positive := List.count_pos_iff.mpr named
          rw [if_pos ⟨named, rfl⟩] at agree
          omega
        · rw [List.count_eq_zero_of_not_mem named, if_neg fun both => named both.1] at agree
          rw [List.count_eq_zero_of_not_mem named]
          omega
      intro other member
      rcases List.mem_cons.mp member with rfl | later
      · exact here.1
      · exact ih here.2 other later

def callPctOf : Figures →+ Highest Int :=
  (AddMonoidHom.fst _ _).comp
    ((AddMonoidHom.snd _ _).comp ((AddMonoidHom.snd _ _).comp (AddMonoidHom.snd _ _)))

def cpuPctOf : Figures →+ Highest Int :=
  (AddMonoidHom.fst _ _).comp ((AddMonoidHom.snd _ _).comp
    ((AddMonoidHom.snd _ _).comp ((AddMonoidHom.snd _ _).comp (AddMonoidHom.snd _ _))))

def timePctOf : Figures →+ Highest Int :=
  (AddMonoidHom.fst _ _).comp ((AddMonoidHom.snd _ _).comp ((AddMonoidHom.snd _ _).comp
    ((AddMonoidHom.snd _ _).comp ((AddMonoidHom.snd _ _).comp (AddMonoidHom.snd _ _)))))

theorem isHighest_figuresOf (reading : Figures →+ Highest Int)
    (figure : MetaUsageReading → Option Percentage)
    (reads : ∀ counting : Counting,
      reading counting.figures = reported (counting.reading.bind figure))
    (key : List Nat × Nat) (responses : List Response) :
    IsHighest (reading (figuresOf storedKey key (responses.flatMap Response.countings))).value
      (reportedOf key figure responses) := by
  have summed := Accumulation.isHighest_sum
    (((responses.flatMap Response.countings).filter fun counting =>
      storedKey counting.key = key).map fun counting =>
        (counting.reading.bind figure).map (·.value))
  rw [figuresOf, Accumulation.map_total]
  unfold total reportedOf
  rw [List.map_map, List.filterMap_map] at summed
  simp only [reads]
  exact summed

/-- Whatever order any number of processes count and flush in, and whatever they see: once all
is flushed, the table adds up if and only if no response named a pool twice. -/
theorem usage_adds_up {Process : Type} [DecidableEq Process] [Fintype Process]
    {steps : List (Process × UsageAct)} {final : UsageSystem Process}
    (ran : UsageSystem.empty.run steps = some final) (flushed : final.AllFlushed) :
    AddsUp final.table (responsesOf steps) ↔
      ∀ response ∈ responsesOf steps, response.names.Nodup := by
  obtain ⟨distinct, same⟩ := stored_eq_counted ran flushed
  have figures {row : UsageColumns} (there : row ∈ final.table) :
      row.figures = figuresOf storedKey row.key
        ((responsesOf steps).flatMap Response.countings) := by
    rw [← same row.key]
    exact (Accumulation.total_eq_of_mem distinct there).symm
  have named {response : Response} (told : response ∈ responsesOf steps)
      {key : List Nat × Nat} (names : key ∈ response.names) :
      key ∈ final.table.map (·.key) := by
    by_contra absent
    have nothing := same key
    rw [storedOf, Accumulation.total_eq_zero absent] at nothing
    have none_ : namings key (fun _ => true) (responsesOf steps) = 0 := by
      rw [← (outcomes_responses key _).1, ← nothing]
      rfl
    have each := List.sum_eq_zero_iff.mp none_ _ (List.mem_map_of_mem told)
    rw [Bool.toNat_true, Nat.mul_one, List.count_eq_zero] at each
    exact each names
  have outcomes {row : UsageColumns} (there : row ∈ final.table) :
      row.calls.value = namings row.key (fun _ => true) (responsesOf steps) ∧
        row.throttledCalls.value = namings row.key (·.throttled) (responsesOf steps) ∧
        row.failedCalls.value = namings row.key (·.failed) (responsesOf steps) := by
    obtain ⟨calls, throttled, failed⟩ := outcomes_responses row.key (responsesOf steps)
    rw [← figures there] at calls throttled failed
    exact ⟨by rw [← calls]; exact (Int.toNat_of_nonneg row.calls.least).symm,
      by rw [← throttled]; exact (Int.toNat_of_nonneg row.throttledCalls.least).symm,
      by rw [← failed]; exact (Int.toNat_of_nonneg row.failedCalls.least).symm⟩
  constructor
  · rintro ⟨-, rows, accounts⟩ response told
    rw [List.nodup_iff_count_le_one]
    intro key
    by_cases names : key ∈ response.names
    · obtain ⟨row, there, rfl⟩ := List.mem_map.mp (rows response told key names)
      refine count_le_one ?_ response told
      have counted := (accounts row there).calls
      rw [(outcomes there).1] at counted
      exact Int.ofNat_inj.mp counted
    · rw [List.count_eq_zero_of_not_mem names]
      exact Nat.zero_le 1
  · intro once
    refine ⟨distinct, fun response told key names => named told names, fun row there => ?_⟩
    obtain ⟨calls, throttled, failed⟩ := outcomes there
    rw [namings_eq once] at calls throttled failed
    have highest (reading : Figures →+ Highest Int)
        (figure : MetaUsageReading → Option Percentage)
        (reads : ∀ counting : Counting,
          reading counting.figures = reported (counting.reading.bind figure)) :
        IsHighest (reading row.figures).value
          (reportedOf row.key figure (responsesOf steps)) := by
      rw [figures there]
      exact isHighest_figuresOf reading figure reads row.key (responsesOf steps)
    exact ⟨calls, throttled, failed, highest callPctOf (·.callPct) fun _ => rfl,
      highest cpuPctOf (·.cpuPct) fun _ => rfl, highest timePctOf (·.timePct) fun _ => rfl⟩

section Example

private def pagesNamed : MetaUsageReading :=
  ⟨.businessUseCase, some (clip maxProductLength (jsUnits "pages")),
    some (clip maxBusinessIdLength (jsUnits "1")), none, none, none, none⟩

private def seenAndFlushed (readings : List MetaUsageReading) : List (Unit × UsageAct) :=
  [((), .observe 0 ⟨readings, false, false⟩), ((), .take), ((), .write 0 0 fun _ => [])]

private def messagesNamed : MetaUsageReading :=
  { pagesNamed with product := some (clip maxProductLength (jsUnits "messenger")) }

/-- Two processes whose flushes overlap: one sees a call to a pool on either side of its flush,
the other a call to both pools that was refused. -/
private def seenByTwo : List (Bool × UsageAct) :=
  [(true, .observe 0 ⟨[pagesNamed], false, false⟩),
    (false, .observe 1 ⟨[messagesNamed, pagesNamed], true, true⟩), (true, .take), (false, .take),
    (true, .observe 2 ⟨[pagesNamed], false, false⟩), (false, .write 0 3 fun _ => []), (true, .take),
    (true, .write 1 4 fun _ => []), (true, .write 0 5 fun _ => [])]

/-- The calls of both processes are in the table, once each. -/
theorem usage_adds_up_two_processes :
    ∃ final, UsageSystem.empty.run seenByTwo = some final ∧
      AddsUp final.table (responsesOf seenByTwo) := by
  have flushed : ∀ process, ∃ final, UsageSystem.empty.run seenByTwo = some final ∧
      (final.collectors process).pending = [] ∧ final.flushing process = [] := by
    intro process
    cases process <;> exact ⟨_, rfl, rfl, rfl⟩
  obtain ⟨final, ran, -⟩ := flushed true
  refine ⟨final, ran, (usage_adds_up ran fun process => ?_).mpr (by decide)⟩
  obtain ⟨other, ranToo, held⟩ := flushed process
  rwa [Option.some.inj (ran.symm.trans ranToo)]

example :
    parseUsageReadings (fun name =>
      if name = businessHeader then
        some "\x7b\"1\":[\x7b\"type\":\"pages\"\x7d,\x7b\"type\":\"pages\"\x7d]\x7d"
      else none) = [pagesNamed, pagesNamed] := by
  decide +kernel

/-- The one response is counted as two calls. -/
theorem named_twice_counts_twice :
    ¬∀ final, UsageSystem.empty.run (seenAndFlushed [pagesNamed, pagesNamed]) = some final →
      final.AllFlushed →
        AddsUp final.table (responsesOf (seenAndFlushed [pagesNamed, pagesNamed])) := by
  intro adds
  obtain ⟨-, -, accounts⟩ := adds _ rfl fun _ => ⟨rfl, rfl⟩
  have counted := (accounts _ List.mem_cons_self).calls
  revert counted
  decide

end Example

end UnifiedService.Usage
