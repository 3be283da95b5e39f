import Mathlib.Algebra.Group.Prod
import Mathlib.Data.List.Induction
import UnifiedService.Usage.Store

/-! What a buffer holds after some countings: for each pool and minute their figures, unless
there are more pools than it takes. -/

set_option autoImplicit false

namespace UnifiedService.Usage

open UnifiedService.Library
open UnifiedService.Library.Accumulation (Highest total gather)

/-- Calls, throttled and failed ones, and the highest figures reported. -/
abbrev Figures := Nat × Nat × Nat × Highest Int × Highest Int × Highest Int × Highest Int

def reported {low high : Int} (figure : Option (Ranged low high)) : Highest Int :=
  ⟨figure.map (·.value)⟩

theorem reported_highest {low high : Int} (existing incoming : Option (Ranged low high)) :
    reported (highest existing incoming) = reported existing + reported incoming := by
  cases existing with
  | none => cases incoming <;> rfl
  | some existing =>
      cases incoming with
      | none => rfl
      | some incoming =>
          change (⟨some (if existing.value ≤ incoming.value then incoming else existing).value⟩ :
            Highest Int) = ⟨some (max existing.value incoming.value)⟩
          rw [apply_ite Ranged.value, ← max_def]

def Counting.figures (counting : Counting) : Figures :=
  (1, counting.observation.throttled.toNat, counting.observation.failed.toNat,
    reported (counting.reading.bind (·.callPct)), reported (counting.reading.bind (·.cpuPct)),
    reported (counting.reading.bind (·.timePct)), reported (counting.reading.bind (·.regainMinutes)))

def PendingBucket.figures (bucket : PendingBucket) : Figures :=
  (bucket.calls, bucket.throttledCalls, bucket.failedCalls, reported bucket.callPct,
    reported bucket.cpuPct, reported bucket.timePct, reported bucket.regainMinutes)

theorem Counting.figures_countIn (counting : Counting) (bucket : PendingBucket) :
    (counting.countIn bucket).figures = bucket.figures + counting.figures := by
  unfold PendingBucket.figures Counting.figures
  simp only [Counting.countIn, reported_highest, Prod.mk_add_mk]

theorem Counting.figures_fresh (counting : Counting) :
    counting.fresh.figures = counting.figures := by
  rw [fresh, figures_countIn]
  exact zero_add counting.figures

section Reading

-- How a pool and minute are told apart.
variable (read : List Nat × Nat → List Nat × Nat)

def figuresOf (key : List Nat × Nat) (countings : List Counting) : Figures :=
  total (fun counting => read counting.key) Counting.figures key countings

def heldOf (key : List Nat × Nat) (pending : List PendingBucket) : Figures :=
  total (fun bucket => read bucket.key) PendingBucket.figures key pending

end Reading

def firstProduct (key : List Nat × Nat) (countings : List Counting) :
    Option (Clipped maxProductLength) :=
  (countings.filter fun counting => counting.key = key).findSome? fun counting =>
    counting.reading.bind (·.product)

def pendingOf (countings : List Counting) : List PendingBucket :=
  (countings.foldl MetaUsageCollector.fold .empty).pending

structure Held (countings : List Counting) (pending : List PendingBucket) : Prop where
  distinct : (pending.map (·.key)).Nodup
  within : ∀ bucket ∈ pending, ∃ counting ∈ countings,
    counting.key = bucket.key ∧ counting.identity = { bucket.toIdentity with
      product := counting.identity.product }
  outcomes : ∀ bucket ∈ pending,
    bucket.throttledCalls ≤ bucket.calls ∧ bucket.failedCalls ≤ bucket.calls
  named : pending.length < metaUsageMaxPendingBuckets →
    ∀ counting ∈ countings, counting.key ∈ pending.map (·.key)
  figures : pending.length < metaUsageMaxPendingBuckets →
    ∀ read key, heldOf read key pending = figuresOf read key countings
  products : pending.length < metaUsageMaxPendingBuckets →
    ∀ bucket ∈ pending, bucket.product = firstProduct bucket.key countings

theorem MetaUsageCollector.fold_cases (collector : MetaUsageCollector) (counting : Counting) :
    (metaUsageMaxPendingBuckets ≤ collector.pending.length ∧
        counting.key ∉ collector.pending.map (·.key) ∧
        (collector.fold counting).pending = collector.pending) ∨
      (collector.fold counting).pending =
        gather PendingBucket.key counting.key counting.countIn
          counting.fresh collector.pending := by
  unfold fold
  split
  · next full => exact .inl ⟨full.2, full.1, rfl⟩
  · exact .inr rfl

theorem firstProduct_append (key : List Nat × Nat) (countings : List Counting)
    (counting : Counting) :
    firstProduct key (countings ++ [counting]) = (firstProduct key countings).or
      (if counting.key = key then counting.reading.bind (·.product) else none) := by
  unfold firstProduct
  rw [List.filter_append, List.findSome?_append]
  by_cases same : counting.key = key
  · simp [same]
  · simp [same]

theorem firstProduct_eq_none {key : List Nat × Nat} {countings : List Counting}
    (absent : ∀ counting ∈ countings, counting.key ≠ key) : firstProduct key countings = none := by
  unfold firstProduct
  rw [List.filter_eq_nil_iff.mpr]
  · rfl
  · intro counting member same
    exact absent counting member (of_decide_eq_true same)

theorem Counting.product_fresh (counting : Counting) :
    counting.fresh.product = counting.reading.bind (·.product) := by
  unfold fresh countIn PendingBucket.opened identity
  cases counting.reading with
  | none => rfl
  | some reading =>
      change reading.product.or reading.product = reading.product
      cases reading.product <;> rfl

theorem Held.fold {countings : List Counting} {collector : MetaUsageCollector}
    (held : Held countings collector.pending) (counting : Counting) :
    Held (countings ++ [counting]) (collector.fold counting).pending := by
  have earlier {bucket : PendingBucket} (member : bucket ∈ collector.pending) :
      ∃ other ∈ countings ++ [counting], other.key = bucket.key ∧
        other.identity = { bucket.toIdentity with product := other.identity.product } := by
    obtain ⟨other, there, alike⟩ := held.within bucket member
    exact ⟨other, List.mem_append_left _ there, alike⟩
  rcases collector.fold_cases counting with ⟨full, -, same⟩ | gathered
  · rw [same]
    exact {
      distinct := held.distinct
      within := fun bucket => earlier
      outcomes := held.outcomes
      named := fun room => absurd full (Nat.not_le.mpr room)
      figures := fun room => absurd full (Nat.not_le.mpr room)
      products := fun room => absurd full (Nat.not_le.mpr room) }
  · have stays : ∀ bucket : PendingBucket, bucket.key = counting.key →
        (counting.countIn bucket).key = counting.key := fun _ same => same
    have opens : counting.fresh.key = counting.key := rfl
    have larger : collector.pending.length ≤ (collector.fold counting).pending.length := by
      rw [gathered]
      exact Accumulation.length_le_gather _
    rw [gathered] at larger ⊢
    refine ⟨Accumulation.nodup_gather stays opens held.distinct, fun bucket member => ?_,
      fun bucket member => ?_, fun room other there => ?_, fun room read key => ?_,
      fun room bucket member => ?_⟩
    · rcases Accumulation.mem_gather member with
        ⟨there, -⟩ | ⟨before, there, same, rfl⟩ | ⟨-, rfl⟩
      · exact earlier there
      · obtain ⟨other, member, alike⟩ := earlier there
        exact ⟨other, member, alike⟩
      · exact ⟨counting, List.mem_append_right _ (List.mem_singleton.mpr rfl), rfl, rfl⟩
    · have single : ∀ outcome : Bool, outcome.toNat ≤ 1 := by decide
      rcases Accumulation.mem_gather member with
        ⟨there, -⟩ | ⟨before, there, same, rfl⟩ | ⟨-, rfl⟩
      · exact held.outcomes bucket there
      · exact ⟨Nat.add_le_add (held.outcomes before there).1 (single _),
          Nat.add_le_add (held.outcomes before there).2 (single _)⟩
      · exact ⟨Nat.add_le_add_left (single _) 0, Nat.add_le_add_left (single _) 0⟩
    · rw [Accumulation.keys_gather stays opens]
      rcases List.mem_append.mp there with there | new
      · have known := held.named (Nat.lt_of_le_of_lt larger room) other there
        split
        · exact known
        · exact List.mem_append_left _ known
      · rw [List.mem_singleton.mp new]
        split
        · next known => exact known
        · exact List.mem_append_right _ (List.mem_singleton.mpr rfl)
    · have added : heldOf read key (gather PendingBucket.key counting.key counting.countIn
          counting.fresh collector.pending) = heldOf read key collector.pending +
            if read counting.key = key then counting.figures else 0 :=
        Accumulation.total_gather held.distinct
          (fun bucket _ same => ⟨congrArg read same, congrArg read (stays bucket same),
            counting.figures_countIn bucket⟩)
          (fun _ => ⟨congrArg read opens, counting.figures_fresh⟩) key
      rw [added, held.figures (Nat.lt_of_le_of_lt larger room) read key, figuresOf, figuresOf,
        Accumulation.total_append, Accumulation.total_cons, Accumulation.total_nil, add_zero]
    · have room := Nat.lt_of_le_of_lt larger room
      rw [firstProduct_append]
      rcases Accumulation.mem_gather member with
        ⟨there, apart⟩ | ⟨before, there, same, rfl⟩ | ⟨absent, rfl⟩
      · rw [if_neg (Ne.symm apart), Option.or_none, held.products room bucket there]
      · rw [if_pos (stays before same).symm]
        exact congrArg (Option.or · (counting.reading.bind (·.product)))
          (held.products room before there)
      · have none_ : firstProduct counting.fresh.key countings = none :=
          firstProduct_eq_none fun other there same =>
            absent (opens ▸ same ▸ held.named room other there)
        rw [none_, if_pos opens.symm, Option.none_or, counting.product_fresh]

theorem held_pendingOf (countings : List Counting) : Held countings (pendingOf countings) := by
  induction countings using List.reverseRecOn with
  | nil =>
      exact {
        distinct := .nil
        within := fun _ member => absurd member List.not_mem_nil
        outcomes := fun _ member => absurd member List.not_mem_nil
        named := fun _ _ member => absurd member List.not_mem_nil
        figures := fun _ _ _ => rfl
        products := fun _ _ member => absurd member List.not_mem_nil }
  | append_singleton countings counting ih =>
      rw [pendingOf, List.foldl_concat]
      exact ih.fold counting

theorem MetaUsageCollector.pending_foldl {one other : MetaUsageCollector}
    (same : one.pending = other.pending) (countings : List Counting) :
    (countings.foldl fold one).pending = (countings.foldl fold other).pending := by
  induction countings generalizing one other with
  | nil => exact same
  | cons counting countings ih =>
      refine ih ?_
      unfold fold
      rw [same]
      split <;> rfl

theorem pending_observe {collector : MetaUsageCollector} {countings : List Counting}
    (same : collector.pending = pendingOf countings) (nowMs : Nat)
    (observation : MetaUsageObservation) :
    (collector.observe nowMs observation).pending =
      pendingOf (countings ++ observation.countings nowMs) := by
  unfold MetaUsageCollector.observe pendingOf
  rw [List.foldl_append]
  exact MetaUsageCollector.pending_foldl same _

theorem MetaUsageReading.length_scopeKey_le (reading : MetaUsageReading) :
    reading.scopeKey.length ≤ maxScopeKeyLength := by
  unfold scopeKey
  split
  · decide
  · exact List.length_take_le ..

theorem Counting.length_scopeKey_le (counting : Counting) :
    counting.identity.scopeKey.length ≤ maxScopeKeyLength := by
  unfold identity
  split
  · exact MetaUsageReading.length_scopeKey_le _
  · decide

theorem Held.length_scopeKey_le {countings : List Counting} {pending : List PendingBucket}
    (held : Held countings pending) :
    ∀ bucket ∈ pending, bucket.scopeKey.length ≤ maxScopeKeyLength := by
  intro bucket there
  obtain ⟨counting, -, same, -⟩ := held.within bucket there
  have scopeKey : counting.identity.scopeKey = bucket.scopeKey := congrArg Prod.fst same
  exact scopeKey ▸ counting.length_scopeKey_le

end UnifiedService.Usage
