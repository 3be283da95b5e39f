import Mathlib.Data.List.Basic
import Mathlib.Order.Lattice

/-! A register that keeps the value written last. The writes carry times, which the register
does not look at: it holds the latest value where they are made in the order of their times. -/

set_option autoImplicit false

namespace UnifiedService.Library

structure Write (Time Value : Type) where
  time : Time
  value : Value
  deriving DecidableEq, Repr

namespace Write

variable {Time Value : Type}

def settle (initial : Value) (writes : List (Write Time Value)) : Value :=
  (writes.getLast?.map Write.value).getD initial

@[simp] theorem settle_nil (initial : Value) :
    settle initial ([] : List (Write Time Value)) = initial := rfl

@[simp] theorem settle_cons (initial : Value) (write : Write Time Value)
    (writes : List (Write Time Value)) :
    settle initial (write :: writes) = settle write.value writes := by
  unfold settle
  rw [List.getLast?_cons]
  cases writes.getLast? <;> rfl

variable [LinearOrder Time]

def IsLatest (writes : List (Write Time Value)) (write : Write Time Value) : Prop :=
  write ∈ writes ∧ ∀ other ∈ writes, other.time ≤ write.time

/-- Writes made in the order of their times leave the latest value. -/
theorem settle_of_ordered {writes : List (Write Time Value)}
    (ordered : writes.Pairwise fun one next => one.time < next.time)
    {write : Write Time Value} (latest : IsLatest writes write) (initial : Value) :
    settle initial writes = write.value := by
  induction writes generalizing initial with
  | nil => cases latest.1
  | cons first rest ih =>
      rw [List.pairwise_cons] at ordered
      rw [settle_cons]
      rcases List.mem_cons.mp latest.1 with same | member
      · have alone : rest = [] := by
          rw [List.eq_nil_iff_forall_not_mem]
          intro other later
          have after := ordered.1 other later
          have before := latest.2 other (List.mem_cons_of_mem _ later)
          rw [same] at before
          exact absurd after (not_lt.mpr before)
        rw [alone, same, settle_nil]
      · exact ih ordered.2
          ⟨member, fun other later => latest.2 other (List.mem_cons_of_mem _ later)⟩ _

end Write

end UnifiedService.Library
