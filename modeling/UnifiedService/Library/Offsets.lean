import Mathlib.Algebra.BigOperators.Group.Finset.Basic
import UnifiedService.Library.Table

/-! Sums over a table in which every row of one kind is offset by one row of another. -/

set_option autoImplicit false

namespace UnifiedService.Library

namespace Table

variable {Row : Type}

theorem total_eq_sum (table : Table Row) (amount : Row → Int) :
    table.total amount =
      ∑ id ∈ Finset.range table.nextId, ((table.get? id).map amount).getD 0 := by
  obtain ⟨rows⟩ := table
  induction rows using List.reverseRecOn with
  | nil => rfl
  | append_singleton rows row ih =>
      show (insert ⟨rows⟩ row).total amount = ∑ id ∈ Finset.range (insert ⟨rows⟩ row).nextId,
        (((insert ⟨rows⟩ row).get? id).map amount).getD 0
      rw [total_insert, nextId_insert, Finset.sum_range_succ, get?_insert_self, ih]
      congr 1
      refine Finset.sum_congr rfl fun id member => ?_
      rw [get?_insert, if_neg (Nat.ne_of_lt (Finset.mem_range.mp member))]

theorem total_filter_eq_sum (table : Table Row) (wanted : Row → Bool) (amount : Row → Int) :
    (table.total fun row => if wanted row = true then amount row else 0) =
      ∑ id ∈ (Finset.range table.nextId).filter (fun id => (table.get? id).any wanted = true),
        ((table.get? id).map amount).getD 0 := by
  rw [total_eq_sum, Finset.sum_filter]
  refine Finset.sum_congr rfl fun id member => ?_
  cases found : table.get? id with
  | none => simp
  | some row => simp

theorem mem_filter_range {table : Table Row} {wanted : Row → Bool} {id : Nat} :
    id ∈ (Finset.range table.nextId).filter (fun id => (table.get? id).any wanted = true) ↔
      ∃ row, table.get? id = some row ∧ wanted row = true := by
  rw [Finset.mem_filter, Finset.mem_range, Option.any_eq_true]
  refine ⟨fun both => both.2, fun found => ⟨?_, found⟩⟩
  obtain ⟨row, present, -⟩ := found
  exact get?_lt present

/-- Where every offsetting row names one offset row of the opposite amount, no two name the
same, and every offset row is named, the two totals cancel. -/
theorem total_offset {table : Table Row} {offset offsetting : Row → Bool} {amount : Row → Int}
    {names : Row → Option Nat}
    (named : ∀ id row, table.get? id = some row → offsetting row = true →
      ∃ target other, names row = some target ∧ table.get? target = some other ∧
        offset other = true ∧ amount row = -amount other)
    (once : ∀ first second one other target, table.get? first = some one →
      table.get? second = some other → offsetting one = true → offsetting other = true →
      names one = some target → names other = some target → first = second)
    (every : ∀ target other, table.get? target = some other → offset other = true →
      ∃ id row, table.get? id = some row ∧ offsetting row = true ∧ names row = some target) :
    (table.total fun row => if offset row = true then amount row else 0) +
      (table.total fun row => if offsetting row = true then amount row else 0) = 0 := by
  rw [total_filter_eq_sum, total_filter_eq_sum, ← sub_neg_eq_add, sub_eq_zero,
    ← Finset.sum_neg_distrib]
  symm
  refine Finset.sum_bij (fun id _ => ((table.get? id).bind names).getD 0)
    (fun id member => ?_) (fun first firstMember second secondMember same => ?_)
    (fun target member => ?_) (fun id member => ?_)
  · obtain ⟨row, found, passes⟩ := mem_filter_range.mp member
    obtain ⟨target, other, naming, targetFound, isOffset, -⟩ := named id row found passes
    rw [found, Option.bind_some, naming, Option.getD_some]
    exact mem_filter_range.mpr ⟨other, targetFound, isOffset⟩
  · obtain ⟨one, firstFound, firstPasses⟩ := mem_filter_range.mp firstMember
    obtain ⟨other, secondFound, secondPasses⟩ := mem_filter_range.mp secondMember
    obtain ⟨target, _, naming, -⟩ := named first one firstFound firstPasses
    obtain ⟨again, _, namingToo, -⟩ := named second other secondFound secondPasses
    rw [firstFound, secondFound, Option.bind_some, Option.bind_some, naming, namingToo,
      Option.getD_some, Option.getD_some] at same
    exact once first second one other target firstFound secondFound firstPasses secondPasses
      naming (same ▸ namingToo)
  · obtain ⟨other, targetFound, isOffset⟩ := mem_filter_range.mp member
    obtain ⟨id, row, found, passes, naming⟩ := every target other targetFound isOffset
    refine ⟨id, mem_filter_range.mpr ⟨row, found, passes⟩, ?_⟩
    rw [found, Option.bind_some, naming, Option.getD_some]
  · obtain ⟨row, found, passes⟩ := mem_filter_range.mp member
    obtain ⟨target, other, naming, targetFound, -, opposite⟩ := named id row found passes
    rw [found, Option.bind_some, naming, Option.getD_some, targetFound, Option.map_some,
      Option.map_some, Option.getD_some, Option.getD_some, opposite, neg_neg]

end Table

end UnifiedService.Library
