import Mathlib.Data.List.Sort
import UnifiedService.Library.Table

/-! A table worked as a queue: the rows a claim picks, the rows it then updates, and
guarded updates of one row. -/

set_option autoImplicit false

namespace UnifiedService.Library.Table

variable {Row : Type}

/-- `SELECT … ORDER BY … LIMIT … FOR UPDATE SKIP LOCKED`. -/
def pick (table : Table Row) (wanted : Row → Bool) (before : Stored Row → Stored Row → Prop)
    [DecidableRel before] (limit : Nat) (skipped : List Nat) : List (Stored Row) :=
  (((table.select wanted).filter fun stored =>
    !skipped.contains stored.id).insertionSort before).take limit

/-- `UPDATE … WHERE id IN …`. -/
def updatePicked (table : Table Row) (picked : List (Stored Row)) (change : Row → Row) :
    Table Row :=
  table.updateWhere (fun id _ => (picked.map (·.id)).contains id) change

/-- `UPDATE … WHERE id = … AND …`, and whether a row was affected. -/
def updateIf (table : Table Row) (id : Nat) (applies : Row → Bool) (change : Row → Row) :
    Bool × Table Row :=
  if (table.get? id).any applies then (true, table.update id change) else (false, table)

section Pick

variable {table : Table Row} {wanted : Row → Bool} {before : Stored Row → Stored Row → Prop}
  [DecidableRel before] {limit : Nat} {skipped : List Nat}

theorem mem_pick {stored : Stored Row}
    (picked : stored ∈ table.pick wanted before limit skipped) :
    table.get? stored.id = some stored.row ∧ wanted stored.row = true :=
  mem_select.mp (List.mem_of_mem_filter
    ((List.perm_insertionSort _ _).mem_iff.mp (List.mem_of_mem_take picked)))

theorem pick_nodup : ((table.pick wanted before limit skipped).map (·.id)).Nodup := by
  have listed : (((table.select wanted).filter fun stored =>
      !skipped.contains stored.id).map (·.id)).Nodup :=
    List.pairwise_map.mpr ((table.select_pairwise_ne wanted).filter _)
  have sorted := ((List.perm_insertionSort before _).map (·.id)).nodup_iff.mpr listed
  exact sorted.sublist ((List.take_sublist _ _).map _)

theorem wanted_of_picked {id : Nat} {row : Row}
    (picked : ((table.pick wanted before limit skipped).map (·.id)).contains id = true)
    (found : table.get? id = some row) : wanted row = true := by
  obtain ⟨stored, member, rfl⟩ := List.mem_map.mp (List.contains_iff_mem.mp picked)
  obtain ⟨there, held⟩ := mem_pick member
  rw [found, Option.some.injEq] at there
  exact there ▸ held

end Pick

theorem get?_updatePicked (table : Table Row) (picked : List (Stored Row)) (change : Row → Row)
    (id : Nat) :
    (table.updatePicked picked change).get? id =
      (table.get? id).map fun row =>
        if (picked.map (·.id)).contains id then change row else row :=
  get?_updateWhere ..

@[simp] theorem nextId_updatePicked (table : Table Row) (picked : List (Stored Row))
    (change : Row → Row) : (table.updatePicked picked change).nextId = table.nextId :=
  nextId_updateWhere ..

theorem updateIf_eq (table : Table Row) (id : Nat) (applies : Row → Bool) (change : Row → Row) :
    (table.updateIf id applies change).2 =
      table.update id fun row => if applies row then change row else row := by
  unfold updateIf
  cases found : table.get? id with
  | none =>
      rw [Option.any_none, if_neg Bool.false_ne_true]
      exact (update_of_none _ found).symm
  | some row =>
      rw [Option.any_some]
      cases applied : applies row with
      | true =>
          rw [if_pos rfl, table.update_eq_const _ found]
          conv_rhs => rw [table.update_eq_const _ found]
          simp only [applied, if_true]
      | false =>
          rw [if_neg Bool.false_ne_true]
          conv_rhs => rw [table.update_eq_const _ found]
          simp only [applied, Bool.false_eq_true, if_false]
          exact (table.update_id id).symm.trans (table.update_eq_const (fun row => row) found)

theorem get?_updateIf (table : Table Row) (id : Nat) (applies : Row → Bool)
    (change : Row → Row) (other : Nat) :
    (table.updateIf id applies change).2.get? other =
      if id = other then
        (table.get? other).map fun row => if applies row then change row else row
      else table.get? other := by
  rw [updateIf_eq, get?_update]

theorem updateIf_true {table after : Table Row} {id : Nat} {applies : Row → Bool}
    {change : Row → Row} (updated : table.updateIf id applies change = (true, after)) :
    ∃ row, table.get? id = some row ∧ applies row = true ∧ after = table.update id change := by
  unfold updateIf at updated
  split at updated
  · next found =>
      obtain ⟨row, there, applied⟩ := Option.any_eq_true _ _ |>.mp found
      exact ⟨row, there, applied, (congrArg Prod.snd updated).symm⟩
  · exact absurd (congrArg Prod.fst updated) Bool.false_ne_true

theorem updateIf_false {table after : Table Row} {id : Nat} {applies : Row → Bool}
    {change : Row → Row} (refused : table.updateIf id applies change = (false, after)) :
    after = table ∧ ∀ row, table.get? id = some row → applies row = false := by
  unfold updateIf at refused
  split at refused
  · exact absurd (congrArg Prod.fst refused).symm Bool.false_ne_true
  · next missed =>
      refine ⟨(congrArg Prod.snd refused).symm, fun row found => ?_⟩
      rw [found, Option.any_some, Bool.not_eq_true] at missed
      exact missed

theorem nextId_updateIf (table : Table Row) (id : Nat) (applies : Row → Bool)
    (change : Row → Row) : (table.updateIf id applies change).2.nextId = table.nextId := by
  rw [updateIf_eq, nextId_update]

/-! ### A measure of one row -/

def measureAt (measure : Row → Nat) (whole id : Nat) (table : Table Row) : Nat :=
  match table.get? id with
  | none => whole
  | some row => measure row

section Measure

variable {measure : Row → Nat} {whole : Nat} {table : Table Row} {change : Row → Row}

theorem measureAt_some {id : Nat} {row : Row} (found : table.get? id = some row) :
    table.measureAt measure whole id = measure row := by
  rw [measureAt, found]

theorem measureAt_none {id : Nat} (absent : table.get? id = none) :
    table.measureAt measure whole id = whole := by
  rw [measureAt, absent]

theorem measureAt_insert {row : Row} (within : measure row ≤ whole) (id : Nat) :
    (table.insert row).measureAt measure whole id ≤ table.measureAt measure whole id := by
  by_cases fresh : id = table.nextId
  · subst fresh
    rw [measureAt_some (table.get?_insert_self row), measureAt_none table.get?_nextId]
    exact within
  · rw [measureAt, measureAt, get?_insert, if_neg fresh]

theorem measureAt_update {id : Nat} (watched credit : Nat)
    (paid : ∀ row, table.get? id = some row → id = watched →
      measure (change row) ≤ measure row + credit) :
    (table.update id change).measureAt measure whole watched ≤
      table.measureAt measure whole watched + credit := by
  cases found : table.get? watched with
  | none =>
      have absent : (table.update id change).get? watched = none := by
        rw [get?_update, found]
        split <;> rfl
      rw [measureAt_none absent, measureAt_none found]
      exact Nat.le_add_right _ _
  | some row =>
      rw [measureAt_some found]
      by_cases same : id = watched
      · subst same
        have there : (table.update id change).get? id = some (change row) := by
          rw [get?_update_self, found, Option.map_some]
        rw [measureAt_some there]
        exact paid row found rfl
      · have there : (table.update id change).get? watched = some row := by
          rw [get?_update_of_ne _ _ same, found]
        rw [measureAt_some there]
        exact Nat.le_add_right _ _

theorem measureAt_updateIf {id : Nat} {applies : Row → Bool} (watched credit : Nat)
    (paid : ∀ row, table.get? id = some row → applies row = true → id = watched →
      measure (change row) ≤ measure row + credit) :
    (table.updateIf id applies change).2.measureAt measure whole watched ≤
      table.measureAt measure whole watched + credit := by
  rw [updateIf_eq]
  refine measureAt_update watched credit fun row found same => ?_
  cases applied : applies row with
  | true => exact paid row found applied same
  | false => exact Nat.le_add_right _ _

section Picked

variable {wanted : Row → Bool} {before : Stored Row → Stored Row → Prop} [DecidableRel before]
  {limit : Nat} {skipped : List Nat}

theorem measureAt_updatePicked (same : ∀ row, wanted row = true →
      measure (change row) = measure row) (id : Nat) :
    (table.updatePicked (table.pick wanted before limit skipped) change).measureAt measure whole
        id = table.measureAt measure whole id := by
  cases found : table.get? id with
  | none =>
      have absent : (table.updatePicked (table.pick wanted before limit skipped) change).get? id =
          none := by rw [get?_updatePicked, found, Option.map_none]
      rw [measureAt_none absent, measureAt_none found]
  | some row =>
      have there := get?_updatePicked table (table.pick wanted before limit skipped) change id
      rw [found, Option.map_some] at there
      rw [measureAt_some there, measureAt_some found]
      split
      · next picked => exact same row (wanted_of_picked picked found)
      · rfl

theorem measureAt_claimed {id : Nat} (paid : ∀ row, table.get? id = some row →
      wanted row = true → 1 + measure (change row) ≤ measure row) :
    ((table.pick wanted before limit skipped).map (·.id)).count id +
        (table.updatePicked (table.pick wanted before limit skipped) change).measureAt measure
          whole id ≤ table.measureAt measure whole id := by
  have listedOnce : ((table.pick wanted before limit skipped).map (·.id)).Nodup := pick_nodup
  have once := List.nodup_iff_count_le_one.mp listedOnce id
  cases found : table.get? id with
  | none =>
      have absent : (table.updatePicked (table.pick wanted before limit skipped) change).get? id =
          none := by rw [get?_updatePicked, found, Option.map_none]
      rw [measureAt_none absent, measureAt_none found]
      have unlisted : id ∉ (table.pick wanted before limit skipped).map (·.id) := by
        intro listed
        obtain ⟨stored, member, rfl⟩ := List.mem_map.mp listed
        rw [(mem_pick member).1] at found
        contradiction
      rw [List.count_eq_zero.mpr unlisted, Nat.zero_add]
  | some row =>
      have there := get?_updatePicked table (table.pick wanted before limit skipped) change id
      rw [found, Option.map_some] at there
      rw [measureAt_some there, measureAt_some found]
      split
      · next picked =>
          have pays := paid row found (wanted_of_picked picked found)
          omega
      · next unpicked =>
          rw [List.count_eq_zero.mpr fun listed => unpicked (List.contains_iff_mem.mpr listed),
            Nat.zero_add]

end Picked

end Measure

end UnifiedService.Library.Table
