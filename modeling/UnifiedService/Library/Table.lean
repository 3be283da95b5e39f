import Mathlib.Algebra.BigOperators.Group.List.Basic
import Mathlib.Tactic.Ring

/-! Append-only tables with serial keys. Rows are inserted and updated in place,
never removed, so the position of a row is its key for ever. -/

set_option autoImplicit false

namespace UnifiedService.Library

/-- Rows in insertion order. The serial key of a row is its position. -/
structure Table (Row : Type) where
  rows : List Row
  deriving DecidableEq, Repr

structure Stored (Row : Type) where
  id : Nat
  row : Row
  deriving DecidableEq, Repr

namespace Table

variable {Row : Type}

def empty : Table Row := ⟨[]⟩

def nextId (table : Table Row) : Nat := table.rows.length

def get? (table : Table Row) (id : Nat) : Option Row := table.rows[id]?

def insert (table : Table Row) (row : Row) : Table Row := ⟨table.rows ++ [row]⟩

def update (table : Table Row) (id : Nat) (change : Row → Row) : Table Row :=
  ⟨table.rows.modify id change⟩

def updateWhere (table : Table Row) (wanted : Nat → Row → Bool) (change : Row → Row) :
    Table Row :=
  ⟨table.rows.mapIdx fun id row => if wanted id row then change row else row⟩

def select (table : Table Row) (wanted : Row → Bool) : List (Stored Row) :=
  (table.rows.zipIdx.filter fun entry => wanted entry.1).map fun entry => ⟨entry.2, entry.1⟩

def find? (table : Table Row) (wanted : Row → Bool) : Option (Stored Row) :=
  (table.select wanted).head?

def count (table : Table Row) (wanted : Row → Bool) : Nat := table.rows.countP wanted

def total (table : Table Row) (amount : Row → Int) : Int := (table.rows.map amount).sum

@[simp] theorem get?_empty (id : Nat) : (empty : Table Row).get? id = none := rfl

@[simp] theorem nextId_empty : (empty : Table Row).nextId = 0 := rfl

@[simp] theorem count_empty (wanted : Row → Bool) : (empty : Table Row).count wanted = 0 := rfl

@[simp] theorem total_empty (amount : Row → Int) : (empty : Table Row).total amount = 0 := rfl

@[simp] theorem nextId_insert (table : Table Row) (row : Row) :
    (table.insert row).nextId = table.nextId + 1 := by
  simp [nextId, insert]

@[simp] theorem nextId_update (table : Table Row) (id : Nat) (change : Row → Row) :
    (table.update id change).nextId = table.nextId := by
  simp [nextId, update]

@[simp] theorem nextId_updateWhere (table : Table Row) (wanted : Nat → Row → Bool)
    (change : Row → Row) : (table.updateWhere wanted change).nextId = table.nextId := by
  simp [nextId, updateWhere]

@[simp] theorem get?_nextId (table : Table Row) : table.get? table.nextId = none := by
  simp [get?, nextId]

theorem get?_lt {table : Table Row} {id : Nat} {row : Row}
    (found : table.get? id = some row) : id < table.nextId := by
  obtain ⟨bound, _⟩ := List.getElem?_eq_some_iff.mp found
  exact bound

theorem get?_isSome_iff {table : Table Row} {id : Nat} :
    (table.get? id).isSome ↔ id < table.nextId := by
  simp [get?, nextId]

theorem get?_insert (table : Table Row) (row : Row) (id : Nat) :
    (table.insert row).get? id =
      if id = table.nextId then some row else table.get? id := by
  obtain ⟨rows⟩ := table
  show (rows ++ [row])[id]? = if id = rows.length then some row else rows[id]?
  rcases Nat.lt_trichotomy id rows.length with before | same | after
  · rw [List.getElem?_append_left before, if_neg (Nat.ne_of_lt before)]
  · subst same
    simp
  · rw [if_neg (Nat.ne_of_gt after), List.getElem?_eq_none
        (by simp only [List.length_append, List.length_singleton]; omega),
      List.getElem?_eq_none (Nat.le_of_lt after)]

@[simp] theorem get?_insert_self (table : Table Row) (row : Row) :
    (table.insert row).get? table.nextId = some row := by
  rw [get?_insert, if_pos rfl]

theorem get?_insert_of_some {table : Table Row} {id : Nat} {old : Row} (row : Row)
    (found : table.get? id = some old) : (table.insert row).get? id = some old := by
  rw [get?_insert, if_neg (Nat.ne_of_lt (get?_lt found)), found]

theorem get?_update (table : Table Row) (id : Nat) (change : Row → Row) (other : Nat) :
    (table.update id change).get? other =
      if id = other then (table.get? other).map change else table.get? other := by
  simp only [get?, update, List.getElem?_modify]
  split <;> simp

@[simp] theorem get?_update_self (table : Table Row) (id : Nat) (change : Row → Row) :
    (table.update id change).get? id = (table.get? id).map change := by
  rw [get?_update, if_pos rfl]

theorem get?_update_of_ne (table : Table Row) {id other : Nat} (change : Row → Row)
    (different : id ≠ other) : (table.update id change).get? other = table.get? other := by
  rw [get?_update, if_neg different]

theorem get?_updateWhere (table : Table Row) (wanted : Nat → Row → Bool) (change : Row → Row)
    (id : Nat) :
    (table.updateWhere wanted change).get? id =
      (table.get? id).map fun row => if wanted id row then change row else row := by
  simp only [get?, updateWhere, List.getElem?_mapIdx]

theorem updateWhere_id (table : Table Row) (id : Nat) (wanted : Row → Bool) (change : Row → Row) :
    table.updateWhere (fun other row => other == id && wanted row) change =
      table.update id fun row => if wanted row then change row else row := by
  refine congrArg Table.mk (List.ext_getElem? fun other => ?_)
  rw [List.getElem?_mapIdx, List.getElem?_modify]
  by_cases same : id = other
  · subst same
    simp
  · simp [same, Ne.symm same]

theorem update_eq_const {table : Table Row} {id : Nat} {row : Row} (change : Row → Row)
    (found : table.get? id = some row) :
    table.update id change = table.update id fun _ => change row := by
  obtain ⟨rows⟩ := table
  simp only [update, get?, Table.mk.injEq] at found ⊢
  induction rows generalizing id with
  | nil => simp at found
  | cons first rest ih =>
      cases id with
      | zero =>
          rw [List.getElem?_cons_zero, Option.some.injEq] at found
          rw [List.modify_zero_cons, List.modify_zero_cons, found]
      | succ id =>
          rw [List.modify_succ_cons, List.modify_succ_cons, ih (by simpa using found)]

@[simp] theorem update_id (table : Table Row) (id : Nat) :
    table.update id (fun row => row) = table := by
  exact congrArg Table.mk (List.modify_id id table.rows)

theorem update_of_none {table : Table Row} {id : Nat} (change : Row → Row)
    (missing : table.get? id = none) : table.update id change = table := by
  have beyond : table.rows.length ≤ id := by simpa [get?] using missing
  simp [update, List.modify_eq_self beyond]

@[simp] theorem update_insert_nextId (table : Table Row) (row : Row) (change : Row → Row) :
    (table.insert row).update table.nextId change = table.insert (change row) := by
  obtain ⟨rows⟩ := table
  simp only [update, insert, nextId, Table.mk.injEq]
  induction rows with
  | nil => rfl
  | cons first rest ih =>
      rw [List.cons_append, List.length_cons, List.modify_succ_cons, ih, List.cons_append]

theorem mem_select {table : Table Row} {wanted : Row → Bool} {stored : Stored Row} :
    stored ∈ table.select wanted ↔
      table.get? stored.id = some stored.row ∧ wanted stored.row = true := by
  obtain ⟨id, row⟩ := stored
  simp [select, get?, List.mem_zipIdx_iff_getElem?]

example : (⟨[3, 5, 8]⟩ : Table Nat).select (fun row => row != 5) = [⟨0, 3⟩, ⟨2, 8⟩] := by
  decide +kernel

theorem select_pairwise_ne (table : Table Row) (wanted : Row → Bool) :
    (table.select wanted).Pairwise fun first second => first.id ≠ second.id := by
  rw [select, List.pairwise_map]
  apply List.Pairwise.filter
  have keys : (table.rows.zipIdx.map Prod.snd).Nodup := by
    rw [List.zipIdx_map_snd]
    exact List.nodup_range'
  exact List.pairwise_map.mp keys

theorem select_pairwise_lt (table : Table Row) (wanted : Row → Bool) :
    (table.select wanted).Pairwise fun first second => first.id < second.id := by
  rw [select, List.pairwise_map]
  apply List.Pairwise.filter
  have keys : (table.rows.zipIdx.map Prod.snd).Pairwise (· < ·) := by
    rw [List.zipIdx_map_snd]
    exact List.pairwise_lt_range'
  exact List.pairwise_map.mp keys

theorem select_and (table : Table Row) (wanted other : Row → Bool) :
    (table.select fun row => wanted row && other row) =
      (table.select wanted).filter fun stored => other stored.row := by
  simp only [select, List.filter_map, List.filter_filter]
  congr 1
  refine List.filter_congr fun entry _ => ?_
  simp [Bool.and_comm]

theorem select_append (rows more : List Row) (wanted : Row → Bool) :
    ∃ added, (⟨rows ++ more⟩ : Table Row).select wanted =
        (⟨rows⟩ : Table Row).select wanted ++ added ∧
      added.map (·.row) = more.filter wanted := by
  refine ⟨((more.zipIdx rows.length).filter fun entry => wanted entry.1).map
    fun entry => ⟨entry.2, entry.1⟩, ?_, ?_⟩
  · simp only [select, List.zipIdx_append, List.filter_append, List.map_append, Nat.zero_add]
  · rw [List.map_map]
    have kept : ∀ (rest : List Row) (start : Nat),
        ((rest.zipIdx start).filter fun entry => wanted entry.1).map
          ((fun stored : Stored Row => stored.row) ∘ fun entry => ⟨entry.2, entry.1⟩) =
            rest.filter wanted := by
      intro rest
      induction rest with
      | nil => exact fun _ => rfl
      | cons row rest ih =>
          intro start
          rw [List.zipIdx_cons, List.filter_cons, List.filter_cons]
          split
          · rw [List.map_cons, ih]
            rfl
          · exact ih (start + 1)
    exact kept more rows.length

theorem select_map (rows : List Row) (change : Row → Row) {wanted : Row → Bool}
    (unseen : ∀ row, wanted (change row) = wanted row) :
    (⟨rows.map change⟩ : Table Row).select wanted =
      ((⟨rows⟩ : Table Row).select wanted).map fun stored => ⟨stored.id, change stored.row⟩ := by
  simp only [select, List.zipIdx_map, List.filter_map, List.map_map]
  congr 1
  refine List.filter_congr fun entry _ => ?_
  exact unseen entry.1

theorem find?_some {table : Table Row} {wanted : Row → Bool} {stored : Stored Row}
    (found : table.find? wanted = some stored) :
    table.get? stored.id = some stored.row ∧ wanted stored.row = true :=
  mem_select.mp (List.mem_of_mem_head? found)

theorem find?_eq_none {table : Table Row} {wanted : Row → Bool} :
    table.find? wanted = none ↔
      ∀ id row, table.get? id = some row → wanted row = false := by
  rw [find?, List.head?_eq_none_iff, List.eq_nil_iff_forall_not_mem]
  constructor
  · intro absent id row found
    have missing := absent ⟨id, row⟩
    rw [mem_select] at missing
    simpa using fun satisfied => missing ⟨found, satisfied⟩
  · intro rejected stored member
    obtain ⟨found, satisfied⟩ := mem_select.mp member
    rw [rejected _ _ found] at satisfied
    contradiction

theorem find?_isSome_iff (table : Table Row) {wanted : Row → Bool} :
    (table.find? wanted).isSome = true ↔
      ∃ id row, table.get? id = some row ∧ wanted row = true := by
  constructor
  · intro present
    obtain ⟨stored, first⟩ := Option.isSome_iff_exists.mp present
    exact ⟨stored.id, stored.row, find?_some first⟩
  · rintro ⟨id, row, found, satisfied⟩
    rw [Option.isSome_iff_ne_none]
    intro absent
    rw [find?_eq_none.mp absent id row found] at satisfied
    contradiction

theorem find?_insert_of_some {table : Table Row} {wanted : Row → Bool} {stored : Stored Row}
    (row : Row) (found : table.find? wanted = some stored) :
    (table.insert row).find? wanted = some stored := by
  obtain ⟨rows⟩ := table
  obtain ⟨added, same, -⟩ := select_append rows [row] wanted
  rw [find?] at found ⊢
  rw [insert, same, List.head?_append, found, Option.some_or]

theorem find?_le {table : Table Row} {wanted : Row → Bool} {stored : Stored Row}
    (first : table.find? wanted = some stored) {id : Nat} {row : Row}
    (found : table.get? id = some row) (satisfied : wanted row = true) : stored.id ≤ id := by
  obtain ⟨tail, listed⟩ := List.head?_eq_some_iff.mp first
  have member : (⟨id, row⟩ : Stored Row) ∈ stored :: tail :=
    listed ▸ mem_select.mpr ⟨found, satisfied⟩
  rcases List.mem_cons.mp member with same | later
  · rw [← same]
  · have ordered := select_pairwise_lt table wanted
    rw [listed, List.pairwise_cons] at ordered
    exact Nat.le_of_lt (ordered.1 _ later)

theorem find?_of_first {table : Table Row} {wanted : Row → Bool} {stored : Stored Row}
    (found : table.get? stored.id = some stored.row) (satisfied : wanted stored.row = true)
    (first : ∀ id row, table.get? id = some row → wanted row = true → stored.id ≤ id) :
    table.find? wanted = some stored := by
  cases result : table.find? wanted with
  | none =>
      rw [find?_eq_none.mp result _ _ found] at satisfied
      contradiction
  | some other =>
      obtain ⟨there, wants⟩ := find?_some result
      have same : other.id = stored.id :=
        Nat.le_antisymm (find?_le result found satisfied) (first _ _ there wants)
      rw [same, found] at there
      rw [show other = stored from by
        cases other
        cases stored
        exact congr (congrArg Stored.mk same) (Option.some.inj there).symm]

theorem find?_insert_new {table : Table Row} {wanted : Row → Bool} {row : Row}
    (absent : table.find? wanted = none) (satisfied : wanted row = true) :
    (table.insert row).find? wanted = some ⟨table.nextId, row⟩ := by
  refine find?_of_first (get?_insert_self _ _) satisfied fun id other found wants => ?_
  rw [get?_insert] at found
  split at found
  · next same => exact Nat.le_of_eq same.symm
  · rw [find?_eq_none.mp absent id other found] at wants
    contradiction

theorem find?_update_self {table : Table Row} {wanted : Row → Bool} {stored : Stored Row}
    {change : Row → Row} (unseen : ∀ row, wanted (change row) = wanted row)
    (first : table.find? wanted = some stored) :
    (table.update stored.id change).find? wanted = some ⟨stored.id, change stored.row⟩ := by
  obtain ⟨found, satisfied⟩ := find?_some first
  refine find?_of_first (by rw [get?_update_self, found]; rfl) (by rwa [unseen]) ?_
  intro id row there wants
  rw [get?_update] at there
  split at there
  · next same => exact Nat.le_of_eq same
  · exact find?_le first there wants

/-- Changes the predicate does not see leave the first row the first. -/
theorem find?_updateWhere (table : Table Row) {wanted : Row → Bool} {change : Row → Row}
    (unseen : ∀ row, wanted (change row) = wanted row) (chosen : Nat → Row → Bool) :
    (table.updateWhere chosen change).find? wanted =
      (table.find? wanted).map fun stored =>
        ⟨stored.id, if chosen stored.id stored.row then change stored.row else stored.row⟩ := by
  have kept : ∀ id row, wanted (if chosen id row then change row else row) = wanted row := by
    intro id row
    split
    · exact unseen row
    · rfl
  cases first : table.find? wanted with
  | none =>
      rw [Option.map_none, find?_eq_none]
      intro id row found
      rw [get?_updateWhere, Option.map_eq_some_iff] at found
      obtain ⟨old, there, rfl⟩ := found
      rw [kept]
      exact find?_eq_none.mp first id old there
  | some stored =>
      obtain ⟨found, satisfied⟩ := find?_some first
      rw [Option.map_some]
      refine find?_of_first ?_ ?_ ?_
      · rw [get?_updateWhere, found]
        rfl
      · rwa [kept]
      · intro id row there wants
        rw [get?_updateWhere, Option.map_eq_some_iff] at there
        obtain ⟨old, before, rfl⟩ := there
        rw [kept] at wants
        exact find?_le first before wants

theorem find?_congr {before after : Table Row} {wanted : Row → Bool}
    (same : ∀ id row, wanted row = true → (after.get? id = some row ↔ before.get? id = some row)) :
    after.find? wanted = before.find? wanted := by
  cases first : before.find? wanted with
  | none =>
      rw [find?_eq_none] at first ⊢
      intro id row found
      refine Bool.eq_false_iff.mpr fun wants => ?_
      have absent := first id row ((same id row wants).mp found)
      rw [wants] at absent
      contradiction
  | some stored =>
      obtain ⟨found, satisfied⟩ := find?_some first
      refine find?_of_first ((same _ _ satisfied).mpr found) satisfied fun id row there wants => ?_
      exact find?_le first ((same id row wants).mp there) wants

theorem getLast?_select {table : Table Row} {wanted : Row → Bool} {stored : Stored Row}
    (found : table.get? stored.id = some stored.row) (satisfied : wanted stored.row = true)
    (last : ∀ id row, table.get? id = some row → wanted row = true → id ≤ stored.id) :
    (table.select wanted).getLast? = some stored := by
  have member : stored ∈ table.select wanted := mem_select.mpr ⟨found, satisfied⟩
  obtain ⟨front, back, split⟩ := List.append_of_mem member
  have nothing : back = [] := by
    rw [List.eq_nil_iff_forall_not_mem]
    intro other listed
    have ordered := table.select_pairwise_lt wanted
    rw [split, List.pairwise_append, List.pairwise_cons] at ordered
    have after := ordered.2.1.1 other listed
    have there : other ∈ table.select wanted := by
      rw [split]
      exact List.mem_append_right front (List.mem_cons_of_mem stored listed)
    obtain ⟨stands, also⟩ := mem_select.mp there
    exact absurd (last other.id other.row stands also) (Nat.not_le_of_lt after)
  rw [split, nothing, List.getLast?_append]
  rfl

theorem mem_rows_iff {table : Table Row} {row : Row} :
    row ∈ table.rows ↔ ∃ id, table.get? id = some row := by
  simp [get?, List.mem_iff_getElem?]

theorem count_insert (table : Table Row) (row : Row) (wanted : Row → Bool) :
    (table.insert row).count wanted = table.count wanted + if wanted row then 1 else 0 := by
  simp [count, insert, List.countP_append, List.countP_singleton]

theorem total_insert (table : Table Row) (row : Row) (amount : Row → Int) :
    (table.insert row).total amount = table.total amount + amount row := by
  simp [total, insert]

theorem count_congr {table : Table Row} {wanted other : Row → Bool}
    (same : ∀ id row, table.get? id = some row → wanted row = other row) :
    table.count wanted = table.count other := by
  refine List.countP_congr fun row member => ?_
  obtain ⟨id, found⟩ := mem_rows_iff.mp member
  rw [same id row found]

theorem count_update {table : Table Row} {id : Nat} {row : Row} (change : Row → Row)
    (wanted : Row → Bool) (found : table.get? id = some row) :
    (table.update id change).count wanted + (if wanted row then 1 else 0) =
      table.count wanted + if wanted (change row) then 1 else 0 := by
  obtain ⟨rows⟩ := table
  simp only [count, update, get?] at found ⊢
  induction rows generalizing id with
  | nil => simp at found
  | cons first rest ih =>
      cases id with
      | zero =>
          simp only [List.getElem?_cons_zero, Option.some.injEq] at found
          subst found
          simp only [List.modify_zero_cons, List.countP_cons]
          omega
      | succ id =>
          simp only [List.getElem?_cons_succ] at found
          have counted := ih found
          simp only [List.modify_succ_cons, List.countP_cons]
          omega

theorem map_updateWhere {Value : Type} (table : Table Row) {read : Row → Value}
    {change : Row → Row} {chosen : Nat → Row → Bool}
    (unseen : ∀ id row, chosen id row = true → read (change row) = read row) :
    (table.updateWhere chosen change).rows.map read = table.rows.map read := by
  have kept : ∀ entry : Row × Nat,
      read (if chosen entry.2 entry.1 then change entry.1 else entry.1) = read entry.1 := by
    intro entry
    split
    · next wanted => exact unseen entry.2 entry.1 wanted
    · rfl
  calc (table.updateWhere chosen change).rows.map read
      = table.rows.zipIdx.map fun entry => read entry.1 := by
        simp only [updateWhere, List.mapIdx_eq_zipIdx_map, List.map_map]
        exact List.map_congr_left fun entry _ => kept entry
    _ = (table.rows.zipIdx.map Prod.fst).map read := by
        rw [List.map_map]
        rfl
    _ = table.rows.map read := by rw [List.zipIdx_map_fst]

theorem map_update {Value : Type} (table : Table Row) {read : Row → Value} {change : Row → Row}
    (unseen : ∀ row, read (change row) = read row) (id : Nat) :
    (table.update id change).rows.map read = table.rows.map read := by
  obtain ⟨rows⟩ := table
  simp only [update]
  induction rows generalizing id with
  | nil => simp
  | cons first rest ih =>
      cases id with
      | zero => simp [unseen]
      | succ id => simp [ih]

theorem updateWhere_rows (table : Table Row) (wanted : Row → Bool) (change : Row → Row) :
    table.updateWhere (fun _ row => wanted row) change =
      ⟨table.rows.map fun row => if wanted row then change row else row⟩ := by
  refine congrArg Table.mk ?_
  rw [List.mapIdx_eq_zipIdx_map, ← List.zipIdx_map_fst 0 table.rows, List.map_map,
    List.zipIdx_map_fst]
  rfl

theorem find?_idxOf {Key : Type} [BEq Key] [LawfulBEq Key] {table : Table Row} {read : Row → Key}
    {key : Key} {stored : Stored Row}
    (first : table.find? (fun row => read row == key) = some stored) :
    stored.id = (table.rows.map read).idxOf key := by
  obtain ⟨found, same⟩ := find?_some first
  have member : key ∈ table.rows.map read :=
    List.mem_map.mpr ⟨stored.row, mem_rows_iff.mpr ⟨_, found⟩, by simpa using same⟩
  have bound := List.idxOf_lt_length_iff.mpr member
  have listed : (table.rows.map read)[(table.rows.map read).idxOf key] = key :=
    List.getElem_idxOf bound
  rw [List.getElem_map] at listed
  refine Nat.le_antisymm ?_ ?_
  · rw [List.length_map] at bound
    exact find?_le first (List.getElem?_eq_getElem bound) (by simpa using listed)
  · refine Nat.le_of_not_lt fun before => ?_
    have other := List.not_of_lt_findIdx before
    rw [List.getElem_map] at other
    obtain ⟨_, there⟩ := List.getElem?_eq_some_iff.mp found
    rw [there] at other
    simp_all

theorem count_eq_countP (table : Table Row) (wanted : Row → Bool) :
    table.count wanted = (table.rows.map wanted).countP id := by
  rw [List.countP_map]
  rfl

theorem count_updateWhere (table : Table Row) {wanted : Row → Bool} {change : Row → Row}
    {chosen : Nat → Row → Bool}
    (unseen : ∀ id row, chosen id row = true → wanted (change row) = wanted row) :
    (table.updateWhere chosen change).count wanted = table.count wanted := by
  rw [count_eq_countP, map_updateWhere table unseen, ← count_eq_countP]

theorem count_update_unseen (table : Table Row) {wanted : Row → Bool} {change : Row → Row}
    (unseen : ∀ row, wanted (change row) = wanted row) (id : Nat) :
    (table.update id change).count wanted = table.count wanted := by
  rw [count_eq_countP, map_update table unseen, ← count_eq_countP]

theorem count_eq_zero_iff {table : Table Row} {wanted : Row → Bool} :
    table.count wanted = 0 ↔ ∀ id row, table.get? id = some row → wanted row = false := by
  simp only [count, List.countP_eq_zero, mem_rows_iff, Bool.not_eq_true]
  exact ⟨fun rejected id row found => rejected row ⟨id, found⟩,
    fun rejected row ⟨id, found⟩ => rejected id row found⟩

/-- Two amounts that differ on one row only have totals that differ by as much. -/
theorem total_change {table : Table Row} {id : Nat} {row : Row} {before after : Row → Int}
    (found : table.get? id = some row)
    (others : ∀ other unchanged, table.get? other = some unchanged → other ≠ id →
      after unchanged = before unchanged) :
    table.total after = table.total before + (after row - before row) := by
  obtain ⟨rows⟩ := table
  simp only [total, get?] at found others ⊢
  induction rows generalizing id with
  | nil => simp at found
  | cons first rest ih =>
      cases id with
      | zero =>
          obtain rfl : first = row := by simpa using found
          have same : rest.map after = rest.map before := by
            refine List.map_congr_left fun unchanged member => ?_
            obtain ⟨index, at_⟩ := List.mem_iff_getElem?.mp member
            exact others (index + 1) unchanged (by simpa using at_) (by omega)
          rw [List.map_cons, List.sum_cons, List.map_cons, List.sum_cons, same]
          ring
      | succ id =>
          have head : after first = before first := others 0 first (by simp) (by omega)
          have tail := ih (by simpa using found) fun other unchanged at_ different =>
            others (other + 1) unchanged (by simpa using at_) (by omega)
          rw [List.map_cons, List.sum_cons, List.map_cons, List.sum_cons, head, tail]
          ring

theorem total_congr {table : Table Row} {before after : Row → Int}
    (same : ∀ id row, table.get? id = some row → after row = before row) :
    table.total after = table.total before := by
  refine congrArg List.sum (List.map_congr_left fun row member => ?_)
  obtain ⟨id, found⟩ := mem_rows_iff.mp member
  exact same id row found

theorem sum_select (table : Table Row) (wanted : Row → Bool) (amount : Row → Int) :
    ((table.select wanted).map fun stored => amount stored.row).sum =
      table.total fun row => if wanted row then amount row else 0 := by
  have counted : ∀ (rows : List Row) (start : Nat),
      (((rows.zipIdx start).filter fun entry => wanted entry.1).map fun entry =>
        amount entry.1).sum = (rows.map fun row => if wanted row then amount row else 0).sum := by
    intro rows
    induction rows with
    | nil => simp
    | cons row rest ih =>
        intro start
        rw [List.zipIdx_cons, List.map_cons, List.sum_cons, ← ih (start + 1), List.filter_cons]
        split <;> simp
  rw [select, List.map_map]
  exact counted table.rows 0

theorem total_update {table : Table Row} {id : Nat} {row : Row} (change : Row → Row)
    (amount : Row → Int) (found : table.get? id = some row) :
    (table.update id change).total amount =
      table.total amount + (amount (change row) - amount row) := by
  obtain ⟨rows⟩ := table
  simp only [total, update, get?] at found ⊢
  induction rows generalizing id with
  | nil => simp at found
  | cons first rest ih =>
      cases id with
      | zero =>
          simp only [List.getElem?_cons_zero, Option.some.injEq] at found
          subst found
          simp only [List.modify_zero_cons, List.map_cons, List.sum_cons]
          ring
      | succ id =>
          simp only [List.getElem?_cons_succ] at found
          simp only [List.modify_succ_cons, List.map_cons, List.sum_cons, ih found]
          ring

/-! ### Rows that stay -/

def Kept (same : Row → Row → Prop) (before after : Table Row) : Prop :=
  ∀ id row, before.get? id = some row → ∃ later, after.get? id = some later ∧ same row later

section Kept

variable {same : Row → Row → Prop} {before after : Table Row}

theorem Kept.refl (reflexive : ∀ row, same row row) (table : Table Row) : Kept same table table :=
  fun _ row found => ⟨row, found, reflexive row⟩

theorem Kept.insert (reflexive : ∀ row, same row row) (table : Table Row) (row : Row) :
    Kept same table (table.insert row) :=
  fun _ old found => ⟨old, get?_insert_of_some row found, reflexive old⟩

theorem Kept.update (reflexive : ∀ row, same row row) (table : Table Row) (id : Nat)
    {change : Row → Row} (changed : ∀ row, same row (change row)) :
    Kept same table (table.update id change) := by
  intro other row found
  rw [get?_update]
  split
  · rw [found]
    exact ⟨change row, rfl, changed row⟩
  · exact ⟨row, found, reflexive row⟩

theorem Kept.map (table : Table Row) {change : Row → Row} (changed : ∀ row, same row (change row)) :
    Kept same table ⟨table.rows.map change⟩ := by
  intro id row found
  have mapped : (⟨table.rows.map change⟩ : Table Row).get? id = (table.get? id).map change := by
    simp [get?]
  rw [mapped, found]
  exact ⟨change row, rfl, changed row⟩

theorem Kept.trans {last : Table Row} (transitive : ∀ {row middle later}, same row middle →
      same middle later → same row later)
    (first : Kept same before after) (second : Kept same after last) : Kept same before last := by
  intro id row found
  obtain ⟨middle, there, same⟩ := first id row found
  obtain ⟨later, last, next⟩ := second id middle there
  exact ⟨later, last, transitive same next⟩

theorem Kept.origin (kept : Kept same before after) (keys : after.nextId = before.nextId)
    {id : Nat} {later : Row} (found : after.get? id = some later) :
    ∃ row, before.get? id = some row ∧ same row later := by
  have bound : id < before.nextId := keys ▸ get?_lt found
  obtain ⟨row, there⟩ := Option.isSome_iff_exists.mp (get?_isSome_iff.mpr bound)
  obtain ⟨other, again, same⟩ := kept id row there
  rw [found] at again
  obtain rfl := Option.some.inj again
  exact ⟨row, there, same⟩

end Kept

end Table

end UnifiedService.Library
