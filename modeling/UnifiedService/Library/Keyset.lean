import Mathlib.Data.List.Sort
import Mathlib.Order.Lattice

/-! Keyset paging. A listing is read page by page, each from the place of the last row of the
page before. Every place has a row of its own, and one row more than a page holds is asked for
to know whether there is another page. -/

set_option autoImplicit false

namespace UnifiedService.Library

structure Page (Row Cursor : Type) where
  items : List Row
  nextCursor : Option Cursor
  hasMore : Bool
  deriving DecidableEq, Repr

namespace Page

variable {Row Cursor : Type}

def of (limit : Nat) (cursorOf : Row → Cursor) (rows : List Row) : Page Row Cursor :=
  let items := if limit < rows.length then rows.take limit else rows
  { items := items
    nextCursor := if limit < rows.length then items.getLast?.map cursorOf else none
    hasMore := decide (limit < rows.length) }

def walk {Error : Type} (list : Option Cursor → Except Error (Page Row Cursor)) :
    Nat → Option Cursor → Option (List (Page Row Cursor))
  | 0, _ => none
  | fuel + 1, cursor =>
      match list cursor with
      | .error _ => none
      | .ok page =>
          if page.hasMore then (walk list fuel page.nextCursor).map (page :: ·) else some [page]

end Page

namespace Keyset

variable {Row Cursor Place : Type} [LinearOrder Place] (place : Row → Place)

def listed (rows : List Row) : List Row :=
  rows.insertionSort fun one other => place other ≤ place one

def fetch (rows : List Row) (limit : Nat) (after : Option Place) : List Row :=
  (listed place (rows.filter fun row => after.all fun reached => decide (place row < reached))).take
    limit

variable {place}

theorem listed_pairwise (rows : List Row) :
    (listed place rows).Pairwise fun one other => place other ≤ place one := by
  have total : Std.Total fun one other : Row => place other ≤ place one :=
    ⟨fun one other => le_total _ _⟩
  have transitive : IsTrans Row fun one other => place other ≤ place one :=
    ⟨fun _ _ _ first second => second.trans first⟩
  exact List.pairwise_insertionSort _ rows

theorem listed_perm (rows : List Row) : (listed place rows).Perm rows :=
  List.perm_insertionSort _ rows

theorem listed_strict {rows : List Row} (distinct : (rows.map place).Nodup) :
    (listed place rows).Pairwise fun one other => place other < place one := by
  have apart : ((listed place rows).map place).Nodup :=
    ((listed_perm rows).map place).nodup_iff.mpr distinct
  have different := List.pairwise_map.mp apart
  exact (listed_pairwise rows).imp₂ (fun _ _ within other => lt_of_le_of_ne within other.symm)
    different

theorem listed_eq_of_perm {rows others : List Row} (distinct : (rows.map place).Nodup)
    (same : rows.Perm others) : listed place rows = listed place others := by
  refine List.Perm.eq_of_pairwise (fun one other here there first second => ?_)
    (listed_pairwise _) (listed_pairwise _) ?_
  · have one_in := (listed_perm rows).mem_iff.mp here
    have other_in := same.mem_iff.mpr ((listed_perm others).mem_iff.mp there)
    exact List.inj_on_of_nodup_map distinct one_in other_in (le_antisymm second first)
  · exact (listed_perm rows).trans (same.trans (listed_perm others).symm)

theorem listed_filter {rows : List Row} (distinct : (rows.map place).Nodup)
    (wanted : Row → Bool) : listed place (rows.filter wanted) = (listed place rows).filter wanted := by
  refine List.Perm.eq_of_pairwise (fun one other here there first second => ?_)
    (listed_pairwise _) ((listed_pairwise rows).filter _) ?_
  · have one_in := List.mem_of_mem_filter ((listed_perm _).mem_iff.mp here)
    have other_in := (listed_perm rows).mem_iff.mp (List.mem_of_mem_filter there)
    exact List.inj_on_of_nodup_map distinct one_in other_in (le_antisymm second first)
  · exact (listed_perm _).trans ((listed_perm rows).filter _).symm

theorem fetch_first (rows : List Row) (limit : Nat) :
    fetch place rows limit none = (listed place rows).take limit := by
  simp [fetch]

theorem fetch_after {rows front back : List Row} {last : Row}
    (distinct : (rows.map place).Nodup) (split : listed place rows = front ++ last :: back)
    (limit : Nat) : fetch place rows limit (some (place last)) = back.take limit := by
  have strict := listed_strict distinct
  rw [split, List.pairwise_append, List.pairwise_cons] at strict
  obtain ⟨-, ⟨after, -⟩, before⟩ := strict
  have earlier : ∀ row ∈ front, decide (place row < place last) = false := fun row member =>
    decide_eq_false (not_lt.mpr (before row member last List.mem_cons_self).le)
  have later : ∀ row ∈ back, decide (place row < place last) = true := fun row member =>
    decide_eq_true (after row member)
  have rest : (listed place rows).filter (fun row => decide (place row < place last)) = back := by
    rw [split, List.filter_append, List.filter_cons_of_neg (by simp),
      List.filter_eq_nil_iff.mpr fun row member => by rw [earlier row member]; exact Bool.false_ne_true,
      List.filter_eq_self.mpr later, List.nil_append]
  unfold fetch
  rw [listed_filter distinct]
  exact congrArg (List.take limit) rest

structure Paged {Error : Type} (place : Row → Place) (rows : List Row) (limit : Nat)
    (cursorOf : Row → Cursor) (list : Option Cursor → Except Error (Page Row Cursor)) : Prop where
  distinct : (rows.map place).Nodup
  first : list none = .ok (Page.of limit cursorOf (fetch place rows (limit + 1) none))
  resumes : ∀ row ∈ rows, list (some (cursorOf row)) =
    .ok (Page.of limit cursorOf (fetch place rows (limit + 1) (some (place row))))

section Walk

variable {Error : Type} {rows : List Row} {limit : Nat} {cursorOf : Row → Cursor}
  {list : Option Cursor → Except Error (Page Row Cursor)}

structure Reads (left : List Row) (pages : List (Page Row Cursor)) : Prop where
  items : pages.flatMap Page.items = left
  ends : ∃ front last, pages = front ++ [last] ∧ last.hasMore = false ∧
    ∀ page ∈ front, page.hasMore = true

theorem walk_rest (paged : Paged place rows limit cursorOf list) (positive : 1 ≤ limit)
    (fuel : Nat) {front left : List Row} {cursor : Option Cursor}
    (split : listed place rows = front ++ left)
    (offered : list cursor = .ok (Page.of limit cursorOf (left.take (limit + 1))))
    (enough : left.length < fuel) :
    ∃ pages, Page.walk list fuel cursor = some pages ∧ Reads left pages := by
  induction fuel generalizing front left cursor with
  | zero => exact absurd enough (Nat.not_lt_zero _)
  | succ fuel ih =>
      rw [Page.walk]
      by_cases more : limit < left.length
      · have length : limit < (left.take (limit + 1)).length := by
          rw [List.length_take]
          omega
        have taken : (left.take (limit + 1)).take limit = left.take limit := by
          rw [List.take_take, Nat.min_eq_left (Nat.le_succ limit)]
        have nonempty : left.take limit ≠ [] := by
          intro nothing
          have counted := congrArg List.length nothing
          rw [List.length_take, List.length_nil] at counted
          omega
        obtain ⟨init, reached, shape⟩ : ∃ init reached, left.take limit = init ++ [reached] :=
          ⟨_, _, (List.dropLast_append_getLast nonempty).symm⟩
        have page : list cursor = .ok ⟨left.take limit, some (cursorOf reached), true⟩ := by
          rw [offered, Page.of, if_pos length, if_pos length, taken, decide_eq_true length, shape,
            List.getLast?_concat]
          rfl
        have again : listed place rows = (front ++ init) ++ reached :: left.drop limit := by
          rw [List.append_assoc, List.append_cons, ← shape, List.take_append_drop]
          exact split
        have member : reached ∈ rows := by
          rw [← (listed_perm rows : (listed place rows).Perm rows).mem_iff, again]
          exact List.mem_append_right _ List.mem_cons_self
        have next := paged.resumes _ member
        rw [fetch_after paged.distinct again] at next
        rw [List.append_cons] at again
        obtain ⟨pages, walked, items, front_pages, last, rfl, ended, continued⟩ := ih again next
          (by rw [List.length_drop]; omega)
        rw [page]
        dsimp only
        rw [if_pos rfl, walked]
        refine ⟨_, rfl, ?_, ⟨left.take limit, some (cursorOf reached), true⟩ :: front_pages, last,
          rfl, ended, ?_⟩
        · rw [List.flatMap_cons, items, List.take_append_drop]
        · intro other listed
          rcases List.mem_cons.mp listed with rfl | earlier
          · rfl
          · exact continued other earlier
      · have whole : left.take (limit + 1) = left :=
          List.take_of_length_le (by omega)
        have page : list cursor = .ok ⟨left, none, false⟩ := by
          rw [offered, whole, Page.of, if_neg more, if_neg more, decide_eq_false more]
        rw [page]
        dsimp only
        rw [if_neg Bool.false_ne_true]
        exact ⟨_, rfl, List.flatMap_singleton .., [], _, rfl, rfl, fun _ listed =>
          absurd listed List.not_mem_nil⟩

/-- Following the cursors from the first page reads the listing, each row once. -/
theorem walk_reads (paged : Paged place rows limit cursorOf list)
    (positive : 1 ≤ limit) :
    ∃ pages, Page.walk list (rows.length + 1) none = some pages ∧
      Reads (listed place rows) pages := by
  have offered := paged.first
  rw [fetch_first] at offered
  refine walk_rest paged positive _ (List.nil_append _).symm offered ?_
  rw [(listed_perm rows).length_eq]
  exact Nat.lt_succ_self _

end Walk

end Keyset

end UnifiedService.Library
