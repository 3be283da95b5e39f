import Mathlib.Data.Finset.Card
import Mathlib.Data.Finset.Max
import Mathlib.Data.List.Sort

/-! Sweeps over a queue with a limit. Each round takes the items with fewer than so many
others in front of them; what fails keeps its place. -/

set_option autoImplicit false

namespace UnifiedService.Library

namespace Sweep

section Rounds

variable {Item : Type} [LinearOrder Item] {limit : Nat} {fails due : Item → Prop}

def inFront (waiting : Finset Item) (item : Item) : Finset Item :=
  waiting.filter (· < item)

@[simp] theorem mem_inFront {waiting : Finset Item} {item other : Item} :
    other ∈ inFront waiting item ↔ other ∈ waiting ∧ other < item := Finset.mem_filter

structure Round (limit : Nat) (fails due : Item → Prop) (before after : Finset Item) :
    Prop where
  leaves : ∀ item, item ∈ after ↔
    item ∈ before ∧ (fails item ∨ ¬(due item ∧ (inFront before item).card < limit))

inductive Rounds (limit : Nat) (fails : Item → Prop) (last : Item) :
    Nat → Finset Item → Finset Item → Prop where
  | none (waiting : Finset Item) : Rounds limit fails last 0 waiting waiting
  | next {count : Nat} {before middle after : Finset Item} (due : Item → Prop)
      (reaches : ∀ item ≤ last, due item) (first : Round limit fails due before middle)
      (later : Rounds limit fails last count middle after) :
      Rounds limit fails last (count + 1) before after

def stuck (fails : Item → Prop) [DecidablePred fails] (waiting : Finset Item) (item : Item) :
    Finset Item :=
  (inFront waiting item).filter fails

theorem Round.subset {before after : Finset Item} (round : Round limit fails due before after) :
    after ⊆ before := fun item member => ((round.leaves item).mp member).1

theorem Round.inFront_subset {before after : Finset Item}
    (round : Round limit fails due before after) (item : Item) :
    inFront after item ⊆ inFront before item :=
  Finset.filter_subset_filter _ round.subset

theorem Round.stuck_eq [DecidablePred fails] {before after : Finset Item}
    (round : Round limit fails due before after) (item : Item) :
    stuck fails after item = stuck fails before item := by
  ext other
  simp only [stuck, Finset.mem_filter, mem_inFront, round.leaves]
  tauto

theorem exists_first_moving [DecidablePred fails] {waiting : Finset Item} {item : Item}
    (more : (stuck fails waiting item).card < (inFront waiting item).card) :
    ∃ first ∈ inFront waiting item, ¬fails first ∧
      inFront waiting first ⊆ stuck fails waiting item := by
  let moving := (inFront waiting item).filter fun other => ¬fails other
  have some_ : moving.Nonempty := by
    rw [← Finset.card_pos]
    have parts : (stuck fails waiting item).card + moving.card = (inFront waiting item).card :=
      Finset.card_filter_add_card_filter_not fails
    omega
  obtain ⟨inside, moves⟩ := Finset.mem_filter.mp (moving.min'_mem some_)
  refine ⟨moving.min' some_, inside, moves, fun other member => ?_⟩
  obtain ⟨waits, earlier⟩ := mem_inFront.mp member
  have before := mem_inFront.mpr ⟨waits, earlier.trans (mem_inFront.mp inside).2⟩
  refine Finset.mem_filter.mpr ⟨before, ?_⟩
  by_contra moves
  exact absurd (moving.min'_le other (Finset.mem_filter.mpr ⟨before, moves⟩)) (not_le.mpr earlier)

/-- With few that fail in front of it, an item is taken, or something in front of it goes. -/
theorem Round.advances [DecidablePred fails] {before after : Finset Item} {item : Item}
    (reaches : ∀ other ≤ item, due other) (round : Round limit fails due before after)
    (few : (stuck fails before item).card < limit) :
    (inFront before item).card < limit ∨
      (inFront after item).card < (inFront before item).card := by
  rcases Nat.lt_or_ge (inFront before item).card limit with room | full
  · exact .inl room
  · obtain ⟨first, inside, moves, front⟩ := exists_first_moving (few.trans_le full)
    have earlier := (mem_inFront.mp inside).2
    have gone : first ∉ inFront after item := by
      intro member
      rcases ((round.leaves first).mp (mem_inFront.mp member).1).2 with fails | spared
      · exact moves fails
      · exact spared ⟨reaches first earlier.le, (Finset.card_le_card front).trans_lt few⟩
    exact .inr (Finset.card_lt_card ((Finset.ssubset_iff_of_subset
      (round.inFront_subset item)).mpr ⟨first, inside, gone⟩))

theorem Rounds.subset {item : Item} {count : Nat} {start after : Finset Item}
    (rounds : Rounds limit fails item count start after) : after ⊆ start := by
  induction rounds with
  | none => exact Finset.Subset.refl _
  | next due reaches first later ih => exact ih.trans first.subset

/-- With as many as the limit that fail in front of it, an item is never taken. -/
theorem Rounds.blocked [DecidablePred fails] {item : Item} {count : Nat}
    {start after : Finset Item} (rounds : Rounds limit fails item count start after)
    (many : limit ≤ (stuck fails start item).card) (waits : item ∈ start) : item ∈ after := by
  induction rounds with
  | none => exact waits
  | @next count before middle after due reaches first later ih =>
      have front : (stuck fails before item).card ≤ (inFront before item).card :=
        Finset.card_filter_le _ _
      refine ih (by rwa [first.stuck_eq]) ((first.leaves item).mpr ⟨waits, .inr ?_⟩)
      rintro ⟨-, taken⟩
      omega

/-- With fewer, more rounds than there are items in front of it take an item that does not
fail. -/
theorem Rounds.passes [DecidablePred fails] {item : Item} {count : Nat}
    {start after : Finset Item} (rounds : Rounds limit fails item count start after)
    (moves : ¬fails item) (few : (stuck fails start item).card < limit)
    (enough : (inFront start item).card < count) : item ∉ after := by
  induction rounds with
  | none => exact absurd enough (Nat.not_lt_zero _)
  | @next count before middle after due reaches first later ih =>
      rcases first.advances reaches few with taken | fewer
      · intro member
        rcases ((first.leaves item).mp (later.subset member)).2 with fails | spared
        · exact moves fails
        · exact spared ⟨reaches item le_rfl, taken⟩
      · exact ih (by rwa [first.stuck_eq]) (by omega)

end Rounds

/-! ### Batches of a sorted list -/

theorem mem_take_iff {Item : Type} [LinearOrder Item] {items : List Item}
    (sorted : items.Pairwise (· < ·)) {limit : Nat} {item : Item} :
    item ∈ items.take limit ↔
      item ∈ items ∧ (inFront items.toFinset item).card < limit := by
  induction items generalizing limit with
  | nil => simp
  | cons first rest ih =>
      obtain ⟨least, later⟩ := List.pairwise_cons.mp sorted
      cases limit with
      | zero => simp
      | succ limit =>
          rw [List.take_succ_cons, List.mem_cons, List.mem_cons, ih later]
          have shift : ∀ member : item ∈ rest, (inFront (first :: rest).toFinset item).card =
              (inFront rest.toFinset item).card + 1 := by
            intro member
            have fresh : first ∉ inFront rest.toFinset item := fun inside =>
              lt_irrefl _ (least first (List.mem_toFinset.mp (mem_inFront.mp inside).1))
            rw [← Finset.card_insert_of_notMem fresh]
            congr 1
            ext other
            simp only [mem_inFront, List.mem_toFinset, List.mem_cons, Finset.mem_insert]
            constructor
            · rintro ⟨rfl | inside, earlier⟩
              · exact .inl rfl
              · exact .inr ⟨inside, earlier⟩
            · rintro (rfl | ⟨inside, earlier⟩)
              · exact ⟨.inl rfl, least item member⟩
              · exact ⟨.inr inside, earlier⟩
          constructor
          · rintro (rfl | ⟨member, room⟩)
            · refine ⟨.inl rfl, ?_⟩
              have none : inFront (item :: rest).toFinset item = ∅ := by
                ext other
                simp only [mem_inFront, List.mem_toFinset, List.mem_cons, Finset.notMem_empty,
                  iff_false, not_and]
                rintro (rfl | inside) earlier
                · exact lt_irrefl _ earlier
                · exact lt_asymm earlier (least other inside)
              rw [none]
              exact Nat.succ_pos limit
            · exact ⟨.inr member, by rw [shift member]; omega⟩
          · rintro ⟨rfl | member, room⟩
            · exact .inl rfl
            · rw [shift member] at room
              exact .inr ⟨member, by omega⟩

section Sorting

variable {Row Place : Type} {earlier : Row → Row → Prop} {before : Place → Place → Prop}
  [DecidableRel earlier] [DecidableRel before] (place : Row → Place)

theorem map_orderedInsert_of {row : Row} {rows : List Row}
    (agree : ∀ other ∈ rows, earlier row other ↔ before (place row) (place other)) :
    (rows.orderedInsert earlier row).map place =
      (rows.map place).orderedInsert before (place row) := by
  induction rows with
  | nil => rfl
  | cons first rest ih =>
      have here := agree first List.mem_cons_self
      have later := ih fun other member => agree other (List.mem_cons_of_mem first member)
      simp only [List.orderedInsert_cons, List.map_cons]
      by_cases least : earlier row first
      · rw [if_pos least, if_pos (here.mp least), List.map_cons, List.map_cons]
      · rw [if_neg least, if_neg (least ∘ here.mpr), List.map_cons, later]

/-- Sorting compares a row with later ones only, so it sorts by any place that orders each row
against the later ones in the same way. -/
theorem map_insertionSort_of {rows : List Row}
    (agree : rows.Pairwise fun row later =>
      earlier row later ↔ before (place row) (place later)) :
    (rows.insertionSort earlier).map place = (rows.map place).insertionSort before := by
  induction rows with
  | nil => rfl
  | cons first rest ih =>
      obtain ⟨here, later⟩ := List.pairwise_cons.mp agree
      rw [List.map_cons, List.insertionSort_cons, List.insertionSort_cons, ← ih later]
      refine map_orderedInsert_of place fun other member => here other ?_
      exact (List.perm_insertionSort earlier rest).mem_iff.mp member

end Sorting

end Sweep

end UnifiedService.Library
