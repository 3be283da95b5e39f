import Mathlib.Data.List.Forall2

/-! Texts that are put together from the texts of items, and how they are taken apart again. -/

set_option autoImplicit false

namespace UnifiedService.Library

section

variable {Item Letter : Type} {code : Item → List Letter} {related : Item → Item → Prop}
variable {follows : List Letter → Prop}

def EndsItself (code : Item → List Letter) (related : Item → Item → Prop)
    (follows : List Letter → Prop) (item other : Item) : Prop :=
  ∀ rest otherRest, follows rest → follows otherRest →
    code item ++ rest = code other ++ otherRest → related item other ∧ rest = otherRest

theorem flatMap_unique (closes : List Letter → Prop)
    (inside : ∀ item rest, follows (code item ++ rest))
    (closing : ∀ rest, closes rest → follows rest)
    (apart : ∀ item rest, ¬closes (code item ++ rest)) {items others : List Item}
    (ends : ∀ item ∈ items, ∀ other ∈ others, EndsItself code related follows item other)
    {rest otherRest : List Letter} (closed : closes rest) (otherClosed : closes otherRest)
    (same : items.flatMap code ++ rest = others.flatMap code ++ otherRest) :
    List.Forall₂ related items others ∧ rest = otherRest := by
  have continues : ∀ (items : List Item) {rest : List Letter}, closes rest →
      follows (items.flatMap code ++ rest) := by
    intro items rest closed
    cases items with
    | nil => exact closing rest closed
    | cons item items =>
        rw [List.flatMap_cons, List.append_assoc]
        exact inside item _
  induction items generalizing others with
  | nil =>
      cases others with
      | nil => exact ⟨.nil, same⟩
      | cons other others =>
          rw [List.flatMap_nil, List.nil_append, List.flatMap_cons, List.append_assoc] at same
          exact absurd (same ▸ closed) (apart other _)
  | cons item items ih =>
      cases others with
      | nil =>
          rw [List.flatMap_nil, List.nil_append, List.flatMap_cons, List.append_assoc] at same
          exact absurd (same ▸ otherClosed) (apart item _)
      | cons other others =>
          rw [List.flatMap_cons, List.append_assoc, List.flatMap_cons, List.append_assoc] at same
          obtain ⟨head, tails⟩ := ends item (List.mem_cons_self ..) other (List.mem_cons_self ..) _ _
            (continues items closed) (continues others otherClosed) same
          obtain ⟨tail, rests⟩ := ih
            (fun item inItems other inOthers =>
              ends item (List.mem_cons_of_mem _ inItems) other (List.mem_cons_of_mem _ inOthers))
            tails
          exact ⟨.cons head tail, rests⟩

theorem intercalate_cons (separator : Letter) (item : Item) (items : List Item) :
    [separator].intercalate ((item :: items).map code) =
      code item ++ items.flatMap fun item => separator :: code item := by
  induction items generalizing item with
  | nil => simp
  | cons next items ih =>
      rw [List.map_cons, List.map_cons, List.intercalate_cons_cons, ← List.map_cons, ih,
        List.flatMap_cons, List.append_assoc]
      rfl

/-- A list between brackets is taken apart: a comma and a bracket may follow an item, and no
item begins with the bracket. -/
theorem intercalate_unique {separator bracket : Letter} (distinct : separator ≠ bracket)
    (separated : ∀ rest, follows (separator :: rest)) (ended : ∀ rest, follows (bracket :: rest))
    {items others : List Item}
    (opened : ∀ item ∈ items ++ others, ∀ rest otherRest,
      code item ++ rest ≠ bracket :: otherRest)
    (ends : ∀ item ∈ items, ∀ other ∈ others, EndsItself code related follows item other)
    {rest otherRest : List Letter}
    (same : [separator].intercalate (items.map code) ++ bracket :: rest =
      [separator].intercalate (others.map code) ++ bracket :: otherRest) :
    List.Forall₂ related items others ∧ rest = otherRest := by
  have continues : ∀ (items : List Item) (rest : List Letter),
      follows ((items.flatMap fun item => separator :: code item) ++ bracket :: rest) := by
    intro items rest
    cases items with
    | nil => exact ended rest
    | cons item items => exact separated _
  cases items with
  | nil =>
      cases others with
      | nil => exact ⟨.nil, (List.cons.inj same).2⟩
      | cons other others =>
          rw [intercalate_cons, List.append_assoc] at same
          exact absurd same.symm (opened other (List.mem_cons_self ..) _ _)
  | cons item items =>
      cases others with
      | nil =>
          rw [intercalate_cons, List.append_assoc] at same
          exact absurd same (opened item (List.mem_cons_self ..) _ _)
      | cons other others =>
          rw [intercalate_cons, intercalate_cons, List.append_assoc, List.append_assoc] at same
          obtain ⟨head, tails⟩ := ends item (List.mem_cons_self ..) other (List.mem_cons_self ..) _ _
            (continues items rest) (continues others otherRest) same
          have further : List.Forall₂ related items others ∧
              bracket :: rest = bracket :: otherRest := by
            refine flatMap_unique (fun letters => ∃ rest, letters = bracket :: rest)
              (fun _ _ => separated _) ?_ ?_ ?_ ⟨rest, rfl⟩ ⟨otherRest, rfl⟩ tails
            · rintro letters ⟨rest, rfl⟩
              exact ended rest
            · rintro item letters ⟨rest, begun⟩
              exact distinct (List.cons.inj begun).1
            · intro item inItems other inOthers rest otherRest may otherMay same
              exact ends item (List.mem_cons_of_mem _ inItems) other
                (List.mem_cons_of_mem _ inOthers) rest otherRest may otherMay
                (List.cons.inj same).2
          exact ⟨.cons head further.1, (List.cons.inj further.2).2⟩

end

end UnifiedService.Library
