import Std.Data.String.ToInt

/-! Texts that can be taken apart again: at the first or the last separator, and where
decimal digits end. -/

set_option autoImplicit false

namespace UnifiedService.Library

variable {Letter : Type} {separator : Letter} {first second one other : List Letter}

/-- What stands before the first separator is determined, and what follows it. -/
theorem append_cons_first_inj (firstClean : separator ∉ first) (secondClean : separator ∉ second)
    (same : first ++ separator :: one = second ++ separator :: other) :
    first = second ∧ one = other := by
  rcases List.append_eq_append_iff.mp same with ⟨middle, rfl, rest⟩ | ⟨middle, rfl, rest⟩
  · cases middle with
    | nil =>
        rw [List.nil_append] at rest
        exact ⟨(List.append_nil _).symm, (List.cons.inj rest).2⟩
    | cons letter middle =>
        obtain ⟨rfl, _⟩ := List.cons.inj rest
        simp at secondClean
  · cases middle with
    | nil =>
        rw [List.nil_append] at rest
        exact ⟨List.append_nil _, (List.cons.inj rest).2.symm⟩
    | cons letter middle =>
        obtain ⟨rfl, _⟩ := List.cons.inj rest
        simp at firstClean

/-- What follows the last separator is determined, and what stands before it. -/
theorem append_cons_last_inj (oneClean : separator ∉ one) (otherClean : separator ∉ other)
    (same : first ++ separator :: one = second ++ separator :: other) :
    first = second ∧ one = other := by
  rcases List.append_eq_append_iff.mp same with ⟨middle, rfl, rest⟩ | ⟨middle, rfl, rest⟩
  · cases middle with
    | nil =>
        rw [List.nil_append] at rest
        exact ⟨(List.append_nil _).symm, (List.cons.inj rest).2⟩
    | cons letter middle =>
        obtain ⟨_, rfl⟩ := List.cons.inj rest
        simp at oneClean
  · cases middle with
    | nil =>
        rw [List.nil_append] at rest
        exact ⟨List.append_nil _, (List.cons.inj rest).2.symm⟩
    | cons letter middle =>
        obtain ⟨_, rfl⟩ := List.cons.inj rest
        simp at otherClean

theorem toDigits_inj {number another : Nat}
    (same : Nat.toDigits 10 number = Nat.toDigits 10 another) : number = another := by
  rw [← Nat.repr_inj, ← String.toList_inj, Nat.toList_repr, Nat.toList_repr, same]

theorem notMem_toDigits {letter : Char} (noDigit : letter.isDigit = false) (number : Nat) :
    letter ∉ Nat.toDigits 10 number := by
  intro member
  have digit := Nat.isDigit_of_mem_toDigits (by decide) (by decide) member
  simp [noDigit] at digit

/-- Letters of a kind end where something of another kind begins. -/
theorem append_stops_inj {inside : Letter → Bool} (firstInside : ∀ letter ∈ first, inside letter)
    (secondInside : ∀ letter ∈ second, inside letter)
    (oneStops : ∀ letter ∈ one.head?, inside letter = false)
    (otherStops : ∀ letter ∈ other.head?, inside letter = false)
    (same : first ++ one = second ++ other) : first = second ∧ one = other := by
  have split : ∀ {letters rest : List Letter}, (∀ letter ∈ letters, inside letter) →
      (∀ letter ∈ rest.head?, inside letter = false) →
      (letters ++ rest).takeWhile inside = letters := by
    intro letters rest all stops
    rw [List.takeWhile_append_of_pos all]
    cases rest with
    | nil => simp
    | cons letter rest =>
        rw [List.takeWhile_cons_of_neg (by simpa using stops letter (by simp)), List.append_nil]
  have begun : first = second := by
    rw [← split firstInside oneStops, ← split secondInside otherStops, same]
  rw [begun] at same
  exact ⟨begun, List.append_cancel_left same⟩

theorem digits_append_inj {number another : Nat} {rest tail : List Char}
    (restStops : ∀ character ∈ rest.head?, character.isDigit = false)
    (tailStops : ∀ character ∈ tail.head?, character.isDigit = false)
    (same : Nat.toDigits 10 number ++ rest = Nat.toDigits 10 another ++ tail) :
    number = another ∧ rest = tail := by
  have digits : ∀ number : Nat, ∀ letter ∈ Nat.toDigits 10 number, letter.isDigit := by
    intro number letter member
    exact Nat.isDigit_of_mem_toDigits (by decide) (by decide) member
  have apart := append_stops_inj (digits number) (digits another) restStops tailStops same
  exact ⟨toDigits_inj apart.1, apart.2⟩

theorem mem_toString {value : Int} {letter : Char} (member : letter ∈ (toString value).toList) :
    letter.isDigit ∨ letter = '-' := by
  rw [Int.toString_eq_repr] at member
  cases value with
  | ofNat value =>
      change letter ∈ (Nat.repr value).toList at member
      rw [Nat.toList_repr] at member
      exact .inl (Nat.isDigit_of_mem_toDigits (by decide) (by decide) member)
  | negSucc value =>
      change letter ∈ ("-" ++ Nat.repr (value + 1)).toList at member
      rw [String.toList_append, Nat.toList_repr, List.mem_append] at member
      cases member with
      | inl sign => exact .inr (List.mem_singleton.mp sign)
      | inr digit => exact .inl (Nat.isDigit_of_mem_toDigits (by decide) (by decide) digit)

theorem toString_ne_nil (value : Int) : (toString value).toList ≠ [] := by
  rw [Int.toString_eq_repr]
  cases value with
  | ofNat value =>
      change (Nat.repr value).toList ≠ []
      rw [Nat.toList_repr]
      exact Nat.toDigits_ne_nil
  | negSucc value =>
      change ("-" ++ Nat.repr (value + 1)).toList ≠ []
      rw [String.toList_append]
      exact List.cons_ne_nil _ _

theorem toString_inj {value other : Int} (same : toString value = toString other) :
    value = other := by
  rw [Int.toString_eq_repr, Int.toString_eq_repr] at same
  exact Int.repr_injective same

end UnifiedService.Library
