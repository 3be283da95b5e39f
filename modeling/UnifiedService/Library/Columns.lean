import Mathlib.Data.List.Basic

/-! Columns of a database, each a type of the values it can hold. A text is its code points. -/

set_option autoImplicit false

namespace UnifiedService.Library

def isHighSurrogate (unit : Nat) : Bool := decide (0xd800 ≤ unit ∧ unit < 0xdc00)

def isLowSurrogate (unit : Nat) : Bool := decide (0xdc00 ≤ unit ∧ unit < 0xe000)

/-- The code points that a client sends for UTF-16 units. A lone surrogate is replaced. -/
def codePoints : List Nat → List Nat
  | [] => []
  | [unit] => [if isHighSurrogate unit || isLowSurrogate unit then 0xfffd else unit]
  | high :: low :: units =>
      if isHighSurrogate high && isLowSurrogate low then
        (0x10000 + (high - 0xd800) * 0x400 + (low - 0xdc00)) :: codePoints units
      else
        (if isHighSurrogate high || isLowSurrogate high then 0xfffd else high) ::
          codePoints (low :: units)

example : codePoints [0x61, 0xd83d, 0xde00, 0xd83d] = [0x61, 0x1f600, 0xfffd] := by decide

theorem length_codePoints_le (units : List Nat) : (codePoints units).length ≤ units.length := by
  fun_induction codePoints units with
  | case1 => exact Nat.le_refl 0
  | case2 => exact Nat.le_refl 1
  | case3 high low units pair ih => simp only [List.length_cons]; omega
  | case4 high low units single ih => simp only [List.length_cons] at ih ⊢; omega

theorem zero_mem_codePoints (units : List Nat) : 0 ∈ codePoints units ↔ 0 ∈ units := by
  have single : ∀ unit : Nat,
      0 = (if isHighSurrogate unit || isLowSurrogate unit then 0xfffd else unit) ↔ 0 = unit := by
    intro unit
    split
    · next surrogate =>
        simp only [isHighSurrogate, isLowSurrogate, Bool.or_eq_true, decide_eq_true_eq] at surrogate
        omega
    · exact Iff.rfl
  fun_induction codePoints units with
  | case1 => exact Iff.rfl
  | case2 unit => rw [List.mem_singleton, List.mem_singleton, single]
  | case3 high low units pair ih =>
      simp only [isHighSurrogate, isLowSurrogate, Bool.and_eq_true, decide_eq_true_eq] at pair
      simp only [List.mem_cons, ih]
      constructor
      · rintro (sum | inside)
        · omega
        · exact .inr (.inr inside)
      · rintro (first | second | inside)
        · omega
        · omega
        · exact .inr inside
  | case4 high low units other ih =>
      rw [List.mem_cons, List.mem_cons, single]
      exact or_congr_right ih

structure Varchar (limit : Nat) where
  points : List Nat
  noNull : 0 ∉ points
  short : points.length ≤ limit
  deriving DecidableEq, Repr

/-- What is stored for a text. Only spaces are cut off. -/
def Varchar.store (limit : Nat) (units : List Nat) : Option (Varchar limit) :=
  if noNull : 0 ∈ codePoints units then none
  else if short : (codePoints units).length ≤ limit then some ⟨codePoints units, noNull, short⟩
  else if ((codePoints units).drop limit).all (· == 32) then
    some ⟨(codePoints units).take limit, fun null => noNull (List.mem_of_mem_take null),
      List.length_take_le ..⟩
  else none

theorem Varchar.store_eq {limit : Nat} {units : List Nat} (readable : 0 ∉ units)
    (short : units.length ≤ limit) :
    ∃ text, Varchar.store limit units = some text ∧ text.points = codePoints units := by
  unfold Varchar.store
  rw [dif_neg fun null => readable ((zero_mem_codePoints units).mp null),
    dif_pos (Nat.le_trans (length_codePoints_le units) short)]
  exact ⟨_, rfl, rfl⟩

theorem Varchar.store_null {limit : Nat} {units : List Nat} (null : 0 ∈ units) :
    Varchar.store limit units = none :=
  dif_pos ((zero_mem_codePoints units).mpr null)

structure Ranged (low high : Int) where
  value : Int
  least : low ≤ value
  most : value ≤ high
  deriving DecidableEq, Repr

def Ranged.store (low high value : Int) : Option (Ranged low high) :=
  if range : low ≤ value ∧ value ≤ high then some ⟨value, range.1, range.2⟩ else none

theorem Ranged.store_eq {low high value : Int} (range : low ≤ value ∧ value ≤ high) :
    Ranged.store low high value = some ⟨value, range.1, range.2⟩ := dif_pos range

theorem Ranged.store_eq_some {low high value : Int} {stored : Ranged low high}
    (held : Ranged.store low high value = some stored) : stored.value = value := by
  unfold Ranged.store at held
  split at held
  · cases held
    rfl
  · cases held

abbrev Int4 := Ranged (-2147483648) 2147483647

def storeNullable {Value Column : Type} (store : Value → Option Column) :
    Option Value → Option (Option Column)
  | none => some none
  | some value => (store value).map some

end UnifiedService.Library
