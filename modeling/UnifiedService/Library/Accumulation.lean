import Mathlib.Algebra.BigOperators.Group.List.Basic
import Mathlib.Algebra.BigOperators.Pi
import Mathlib.Algebra.Group.Hom.Defs
import Mathlib.Data.List.Nodup
import Mathlib.Order.MinMax

/-! Amounts that are gathered under keys, and what they add up to. -/

set_option autoImplicit false

namespace UnifiedService.Library.Accumulation

section Entries

variable {Key Entry Amount : Type} [DecidableEq Key] (keyOf : Entry → Key)

def gather (key : Key) (change : Entry → Entry) (fresh : Entry) (entries : List Entry) :
    List Entry :=
  if key ∈ entries.map keyOf then
    entries.map fun entry => if keyOf entry = key then change entry else entry
  else entries ++ [fresh]

variable {keyOf} {key : Key} {change : Entry → Entry} {fresh : Entry}

theorem keys_gather (stays : ∀ entry, keyOf entry = key → keyOf (change entry) = key)
    (named : keyOf fresh = key) (entries : List Entry) :
    (gather keyOf key change fresh entries).map keyOf =
      if key ∈ entries.map keyOf then entries.map keyOf else entries.map keyOf ++ [key] := by
  unfold gather
  split
  · rw [List.map_map]
    refine List.map_congr_left fun entry _ => ?_
    change keyOf (if keyOf entry = key then change entry else entry) = keyOf entry
    split
    · next same => rw [stays entry same, same]
    · rfl
  · rw [List.map_append, List.map_singleton, named]

theorem nodup_gather (stays : ∀ entry, keyOf entry = key → keyOf (change entry) = key)
    (named : keyOf fresh = key) {entries : List Entry} (distinct : (entries.map keyOf).Nodup) :
    ((gather keyOf key change fresh entries).map keyOf).Nodup := by
  rw [keys_gather stays named]
  split
  · exact distinct
  · next absent =>
      rw [List.nodup_append]
      refine ⟨distinct, List.nodup_singleton key, fun held member other same => ?_⟩
      rw [List.mem_singleton] at same
      rintro rfl
      exact absent (same ▸ member)

theorem mem_gather {entry : Entry} {entries : List Entry}
    (member : entry ∈ gather keyOf key change fresh entries) :
    (entry ∈ entries ∧ keyOf entry ≠ key) ∨
      (∃ earlier ∈ entries, keyOf earlier = key ∧ entry = change earlier) ∨
        (key ∉ entries.map keyOf ∧ entry = fresh) := by
  unfold gather at member
  split at member
  · obtain ⟨earlier, there, made⟩ := List.mem_map.mp member
    by_cases same : keyOf earlier = key
    · rw [if_pos same] at made
      exact .inr (.inl ⟨earlier, there, same, made.symm⟩)
    · rw [if_neg same] at made
      subst made
      exact .inl ⟨there, same⟩
  · next absent =>
      rcases List.mem_append.mp member with there | new
      · refine .inl ⟨there, fun same => absent ?_⟩
        exact same ▸ List.mem_map_of_mem there
      · exact .inr (.inr ⟨absent, List.mem_singleton.mp new⟩)

theorem length_le_gather (entries : List Entry) :
    entries.length ≤ (gather keyOf key change fresh entries).length := by
  unfold gather
  split
  · rw [List.length_map]
  · rw [List.length_append]
    exact Nat.le_add_right ..

variable [AddCommMonoid Amount] (keyOf) (amountOf : Entry → Amount)

def total (key : Key) (entries : List Entry) : Amount :=
  ((entries.filter fun entry => keyOf entry = key).map amountOf).sum

variable {keyOf amountOf}

@[simp] theorem total_nil (key : Key) : total keyOf amountOf key [] = 0 := rfl

theorem total_cons (key : Key) (entry : Entry) (entries : List Entry) :
    total keyOf amountOf key (entry :: entries) =
      (if keyOf entry = key then amountOf entry else 0) + total keyOf amountOf key entries := by
  by_cases same : keyOf entry = key
  · simp [total, same]
  · simp [total, same]

theorem total_append (key : Key) (entries others : List Entry) :
    total keyOf amountOf key (entries ++ others) =
      total keyOf amountOf key entries + total keyOf amountOf key others := by
  simp [total]

theorem total_perm {entries others : List Entry} (same : entries.Perm others) (key : Key) :
    total keyOf amountOf key entries = total keyOf amountOf key others :=
  ((same.filter _).map amountOf).sum_eq

theorem total_eq_zero {entries : List Entry} (absent : key ∉ entries.map keyOf) :
    total keyOf amountOf key entries = 0 := by
  have none_ : entries.filter (fun entry => keyOf entry = key) = [] := by
    rw [List.filter_eq_nil_iff]
    intro entry member same
    exact absent (List.mem_map.mpr ⟨entry, member, of_decide_eq_true same⟩)
  rw [total, none_]
  rfl

theorem total_eq_of_mem {entries : List Entry} (distinct : (entries.map keyOf).Nodup)
    {entry : Entry} (member : entry ∈ entries) :
    total keyOf amountOf (keyOf entry) entries = amountOf entry := by
  induction entries with
  | nil => cases member
  | cons first entries ih =>
      rw [List.map_cons, List.nodup_cons] at distinct
      rw [total_cons]
      rcases List.mem_cons.mp member with rfl | later
      · rw [if_pos rfl, total_eq_zero distinct.1, add_zero]
      · have apart : ¬ keyOf first = keyOf entry := by
          intro same
          exact distinct.1 (List.mem_map.mpr ⟨entry, later, same.symm⟩)
        rw [if_neg apart, zero_add, ih distinct.2 later]

theorem total_gather {Group : Type} [DecidableEq Group] {groupOf : Entry → Group} {group : Group}
    {amount : Amount} {entries : List Entry} (distinct : (entries.map keyOf).Nodup)
    (changes : ∀ entry ∈ entries, keyOf entry = key → groupOf entry = group ∧
      groupOf (change entry) = group ∧ amountOf (change entry) = amountOf entry + amount)
    (begins : key ∉ entries.map keyOf → groupOf fresh = group ∧ amountOf fresh = amount)
    (asked : Group) :
    total groupOf amountOf asked (gather keyOf key change fresh entries) =
      total groupOf amountOf asked entries + if group = asked then amount else 0 := by
  unfold gather
  split
  · next present =>
      clear begins
      induction entries with
      | nil => cases present
      | cons first entries ih =>
          rw [List.map_cons, List.nodup_cons] at distinct
          rw [List.map_cons, total_cons, total_cons]
          by_cases here : keyOf first = key
          · have rest : entries.map (fun entry => if keyOf entry = key then change entry else entry) =
                entries := by
              rw [List.map_congr_left fun entry member => if_neg fun same => distinct.1
                (List.mem_map.mpr ⟨entry, member, same.trans here.symm⟩), List.map_id']
            obtain ⟨before, after, more⟩ := changes first List.mem_cons_self here
            rw [rest, if_pos here, after, before, more]
            split
            · exact add_right_comm ..
            · rw [add_zero]
          · have later : key ∈ entries.map keyOf := by
              rcases List.mem_cons.mp present with same | later
              · exact absurd same.symm here
              · exact later
            rw [if_neg here, ih distinct.2
              (fun entry member => changes entry (List.mem_cons_of_mem _ member)) later, add_assoc]
  · next absent =>
      obtain ⟨named, amounts⟩ := begins absent
      rw [total_append, total_cons, total_nil, add_zero, named, amounts]

theorem map_total {Other : Type} [AddCommMonoid Other] (reading : Amount →+ Other) (key : Key)
    (entries : List Entry) :
    reading (total keyOf amountOf key entries) =
      total keyOf (fun entry => reading (amountOf entry)) key entries := by
  unfold total
  rw [map_list_sum, List.map_map]
  rfl

end Entries

section Holders

variable {Holder Amount : Type} [DecidableEq Holder] [Fintype Holder] [AddCommMonoid Amount]

theorem sum_update_add (amounts : Holder → Amount) (holder : Holder) (more : Amount) :
    ∑ other, Function.update amounts holder (amounts holder + more) other =
      ∑ other, amounts other + more := by
  have apart : Function.update amounts holder (amounts holder + more) =
      fun other => amounts other + (Pi.single holder more : Holder → Amount) other := by
    funext other
    by_cases same : other = holder
    · subst same
      rw [Function.update_self, Pi.single_eq_same]
    · rw [Function.update_of_ne same, Pi.single_eq_of_ne same, add_zero]
  rw [apart, Finset.sum_add_distrib, Finset.sum_pi_single', if_pos (Finset.mem_univ holder)]

end Holders

section Highest

structure Highest (Value : Type) where
  value : Option Value
  deriving DecidableEq, Repr

variable {Value : Type} [LinearOrder Value]

namespace Highest

def join : Option Value → Option Value → Option Value
  | existing, none => existing
  | none, some incoming => some incoming
  | some existing, some incoming => some (max existing incoming)

instance : Add (Highest Value) := ⟨fun one other => ⟨join one.value other.value⟩⟩

instance : Zero (Highest Value) := ⟨⟨none⟩⟩

instance : AddCommMonoid (Highest Value) where
  add_assoc := by
    rintro ⟨_ | one⟩ ⟨_ | two⟩ ⟨_ | three⟩ <;> try rfl
    exact congrArg (fun value => Highest.mk (some value)) (max_assoc one two three)
  zero_add := by rintro ⟨_ | one⟩ <;> rfl
  add_zero := by rintro ⟨_ | one⟩ <;> rfl
  add_comm := by
    rintro ⟨_ | one⟩ ⟨_ | two⟩ <;> try rfl
    exact congrArg (fun value => Highest.mk (some value)) (max_comm one two)
  nsmul := nsmulRec

@[simp] theorem value_add (one other : Highest Value) :
    (one + other).value = join one.value other.value := rfl

theorem join_none (value : Option Value) : join none value = value := by cases value <;> rfl

end Highest

def IsHighest (value : Option Value) (reported : List Value) : Prop :=
  match value with
  | none => reported = []
  | some value => value ∈ reported ∧ ∀ other ∈ reported, other ≤ value

theorem isHighest_sum (readings : List (Option Value)) :
    IsHighest (readings.map Highest.mk).sum.value (readings.filterMap fun reading => reading) := by
  induction readings with
  | nil => rfl
  | cons reading readings ih =>
      rw [List.map_cons, List.sum_cons, Highest.value_add]
      cases reading with
      | none =>
          rw [List.filterMap_cons_none rfl, Highest.join_none]
          exact ih
      | some value =>
          rw [show (some value :: readings).filterMap (fun reading => reading) =
            value :: readings.filterMap fun reading => reading from rfl]
          cases shape : (readings.map Highest.mk).sum.value with
          | none =>
              rw [shape] at ih
              rw [show readings.filterMap (fun reading => reading) = [] from ih]
              exact ⟨List.mem_singleton.mpr rfl, fun other member =>
                (List.mem_singleton.mp member).le⟩
          | some largest =>
              rw [shape] at ih
              refine ⟨?_, fun other member => ?_⟩
              · rcases max_choice value largest with same | same
                · rw [same]
                  exact List.mem_cons_self
                · rw [same]
                  exact List.mem_cons_of_mem _ ih.1
              · rcases List.mem_cons.mp member with rfl | member
                · exact le_max_left ..
                · exact (ih.2 other member).trans (le_max_right ..)

end Highest

end UnifiedService.Library.Accumulation
