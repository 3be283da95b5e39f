import Mathlib.Algebra.BigOperators.Group.List.Basic
import Mathlib.Tactic.Ring

/-! Idempotent journals: append-only movements of account balances, each under
the key of the request that asked for it. A key that was used moves nothing. -/

set_option autoImplicit false

namespace UnifiedService.Library

structure Posting (Account Key : Type) where
  account : Account
  key : Key
  amount : Int
  deriving DecidableEq, Repr

abbrev Journal (Account Key : Type) := List (Posting Account Key)

namespace Journal

variable {Account Key : Type}

def keys (journal : Journal Account Key) : List Key := journal.map (·.key)

section Keyed

variable [DecidableEq Key]

def post (journal : Journal Account Key) (posting : Posting Account Key) : Journal Account Key :=
  if posting.key ∈ journal.keys then journal else journal ++ [posting]

theorem post_replay {journal : Journal Account Key} {posting : Posting Account Key}
    (used : posting.key ∈ journal.keys) : journal.post posting = journal :=
  if_pos used

theorem post_fresh {journal : Journal Account Key} {posting : Posting Account Key}
    (unused : posting.key ∉ journal.keys) : journal.post posting = journal ++ [posting] :=
  if_neg unused

theorem keys_nodup_post {journal : Journal Account Key} (posting : Posting Account Key)
    (unique : journal.keys.Nodup) : (journal.post posting).keys.Nodup := by
  by_cases used : posting.key ∈ journal.keys
  · rwa [post_replay used]
  · rw [post_fresh used, keys, List.map_append, List.nodup_append]
    refine ⟨unique, by simp, fun key earlier other last same => used ?_⟩
    rw [List.map_singleton, List.mem_singleton] at last
    exact last ▸ same ▸ earlier

end Keyed

section Balances

variable [DecidableEq Account]

def balance (journal : Journal Account Key) (account : Account) : Int :=
  (journal.map fun posting => if posting.account = account then posting.amount else 0).sum

def Running (journal : Journal Account Key) (after : List Int) : Prop :=
  ∀ index posting recorded, journal[index]? = some posting → after[index]? = some recorded →
    recorded = balance (journal.take (index + 1)) posting.account

@[simp] theorem balance_nil (account : Account) :
    balance ([] : Journal Account Key) account = 0 := rfl

theorem balance_snoc (journal : Journal Account Key) (posting : Posting Account Key)
    (account : Account) :
    balance (journal ++ [posting]) account =
      balance journal account + if posting.account = account then posting.amount else 0 := by
  simp [balance]

theorem Running.snoc {journal : Journal Account Key} {after : List Int}
    (running : journal.Running after) (same : journal.length = after.length)
    {posting : Posting Account Key} {recorded : Int}
    (carries : recorded = balance journal posting.account + posting.amount) :
    Running (journal ++ [posting]) (after ++ [recorded]) := by
  intro index found value foundPosting foundValue
  rcases Nat.lt_trichotomy index journal.length with before | last | beyond
  · rw [List.getElem?_append_left before] at foundPosting
    rw [List.getElem?_append_left (same ▸ before)] at foundValue
    rw [List.take_append_of_le_length (by omega)]
    exact running index found value foundPosting foundValue
  · subst last
    rw [List.getElem?_concat_length] at foundPosting
    rw [same, List.getElem?_concat_length] at foundValue
    cases foundPosting
    cases foundValue
    rw [List.take_of_length_le (by simp), balance_snoc, if_pos rfl, carries]
  · rw [List.getElem?_eq_none (by simp only [List.length_append, List.length_singleton]; omega)]
      at foundPosting
    contradiction

end Balances

end Journal

end UnifiedService.Library
