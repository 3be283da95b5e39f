import Mathlib.Data.List.Perm.Subperm
import Mathlib.Logic.Relation

/-! Tickets that are good for one use. -/

set_option autoImplicit false

namespace UnifiedService.Library

structure Tickets (Ticket : Type) where
  issued : List Ticket
  good : List Ticket
  used : List Ticket

namespace Tickets

variable {Ticket : Type}

inductive Step : Tickets Ticket → Tickets Ticket → Prop where
  | issue {issued good more used : List Ticket} (ticket : Ticket)
      (fresh : more.Subperm (ticket :: good)) :
      Step ⟨issued, good, used⟩ ⟨ticket :: issued, more, used⟩
  | use {issued good left used : List Ticket} (ticket : Ticket)
      (taken : (ticket :: left).Subperm good) :
      Step ⟨issued, good, used⟩ ⟨issued, left, ticket :: used⟩
  | lapse {issued good left used : List Ticket} (fewer : left.Subperm good) :
      Step ⟨issued, good, used⟩ ⟨issued, left, used⟩

/-- Each issued ticket is good once or was used once, at most. -/
def Sound (tickets : Tickets Ticket) : Prop :=
  (tickets.good ++ tickets.used).Subperm tickets.issued

theorem Step.sound {before after : Tickets Ticket} (step : Step before after)
    (sound : before.Sound) : after.Sound := by
  cases step with
  | @issue issued good more used ticket fresh =>
      have others : (more ++ used).Subperm (ticket :: (good ++ used)) :=
        (List.subperm_append_right used).mpr fresh
      exact others.trans ((List.subperm_cons ticket).mpr sound)
  | @use issued good left used ticket taken =>
      have moved : (left ++ ticket :: used).Subperm (good ++ used) :=
        List.perm_middle.subperm.trans ((List.subperm_append_right used).mpr taken)
      exact moved.trans sound
  | @lapse issued good left used fewer =>
      exact ((List.subperm_append_right used).mpr fewer).trans sound

/-- Whatever happens to them, no ticket is used more often than it was issued. -/
theorem used_subperm {before after : Tickets Ticket} (sound : before.Sound)
    (steps : Relation.ReflTransGen Step before after) : after.used.Subperm after.issued := by
  have kept : after.Sound := by
    induction steps with
    | refl => exact sound
    | tail _ step ih => exact step.sound ih
  exact (List.sublist_append_right after.good after.used).subperm.trans kept

end Tickets

end UnifiedService.Library
