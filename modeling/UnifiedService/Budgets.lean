import UnifiedService.Inbound.BudgetProperties
import UnifiedService.Outbound.BudgetProperties
import UnifiedService.Sync.BudgetProperties

/-! How often a row of each of the three ledgers is handed to a worker over a whole run, with
workers that may stop after any statement. -/

set_option autoImplicit false

namespace UnifiedService

open UnifiedService.Library

/-! ### Outbound events -/

namespace Outbound

def ParksYoung (id : Nat) (state : OutboxState) (party : OutboxParty) (choice : OutboxChoice) :
    Prop :=
  parks id state party choice ≠ 0 → ∃ event, state.store.events.get? id = some event ∧
    choice.now - outboundRateLimitMaxWaitMs < event.createdAt

def allowance (id : Nat) (script : List (OutboxParty × OutboxChoice)) : Nat :=
  maxSendAttempts + outbox.tally (parks id) (Crew.idle .empty) script +
    maxSendAttempts * outbox.tally (replays id) (Crew.idle .empty) script

structure Budgeted (id : Nat) (script : List (OutboxParty × OutboxChoice)) : Prop where
  within : outbox.tally (handed id) (Crew.idle .empty) script ≤ allowance id script
  young : outbox.Permits (ParksYoung id) (Crew.idle .empty) script
  spent : ∀ event, (outbox.after (Crew.idle .empty) script).store.events.get? id = some event →
    event.status.isDue = true →
      outbox.tally (handed id) (Crew.idle .empty) script < allowance id script

theorem parksYoung (id : Nat) (state : OutboxState) (script : List (OutboxParty × OutboxChoice)) :
    outbox.Permits (ParksYoung id) state script := by
  refine (Crew.Permits.always state script).mono fun state party choice _ parked => ?_
  have once : parks id state party choice ≤ 1 := by
    unfold parks
    split
    · split
      · exact Nat.le_refl 1
      · exact Nat.zero_le 1
    · exact Nat.zero_le 1
  exact parked_young (Nat.le_antisymm once (Nat.pos_of_ne_zero parked))

theorem budgeted {script : List (OutboxParty × OutboxChoice)}
    (permitted : outbox.Permits NoSpentLease (Crew.idle .empty) script) (id : Nat) :
    Budgeted id script := by
  have counted := events_budgeted permitted id
  refine ⟨(Nat.le_add_right _ _).trans counted, parksYoung id _ script, fun event found due => ?_⟩
  have left := budget_pos_of_due (events_inBudget permitted) found due
  exact Nat.lt_of_lt_of_le (Nat.lt_add_of_pos_right left) counted

end Outbound

/-! ### Inbound events -/

namespace Inbound

variable {Inbox Payload Oracle : Type} (projectors : Projector Inbox Payload Oracle)

def allowance (inbox : Inbox) (id : Nat) (script : List (IntakeParty × IntakeChoice Payload Oracle)) :
    Nat :=
  inboundMaxAttempts + inboundMaxAttempts *
    (intake projectors).tally (replaysEvent id) (Crew.idle (.start inbox)) script

structure Budgeted (inbox : Inbox) (id : Nat)
    (script : List (IntakeParty × IntakeChoice Payload Oracle)) : Prop where
  within : (intake projectors).tally (handed projectors id) (Crew.idle (.start inbox)) script ≤
    allowance projectors inbox id script
  spent : ∀ event,
    ((intake projectors).after (Crew.idle (.start inbox)) script).store.events.get? id =
      some event →
    event.status.isClaimable = true →
      (intake projectors).tally (handed projectors id) (Crew.idle (.start inbox)) script <
        allowance projectors inbox id script

theorem budgeted (inbox : Inbox) (id : Nat)
    (script : List (IntakeParty × IntakeChoice Payload Oracle)) :
    Budgeted projectors inbox id script := by
  have counted := events_budgeted projectors inbox script id
  refine ⟨(Nat.le_add_right _ _).trans counted, fun event found claimable => ?_⟩
  have sound := (events_sound projectors inbox script).rows id event found
  have left := budget_pos_of_claimable sound claimable
  rw [budgetAt, Table.measureAt_some found] at counted
  exact Nat.lt_of_lt_of_le (Nat.lt_add_of_pos_right left) counted

end Inbound

/-! ### Sync jobs -/

namespace Sync

def allowance (id : Nat) (script : List (SyncParty × BackfillChoice)) : Nat :=
  syncMaxAttempts + backfill.tally (parks id) (Crew.idle .empty) script +
    syncMaxAttempts * backfill.tally (savesPage id) (Crew.idle .empty) script +
    syncMaxAttempts * backfill.tally (revives id) (Crew.idle .empty) script

structure Budgeted (id : Nat) (script : List (SyncParty × BackfillChoice)) : Prop where
  within : backfill.tally (handed id) (Crew.idle .empty) script ≤ allowance id script
  spent : ∀ job, (backfill.after (Crew.idle .empty) script).store.get? id = some job →
    job.status.isClaimable = true →
      backfill.tally (handed id) (Crew.idle .empty) script < allowance id script

theorem budgeted {script : List (SyncParty × BackfillChoice)}
    (permitted : backfill.Permits NoSpentLease (Crew.idle .empty) script) (id : Nat) :
    Budgeted id script := by
  have counted := jobs_budgeted id permitted
  refine ⟨(Nat.le_add_right _ _).trans counted, fun job found claimable => ?_⟩
  have left := budget_pos_of_claimable (jobs_sound permitted id job found) claimable
  rw [budgetAt, Table.measureAt_some found] at counted
  exact Nat.lt_of_lt_of_le (Nat.lt_add_of_pos_right left) counted

end Sync

/-! ### A long walk -/

namespace Sync

def walking (now : Int) (slice : SliceAnswer) : BackfillChoice where
  now := now
  jitter := 0
  pressure := 0
  batchSize := 10
  leaseSeconds := 300
  skipped := []
  channel := some ⟨.facebook, none, some "token", false⟩
  decrypts := true
  slice := slice
  input := ⟨1, 7, .backfillComments, .initialConnect, none⟩
  fails := false

/-- One claim of the walk: it saves a page, and the next page fails for a while. -/
def onePage (now : Int) : List (SyncParty × BackfillChoice) :=
  let saved := walking now (.page 25 (some "next") false)
  let refused := walking now (.failed .other)
  [(.worker 1, saved), (.worker 1, saved), (.worker 1, saved), (.worker 1, saved),
    (.worker 1, saved), (.worker 1, refused), (.worker 1, refused), (.worker 1, refused)]

def longWalk : List (SyncParty × BackfillChoice) :=
  (.requester 0, walking 0 (.failed .other)) ::
    (onePage 1 ++ onePage 3600000 ++ onePage 7200000 ++ onePage 10800000 ++ onePage 14400000 ++
      onePage 18000000)

theorem longWalk_unreaped : backfill.Permits NoSpentLease (Crew.idle .empty) longWalk := by
  have unreaped : ∀ (script : List (SyncParty × BackfillChoice)) (state : BackfillState),
      (∀ turn ∈ script, turn.1 ≠ .reaper) → backfill.Permits NoSpentLease state script := by
    intro script
    induction script with
    | nil => exact fun _ _ => trivial
    | cons turn script ih =>
        intro state others
        exact ⟨fun reaper => absurd reaper (others turn List.mem_cons_self),
          ih _ fun later member => others later (List.mem_cons_of_mem turn member)⟩
  exact unreaped longWalk _ (by decide)

/-- A walk that gets on is handed out anew after every page, with no park and no revival. -/
theorem walk_outlives_attempts : ¬∀ (walks : List (SyncParty × BackfillChoice)) (id : Nat),
    backfill.tally (handed id) (Crew.idle .empty) walks ≤
      syncMaxAttempts + backfill.tally (parks id) (Crew.idle .empty) walks +
        syncMaxAttempts * backfill.tally (revives id) (Crew.idle .empty) walks := by
  intro bounded
  have walked := bounded longWalk 0
  have six : backfill.tally (handed 0) (Crew.idle .empty) longWalk = 6 := by decide +kernel
  have unparked : backfill.tally (parks 0) (Crew.idle .empty) longWalk = 0 := by decide +kernel
  have unrevived : backfill.tally (revives 0) (Crew.idle .empty) longWalk = 0 := by
    decide +kernel
  rw [six, unparked, unrevived] at walked
  contradiction

end Sync

/-! ### All three -/

/-- The rows of every ledger are handed out within their allowance. -/
theorem rows_budgeted {Inbox Payload Oracle : Type}
    (projectors : Inbound.Projector Inbox Payload Oracle) (inbox : Inbox)
    (intakes : List (Inbound.IntakeParty × Inbound.IntakeChoice Payload Oracle))
    {sends : List (Outbound.OutboxParty × Outbound.OutboxChoice)}
    {walks : List (Sync.SyncParty × Sync.BackfillChoice)}
    (unspentSends : Outbound.outbox.Permits Outbound.NoSpentLease (Crew.idle .empty) sends)
    (unspentWalks : Sync.backfill.Permits Sync.NoSpentLease (Crew.idle .empty) walks) (id : Nat) :
    Outbound.Budgeted id sends ∧ Inbound.Budgeted projectors inbox id intakes ∧
      Sync.Budgeted id walks :=
  ⟨Outbound.budgeted unspentSends id, Inbound.budgeted projectors inbox id intakes,
    Sync.budgeted unspentWalks id⟩

/-- A reply whose first worker stalls, and the long walk. -/
theorem rows_budgeted_reclaimed : Outbound.Budgeted 0 Outbound.reclaimedLease ∧
    Inbound.Budgeted (fun _ _ (_ : Unit) _ (_ : Unit) (inbox : Unit) => (inbox, none)) () 0 [] ∧
    Sync.Budgeted 0 Sync.longWalk := by
  refine rows_budgeted _ () [] ?_ ?_ 0
  · refine ⟨fun same => (nomatch same), fun same => (nomatch same),
      fun _ id event found _ => ?_, fun same => (nomatch same), trivial⟩
    have unspent : ((Outbound.outbox.after (Crew.idle .empty)
        (Outbound.reclaimedLease.take 2)).store.events.rows.all
          fun event => decide (event.attemptCount < event.maxAttempts)) = true := by
      decide +kernel
    exact of_decide_eq_true (List.all_eq_true.mp unspent event (Table.mem_rows_iff.mpr ⟨id, found⟩))
  · exact Sync.longWalk_unreaped

end UnifiedService
