import UnifiedService.Library.Stepwise
import UnifiedService.Projection.Database

/-! The dates of a conversation beside what they are the dates of: when it was resolved, and
when it was assigned. -/

set_option autoImplicit false

namespace UnifiedService.Projection

open UnifiedService.Library

structure DatedConversation extends ConversationRow where
  isDeleted : Bool
  assignedToEmployeeId : Option Nat
  assignedAt : Option Int
  resolvedAt : Option Int
  deriving DecidableEq, Repr

/-- `status IN ('resolved','closed')`. -/
def ConversationStatus.isResolved : ConversationStatus → Bool
  | .resolved | .closed => true
  | .open_ | .pending | .archived => false

/-- A call of the repository. Of a row it is given the id and the tenant. -/
inductive ConversationCall where
  | upsert (input : UpsertConversationInput)
  | setStatus (enterpriseId conversationId : Nat) (status : ConversationStatus) (now : Int)
  | assign (enterpriseId conversationId : Nat) (employeeId : Option Nat) (now : Int)
  | recordMessage (enterpriseId conversationId : Nat) (inbound : Bool) (occurredAt : Int)

namespace DatedConversation

def opened (input : UpsertConversationInput) : DatedConversation where
  toConversationRow := input.row
  isDeleted := false
  assignedToEmployeeId := none
  assignedAt := none
  resolvedAt := none

/-- The dates are not among the columns that the conflict branch sets. -/
def joined (input : UpsertConversationInput) (row : DatedConversation) : DatedConversation :=
  { row with
    toConversationRow := row.toConversationRow.joined input
    isDeleted := false }

def withStatus (status : ConversationStatus) (now : Int) (row : DatedConversation) :
    DatedConversation :=
  { row with
    status := status
    resolvedAt := if status.isResolved then some now else none }

def assigned (employeeId : Option Nat) (now : Int) (row : DatedConversation) :
    DatedConversation :=
  { row with
    assignedToEmployeeId := employeeId
    assignedAt := if employeeId.isNone then none else some now }

def recorded (inbound : Bool) (occurredAt : Int) (row : DatedConversation) : DatedConversation :=
  { row with toConversationRow := row.toConversationRow.recorded inbound occurredAt }

structure DatesAgree (row : DatedConversation) : Prop where
  resolved : row.resolvedAt.isSome = row.status.isResolved
  assigned : row.assignedAt.isSome = row.assignedToEmployeeId.isSome

end DatedConversation

def findThread (input : UpsertConversationInput) (table : Table DatedConversation) :
    Option (Stored DatedConversation) :=
  table.find? (·.thread == input.thread)

/-- A row of a tenant, changed. One that is deleted is passed over if it is said so. -/
def changeRow (enterpriseId conversationId : Nat) (live : Bool)
    (change : DatedConversation → DatedConversation) (table : Table DatedConversation) :
    Table DatedConversation :=
  table.update conversationId fun row =>
    if row.enterpriseId = enterpriseId ∧ ¬(live = true ∧ row.isDeleted = true) then change row
    else row

def performCall (table : Table DatedConversation) : ConversationCall → Table DatedConversation
  | .upsert input =>
      match findThread input table with
      | some stored => table.update stored.id (·.joined input)
      | none => table.insert (.opened input)
  | .setStatus enterpriseId conversationId status now =>
      changeRow enterpriseId conversationId true (·.withStatus status now) table
  | .assign enterpriseId conversationId employeeId now =>
      changeRow enterpriseId conversationId true (·.assigned employeeId now) table
  | .recordMessage enterpriseId conversationId inbound occurredAt =>
      changeRow enterpriseId conversationId false (·.recorded inbound occurredAt) table

def performCalls (calls : List ConversationCall) : Table DatedConversation :=
  calls.foldl performCall .empty

def AllDatesAgree (table : Table DatedConversation) : Prop :=
  ∀ id row, table.get? id = some row → row.DatesAgree

def ReopensNone (table : Table DatedConversation) : ConversationCall → Prop
  | .upsert input =>
      ∀ stored, findThread input table = some stored → stored.row.status.isResolved = false
  | .setStatus _ _ _ _ | .assign _ _ _ _ | .recordMessage _ _ _ _ => True

theorem ConversationStatus.isDone_of_isResolved {status : ConversationStatus}
    (resolved : status.isResolved = true) : status.isDone = true := by
  cases status with
  | resolved => rfl
  | closed => rfl
  | open_ => cases resolved
  | pending => cases resolved
  | archived => cases resolved

theorem DatedConversation.joined_iff {row : DatedConversation} (agree : row.DatesAgree)
    (input : UpsertConversationInput) :
    (row.joined input).DatesAgree ↔ row.status.isResolved = false := by
  constructor
  · intro still
    by_contra resolved
    have resolved := Bool.eq_true_of_not_eq_false resolved
    have dated := still.resolved
    change row.resolvedAt.isSome = (if row.status.isDone then ConversationStatus.open_
      else row.status).isResolved at dated
    rw [if_pos (ConversationStatus.isDone_of_isResolved resolved), agree.resolved, resolved] at dated
    cases dated
  · intro unresolved
    refine ⟨?_, agree.assigned⟩
    change row.resolvedAt.isSome = (if row.status.isDone then ConversationStatus.open_
      else row.status).isResolved
    rw [agree.resolved, unresolved]
    split
    · rfl
    · exact unresolved.symm

theorem AllDatesAgree.changeRow {table : Table DatedConversation} (agree : AllDatesAgree table)
    (enterpriseId conversationId : Nat) (live : Bool)
    {change : DatedConversation → DatedConversation}
    (keeps : ∀ row, row.DatesAgree → (change row).DatesAgree) :
    AllDatesAgree (changeRow enterpriseId conversationId live change table) := by
  intro id row found
  rw [Projection.changeRow, Table.get?_update] at found
  by_cases same : conversationId = id
  · rw [if_pos same] at found
    obtain ⟨before, there, made⟩ := Option.map_eq_some_iff.mp found
    subst made
    split
    · exact keeps before (agree id before there)
    · exact agree id before there
  · rw [if_neg same] at found
    exact agree id row found

theorem joined_agree_iff {table : Table DatedConversation} (agree : AllDatesAgree table)
    {stored : Stored DatedConversation} (there : table.get? stored.id = some stored.row)
    (input : UpsertConversationInput) :
    AllDatesAgree (table.update stored.id (·.joined input)) ↔
      stored.row.status.isResolved = false := by
  constructor
  · intro still
    have after : (table.update stored.id (·.joined input)).get? stored.id =
        some (stored.row.joined input) := by
      rw [Table.get?_update, if_pos rfl, there]
      rfl
    exact (DatedConversation.joined_iff (agree _ _ there) input).mp (still _ _ after)
  · intro unresolved id row after
    rw [Table.get?_update] at after
    by_cases same : stored.id = id
    · rw [if_pos same, ← same, there] at after
      cases after
      exact (DatedConversation.joined_iff (agree _ _ there) input).mpr unresolved
    · rw [if_neg same] at after
      exact agree id row after

theorem AllDatesAgree.insert {table : Table DatedConversation} (agree : AllDatesAgree table)
    (input : UpsertConversationInput) :
    AllDatesAgree (table.insert (.opened input)) := by
  intro id row after
  rw [Table.get?_insert] at after
  split at after
  · cases after
    exact ⟨rfl, rfl⟩
  · exact agree id row after

/-- A call keeps the dates in agreement exactly if it reopens no resolved conversation. -/
theorem performCall_iff {table : Table DatedConversation} (agree : AllDatesAgree table)
    (call : ConversationCall) :
    AllDatesAgree (performCall table call) ↔ ReopensNone table call := by
  cases call with
  | upsert input =>
      unfold performCall ReopensNone
      dsimp only
      cases found : findThread input table with
      | some stored =>
          rw [joined_agree_iff agree (Table.find?_some found).1]
          constructor
          · intro unresolved other same
            cases same
            exact unresolved
          · intro none
            exact none stored rfl
      | none =>
          apply iff_of_true (agree.insert input)
          intro stored there
          cases there
  | setStatus enterpriseId conversationId status now =>
      apply iff_of_true _ trivial
      apply agree.changeRow
      intro row kept
      refine ⟨?_, kept.assigned⟩
      unfold DatedConversation.withStatus
      cases status.isResolved <;> rfl
  | assign enterpriseId conversationId employeeId now =>
      apply iff_of_true _ trivial
      apply agree.changeRow
      intro row kept
      refine ⟨kept.resolved, ?_⟩
      cases employeeId <;> rfl
  | recordMessage enterpriseId conversationId inbound occurredAt =>
      apply iff_of_true _ trivial
      apply agree.changeRow
      intro row kept
      exact ⟨kept.resolved, kept.assigned⟩

/-- The dates of every conversation agree in every state that calls reach, if and only if none
of the calls joins a thread whose conversation is resolved or closed. -/
theorem dates_agree_iff (calls : List ConversationCall) :
    (∀ earlier later, calls = earlier ++ later → AllDatesAgree (performCalls earlier)) ↔
      ∀ earlier call later, calls = earlier ++ call :: later →
        ReopensNone (performCalls earlier) call := by
  refine forall_beginning_iff (fun _ _ found => nomatch found) (fun earlier call agree => ?_) calls
  rw [performCalls, List.foldl_concat]
  exact performCall_iff agree call

section Example

private def firstContact : UpsertConversationInput where
  enterpriseId := 1
  channelId := 1
  customerId := 1
  customerIdentifierId := 1
  postId := none
  platform := .facebook
  conversationKind := .directMessage
  platformThreadId := "dm:p1"
  subject := none

/-- A customer writes, an agent resolves the conversation, the customer writes again: it is
open, and has the date it was resolved at. -/
theorem reopened_keeps_its_date :
    ¬AllDatesAgree (performCalls
      [.upsert firstContact, .recordMessage 1 0 true 1000, .setStatus 1 0 .resolved 2000,
        .upsert firstContact]) := by
  intro agree
  have row := (agree 0 _ rfl).resolved
  revert row
  decide

end Example

end UnifiedService.Projection
