import UnifiedService.Outbound.LeaseProperties
import UnifiedService.Outbound.MessageProperties

/-! The platform's id on a message is proof of its delivery. It is kept as long as no
failure is written after an echo. -/

set_option autoImplicit false

namespace UnifiedService.Outbound

open UnifiedService.Library

def DeliveriesProven (db : OutboundDb) : Prop :=
  ∀ id message, db.messages.get? id = some message → message.platformMessageId.isSome = true →
    message.status = .sent ∨ message.status = .delivered

def FailureBeforeEcho (state : OutboxState) (party : OutboxParty) (_ : OutboxChoice) : Prop :=
  ∀ task write id message, (state.left party).head? = some task → task.writes = some write →
    write.status = .failed → CancelsHeld state.store party task →
    state.store.messages.get? id = some message → write.reaches message →
    message.platformMessageId = none

theorem OutboxTask.writes_status {task : OutboxTask} {write : WriteBack}
    (writes : task.writes = some write) :
    write.status = .sent ∨ write.status = .failed ∧ write.platformId = none := by
  cases task with
  | relay task =>
      cases task with
      | recordSent =>
          obtain rfl := Option.some.inj writes
          exact .inl rfl
      | settleMessage | settleAsFailed =>
          obtain rfl := Option.some.inj writes
          exact .inr ⟨rfl, rfl⟩
      | _ => contradiction
  | readBack task =>
      cases task with
      | recordLanded =>
          obtain rfl := Option.some.inj writes
          exact .inl rfl
      | _ => contradiction
  | project task => contradiction

theorem MessageMove.proven {choice : OutboxChoice} {db : OutboundDb} {id : Nat}
    {row later : MessageRow} {party : OutboxParty} {task : Option OutboxTask}
    (move : MessageMove choice db id row party task later)
    (proven : row.platformMessageId.isSome = true → row.status = .sent ∨ row.status = .delivered)
    (unstamped : ∀ current write, task = some current → current.writes = some write →
      write.status = .failed → CancelsHeld db party current → write.reaches row →
      row.platformMessageId = none)
    (stamped : later.platformMessageId.isSome = true) :
    later.status = .sent ∨ later.status = .delivered := by
  cases move with
  | stays => exact proven stamped
  | written party current write writes target held =>
      rcases current.writes_status writes with sent | ⟨failed, noId⟩
      · exact .inl sent
      · have absent := unstamped current write rfl writes failed held target
        simp [MessageRow.delivered, noId, absent] at stamped
  | stamped projector echo pending free =>
      unfold MessageRow.stamped
      dsimp only
      split
      · next already => exact already
      · exact .inl rfl
  | moderated => exact proven stamped

theorem MessageMove.stamped_kept {choice : OutboxChoice} {db : OutboundDb} {id : Nat}
    {row later : MessageRow} {party : OutboxParty} {task : Option OutboxTask}
    (move : MessageMove choice db id row party task later)
    (stamped : row.platformMessageId.isSome = true) :
    later.platformMessageId.isSome = true := by
  cases move with
  | stays | moderated => exact stamped
  | stamped => rfl
  | written party current write writes target held =>
      unfold MessageRow.delivered
      cases write.platformId with
      | none => exact stamped
      | some platformId => rfl

theorem deliveries_step {state : OutboxState} {party : OutboxParty} {choice : OutboxChoice}
    (proven : DeliveriesProven state.store) (permitted : FailureBeforeEcho state party choice) :
    DeliveriesProven (outbox.step state party choice).store := by
  obtain ⟨next, step, _⟩ := outbox_step state party choice
  intro id later found stamped
  cases before : state.store.messages.get? id with
  | none =>
      have source := step.messageSource before found
      cases source with
      | noted | replied => contradiction
      | received => exact .inr rfl
  | some row =>
      obtain ⟨moved, there, move⟩ := step.messageMove before
      rw [found, Option.some.injEq] at there
      subst there
      refine move.proven (proven id row before) ?_ stamped
      intro current write head writes failed held target
      exact permitted current write id row head writes failed held before target

/-- Once a message has carried the platform's id, it never is failed or pending again. -/
theorem delivery_never_walked_back {db : OutboundDb} (proven : DeliveriesProven db)
    {earlier later : OutboxState}
    (reached : outbox.Reaches FailureBeforeEcho (Crew.idle db) earlier)
    (onward : outbox.Reaches FailureBeforeEcho earlier later) {id : Nat} {message : MessageRow}
    (found : earlier.store.messages.get? id = some message)
    (stamped : message.platformMessageId.isSome = true) :
    ∃ current, later.store.messages.get? id = some current ∧
      current.status ≠ .failed ∧ current.status ≠ .pending := by
  have first : DeliveriesProven earlier.store :=
    Crew.Reaches.keeps (fun state => DeliveriesProven state.store)
      (fun _ _ _ proven permitted => deliveries_step proven permitted) proven reached
  have last : DeliveriesProven later.store ∧ ∃ current,
      later.store.messages.get? id = some current ∧ current.platformMessageId.isSome = true := by
    refine Crew.Reaches.keeps (fun state => DeliveriesProven state.store ∧ ∃ current,
      state.store.messages.get? id = some current ∧ current.platformMessageId.isSome = true)
      ?_ ⟨first, message, found, stamped⟩ onward
    rintro state party choice ⟨proven, current, there, isStamped⟩ permitted
    obtain ⟨next, step, _⟩ := outbox_step state party choice
    obtain ⟨moved, after, move⟩ := step.messageMove there
    exact ⟨deliveries_step proven permitted, moved, after, move.stamped_kept isStamped⟩
  obtain ⟨all, current, there, isStamped⟩ := last
  refine ⟨current, there, ?_⟩
  rcases all id current there isStamped with sent | delivered
  · simp [sent]
  · simp [delivered]

/-- A server error. Whether the platform took the call, it does not say. -/
def serverError : GraphApiError where
  httpStatus := 500
  code := none
  subcode := none
  type := none
  message := "server error"
  retryAfterMinutes := none

def sentAndEchoed (answer : SendAnswer) : List (OutboxParty × OutboxChoice) :=
  [(.agent 0, calmly 0), (.relay 7, calmly 1), (.relay 7, calmly 1), (.relay 7, calmly 1),
    (.relay 7, { calmly 1 with answer := answer }), (.projector 3, calmly 2),
    (.projector 3, calmly 2), (.projector 3, calmly 2)]

def writesNoFailure (state : OutboxState) (party : OutboxParty) (_ : OutboxChoice) : Bool :=
  ((state.left party).head?.bind OutboxTask.writes).all fun write => write.status != .failed

theorem writesNoFailure_sound {state : OutboxState} {party : OutboxParty} {choice : OutboxChoice}
    (passed : writesNoFailure state party choice = true) :
    FailureBeforeEcho state party choice := by
  intro task write id message head writes failed
  rw [writesNoFailure, head, Option.bind_some, writes, Option.all_some, failed] at passed
  exact absurd passed (by decide)

/-- An accepted reply is echoed first, and recorded as sent after. -/
theorem delivery_never_walked_back_echoed_first :
    ∃ earlier later : OutboxState,
      (∃ message, earlier.store.messages.get? 0 = some message ∧
        message.platformMessageId = some "mid") ∧
      ∃ current, later.store.messages.get? 0 = some current ∧
        current.status ≠ .failed ∧ current.status ≠ .pending := by
  have runs : (outbox.play writesNoFailure (Crew.idle .empty)
      (sentAndEchoed (.accepted (some "mid")))).any (fun earlier =>
        ((earlier.store.messages.get? 0).any fun message =>
          message.platformMessageId == some "mid") &&
        (outbox.play writesNoFailure earlier
          [(.relay 7, calmly 3), (.relay 7, calmly 3)]).isSome) = true := by
    decide +kernel
  obtain ⟨earlier, played, done⟩ := (Option.any_eq_true _ _).mp runs
  rw [Bool.and_eq_true] at done
  obtain ⟨message, found, stamped⟩ := (Option.any_eq_true _ _).mp done.1
  rw [beq_iff_eq] at stamped
  obtain ⟨later, continued⟩ := Option.isSome_iff_exists.mp done.2
  exact ⟨earlier, later, ⟨message, found, stamped⟩, delivery_never_walked_back
    (by intro id message found; contradiction)
    (outbox.play_sound (fun _ _ _ passed => writesNoFailure_sound passed) played)
    (outbox.play_sound (fun _ _ _ passed => writesNoFailure_sound passed) continued)
    found (by rw [stamped]; rfl)⟩

/-- The platform accepts a reply but the call ends in a server error, and the echo is
projected before the relay settles the event as failed. -/
theorem delivery_walked_back :
    ¬ ∀ earlier later : OutboxState,
      outbox.Reaches (fun _ _ _ => True) (Crew.idle .empty) earlier →
      outbox.Reaches (fun _ _ _ => True) earlier later →
      ∀ id message, earlier.store.messages.get? id = some message →
        message.platformMessageId.isSome = true →
        ∃ current, later.store.messages.get? id = some current ∧
          current.status ≠ .failed ∧ current.status ≠ .pending := by
  intro claimed
  have runs : (outbox.play (fun _ _ _ => true) (Crew.idle .empty)
      (sentAndEchoed (.failedAfterwards (.graph serverError) (some "mid")))).any (fun earlier =>
        ((earlier.store.messages.get? 0).any fun message =>
          message.platformMessageId == some "mid") &&
        (outbox.play (fun _ _ _ => true) earlier [(.relay 7, calmly 3)]).any fun later =>
          (later.store.messages.get? 0).any fun message => message.status == .failed) = true := by
    decide +kernel
  obtain ⟨earlier, played, done⟩ := (Option.any_eq_true _ _).mp runs
  rw [Bool.and_eq_true] at done
  obtain ⟨message, found, stamped⟩ := (Option.any_eq_true _ _).mp done.1
  rw [beq_iff_eq] at stamped
  obtain ⟨later, continued, failed⟩ := (Option.any_eq_true _ _).mp done.2
  obtain ⟨current, there, unfailed, _⟩ := claimed earlier later
    (outbox.play_sound (fun _ _ _ _ => trivial) played)
    (outbox.play_sound (fun _ _ _ _ => trivial) continued) 0 message found (by rw [stamped]; rfl)
  rw [there, Option.any_some, beq_iff_eq] at failed
  exact unfailed failed

end UnifiedService.Outbound
