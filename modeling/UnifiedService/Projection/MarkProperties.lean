import UnifiedService.Projection.DatabaseProperties

/-! What a thread shows of a message, by the order its events are projected in. A reaction, a
receipt and an unsend change the rows there are when they are projected, and no others. -/

set_option autoImplicit false

namespace UnifiedService.Projection

open UnifiedService.Library
open UnifiedService.Outbound (Platform truthy)
open UnifiedService.Inbound (ProjectionContext ProjectionOutcome)

/-! ### What an event is about -/

inductive About where
  | message (mid : String)
  | reaction (mid : String) (reaction : EventReaction)
  | receipt (mid : String)
  | unsend (mid : String)
  | other
  deriving DecidableEq, Repr

def MessagingEvent.about (event : MessagingEvent) : About :=
  match truthy event.messageEditMid with
  | some _ => .other
  | none =>
      match event.reaction, truthy (event.reaction.bind EventReaction.mid) with
      | some reaction, some mid => .reaction mid reaction
      | _, _ =>
          match truthy event.readMid with
          | some mid => .receipt mid
          | none =>
              match event.body, truthy (event.body.bind EventMessage.mid) with
              | some message, some mid => if message.isDeleted then .unsend mid else .message mid
              | _, _ => .other

def hasCustomer (context : ProjectionContext) (event : MessagingEvent) (message : EventMessage)
    (mid : String) : Bool :=
  if message.isEcho then
    (DirectMessageProjectorService.echoed context event message mid).isSome
  else (truthy (event.sender.bind EventSender.id)).isSome

structure Arrival where
  context : ProjectionContext
  event : MessagingEvent
  now : Int
  deriving DecidableEq, Repr

namespace Arrival

def project (normalizeText : String → String) (arrival : Arrival) (inbox : Inbox) : Inbox :=
  (DirectMessageProjectorService.project normalizeText arrival.context arrival.event arrival.now
    inbox).1

def projectAll (normalizeText : String → String) : List Arrival → Inbox → Inbox
  | [], inbox => inbox
  | arrival :: rest, inbox =>
      projectAll normalizeText rest (arrival.project normalizeText inbox)

def time (arrival : Arrival) : Int := arrival.event.timestamp.getD arrival.now

def reaction? (arrival : Arrival) : Option (Option Reaction) :=
  match arrival.event.about with
  | .reaction _ reaction =>
      some (if reaction.unreact then none
        else some ⟨reaction.emoji, reaction.reaction, arrival.time⟩)
  | .message _ | .receipt _ | .unsend _ | .other => none

def unsends (arrival : Arrival) : Bool :=
  match arrival.event.about with
  | .unsend _ => true
  | .message _ | .reaction _ _ | .receipt _ | .other => false

def receipt? (arrival : Arrival) : Option String :=
  match arrival.event.about with
  | .receipt mid => some mid
  | .message _ | .reaction _ _ | .unsend _ | .other => none

def delivers (arrival : Arrival) : Bool :=
  match arrival.event.about, arrival.event.body with
  | .message mid, some message => hasCustomer arrival.context arrival.event message mid
  | _, _ => false

def concerns (enterpriseId : Nat) (mid : String) (arrival : Arrival) : Bool :=
  arrival.context.enterpriseId == enterpriseId &&
    match arrival.event.about with
    | .message named | .reaction named _ | .unsend named => named == mid
    | .receipt _ => true
    | .other => false

end Arrival

/-! ### What a message bears -/

structure Marks where
  reaction : Option Reaction
  deleted : Bool
  seen : Bool
  deriving DecidableEq, Repr

def Marks.none : Marks := ⟨.none, false, false⟩

def MessageRow.marks (message : MessageRow) : Marks :=
  ⟨message.metadata.reaction, message.platformDeletedAt.isSome, message.metadata.seenAt.isSome⟩

def marksAt (messages : Table MessageRow) (id : Nat) : Marks :=
  (messages.get? id).elim .none MessageRow.marks

def held (enterpriseId : Nat) (mid : String) (messages : Table MessageRow) :
    Option (Stored MessageRow) :=
  messages.find? (·.isPlatform enterpriseId mid)

section Marks

variable {messages : Table MessageRow}

theorem marksAt_insert {row : MessageRow} (unmarked : row.marks = .none) (id : Nat) :
    marksAt (messages.insert row) id = marksAt messages id := by
  unfold marksAt
  rw [Table.get?_insert]
  split
  · next same =>
      subst same
      rw [Table.get?_nextId]
      exact unmarked
  · rfl

theorem marksAt_updateWhere (wanted : Nat → MessageRow → Bool) (change : MessageRow → MessageRow)
    (id : Nat) : marksAt (messages.updateWhere wanted change) id =
      (messages.get? id).elim .none fun row => (if wanted id row then change row else row).marks := by
  unfold marksAt
  rw [Table.get?_updateWhere]
  cases messages.get? id with
  | none => rfl
  | some row => rfl

theorem marksAt_unmarked (wanted : Nat → MessageRow → Bool) {change : MessageRow → MessageRow}
    (same : ∀ row, (change row).marks = row.marks) (id : Nat) :
    marksAt (messages.updateWhere wanted change) id = marksAt messages id := by
  rw [marksAt_updateWhere, marksAt]
  cases messages.get? id with
  | none => rfl
  | some row =>
      change (if wanted id row then change row else row).marks = row.marks
      split
      · exact same row
      · rfl

theorem marksAt_update (target : Nat) {change : MessageRow → MessageRow}
    (same : ∀ row, (change row).marks = row.marks) (id : Nat) :
    marksAt (messages.update target change) id = marksAt messages id := by
  unfold marksAt
  rw [Table.get?_update]
  split
  · cases messages.get? id with
    | none => rfl
    | some row => exact same row
  · rfl

end Marks

/-! ### What an event does to the rows -/

section Project

variable (normalizeText : String → String)

theorem project_eq (context : ProjectionContext) (event : MessagingEvent) (now : Int)
    (inbox : Inbox) :
    DirectMessageProjectorService.project normalizeText context event now inbox =
      match event.about with
      | .reaction mid reaction =>
          (DirectMessageProjectorService.handleReaction context event reaction mid now inbox,
            some skipped)
      | .receipt mid =>
          (inbox.markSeenByCustomer context.enterpriseId mid (event.timestamp.getD now),
            some skipped)
      | .unsend mid =>
          (inbox.markDeletedOnPlatform context.enterpriseId mid (event.timestamp.getD now),
            some skipped)
      | .message mid =>
          match event.body with
          | some message =>
              let projected := DirectMessageProjectorService.projectMessage normalizeText context
                event message mid now inbox
              (projected.1, some projected.2)
          | none => (inbox, some skipped)
      | .other =>
          match truthy event.messageEditMid with
          | some mid => DirectMessageProjectorService.handleMessageEdit context event mid now inbox
          | none => (inbox, some skipped) := by
  unfold DirectMessageProjectorService.project MessagingEvent.about
  cases edit : truthy event.messageEditMid with
  | some mid => rfl
  | none =>
      dsimp only
      generalize truthy (event.reaction.bind EventReaction.mid) = reactedTo
      generalize event.reaction = reaction
      generalize truthy (event.body.bind EventMessage.mid) = named
      generalize event.body = body
      rcases reaction with _ | reaction <;> rcases reactedTo with _ | reactedTo
      case some.some => rfl
      all_goals
        cases truthy event.readMid with
        | some mid => rfl
        | none =>
            rcases body with _ | message <;> rcases named with _ | mid
            case some.some => cases deleted : message.isDeleted <;> simp [deleted]
            all_goals rfl

theorem findId_eq_held (enterpriseId : Nat) (mid : String) (inbox : Inbox) :
    inbox.findIdByPlatformMessageId enterpriseId mid =
      (held enterpriseId mid inbox.messages).map (·.id) := rfl

theorem held_adopted (enterpriseId : Nat) (mid : String) (parentId : Nat) (inbox : Inbox) :
    (held enterpriseId mid (inbox.adoptOrphanReplies enterpriseId parentId mid).messages).isSome =
      (held enterpriseId mid inbox.messages).isSome := by
  have unseen : ∀ row : MessageRow,
      MessageRow.isPlatform enterpriseId mid { row with parentMessageId := some parentId } =
        row.isPlatform enterpriseId mid := fun _ => rfl
  unfold held Inbox.adoptOrphanReplies
  dsimp only
  rw [Table.find?_updateWhere _ unseen, Option.isSome_map]

theorem marksAt_adopted (enterpriseId : Nat) (mid : String) (parentId : Nat) (inbox : Inbox)
    (id : Nat) :
    marksAt (inbox.adoptOrphanReplies enterpriseId parentId mid).messages id =
      marksAt inbox.messages id := by
  have same : ∀ row : MessageRow,
      MessageRow.marks { row with parentMessageId := some parentId } = row.marks := fun _ => rfl
  exact marksAt_unmarked _ same id

/-- What storing a message does: to one that is held nothing, and otherwise it is held then.
Either way it marks no row. -/
structure Delivered (enterpriseId : Nat) (mid : String) (before after : Table MessageRow) :
    Prop where
  known : (held enterpriseId mid before).isSome = true → after = before
  holds : (held enterpriseId mid after).isSome = true
  marks : ∀ id, marksAt after id = marksAt before id

theorem Incoming.delivered {incoming : Incoming} (unreacted : incoming.metadata.reaction = none)
    (unseen : incoming.metadata.seenAt = none) (now : Int) (inbox : Inbox) :
    Delivered incoming.enterpriseId incoming.mid inbox.messages
      (incoming.project now inbox).1.messages := by
  cases there : inbox.findIdByPlatformMessageId incoming.enterpriseId incoming.mid with
  | some id =>
      have isHeld : (inbox.findIdByPlatformMessageId incoming.enterpriseId
          incoming.mid).isSome = true := by rw [there]; rfl
      rw [incoming.project_of_held inbox now isHeld, incoming.enter_messages]
      rw [findId_eq_held, Option.isSome_map] at isHeld
      exact ⟨fun _ => rfl, isHeld, fun _ => rfl⟩
  | none =>
      rw [incoming.project_of_unheld inbox now there, incoming.count_messages]
      rw [findId_eq_held, Option.map_eq_none_iff] at there
      constructor
      · intro isHeld
        rw [there] at isHeld
        contradiction
      · rw [held_adopted]
        refine Option.isSome_iff_exists.mpr ⟨_, Table.find?_insert_new there ?_⟩
        simp [MessageRow.isPlatform, Incoming.stored, Incoming.row]
      · intro id
        have unmarked : (incoming.stored inbox now).marks = .none := by
          simp [MessageRow.marks, Incoming.stored, Incoming.row, unreacted, unseen, Marks.none]
        rw [marksAt_adopted]
        exact marksAt_insert unmarked id

theorem Echoed.delivered (echoed : Echoed) (now : Int) (inbox : Inbox) :
    Delivered echoed.enterpriseId echoed.mid inbox.messages
      (echoed.project now inbox).1.messages := by
  cases there : inbox.findIdByPlatformMessageId echoed.enterpriseId echoed.mid with
  | some id =>
      have isHeld : (inbox.findIdByPlatformMessageId echoed.enterpriseId
          echoed.mid).isSome = true := by rw [there]; rfl
      rw [echoed.project_of_held inbox now isHeld, echoed.enter_messages]
      rw [findId_eq_held, Option.isSome_map] at isHeld
      exact ⟨fun _ => rfl, isHeld, fun _ => rfl⟩
  | none =>
      have unheld : ¬(held echoed.enterpriseId echoed.mid inbox.messages).isSome = true := by
        rw [findId_eq_held, Option.map_eq_none_iff] at there
        rw [there]
        exact Bool.false_ne_true
      cases waits : echoed.waiting inbox now with
      | some waiting =>
          rw [echoed.project_of_waiting inbox now there waits]
          have stamps : ∀ row : MessageRow, (row.stamped echoed.mid now).marks = row.marks :=
            fun _ => rfl
          refine ⟨fun isHeld => absurd isHeld unheld, ?_, fun id => ?_⟩
          · rw [held_adopted]
            obtain ⟨found, awaits⟩ := Table.find?_some waits
            refine (Table.find?_isSome_iff _).mpr
              ⟨waiting.id, waiting.row.stamped echoed.mid now, ?_, ?_⟩
            · rw [Table.get?_update_self, found]
              rfl
            · unfold MessageRow.awaitsEcho at awaits
              simp only [Bool.and_eq_true] at awaits
              simp only [MessageRow.isPlatform, MessageRow.stamped, beq_self_eq_true,
                Bool.and_true]
              exact awaits.1.1.1.1.1
          · rw [marksAt_adopted]
            exact marksAt_update waiting.id stamps id
      | none =>
          rw [echoed.project_of_unheld inbox now there waits, recordMessage_messages]
          rw [findId_eq_held, Option.map_eq_none_iff] at there
          refine ⟨fun isHeld => absurd isHeld unheld, ?_, fun id => ?_⟩
          · rw [held_adopted]
            refine Option.isSome_iff_exists.mpr ⟨_, Table.find?_insert_new there ?_⟩
            simp [MessageRow.isPlatform, Echoed.stored, Echoed.row]
          · rw [marksAt_adopted]
            exact marksAt_insert rfl id

theorem echoed_fields {context : ProjectionContext} {event : MessagingEvent}
    {message : EventMessage} {mid : String} {echoed : Echoed}
    (echo : DirectMessageProjectorService.echoed context event message mid = some echoed) :
    echoed.enterpriseId = context.enterpriseId ∧ echoed.mid = mid := by
  unfold DirectMessageProjectorService.echoed at echo
  rw [Option.bind_eq_some_iff] at echo
  obtain ⟨customer, _, built⟩ := echo
  split at built
  · contradiction
  · rw [← Option.some.inj built]
    exact ⟨rfl, rfl⟩

theorem projectMessage_delivered (context : ProjectionContext) (event : MessagingEvent)
    (message : EventMessage) (mid : String) (now : Int) (inbox : Inbox) :
    if hasCustomer context event message mid then
      Delivered context.enterpriseId mid inbox.messages
        (DirectMessageProjectorService.projectMessage normalizeText context event message mid now
          inbox).1.messages
    else
      (DirectMessageProjectorService.projectMessage normalizeText context event message mid now
        inbox).1 = inbox := by
  unfold DirectMessageProjectorService.projectMessage hasCustomer
  cases message.isEcho with
  | true =>
    cases echo : DirectMessageProjectorService.echoed context event message mid with
    | none => rfl
    | some echoed =>
        have delivered := echoed.delivered now inbox
        rw [(echoed_fields echo).1, (echoed_fields echo).2] at delivered
        exact delivered
  | false =>
    cases truthy (event.sender.bind EventSender.id) with
    | none => rfl
    | some senderId =>
        have delivered : Delivered context.enterpriseId mid inbox.messages
            ((DirectMessageProjectorService.incoming normalizeText context event message mid
              senderId).project now inbox).1.messages :=
          @Incoming.delivered (DirectMessageProjectorService.incoming normalizeText context event
            message mid senderId) rfl rfl now inbox
        exact delivered

theorem project_messages (arrival : Arrival) (inbox : Inbox) :
    match arrival.event.about with
    | .reaction mid reaction =>
        (arrival.project normalizeText inbox).messages = inbox.messages.updateWhere
          (fun _ message => message.isPlatform arrival.context.enterpriseId mid)
          (·.reacted (if reaction.unreact then none
            else some ⟨reaction.emoji, reaction.reaction, arrival.time⟩))
    | .receipt mid =>
        (arrival.project normalizeText inbox).messages =
          (inbox.markSeenByCustomer arrival.context.enterpriseId mid arrival.time).messages
    | .unsend mid =>
        (arrival.project normalizeText inbox).messages = inbox.messages.updateWhere
          (fun _ message => message.isPlatform arrival.context.enterpriseId mid)
          (·.deletedAt arrival.time)
    | .message mid =>
        if arrival.delivers then
          Delivered arrival.context.enterpriseId mid inbox.messages
            (arrival.project normalizeText inbox).messages
        else (arrival.project normalizeText inbox).messages = inbox.messages
    | .other => (arrival.project normalizeText inbox).messages = inbox.messages := by
  unfold Arrival.project
  rw [project_eq]
  cases about : arrival.event.about with
  | reaction mid reaction => rfl
  | receipt mid => rfl
  | unsend mid => rfl
  | message mid =>
      unfold Arrival.delivers
      rw [about]
      cases arrival.event.body with
      | none => rfl
      | some message =>
          have delivered := projectMessage_delivered normalizeText arrival.context arrival.event
            message mid arrival.now inbox
          dsimp only
          split at delivered
          · next delivers => exact (if_pos delivers).mpr delivered
          · next undelivered => exact (if_neg undelivered).mpr (congrArg Inbox.messages delivered)
  | other =>
      dsimp only
      cases truthy arrival.event.messageEditMid with
      | none => rfl
      | some mid =>
          dsimp only
          unfold DirectMessageProjectorService.handleMessageEdit
          split
          · rfl
          · split
            · rfl
            · split <;> rfl

/-! ### One step -/

def reachedBy (target message : MessageRow) : Bool :=
  message.enterpriseId == target.enterpriseId &&
    message.conversationId == target.conversationId && message.direction == .outbound &&
    decide (message.shownAt ≤ target.shownAt)

theorem coveredBy_eq (target message : MessageRow) :
    Inbox.coveredBy target message =
      (reachedBy target message && message.metadata.seenAt.isNone) := by
  unfold Inbox.coveredBy reachedBy
  rw [Bool.and_assoc, Bool.and_assoc, Bool.and_comm message.metadata.seenAt.isNone,
    ← Bool.and_assoc, ← Bool.and_assoc]

def Arrival.sees (arrival : Arrival) (id : Nat) (inbox : Inbox) : Bool :=
  match arrival.receipt? with
  | none => false
  | some mid =>
      (held arrival.context.enterpriseId mid inbox.messages).any fun target =>
        (inbox.messages.get? id).any (reachedBy target.row)

variable {enterpriseId : Nat} {mid : String} {arrival : Arrival} {inbox : Inbox}

theorem held_marked {messages : Table MessageRow} (enterpriseId : Nat) (mid : String)
    (wanted : Nat → MessageRow → Bool) {change : MessageRow → MessageRow}
    (unseen : ∀ row, (change row).isPlatform enterpriseId mid = row.isPlatform enterpriseId mid) :
    (held enterpriseId mid (messages.updateWhere wanted change)).map (·.id) =
      (held enterpriseId mid messages).map (·.id) := by
  unfold held
  rw [Table.find?_updateWhere _ unseen, Option.map_map]
  rfl

/-- Only a delivery makes a message held, and one that is held stays in its row. -/
theorem held_cases (inbox : Inbox) (concerns : arrival.concerns enterpriseId mid = true) :
    (arrival.delivers = true →
        (held enterpriseId mid (arrival.project normalizeText inbox).messages).isSome = true) ∧
      ((held enterpriseId mid (arrival.project normalizeText inbox).messages).map (·.id) =
          (held enterpriseId mid inbox.messages).map (·.id) ∨
        held enterpriseId mid inbox.messages = none ∧ arrival.delivers = true) := by
  have known := project_messages normalizeText arrival inbox
  unfold Arrival.concerns at concerns
  rw [Bool.and_eq_true, beq_iff_eq] at concerns
  obtain ⟨same, named⟩ := concerns
  cases about : arrival.event.about with
  | reaction target reaction =>
      rw [about] at known
      have unseen : ∀ (shown : Option Reaction) (row : MessageRow),
          (row.reacted shown).isPlatform enterpriseId mid = row.isPlatform enterpriseId mid :=
        fun _ _ => rfl
      refine ⟨fun delivers => ?_, .inl ?_⟩
      · simp [Arrival.delivers, about] at delivers
      · rw [known, held_marked enterpriseId mid _ (unseen _)]
  | receipt target =>
      rw [about] at known
      have unseen : ∀ row : MessageRow, (row.seen arrival.time).isPlatform enterpriseId mid =
          row.isPlatform enterpriseId mid := fun _ => rfl
      refine ⟨fun delivers => ?_, .inl ?_⟩
      · simp [Arrival.delivers, about] at delivers
      · rw [known]
        unfold Inbox.markSeenByCustomer
        split
        · rfl
        · dsimp only
          rw [held_marked enterpriseId mid _ unseen]
  | unsend target =>
      rw [about] at known
      have unseen : ∀ row : MessageRow, (row.deletedAt arrival.time).isPlatform enterpriseId mid =
          row.isPlatform enterpriseId mid := fun _ => rfl
      refine ⟨fun delivers => ?_, .inl ?_⟩
      · simp [Arrival.delivers, about] at delivers
      · rw [known, held_marked enterpriseId mid _ unseen]
  | message target =>
      rw [about] at known named
      rw [same, eq_of_beq named] at known
      dsimp only at known
      split at known
      · next delivers =>
          refine ⟨fun _ => known.holds, ?_⟩
          cases before : held enterpriseId mid inbox.messages with
          | none => exact .inr ⟨rfl, delivers⟩
          | some stored =>
              rw [known.known (by rw [before]; rfl), before]
              exact .inl rfl
      · next undelivered =>
          rw [known]
          exact ⟨fun delivers => absurd delivers undelivered, .inl rfl⟩
  | other =>
      rw [about] at named
      contradiction

theorem held_step (concerns : arrival.concerns enterpriseId mid = true) {stored : Stored MessageRow}
    (isHeld : held enterpriseId mid inbox.messages = some stored) :
    (held enterpriseId mid (arrival.project normalizeText inbox).messages).map (·.id) =
      some stored.id := by
  rcases (held_cases normalizeText inbox concerns).2 with same | ⟨absent, _⟩
  · rw [same, isHeld]
    rfl
  · rw [isHeld] at absent
    contradiction

theorem marksAt_platform {messages : Table MessageRow} {id : Nat}
    (own : ∀ stored, held enterpriseId mid messages = some stored → stored.id = id)
    (change : MessageRow → MessageRow) :
    ((held enterpriseId mid messages).isSome = true ∧ ∃ row, messages.get? id = some row ∧
        marksAt (messages.updateWhere (fun _ row => row.isPlatform enterpriseId mid) change) id =
          (change row).marks) ∨
      ((held enterpriseId mid messages).isSome = false ∧
        marksAt (messages.updateWhere (fun _ row => row.isPlatform enterpriseId mid) change) id =
          marksAt messages id) := by
  rw [marksAt_updateWhere]
  cases isHeld : held enterpriseId mid messages with
  | some stored =>
      obtain ⟨found, platform⟩ := Table.find?_some isHeld
      rw [own stored isHeld] at found
      refine .inl ⟨rfl, stored.row, found, ?_⟩
      rw [found]
      exact congrArg MessageRow.marks (if_pos platform)
  | none =>
      refine .inr ⟨rfl, ?_⟩
      unfold marksAt
      cases found : messages.get? id with
      | none => rfl
      | some row =>
          have other := Table.find?_eq_none.mp isHeld id row found
          exact congrArg MessageRow.marks (if_neg (Bool.eq_false_iff.mp other))

theorem Arrival.sees_of_no_receipt {id : Nat} (none_ : arrival.receipt? = none) :
    arrival.sees id inbox = false := by
  rw [Arrival.sees, none_]

theorem marks_step {id : Nat} (concerns : arrival.concerns enterpriseId mid = true)
    (own : ∀ stored, held enterpriseId mid inbox.messages = some stored → stored.id = id) :
    marksAt (arrival.project normalizeText inbox).messages id =
      { reaction :=
          if (held enterpriseId mid inbox.messages).isSome then
            arrival.reaction?.getD (marksAt inbox.messages id).reaction
          else (marksAt inbox.messages id).reaction
        deleted :=
          (marksAt inbox.messages id).deleted ||
            ((held enterpriseId mid inbox.messages).isSome && arrival.unsends)
        seen := (marksAt inbox.messages id).seen || arrival.sees id inbox } := by
  have known := project_messages normalizeText arrival inbox
  unfold Arrival.concerns at concerns
  rw [Bool.and_eq_true, beq_iff_eq] at concerns
  obtain ⟨same, named⟩ := concerns
  cases about : arrival.event.about with
  | reaction target reaction =>
      rw [about] at known named
      have unsent : arrival.unsends = false := by rw [Arrival.unsends, about]
      have unseen : arrival.sees id inbox = false :=
        arrival.sees_of_no_receipt (by rw [Arrival.receipt?, about])
      have shown : arrival.reaction? = some (if reaction.unreact then none
          else some ⟨reaction.emoji, reaction.reaction, arrival.time⟩) := by
        rw [Arrival.reaction?, about]
      rw [known, unsent, unseen, shown, same, eq_of_beq named]
      rcases marksAt_platform own (·.reacted (if reaction.unreact then none
          else some ⟨reaction.emoji, reaction.reaction, arrival.time⟩)) with
        ⟨isHeld, row, found, marked⟩ | ⟨unheld, marked⟩
      · rw [marked, isHeld, marksAt, found]
        simp [MessageRow.marks, MessageRow.reacted]
      · rw [marked, unheld]
        simp
  | unsend target =>
      rw [about] at known named
      have unsent : arrival.unsends = true := by rw [Arrival.unsends, about]
      have unseen : arrival.sees id inbox = false :=
        arrival.sees_of_no_receipt (by rw [Arrival.receipt?, about])
      have unreacted : arrival.reaction? = none := by rw [Arrival.reaction?, about]
      rw [known, unsent, unseen, unreacted, same, eq_of_beq named]
      rcases marksAt_platform own (·.deletedAt arrival.time) with
        ⟨isHeld, row, found, marked⟩ | ⟨unheld, marked⟩
      · rw [marked, isHeld, marksAt, found]
        cases deleted : row.platformDeletedAt <;>
          simp [MessageRow.marks, MessageRow.deletedAt, deleted]
      · rw [marked, unheld]
        simp
  | receipt target =>
      rw [about] at known
      have unsent : arrival.unsends = false := by rw [Arrival.unsends, about]
      have unreacted : arrival.reaction? = none := by rw [Arrival.reaction?, about]
      have names : arrival.receipt? = some target := by rw [Arrival.receipt?, about]
      rw [known, unsent, unreacted, Arrival.sees, names]
      unfold Inbox.markSeenByCustomer
      dsimp only
      cases isHeld : held arrival.context.enterpriseId target inbox.messages with
      | none =>
          rw [show inbox.messages.find? (·.isPlatform arrival.context.enterpriseId target) = none
            from isHeld]
          simp
      | some shown =>
          rw [show inbox.messages.find? (·.isPlatform arrival.context.enterpriseId target) =
            some shown from isHeld]
          dsimp only
          rw [marksAt_updateWhere, marksAt]
          cases inbox.messages.get? id with
          | none => simp [Marks.none]
          | some row =>
              cases reached : reachedBy shown.row row <;>
                cases seen : row.metadata.seenAt <;>
                  simp [coveredBy_eq, reached, seen, MessageRow.marks, MessageRow.seen]
  | message target =>
      rw [about] at known
      have unsent : arrival.unsends = false := by rw [Arrival.unsends, about]
      have unreacted : arrival.reaction? = none := by rw [Arrival.reaction?, about]
      have unseen : arrival.sees id inbox = false :=
        arrival.sees_of_no_receipt (by rw [Arrival.receipt?, about])
      have kept : marksAt (arrival.project normalizeText inbox).messages id =
          marksAt inbox.messages id := by
        dsimp only at known
        split at known
        · exact known.marks id
        · rw [known]
      rw [kept, unsent, unreacted, unseen]
      simp
  | other =>
      rw [about] at named
      contradiction

/-! ### A run -/

def heard (enterpriseId : Nat) (mid : String) : List Arrival → Inbox → List Arrival
  | [], _ => []
  | arrival :: rest, inbox =>
      if (held enterpriseId mid inbox.messages).isSome then
        arrival :: heard enterpriseId mid rest (arrival.project normalizeText inbox)
      else heard enterpriseId mid rest (arrival.project normalizeText inbox)

def seenInTime (id : Nat) : List Arrival → Inbox → Bool
  | [], _ => false
  | arrival :: rest, inbox =>
      arrival.sees id inbox || seenInTime id rest (arrival.project normalizeText inbox)

theorem held_run {order : List Arrival}
    (concern : ∀ arrival ∈ order, arrival.concerns enterpriseId mid = true)
    {stored : Stored MessageRow} (isHeld : held enterpriseId mid inbox.messages = some stored) :
    (held enterpriseId mid (Arrival.projectAll normalizeText order inbox).messages).map (·.id) =
      some stored.id := by
  induction order generalizing inbox stored with
  | nil =>
      rw [Arrival.projectAll, isHeld]
      rfl
  | cons arrival rest ih =>
      have stays := held_step normalizeText (concern arrival List.mem_cons_self) isHeld
      obtain ⟨next, isNext, same⟩ := Option.map_eq_some_iff.mp stays
      rw [Arrival.projectAll, ← same]
      exact ih (fun later member => concern later (List.mem_cons_of_mem arrival member)) isNext

theorem held_of_delivered {order : List Arrival}
    (concern : ∀ arrival ∈ order, arrival.concerns enterpriseId mid = true)
    (delivered : (held enterpriseId mid inbox.messages).isSome = true ∨
      ∃ arrival ∈ order, arrival.delivers = true) :
    (held enterpriseId mid (Arrival.projectAll normalizeText order inbox).messages).isSome =
      true := by
  induction order generalizing inbox with
  | nil =>
      rcases delivered with isHeld | ⟨_, member, _⟩
      · exact isHeld
      · exact absurd member List.not_mem_nil
  | cons arrival rest ih =>
      have first := concern arrival List.mem_cons_self
      refine ih (fun later member => concern later (List.mem_cons_of_mem arrival member)) ?_
      rcases delivered with isHeld | ⟨other, member, delivers⟩
      · obtain ⟨stored, isHeld⟩ := Option.isSome_iff_exists.mp isHeld
        obtain ⟨next, isNext, _⟩ :=
          Option.map_eq_some_iff.mp (held_step normalizeText first isHeld)
        exact .inl (by rw [isNext]; rfl)
      · rcases List.mem_cons.mp member with rfl | later
        · exact .inl ((held_cases normalizeText inbox first).1 delivers)
        · exact .inr ⟨other, later, delivers⟩

/-- The events that come when the message is held: all of them, or those after its delivery. -/
def inTime (enterpriseId : Nat) (mid : String) (order : List Arrival) (inbox : Inbox) :
    List Arrival :=
  if (held enterpriseId mid inbox.messages).isSome then order
  else (order.dropWhile fun arrival => !arrival.delivers).tail

theorem heard_eq {order : List Arrival}
    (concern : ∀ arrival ∈ order, arrival.concerns enterpriseId mid = true) :
    heard normalizeText enterpriseId mid order inbox = inTime enterpriseId mid order inbox := by
  induction order generalizing inbox with
  | nil => simp [heard, inTime]
  | cons arrival rest ih =>
      have first := concern arrival List.mem_cons_self
      have later : heard normalizeText enterpriseId mid rest (arrival.project normalizeText inbox) =
          inTime enterpriseId mid rest (arrival.project normalizeText inbox) :=
        ih fun other member => concern other (List.mem_cons_of_mem arrival member)
      obtain ⟨delivered, kept⟩ := held_cases normalizeText inbox first
      rw [heard, later]
      unfold inTime
      cases before : held enterpriseId mid inbox.messages with
      | some stored =>
          have after := held_step normalizeText first before
          obtain ⟨next, isNext, _⟩ := Option.map_eq_some_iff.mp after
          rw [isNext]
          rfl
      | none =>
          cases delivers : arrival.delivers with
          | true =>
              rw [delivered delivers]
              simp [delivers]
          | false =>
              rcases kept with same | ⟨_, contrary⟩
              · rw [before, Option.map_none, Option.map_eq_none_iff] at same
                rw [same]
                simp [delivers]
              · rw [delivers] at contrary
                contradiction

/-- What a whole order leaves of the marks of the message's row: the last reaction that
found it held, and whether an unsend and a receipt came in time. -/
theorem marks_run {order : List Arrival} {id : Nat}
    (concern : ∀ arrival ∈ order, arrival.concerns enterpriseId mid = true)
    (own : ∀ stored, held enterpriseId mid (Arrival.projectAll normalizeText order inbox).messages =
      some stored → stored.id = id) :
    marksAt (Arrival.projectAll normalizeText order inbox).messages id =
      { reaction :=
          (((heard normalizeText enterpriseId mid order inbox).filterMap
            Arrival.reaction?).getLast?).getD (marksAt inbox.messages id).reaction
        deleted :=
          (marksAt inbox.messages id).deleted ||
            (heard normalizeText enterpriseId mid order inbox).any Arrival.unsends
        seen := (marksAt inbox.messages id).seen || seenInTime normalizeText id order inbox } := by
  induction order generalizing inbox with
  | nil => simp [heard, seenInTime, Arrival.projectAll]
  | cons arrival rest ih =>
      have here : ∀ stored, held enterpriseId mid inbox.messages = some stored →
          stored.id = id := by
        intro stored isHeld
        obtain ⟨last, isLast, same⟩ :=
          Option.map_eq_some_iff.mp (held_run normalizeText concern isHeld)
        rw [← same, own last isLast]
      have step := marks_step normalizeText (concern arrival List.mem_cons_self) here
      have later := ih (fun other member => concern other (List.mem_cons_of_mem arrival member))
        own
      rw [Arrival.projectAll, later, step, heard, seenInTime]
      cases isHeld : (held enterpriseId mid inbox.messages).isSome with
      | false => simp [Bool.or_assoc]
      | true =>
          cases reacted : arrival.reaction? with
          | none => simp [reacted, Bool.or_assoc]
          | some shown =>
              simp [reacted, Bool.or_assoc, List.getLast?_cons]

end Project

/-! ### One message -/

def hello : EventMessage where
  mid := some "m1"
  text := some "Hello"
  isEcho := false
  isDeleted := false
  media := ⟨[], .text, false, false⟩
  replyToMid := none
  replyToStoryId := none
  quickReplyPayload := none

def helloAt (second : Int) (message : EventMessage) : Arrival where
  context := ⟨1, 7, .instagram, 0, ["page"], 1⟩
  event :=
    { sender := some ⟨some "u1", none, none⟩
      recipientId := some "page"
      recovered := false
      reaction := none
      readMid := none
      timestamp := some second
      message := some message
      messageEditMid := none
      postback := none
      optin := false
      referral := false }
  now := second

def helloDelivered : Arrival := helloAt 1 hello

end UnifiedService.Projection
