import UnifiedService.Projection.MarkProperties

/-! What a thread should show of a message, and when an order of its events shows it. Where the
message stands in its thread is read off its delivery and the inbox it finds, so that what a
receipt covers does not depend on what the events leave. -/

set_option autoImplicit false

namespace UnifiedService.Projection

open UnifiedService.Library
open UnifiedService.Outbound (Platform truthy)
open UnifiedService.Inbound (ProjectionContext)

/-! ### Rows without their marks -/

def MessageRow.bare (message : MessageRow) : MessageRow :=
  { message with
    parentMessageId := none
    platformDeletedAt := none
    metadata := { message.metadata with reaction := none, seenAt := none } }

def bared (messages : Table MessageRow) : Table MessageRow := ⟨messages.rows.map MessageRow.bare⟩

/-- Where a message stands in its thread. -/
structure Place where
  conversationId : Nat
  outbound : Bool
  shownAt : Int
  /-- The instant its row was shown at while it waited for its echo. -/
  waiting : Option Int
  deriving DecidableEq, Repr

def MessageRow.place (message : MessageRow) : Place :=
  ⟨message.conversationId, message.direction == .outbound, message.shownAt, none⟩

section Bared

variable {messages before after : Table MessageRow}

theorem get?_bared (id : Nat) :
    (bared messages).get? id = (messages.get? id).map MessageRow.bare :=
  List.getElem?_map ..

theorem find?_bared {wanted : MessageRow → Bool} (unseen : ∀ row, wanted row.bare = wanted row) :
    (bared messages).find? wanted =
      (messages.find? wanted).map fun stored => ⟨stored.id, stored.row.bare⟩ := by
  unfold bared Table.find?
  rw [Table.select_map messages.rows _ unseen, List.head?_map]

theorem held_bared (enterpriseId : Nat) (mid : String) :
    held enterpriseId mid (bared messages) =
      (held enterpriseId mid messages).map fun stored => ⟨stored.id, stored.row.bare⟩ :=
  find?_bared fun _ => rfl

theorem bared_updateWhere (chosen : Nat → MessageRow → Bool) {change : MessageRow → MessageRow}
    (unseen : ∀ row, (change row).bare = row.bare) :
    bared (messages.updateWhere chosen change) = bared messages :=
  congrArg Table.mk (Table.map_updateWhere messages fun _ row _ => unseen row)

/-- What a query finds that does not ask for marks, in messages that differ in nothing else. -/
theorem find?_of_bared (same : bared after = bared before) {wanted : MessageRow → Bool}
    (unseen : ∀ row, wanted row.bare = wanted row) {stored : Stored MessageRow}
    (first : before.find? wanted = some stored) :
    ∃ later, after.find? wanted = some later ∧ later.id = stored.id ∧
      later.row.bare = stored.row.bare := by
  have found : (bared after).find? wanted = _ := find?_bared unseen
  rw [same, find?_bared unseen, first, Option.map_some] at found
  obtain ⟨later, there, alike⟩ := Option.map_eq_some_iff.mp found.symm
  injection alike with id row
  exact ⟨later, there, id, row⟩

theorem held_of_bared (same : bared after = bared before) {enterpriseId : Nat} {mid : String}
    {stored : Stored MessageRow} (isHeld : held enterpriseId mid before = some stored) :
    ∃ later, held enterpriseId mid after = some later ∧ later.id = stored.id ∧
      later.row.bare = stored.row.bare :=
  find?_of_bared same (fun _ => rfl) isHeld

theorem get?_of_bared (same : bared after = bared before) {id : Nat} {row : MessageRow}
    (found : before.get? id = some row) :
    ∃ later, after.get? id = some later ∧ later.bare = row.bare := by
  have read : (bared after).get? id = _ := get?_bared id
  rw [same, get?_bared, found, Option.map_some] at read
  exact Option.map_eq_some_iff.mp read.symm

theorem place_of_bare {row other : MessageRow} (same : row.bare = other.bare) :
    row.place = other.place :=
  show row.bare.place = other.bare.place from congrArg MessageRow.place same

end Bared

/-! ### Where a message stands -/

def Inbox.threadOf (channelId : Nat) (personId : String) (inbox : Inbox) : Nat :=
  ((inbox.conversations.find? (·.thread ==
    (channelId, composeThreadKey .directMessage personId))).map (·.id)).getD
      inbox.conversations.nextId

/-- An echo stands where the row that waits for it does, and else in its thread. -/
def Echoed.place (echoed : Echoed) (now : Int) (inbox : Inbox) : Place :=
  let conversationId := inbox.threadOf echoed.channelId echoed.customerScopedId
  match inbox.messages.find? (·.awaitsEcho echoed.enterpriseId conversationId echoed.text) with
  | some pending =>
      ⟨conversationId, true, pending.row.platformSentAt.getD now, some pending.row.shownAt⟩
  | none => ⟨conversationId, true, echoed.occurredAt now, none⟩

def Arrival.place? (arrival : Arrival) (inbox : Inbox) : Option Place :=
  match arrival.event.about, arrival.event.body with
  | .message mid, some message =>
      if message.isEcho then
        (DirectMessageProjectorService.echoed arrival.context arrival.event message mid).map
          fun echoed => echoed.place arrival.now inbox
      else
        (truthy (arrival.event.sender.bind EventSender.id)).map fun senderId =>
          ⟨inbox.threadOf arrival.context.channelId senderId, false, arrival.time, none⟩
  | _, _ => none

/-- Where a message stands: in the row it has, or where its first delivery puts it. -/
def placeOf (enterpriseId : Nat) (mid : String) (order : List Arrival) (inbox : Inbox) :
    Option Place :=
  match held enterpriseId mid inbox.messages with
  | some stored => some stored.row.place
  | none => (order.find? Arrival.delivers).bind (·.place? inbox)

/-! ### What a thread should show -/

def ShowsLatest (order : List Arrival) (reaction : Option Reaction) : Prop :=
  (∀ latest ∈ order, ∀ shown, latest.reaction? = some shown →
      (∀ other ∈ order, other.reaction?.isSome = true → other.time ≤ latest.time) →
      reaction = shown) ∧
    ((∀ arrival ∈ order, arrival.reaction? = none) → reaction = none)

def Arrival.ReadsFrom (arrival : Arrival) (messages : Table MessageRow) (conversationId : Nat)
    (shownAt : Int) : Prop :=
  ∃ named target, arrival.receipt? = some named ∧
    held arrival.context.enterpriseId named messages = some target ∧
    target.row.conversationId = conversationId ∧ shownAt ≤ target.row.shownAt

def Arrival.Reads (arrival : Arrival) (messages : Table MessageRow) (message : MessageRow) : Prop :=
  arrival.ReadsFrom messages message.conversationId message.shownAt

/-- A receipt for the message, or for a later one that its thread held at the start. -/
def Arrival.ReadsAt (arrival : Arrival) (start : Table MessageRow) (mid : String) (place : Place) :
    Prop :=
  arrival.receipt? = some mid ∨ arrival.ReadsFrom start place.conversationId place.shownAt

/-- What the events of a message should leave of it, in whatever order they come. -/
structure ShowsAll (order : List Arrival) (messages : Table MessageRow) (message : MessageRow) :
    Prop where
  reaction : ShowsLatest order message.metadata.reaction
  deleted : message.platformDeletedAt.isSome = true ↔ ∃ arrival ∈ order, arrival.unsends = true
  seen : message.metadata.seenAt.isSome = true ↔ ∃ arrival ∈ order, arrival.Reads messages message

/-- The events before the first delivery. -/
def early (order : List Arrival) : List Arrival :=
  order.takeWhile fun arrival => !arrival.delivers

/-- The message is ours, and a receipt reads it in time: while its row is there. -/
def Place.ReadInTime (place : Place) (enterpriseId : Nat) (mid : String) (order : List Arrival)
    (inbox : Inbox) : Prop :=
  place.outbound = true ∧
    ((∃ arrival ∈ inTime enterpriseId mid order inbox,
        arrival.ReadsAt inbox.messages mid place) ∨
      ∃ shownAt, place.waiting = some shownAt ∧
        ∃ arrival ∈ early order, arrival.ReadsFrom inbox.messages place.conversationId shownAt)

/-- The last reaction that comes in time is as good as the latest, an unsend comes in time,
and so does a receipt. -/
structure ArrivesInTime (enterpriseId : Nat) (mid : String) (order : List Arrival) (inbox : Inbox) :
    Prop where
  reaction : ShowsLatest order
    ((((inTime enterpriseId mid order inbox).filterMap Arrival.reaction?).getLast?).getD none)
  unsend : (∃ arrival ∈ order, arrival.unsends = true) →
    ∃ arrival ∈ inTime enterpriseId mid order inbox, arrival.unsends = true
  receipt : ∀ place, placeOf enterpriseId mid order inbox = some place →
    ((∃ arrival ∈ order, arrival.ReadsAt inbox.messages mid place) ↔
      place.ReadInTime enterpriseId mid order inbox)

theorem mem_of_inTime {enterpriseId : Nat} {mid : String} {order : List Arrival} {inbox : Inbox}
    {arrival : Arrival} (member : arrival ∈ inTime enterpriseId mid order inbox) :
    arrival ∈ order := by
  unfold inTime at member
  split at member
  · exact member
  · exact List.dropWhile_subset _ (List.mem_of_mem_tail member)

theorem Arrival.ReadsFrom.of_bared {arrival : Arrival} {before after : Table MessageRow}
    {conversationId : Nat} {shownAt : Int} (same : bared after = bared before)
    (reads : arrival.ReadsFrom before conversationId shownAt) :
    arrival.ReadsFrom after conversationId shownAt := by
  obtain ⟨named, target, receipt, isHeld, thread, instant⟩ := reads
  obtain ⟨later, isLater, -, row⟩ := held_of_bared same isHeld
  have place := place_of_bare row
  exact ⟨named, later, receipt, isLater, (congrArg Place.conversationId place).trans thread,
    le_of_le_of_eq instant (congrArg Place.shownAt place).symm⟩

theorem Arrival.Reads.of_bared {arrival : Arrival} {before after : Table MessageRow}
    {row other : MessageRow} (same : bared after = bared before) (alike : other.bare = row.bare)
    (reads : arrival.Reads before row) : arrival.Reads after other := by
  have stands : other.place = row.place := place_of_bare alike
  have within : other.conversationId = row.conversationId := congrArg Place.conversationId stands
  have instant : other.shownAt = row.shownAt := congrArg Place.shownAt stands
  unfold Arrival.Reads
  rw [within, instant]
  exact Arrival.ReadsFrom.of_bared same reads

/-! ### What an event leaves in its place -/

structure Placed (enterpriseId : Nat) (mid : String) (place : Place)
    (before after : Table MessageRow) (stored : Stored MessageRow) : Prop where
  isHeld : held enterpriseId mid after = some stored
  there : stored.row.place = { place with waiting := none }
  others : ∀ named, named ≠ mid →
    held enterpriseId named (bared after) = held enterpriseId named (bared before)

def Place.Waits (place : Place) (enterpriseId : Nat) (before : Table MessageRow) (id : Nat) :
    Prop :=
  match place.waiting with
  | none => before.get? id = none
  | some shownAt => ∃ row, before.get? id = some row ∧ row.enterpriseId = enterpriseId ∧
      row.place = { place with shownAt := shownAt, waiting := none }

section Placed

variable {enterpriseId : Nat} {mid : String} {place : Place} {before after : Table MessageRow}
  {stored : Stored MessageRow}

theorem Placed.reads_iff (placed : Placed enterpriseId mid place before after stored)
    {arrival : Arrival} (ours : arrival.context.enterpriseId = enterpriseId) :
    arrival.Reads after stored.row ↔ arrival.ReadsAt before mid place := by
  have thread := congrArg Place.conversationId placed.there
  have instant := congrArg Place.shownAt placed.there
  have same : ∀ named, named ≠ mid →
      (held enterpriseId named after).map (fun shown => (⟨shown.id, shown.row.bare⟩ : Stored _)) =
        (held enterpriseId named before).map fun shown => ⟨shown.id, shown.row.bare⟩ := by
    intro named other
    rw [← held_bared, ← held_bared, placed.others named other]
  constructor
  · rintro ⟨named, target, receipt, isHeld, within, notLater⟩
    by_cases its : named = mid
    · exact .inl (its ▸ receipt)
    · rw [ours] at isHeld
      have old := same named its
      rw [isHeld, Option.map_some] at old
      obtain ⟨older, isOlder, alike⟩ := Option.map_eq_some_iff.mp old.symm
      injection alike with _ row
      have stands := place_of_bare row
      refine .inr ⟨named, older, receipt, ours ▸ isOlder, ?_, ?_⟩
      · exact (congrArg Place.conversationId stands).trans (within.trans thread)
      · exact le_of_eq_of_le instant.symm
          (le_of_le_of_eq notLater (congrArg Place.shownAt stands).symm)
  · rintro (receipt | ⟨named, target, receipt, isHeld, within, notLater⟩)
    · exact ⟨mid, stored, receipt, ours ▸ placed.isHeld, rfl, le_refl _⟩
    · by_cases its : named = mid
      · exact ⟨mid, stored, its ▸ receipt, ours ▸ placed.isHeld, rfl, le_refl _⟩
      · rw [ours] at isHeld
        have new := same named its
        rw [isHeld, Option.map_some] at new
        obtain ⟨later, isLater, alike⟩ := Option.map_eq_some_iff.mp new
        injection alike with _ row
        have stands := place_of_bare row
        refine ⟨named, later, receipt, ours ▸ isLater, ?_, ?_⟩
        · exact (congrArg Place.conversationId stands).trans (within.trans thread.symm)
        · exact le_of_eq_of_le instant
            (le_of_le_of_eq notLater (congrArg Place.shownAt stands).symm)

theorem Placed.of_bared {table : Table MessageRow} (same : bared after = bared table)
    (first : held enterpriseId mid table = some stored)
    (there : stored.row.place = { place with waiting := none })
    (others : ∀ named, named ≠ mid →
      held enterpriseId named table = held enterpriseId named before) :
    ∃ later, later.id = stored.id ∧ Placed enterpriseId mid place before after later := by
  obtain ⟨later, isLater, id, row⟩ := held_of_bared same first
  refine ⟨later, id, isLater, (place_of_bare row).trans there, fun named other => ?_⟩
  rw [same, held_bared, others named other, ← held_bared]

theorem Placed.of_insert (row : MessageRow) (unheld : held enterpriseId mid before = none)
    (ours : row.isPlatform enterpriseId mid = true) (alone : place.waiting = none)
    (there : row.place = { place with waiting := none })
    (same : bared after = bared (before.insert row)) :
    ∃ later, place.Waits enterpriseId before later.id ∧
      Placed enterpriseId mid place before after later := by
  have first : held enterpriseId mid (before.insert row) = some ⟨before.nextId, row⟩ :=
    Table.find?_insert_new unheld ours
  have others : ∀ named, named ≠ mid →
      held enterpriseId named (before.insert row) = held enterpriseId named before := by
    intro named other
    refine Table.find?_congr fun id old wants => ?_
    rw [Table.get?_insert]
    split
    · next last =>
        subst last
        rw [Table.get?_nextId]
        constructor
        · intro isRow
          obtain rfl := Option.some.inj isRow
          simp only [MessageRow.isPlatform, Bool.and_eq_true, beq_iff_eq] at ours wants
          exact absurd (Option.some.inj (wants.2.symm.trans ours.2)) other
        · intro contrary
          contradiction
    · exact Iff.rfl
  obtain ⟨later, id, placed⟩ := Placed.of_bared same first there others
  refine ⟨later, ?_, placed⟩
  rw [Place.Waits, alone, id]
  exact Table.get?_nextId before

theorem Placed.of_update (change : MessageRow → MessageRow)
    (unheld : held enterpriseId mid before = none) {id : Nat} {row : MessageRow}
    (found : before.get? id = some row) (unnamed : row.platformMessageId = none)
    (mine : row.enterpriseId = enterpriseId)
    (ours : (change row).isPlatform enterpriseId mid = true)
    (there : (change row).place = { place with waiting := none }) {shownAt : Int}
    (waits : place.waiting = some shownAt)
    (was : row.place = { place with shownAt := shownAt, waiting := none })
    (same : bared after = bared (before.update id change)) :
    ∃ later, place.Waits enterpriseId before later.id ∧
      Placed enterpriseId mid place before after later := by
  have changed : (before.update id change).get? id = some (change row) := by
    rw [Table.get?_update_self, found]
    rfl
  have first : held enterpriseId mid (before.update id change) = some ⟨id, change row⟩ := by
    refine Table.find?_of_first changed ours fun other old isOld wants => ?_
    rw [Table.get?_update] at isOld
    split at isOld
    · next same => exact Nat.le_of_eq same
    · rw [Table.find?_eq_none.mp unheld other old isOld] at wants
      contradiction
  have others : ∀ named, named ≠ mid →
      held enterpriseId named (before.update id change) = held enterpriseId named before := by
    intro named other
    refine Table.find?_congr fun at_ old wants => ?_
    rw [Table.get?_update]
    simp only [MessageRow.isPlatform, Bool.and_eq_true, beq_iff_eq] at ours wants
    split
    · next same =>
        subst same
        rw [found, Option.map_some]
        constructor
        · intro isOld
          obtain rfl := Option.some.inj isOld
          exact absurd (Option.some.inj (wants.2.symm.trans ours.2)) other
        · intro isOld
          obtain rfl := Option.some.inj isOld
          have contrary := unnamed.symm.trans wants.2
          contradiction
    · exact Iff.rfl
  obtain ⟨later, same, placed⟩ := Placed.of_bared same first there others
  refine ⟨later, ?_, placed⟩
  rw [Place.Waits, waits, same]
  exact ⟨row, found, mine, was⟩

theorem Place.Waits.of_bared {id : Nat} (same : bared after = bared before)
    (waits : place.Waits enterpriseId before id) : place.Waits enterpriseId after id := by
  unfold Place.Waits at waits ⊢
  cases waiting : place.waiting with
  | none =>
      rw [waiting] at waits
      refine Option.eq_none_iff_forall_ne_some.mpr fun row isRow => ?_
      obtain ⟨old, isOld, -⟩ := get?_of_bared same.symm isRow
      rw [waits] at isOld
      contradiction
  | some shownAt =>
      rw [waiting] at waits
      obtain ⟨row, found, mine, was⟩ := waits
      obtain ⟨later, isLater, alike⟩ := get?_of_bared same found
      exact ⟨later, isLater, (congrArg MessageRow.enterpriseId alike).trans mine,
        (place_of_bare alike).trans was⟩

theorem Place.Waits.enterprise {id : Nat} (waits : place.Waits enterpriseId before id)
    {row : MessageRow} (found : before.get? id = some row) : row.enterpriseId = enterpriseId := by
  unfold Place.Waits at waits
  cases waiting : place.waiting with
  | none =>
      rw [waiting, found] at waits
      contradiction
  | some shownAt =>
      rw [waiting] at waits
      obtain ⟨other, isOther, mine, -⟩ := waits
      rwa [Option.some.inj (found.symm.trans isOther)]

theorem Place.Waits.reads_iff {id : Nat} (waits : place.Waits enterpriseId before id)
    (order : List Arrival) :
    (∃ row, before.get? id = some row ∧ row.place.outbound = true ∧
        ∃ arrival ∈ order, arrival.Reads before row) ↔
      place.outbound = true ∧ ∃ shownAt, place.waiting = some shownAt ∧
        ∃ arrival ∈ order, arrival.ReadsFrom before place.conversationId shownAt := by
  unfold Place.Waits at waits
  cases waiting : place.waiting with
  | none =>
      rw [waiting] at waits
      constructor
      · rintro ⟨row, found, -⟩
        rw [waits] at found
        contradiction
      · rintro ⟨-, _, contrary, -⟩
        contradiction
  | some shownAt =>
      rw [waiting] at waits
      obtain ⟨row, found, -, was⟩ := waits
      have outbound : row.place.outbound = place.outbound := by rw [was]
      have within : row.place.conversationId = place.conversationId := by rw [was]
      have instant : row.place.shownAt = shownAt := by rw [was]
      rw [← within, ← instant, ← outbound]
      constructor
      · rintro ⟨other, isOther, ours, reads⟩
        obtain rfl := Option.some.inj (found.symm.trans isOther)
        exact ⟨ours, _, rfl, reads⟩
      · rintro ⟨ours, at_, isAt, reads⟩
        obtain rfl := Option.some.inj isAt
        exact ⟨row, found, ours, reads⟩

end Placed

/-! ### One event -/

section Project

variable (normalizeText : String → String)

theorem upsert_id (input : UpsertConversationInput) (inbox : Inbox) :
    (inbox.upsert input).1.id =
      ((inbox.conversations.find? (·.thread == input.thread)).map (·.id)).getD
        inbox.conversations.nextId := by
  unfold Inbox.upsert
  cases inbox.conversations.find? (·.thread == input.thread) <;> rfl

theorem Incoming.enter_id (incoming : Incoming) (inbox : Inbox) (now : Int) :
    (incoming.enter inbox now).2.1.id = inbox.threadOf incoming.channelId incoming.senderId := by
  unfold Incoming.enter
  dsimp only
  rw [upsert_id, Incoming.resolve_conversations]
  rfl

theorem Echoed.enter_id (echoed : Echoed) (inbox : Inbox) (now : Int) :
    (echoed.enter inbox now).2.1.id =
      inbox.threadOf echoed.channelId echoed.customerScopedId := by
  unfold Echoed.enter
  dsimp only
  rw [upsert_id, resolveOrCreate_conversations]
  rfl

theorem bared_adopted (enterpriseId parentId : Nat) (mid : String) (inbox : Inbox) :
    bared (inbox.adoptOrphanReplies enterpriseId parentId mid).messages =
      bared inbox.messages :=
  bared_updateWhere _ fun _ => rfl

theorem Incoming.placed (incoming : Incoming) (now : Int) (inbox : Inbox)
    (unheld : held incoming.enterpriseId incoming.mid inbox.messages = none) :
    let place : Place :=
      ⟨inbox.threadOf incoming.channelId incoming.senderId, false, incoming.occurredAt now, none⟩
    ∃ stored, place.Waits incoming.enterpriseId inbox.messages stored.id ∧
      Placed incoming.enterpriseId incoming.mid place inbox.messages
        (incoming.project now inbox).1.messages stored := by
  have absent : inbox.findIdByPlatformMessageId incoming.enterpriseId incoming.mid = none := by
    rw [findId_eq_held, unheld]
    rfl
  refine Placed.of_insert (incoming.stored inbox now) unheld ?_ rfl ?_ ?_
  · simp [MessageRow.isPlatform, Incoming.stored, Incoming.row]
  · rw [← incoming.enter_id inbox now]
    rfl
  · rw [incoming.project_of_unheld inbox now absent, incoming.count_messages, bared_adopted]

theorem Echoed.placed (echoed : Echoed) (now : Int) (inbox : Inbox)
    (unheld : held echoed.enterpriseId echoed.mid inbox.messages = none) :
    ∃ stored, (echoed.place now inbox).Waits echoed.enterpriseId inbox.messages stored.id ∧
      Placed echoed.enterpriseId echoed.mid (echoed.place now inbox) inbox.messages
        (echoed.project now inbox).1.messages stored := by
  have absent : inbox.findIdByPlatformMessageId echoed.enterpriseId echoed.mid = none := by
    rw [findId_eq_held, unheld]
    rfl
  have thread := echoed.enter_id inbox now
  cases waits : echoed.waiting inbox now with
  | some pending =>
      obtain ⟨found, awaits⟩ := Table.find?_some waits
      have place : echoed.place now inbox =
          ⟨inbox.threadOf echoed.channelId echoed.customerScopedId, true,
            pending.row.platformSentAt.getD now, some pending.row.shownAt⟩ := by
        rw [Echoed.waiting, thread] at waits
        rw [Echoed.place, waits]
      rw [place]
      simp only [MessageRow.awaitsEcho, Bool.and_eq_true, beq_iff_eq,
        Option.isNone_iff_eq_none] at awaits
      obtain ⟨⟨⟨⟨⟨mine, within⟩, ours⟩, unnamed⟩, -⟩, -⟩ := awaits
      rw [thread] at within
      refine Placed.of_update (·.stamped echoed.mid now) unheld found unnamed mine
        ?_ ?_ rfl ?_ ?_
      · simp [MessageRow.isPlatform, MessageRow.stamped, mine]
      · cases sent : pending.row.platformSentAt <;>
          simp [MessageRow.place, MessageRow.stamped, MessageRow.shownAt, sent, within, ours]
      · simp [MessageRow.place, within, ours]
      · rw [echoed.project_of_waiting inbox now absent waits, bared_adopted]
  | none =>
      have place : echoed.place now inbox =
          ⟨inbox.threadOf echoed.channelId echoed.customerScopedId, true,
            echoed.occurredAt now, none⟩ := by
        rw [Echoed.waiting, thread] at waits
        rw [Echoed.place, waits]
      rw [place]
      refine Placed.of_insert (echoed.stored inbox now) unheld ?_ rfl ?_ ?_
      · simp [MessageRow.isPlatform, Echoed.stored, Echoed.row]
      · rw [← thread]
        rfl
      · rw [echoed.project_of_unheld inbox now absent waits, recordMessage_messages,
          bared_adopted]

variable {enterpriseId : Nat} {mid : String} {arrival : Arrival} {inbox : Inbox}

theorem project_bared (concerns : arrival.concerns enterpriseId mid = true)
    (quiet : arrival.delivers = false ∨ (held enterpriseId mid inbox.messages).isSome = true) :
    bared (arrival.project normalizeText inbox).messages = bared inbox.messages := by
  have known := project_messages normalizeText arrival inbox
  unfold Arrival.concerns at concerns
  rw [Bool.and_eq_true, beq_iff_eq] at concerns
  obtain ⟨same, named⟩ := concerns
  cases about : arrival.event.about with
  | reaction target reaction =>
      rw [about] at known
      rw [known]
      exact bared_updateWhere _ fun _ => rfl
  | receipt target =>
      rw [about] at known
      rw [known]
      unfold Inbox.markSeenByCustomer
      split
      · rfl
      · exact bared_updateWhere _ fun _ => rfl
  | unsend target =>
      rw [about] at known
      rw [known]
      exact bared_updateWhere _ fun _ => rfl
  | message target =>
      rw [about] at known named
      rw [same, eq_of_beq named] at known
      dsimp only at known
      split at known
      · next delivers =>
          rcases quiet with undelivered | isHeld
          · rw [delivers] at undelivered
            contradiction
          · rw [known.known isHeld]
      · rw [known]
  | other =>
      rw [about] at named
      contradiction

theorem project_conversations (concerns : arrival.concerns enterpriseId mid = true)
    (quiet : arrival.delivers = false) :
    (arrival.project normalizeText inbox).conversations = inbox.conversations := by
  unfold Arrival.concerns at concerns
  rw [Bool.and_eq_true] at concerns
  obtain ⟨-, named⟩ := concerns
  unfold Arrival.project
  rw [project_eq]
  cases about : arrival.event.about with
  | reaction target reaction => rfl
  | receipt target =>
      dsimp only
      unfold Inbox.markSeenByCustomer
      split <;> rfl
  | unsend target => rfl
  | message target =>
      unfold Arrival.delivers at quiet
      rw [about] at quiet
      dsimp only
      cases body : arrival.event.body with
      | none => rfl
      | some message =>
          rw [body] at quiet
          have kept := projectMessage_delivered normalizeText arrival.context arrival.event
            message target arrival.now inbox
          rw [if_neg (Bool.eq_false_iff.mp quiet)] at kept
          exact congrArg Inbox.conversations kept
  | other =>
      rw [about] at named
      contradiction

theorem project_placed (concerns : arrival.concerns enterpriseId mid = true)
    (delivers : arrival.delivers = true) (unheld : held enterpriseId mid inbox.messages = none) :
    ∃ place stored, arrival.place? inbox = some place ∧
      place.Waits enterpriseId inbox.messages stored.id ∧
      Placed enterpriseId mid place inbox.messages
        (arrival.project normalizeText inbox).messages stored := by
  unfold Arrival.concerns at concerns
  rw [Bool.and_eq_true, beq_iff_eq] at concerns
  obtain ⟨rfl, named⟩ := concerns
  unfold Arrival.project Arrival.place?
  unfold Arrival.delivers at delivers
  rw [project_eq]
  cases about : arrival.event.about with
  | message target =>
      rw [about] at named delivers
      obtain rfl := eq_of_beq named
      cases body : arrival.event.body with
      | none =>
          rw [body] at delivers
          contradiction
      | some message =>
          rw [body] at delivers
          unfold hasCustomer at delivers
          unfold DirectMessageProjectorService.projectMessage
          dsimp only at delivers ⊢
          cases isEcho : message.isEcho with
          | true =>
              rw [if_pos isEcho] at delivers
              obtain ⟨echoed, echo⟩ := Option.isSome_iff_exists.mp delivers
              obtain ⟨same, mids⟩ := echoed_fields echo
              rw [← same, ← mids] at unheld
              obtain ⟨stored, waits, placed⟩ := echoed.placed arrival.now inbox unheld
              rw [same] at waits
              rw [same, mids] at placed
              rw [echo]
              exact ⟨_, stored, rfl, waits, placed⟩
          | false =>
              rw [if_neg (Bool.eq_false_iff.mp isEcho)] at delivers
              obtain ⟨senderId, sender⟩ := Option.isSome_iff_exists.mp delivers
              rw [sender]
              obtain ⟨stored, waits, placed⟩ :=
                (DirectMessageProjectorService.incoming normalizeText arrival.context
                  arrival.event message target senderId).placed arrival.now inbox unheld
              exact ⟨_, stored, rfl, waits, placed⟩
  | reaction target reaction =>
      rw [about] at delivers
      contradiction
  | receipt target =>
      rw [about] at delivers
      contradiction
  | unsend target =>
      rw [about] at delivers
      contradiction
  | other =>
      rw [about] at named
      contradiction

theorem Arrival.place?_of_bared {before after : Inbox}
    (same : bared after.messages = bared before.messages)
    (threads : after.conversations = before.conversations) :
    arrival.place? after = arrival.place? before := by
  have thread : ∀ channelId personId,
      after.threadOf channelId personId = before.threadOf channelId personId := by
    intro channelId personId
    unfold Inbox.threadOf
    rw [threads]
  have echo : ∀ (echoed : Echoed) (now : Int), echoed.place now after = echoed.place now before := by
    intro echoed now
    unfold Echoed.place
    rw [thread]
    dsimp only
    cases pending : before.messages.find? (·.awaitsEcho echoed.enterpriseId
        (before.threadOf echoed.channelId echoed.customerScopedId) echoed.text) with
    | some waiting =>
        obtain ⟨later, isLater, -, row⟩ := find?_of_bared same (fun _ => rfl) pending
        rw [isLater]
        have sent : later.row.bare.platformSentAt = waiting.row.bare.platformSentAt :=
          congrArg MessageRow.platformSentAt row
        change later.row.platformSentAt = waiting.row.platformSentAt at sent
        have instant : later.row.shownAt = waiting.row.shownAt :=
          congrArg Place.shownAt (place_of_bare row)
        simp only [sent, instant]
    | none =>
        cases later : after.messages.find? (·.awaitsEcho echoed.enterpriseId
            (before.threadOf echoed.channelId echoed.customerScopedId) echoed.text) with
        | none => rfl
        | some waiting =>
            obtain ⟨old, isOld, -⟩ := find?_of_bared same.symm (fun _ => rfl) later
            rw [pending] at isOld
            contradiction
  unfold Arrival.place?
  simp only [thread, echo]

/-! ### A run -/

theorem sees_iff {id : Nat} (ours : arrival.context.enterpriseId = enterpriseId)
    (mine : ∀ row, inbox.messages.get? id = some row → row.enterpriseId = enterpriseId) :
    arrival.sees id inbox = true ↔ ∃ row, inbox.messages.get? id = some row ∧
      row.place.outbound = true ∧ arrival.Reads inbox.messages row := by
  unfold Arrival.sees
  cases receipt : arrival.receipt? with
  | none =>
      constructor
      · intro contrary
        contradiction
      · rintro ⟨_, -, -, named, _, isReceipt, -⟩
        rw [receipt] at isReceipt
        contradiction
  | some named =>
      simp only [Option.any_eq_true]
      constructor
      · rintro ⟨target, isHeld, row, found, reached⟩
        simp only [reachedBy, Bool.and_eq_true, beq_iff_eq, decide_eq_true_eq] at reached
        obtain ⟨⟨⟨-, thread⟩, outbound⟩, notLater⟩ := reached
        exact ⟨row, found, beq_iff_eq.mpr outbound, named, target, receipt, isHeld, thread.symm,
          notLater⟩
      · rintro ⟨row, found, outbound, other, target, isReceipt, isHeld, thread, notLater⟩
        obtain rfl := Option.some.inj (receipt.symm.trans isReceipt)
        refine ⟨target, isHeld, row, found, ?_⟩
        have its := (Table.find?_some isHeld).2
        simp only [MessageRow.isPlatform, Bool.and_eq_true, beq_iff_eq] at its
        simp only [reachedBy, Bool.and_eq_true, beq_iff_eq, decide_eq_true_eq]
        exact ⟨⟨⟨(mine row found).trans (ours.symm.trans its.1.symm), thread.symm⟩,
          eq_of_beq outbound⟩, notLater⟩

theorem projectAll_append (first second : List Arrival) (inbox : Inbox) :
    Arrival.projectAll normalizeText (first ++ second) inbox =
      Arrival.projectAll normalizeText second (Arrival.projectAll normalizeText first inbox) := by
  induction first generalizing inbox with
  | nil => rfl
  | cons arrival rest ih => exact ih _

theorem seenInTime_append (id : Nat) (first second : List Arrival) (inbox : Inbox) :
    seenInTime normalizeText id (first ++ second) inbox =
      (seenInTime normalizeText id first inbox ||
        seenInTime normalizeText id second (Arrival.projectAll normalizeText first inbox)) := by
  induction first generalizing inbox with
  | nil => rfl
  | cons arrival rest ih =>
      rw [List.cons_append, seenInTime, ih, seenInTime, Bool.or_assoc, Arrival.projectAll]

/-- Events that store nothing of the message: it is held, or none of them brings it. -/
def Quiet (enterpriseId : Nat) (mid : String) (order : List Arrival) (inbox : Inbox) : Prop :=
  (held enterpriseId mid inbox.messages).isSome = true ∨
    ∀ arrival ∈ order, arrival.delivers = false

theorem Quiet.head {rest : List Arrival} (quiet : Quiet enterpriseId mid (arrival :: rest) inbox) :
    arrival.delivers = false ∨ (held enterpriseId mid inbox.messages).isSome = true := by
  rcases quiet with isHeld | undelivered
  · exact .inr isHeld
  · exact .inl (undelivered arrival List.mem_cons_self)

theorem Quiet.tail {rest : List Arrival} (concerns : arrival.concerns enterpriseId mid = true)
    (quiet : Quiet enterpriseId mid (arrival :: rest) inbox) :
    Quiet enterpriseId mid rest (arrival.project normalizeText inbox) := by
  rcases quiet with isHeld | undelivered
  · obtain ⟨stored, isHeld⟩ := Option.isSome_iff_exists.mp isHeld
    obtain ⟨next, isNext, -⟩ :=
      Option.map_eq_some_iff.mp (held_step normalizeText concerns isHeld)
    exact .inl (by rw [isNext]; rfl)
  · exact .inr fun other member => undelivered other (List.mem_cons_of_mem arrival member)

theorem bared_run {order : List Arrival}
    (concern : ∀ arrival ∈ order, arrival.concerns enterpriseId mid = true)
    (quiet : Quiet enterpriseId mid order inbox) :
    bared (Arrival.projectAll normalizeText order inbox).messages = bared inbox.messages := by
  induction order generalizing inbox with
  | nil => rfl
  | cons arrival rest ih =>
      have first := concern arrival List.mem_cons_self
      rw [Arrival.projectAll, ih (fun other member =>
        concern other (List.mem_cons_of_mem arrival member)) (quiet.tail normalizeText first)]
      exact project_bared normalizeText first quiet.head

theorem conversations_run {order : List Arrival}
    (concern : ∀ arrival ∈ order, arrival.concerns enterpriseId mid = true)
    (quiet : ∀ arrival ∈ order, arrival.delivers = false) :
    (Arrival.projectAll normalizeText order inbox).conversations = inbox.conversations := by
  induction order generalizing inbox with
  | nil => rfl
  | cons arrival rest ih =>
      rw [Arrival.projectAll,
        ih (fun other member => concern other (List.mem_cons_of_mem arrival member))
          fun other member => quiet other (List.mem_cons_of_mem arrival member)]
      exact project_conversations normalizeText (concern arrival List.mem_cons_self)
        (quiet arrival List.mem_cons_self)

theorem concerns_enterprise (concerns : arrival.concerns enterpriseId mid = true) :
    arrival.context.enterpriseId = enterpriseId := by
  unfold Arrival.concerns at concerns
  exact eq_of_beq (Bool.and_eq_true_iff.mp concerns).1

theorem seen_quiet {order : List Arrival} {id : Nat}
    (concern : ∀ arrival ∈ order, arrival.concerns enterpriseId mid = true)
    (quiet : Quiet enterpriseId mid order inbox)
    (mine : ∀ row, inbox.messages.get? id = some row → row.enterpriseId = enterpriseId) :
    seenInTime normalizeText id order inbox = true ↔
      ∃ row, inbox.messages.get? id = some row ∧ row.place.outbound = true ∧
        ∃ arrival ∈ order, arrival.Reads inbox.messages row := by
  induction order generalizing inbox with
  | nil =>
      rw [seenInTime]
      constructor
      · intro contrary
        contradiction
      · rintro ⟨_, -, -, _, member, -⟩
        exact absurd member List.not_mem_nil
  | cons arrival rest ih =>
      have first := concern arrival List.mem_cons_self
      have ours := concerns_enterprise first
      have same := project_bared normalizeText first quiet.head
      have owned : ∀ row, (arrival.project normalizeText inbox).messages.get? id = some row →
          row.enterpriseId = enterpriseId := by
        intro row found
        obtain ⟨old, isOld, alike⟩ := get?_of_bared same.symm found
        exact (congrArg MessageRow.enterpriseId alike).symm.trans (mine old isOld)
      have later := ih (fun other member => concern other (List.mem_cons_of_mem arrival member))
        (quiet.tail normalizeText first) owned
      rw [seenInTime, Bool.or_eq_true, later, sees_iff ours mine]
      constructor
      · rintro (⟨row, found, outbound, reads⟩ | ⟨row, found, outbound, other, member, reads⟩)
        · exact ⟨row, found, outbound, arrival, List.mem_cons_self, reads⟩
        · obtain ⟨old, isOld, alike⟩ := get?_of_bared same.symm found
          exact ⟨old, isOld, (congrArg Place.outbound (place_of_bare alike)).trans outbound, other,
            List.mem_cons_of_mem arrival member, Arrival.Reads.of_bared same.symm alike reads⟩
      · rintro ⟨row, found, outbound, other, member, reads⟩
        rcases List.mem_cons.mp member with rfl | member
        · exact .inl ⟨row, found, outbound, reads⟩
        · obtain ⟨new, isNew, alike⟩ := get?_of_bared same found
          exact .inr ⟨new, isNew, (congrArg Place.outbound (place_of_bare alike)).trans outbound,
            other, member, Arrival.Reads.of_bared same alike reads⟩

theorem held_enterprise {messages : Table MessageRow} {stored : Stored MessageRow}
    (isHeld : held enterpriseId mid messages = some stored) :
    stored.row.enterpriseId = enterpriseId := by
  have its := (Table.find?_some isHeld).2
  simp only [MessageRow.isPlatform, Bool.and_eq_true, beq_iff_eq] at its
  exact its.1

/-- A message that was held at the start: where it stands, and which receipts cover it. -/
theorem seen_held {order : List Arrival} {stored : Stored MessageRow}
    (concern : ∀ arrival ∈ order, arrival.concerns enterpriseId mid = true)
    (isHeld : held enterpriseId mid inbox.messages = some stored) :
    (∃ later, later.id = stored.id ∧ Placed enterpriseId mid stored.row.place inbox.messages
      (Arrival.projectAll normalizeText order inbox).messages later) ∧
    (seenInTime normalizeText stored.id order inbox = true ↔
      stored.row.place.outbound = true ∧
        ∃ arrival ∈ order, arrival.Reads inbox.messages stored.row) := by
  have quiet : Quiet enterpriseId mid order inbox := .inl (by rw [isHeld]; rfl)
  have found := (Table.find?_some isHeld).1
  have mine : ∀ row, inbox.messages.get? stored.id = some row →
      row.enterpriseId = enterpriseId := by
    intro row isRow
    rw [← Option.some.inj (found.symm.trans isRow)]
    exact held_enterprise isHeld
  refine ⟨?_, ?_⟩
  · exact Placed.of_bared (bared_run normalizeText concern quiet) isHeld rfl fun _ _ => rfl
  · rw [seen_quiet normalizeText concern quiet mine, found]
    constructor
    · rintro ⟨row, same, outbound, reads⟩
      obtain rfl := Option.some.inj same
      exact ⟨outbound, reads⟩
    · rintro ⟨outbound, reads⟩
      exact ⟨stored.row, rfl, outbound, reads⟩

theorem receipt?_of_delivers (delivers : arrival.delivers = true) : arrival.receipt? = none := by
  unfold Arrival.delivers at delivers
  unfold Arrival.receipt?
  cases about : arrival.event.about with
  | receipt named =>
      rw [about] at delivers
      contradiction
  | message _ => rfl
  | reaction _ _ => rfl
  | unsend _ => rfl
  | other => rfl

theorem early_silent (order : List Arrival) : ∀ arrival ∈ early order, arrival.delivers = false := by
  intro arrival member
  simpa using List.mem_takeWhile_imp member

/-- An order brings the message at its first delivery, or nowhere. -/
theorem early_cases (order : List Arrival) :
    early order = order ∨ ∃ delivery late, early order ++ delivery :: late = order ∧
      delivery.delivers = true ∧ order.find? Arrival.delivers = some delivery ∧
      order.dropWhile (fun arrival => !arrival.delivers) = delivery :: late := by
  have parts : early order ++ order.dropWhile (fun arrival => !arrival.delivers) = order :=
    List.takeWhile_append_dropWhile
  cases rest : order.dropWhile fun arrival => !arrival.delivers with
  | nil =>
      rw [rest, List.append_nil] at parts
      exact .inl parts
  | cons delivery late =>
      rw [rest] at parts
      have delivers : delivery.delivers = true := by
        simpa [rest] using List.head?_dropWhile_not (fun arrival => !arrival.delivers) order
      have none_ : (early order).find? Arrival.delivers = none :=
        List.find?_eq_none.mpr fun arrival within => by simp [early_silent order arrival within]
      refine .inr ⟨delivery, late, parts, delivers, ?_, rfl⟩
      conv_lhs => rw [← parts]
      rw [List.find?_append, List.find?_cons_of_pos delivers, none_]
      rfl

theorem held_silent {order : List Arrival}
    (concern : ∀ arrival ∈ order, arrival.concerns enterpriseId mid = true)
    (silent : ∀ arrival ∈ order, arrival.delivers = false)
    (atStart : held enterpriseId mid inbox.messages = none) :
    held enterpriseId mid (Arrival.projectAll normalizeText order inbox).messages = none := by
  have same : bared (Arrival.projectAll normalizeText order inbox).messages =
      bared inbox.messages := bared_run normalizeText concern (.inr silent)
  refine Option.eq_none_iff_forall_ne_some.mpr fun other isOther => ?_
  obtain ⟨old, isOld, -⟩ := held_of_bared same.symm isOther
  rw [atStart] at isOld
  contradiction

/-- A message that a delivery stores: where it stands, and which receipts cover it, before the
delivery and after. -/
theorem seen_delivered {before late : List Arrival} {delivery : Arrival} {stored : Stored MessageRow}
    (concern : ∀ arrival ∈ before ++ delivery :: late,
      arrival.concerns enterpriseId mid = true)
    (silent : ∀ arrival ∈ before, arrival.delivers = false) (delivers : delivery.delivers = true)
    (atStart : held enterpriseId mid inbox.messages = none)
    (isHeld : held enterpriseId mid
      (Arrival.projectAll normalizeText (before ++ delivery :: late) inbox).messages =
        some stored) :
    ∃ place, delivery.place? inbox = some place ∧
      Placed enterpriseId mid place inbox.messages
        (Arrival.projectAll normalizeText (before ++ delivery :: late) inbox).messages stored ∧
      (seenInTime normalizeText stored.id (before ++ delivery :: late) inbox = true ↔
        place.outbound = true ∧
          ((∃ arrival ∈ late, arrival.ReadsAt inbox.messages mid place) ∨
            ∃ shownAt, place.waiting = some shownAt ∧
              ∃ arrival ∈ before,
                arrival.ReadsFrom inbox.messages place.conversationId shownAt)) := by
  have begun : ∀ arrival ∈ before, arrival.concerns enterpriseId mid = true :=
    fun arrival member => concern arrival (List.mem_append_left _ member)
  have its := concern delivery (List.mem_append_right _ List.mem_cons_self)
  have after : ∀ arrival ∈ late, arrival.concerns enterpriseId mid = true := fun arrival member =>
    concern arrival (List.mem_append_right _ (List.mem_cons_of_mem delivery member))
  have same : bared (Arrival.projectAll normalizeText before inbox).messages =
      bared inbox.messages := bared_run normalizeText begun (.inr silent)
  have threads : (Arrival.projectAll normalizeText before inbox).conversations =
      inbox.conversations := conversations_run normalizeText begun silent
  obtain ⟨place, delivered, isPlace, waits, stands⟩ := project_placed normalizeText its delivers
    (held_silent normalizeText begun silent atStart)
  rw [Arrival.place?_of_bared same threads] at isPlace
  have waited := waits.of_bared same.symm
  have put : Placed enterpriseId mid place inbox.messages _ delivered :=
    ⟨stands.isHeld, stands.there, fun named other => by rw [stands.others named other, same]⟩
  obtain ⟨⟨later, id, placed⟩, seen⟩ := seen_held normalizeText after stands.isHeld
  rw [projectAll_append, Arrival.projectAll] at isHeld ⊢
  obtain rfl := Option.some.inj (isHeld.symm.trans placed.isHeld)
  refine ⟨place, isPlace, ⟨isHeld, placed.there.trans stands.there, fun named other => ?_⟩, ?_⟩
  · rw [placed.others named other, put.others named other]
  · have read := seen_quiet normalizeText begun (.inr silent) fun _ => waited.enterprise
    have covered : (∃ arrival ∈ late, arrival.Reads (delivery.project normalizeText
          (Arrival.projectAll normalizeText before inbox)).messages delivered.row) ↔
        ∃ arrival ∈ late, arrival.ReadsAt inbox.messages mid place :=
      exists_congr fun arrival => and_congr_right fun within =>
        put.reads_iff (concerns_enterprise (after arrival within))
    have ours : delivered.row.place.outbound = place.outbound := by rw [stands.there]
    rw [seenInTime_append, seenInTime,
      Arrival.sees_of_no_receipt (receipt?_of_delivers delivers), Bool.false_or, Bool.or_eq_true,
      id, seen, read, waited.reads_iff, covered, ours, ← and_or_left, or_comm]

/-- Where the message stands in the end, and whether some receipt covered its row: by its
events and the start alone. -/
theorem seen_run {order : List Arrival} {stored : Stored MessageRow}
    (concern : ∀ arrival ∈ order, arrival.concerns enterpriseId mid = true)
    (isHeld : held enterpriseId mid (Arrival.projectAll normalizeText order inbox).messages =
      some stored) :
    ∃ place, placeOf enterpriseId mid order inbox = some place ∧
      Placed enterpriseId mid place inbox.messages
        (Arrival.projectAll normalizeText order inbox).messages stored ∧
      (seenInTime normalizeText stored.id order inbox = true ↔
        place.ReadInTime enterpriseId mid order inbox) := by
  unfold placeOf Place.ReadInTime inTime
  cases atStart : held enterpriseId mid inbox.messages with
  | some first =>
      obtain ⟨⟨later, same, placed⟩, seen⟩ := seen_held normalizeText concern atStart
      obtain rfl := Option.some.inj (isHeld.symm.trans placed.isHeld)
      have here : Placed enterpriseId mid first.row.place inbox.messages inbox.messages first :=
        ⟨atStart, rfl, fun _ _ => rfl⟩
      refine ⟨first.row.place, rfl, placed, ?_⟩
      rw [same, seen, if_pos (by rfl)]
      refine and_congr_right fun _ => ?_
      have reads : (∃ arrival ∈ order, arrival.Reads inbox.messages first.row) ↔
          ∃ arrival ∈ order, arrival.ReadsAt inbox.messages mid first.row.place :=
        exists_congr fun arrival => and_congr_right fun member =>
          here.reads_iff (concerns_enterprise (concern arrival member))
      rw [reads]
      refine ⟨.inl, fun either => ?_⟩
      rcases either with read | ⟨shownAt, waits, -⟩
      · exact read
      · contradiction
  | none =>
      rcases early_cases order with whole | ⟨delivery, late, parts, delivers, first, rest⟩
      · have silent := early_silent order
        rw [whole] at silent
        rw [held_silent normalizeText concern silent atStart] at isHeld
        contradiction
      · have silent := early_silent order
        rw [← parts] at concern isHeld
        have stands := seen_delivered normalizeText concern silent delivers atStart isHeld
        rw [parts] at stands
        rw [first, rest, if_neg (by exact Bool.false_ne_true)]
        exact stands

/-- An order leaves what it should exactly if what it is to show comes in time. -/
theorem shows_iff {order : List Arrival}
    (concern : ∀ arrival ∈ order, arrival.concerns enterpriseId mid = true)
    (delivered : (held enterpriseId mid inbox.messages).isSome = true ∨
      ∃ arrival ∈ order, arrival.delivers = true)
    (unmarked : ∀ stored,
      held enterpriseId mid (Arrival.projectAll normalizeText order inbox).messages =
        some stored → marksAt inbox.messages stored.id = .none) :
    (∃ stored, held enterpriseId mid (Arrival.projectAll normalizeText order inbox).messages =
        some stored ∧
      ShowsAll order (Arrival.projectAll normalizeText order inbox).messages stored.row) ↔
    ArrivesInTime enterpriseId mid order inbox := by
  obtain ⟨stored, isHeld⟩ :=
    Option.isSome_iff_exists.mp (held_of_delivered normalizeText concern delivered)
  obtain ⟨place, isPlace, placed, covered⟩ := seen_run normalizeText concern isHeld
  have own : ∀ other, held enterpriseId mid
      (Arrival.projectAll normalizeText order inbox).messages = some other →
      other.id = stored.id := by
    intro other isOther
    rw [Option.some.inj (isHeld.symm.trans isOther)]
  have marks := marks_run normalizeText concern own
  have found := (Table.find?_some isHeld).1
  rw [unmarked stored isHeld, heard_eq normalizeText concern, marksAt, found] at marks
  obtain ⟨reaction, deleted, seen⟩ := Marks.mk.inj marks
  simp only [Marks.none, Bool.false_or] at reaction deleted seen
  have readable : (∃ arrival ∈ order, arrival.Reads
        (Arrival.projectAll normalizeText order inbox).messages stored.row) ↔
      ∃ arrival ∈ order, arrival.ReadsAt inbox.messages mid place :=
    exists_congr fun arrival => and_congr_right fun member =>
      placed.reads_iff (concerns_enterprise (concern arrival member))
  constructor
  · rintro ⟨other, isOther, shows, unsends, reads⟩
    obtain rfl := Option.some.inj (isHeld.symm.trans isOther)
    rw [reaction] at shows
    rw [deleted, List.any_eq_true] at unsends
    rw [seen, covered, readable] at reads
    refine ⟨shows, unsends.mpr, fun its isIts => ?_⟩
    obtain rfl := Option.some.inj (isPlace.symm.trans isIts)
    exact reads.symm
  · rintro ⟨shows, unsends, reads⟩
    rw [← reaction] at shows
    refine ⟨stored, isHeld, shows, ?_, ?_⟩
    · rw [deleted, List.any_eq_true]
      constructor
      · rintro ⟨arrival, member, unsent⟩
        exact ⟨arrival, mem_of_inTime member, unsent⟩
      · exact unsends
    · rw [seen, covered, readable]
      exact (reads place isPlace).symm

end Project

/-! ### An unsend before its message -/

def helloUnsent : Arrival := helloAt 2 { hello with isDeleted := true }

/-- The delivery is tried again after the unsend. -/
theorem unsend_before_delivery : ¬∀ (normalizeText : String → String) (enterpriseId : Nat)
    (mid : String) (inbox : Inbox) (order : List Arrival),
    (∀ arrival ∈ order, arrival.concerns enterpriseId mid = true) →
    ((held enterpriseId mid inbox.messages).isSome = true ∨
      ∃ arrival ∈ order, arrival.delivers = true) →
    (order.filterMap fun arrival => arrival.reaction?.map fun _ => arrival.time).Nodup →
    (∀ stored, held enterpriseId mid (Arrival.projectAll normalizeText order inbox).messages =
      some stored → marksAt inbox.messages stored.id = .none) →
    ∃ stored, held enterpriseId mid (Arrival.projectAll normalizeText order inbox).messages =
        some stored ∧
      ShowsAll order (Arrival.projectAll normalizeText order inbox).messages stored.row := by
  intro always
  obtain ⟨stored, isHeld, shows⟩ := always (fun text => text) 1 "m1" .empty [helloUnsent, helloDelivered]
    (by decide) (.inr (by decide)) (by decide) (fun _ _ => rfl)
  have kept : ((held 1 "m1" (Arrival.projectAll (fun text => text) [helloUnsent, helloDelivered]
      .empty).messages).map fun stored => stored.row.platformDeletedAt.isSome) = some false := by
    decide +kernel
  rw [isHeld] at kept
  have deleted := shows.deleted.mpr ⟨helloUnsent, List.mem_cons_self, by decide⟩
  rw [Option.map_some, deleted] at kept
  exact absurd kept (by decide)

theorem shows_iff_in_order : ∃ stored,
    held 1 "m1" (Arrival.projectAll (fun text => text) [helloDelivered, helloUnsent] .empty).messages =
        some stored ∧
      ShowsAll [helloDelivered, helloUnsent]
        (Arrival.projectAll (fun text => text) [helloDelivered, helloUnsent] .empty).messages stored.row := by
  refine (shows_iff (fun text => text) (by decide) (.inr (by decide)) (fun _ _ => rfl)).mpr ?_
  have unreacted : ∀ arrival ∈ [helloDelivered, helloUnsent], arrival.reaction? = none := by decide
  have unread : ∀ arrival ∈ [helloDelivered, helloUnsent], arrival.receipt? = none := by decide
  have stands : placeOf 1 "m1" [helloDelivered, helloUnsent] .empty = some ⟨0, false, 1, none⟩ := by
    decide +kernel
  refine ⟨⟨fun latest member shown reacted => ?_, fun _ => by decide +kernel⟩,
    fun _ => ⟨helloUnsent, by decide +kernel, by decide⟩, fun place isPlace => ⟨?_, fun read => ?_⟩⟩
  · rw [unreacted latest member] at reacted
    contradiction
  · rintro ⟨arrival, member, receipt | ⟨named, _, receipt, _⟩⟩
    · rw [unread arrival member] at receipt
      contradiction
    · rw [unread arrival member] at receipt
      contradiction
  · obtain rfl := Option.some.inj (stands.symm.trans isPlace)
    exact absurd read.1 Bool.false_ne_true

end UnifiedService.Projection
