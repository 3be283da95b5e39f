import UnifiedService.Projection.TransactionProperties

/-! The counters of a thread beside the rows they summarise, in every order of the statements
of its writers. A badge and the rows behind it are cleared by two transactions: a customer's
message that commits between them is counted and shown as read, and where the second fails the
rows stay unread behind an empty badge. -/

set_option autoImplicit false

namespace UnifiedService.Projection

open UnifiedService.Library

/-! ### What the counters summarise -/

def MessageRow.isIn (conversationId : Nat) (message : MessageRow) : Bool :=
  message.conversationId == conversationId

def MessageRow.isInboundIn (conversationId : Nat) (message : MessageRow) : Bool :=
  message.conversationId == conversationId && message.direction == .inbound

def MessageRow.isUnreadIn (conversationId : Nat) (message : MessageRow) : Bool :=
  message.conversationId == conversationId && message.direction == .inbound && !message.isRead

def latestOf (messages : Table MessageRow) (wanted : MessageRow → Bool) : Option Int :=
  (messages.rows.filterMap fun message =>
    if wanted message then some message.occurredAt else none).max?

theorem max?_concat (instants : List Int) (last : Int) :
    (instants ++ [last]).max? = latest instants.max? last := by
  cases instants with
  | nil => simp [latest]
  | cons first rest =>
      rw [List.cons_append, List.max?_cons', List.max?_cons', List.foldl_append]
      rfl

theorem latestOf_insert (messages : Table MessageRow) (row : MessageRow)
    (wanted : MessageRow → Bool) :
    latestOf (messages.insert row) wanted =
      if wanted row then latest (latestOf messages wanted) row.occurredAt
      else latestOf messages wanted := by
  unfold latestOf
  rw [Table.insert, List.filterMap_append]
  by_cases wants : wanted row = true
  · rw [if_pos wants, ← max?_concat]
    simp [wants]
  · rw [if_neg wants]
    simp [wants]

theorem latestOf_eq_none {messages : Table MessageRow} {wanted : MessageRow → Bool}
    (nobody : ∀ id message, messages.get? id = some message → wanted message = false) :
    latestOf messages wanted = none := by
  unfold latestOf
  rw [List.max?_eq_none_iff, List.filterMap_eq_nil_iff]
  intro message member
  obtain ⟨id, found⟩ := Table.mem_rows_iff.mp member
  rw [nobody id message found]
  rfl

theorem latestOf_updateWhere (messages : Table MessageRow) {wanted : MessageRow → Bool}
    {change : MessageRow → MessageRow} {chosen : Nat → MessageRow → Bool}
    (unseen : ∀ message, wanted (change message) = wanted message)
    (instants : ∀ message, (change message).occurredAt = message.occurredAt) :
    latestOf (messages.updateWhere chosen change) wanted = latestOf messages wanted := by
  let instant (message : MessageRow) : Option Int :=
    if wanted message then some message.occurredAt else none
  have same : ∀ message, instant (change message) = instant message := by
    intro message
    simp only [instant, unseen, instants]
  have read : (messages.updateWhere chosen change).rows.map instant = messages.rows.map instant :=
    Table.map_updateWhere messages fun _ message _ => same message
  have gathered := congrArg (List.filterMap id) read
  rw [List.filterMap_map, List.filterMap_map] at gathered
  exact congrArg List.max? gathered

def MessageRow.digest (message : MessageRow) : Nat × Bool × Bool × Int :=
  (message.conversationId, message.direction == .inbound, message.isRead, message.occurredAt)

section Digests

variable {before after : Table MessageRow}

/-- Messages whose digests stay answer every question about them the same. -/
theorem map_digest (same : after.rows.map MessageRow.digest = before.rows.map MessageRow.digest)
    {Value : Type} (read : Nat × Bool × Bool × Int → Value) :
    (after.rows.map fun message => read message.digest) =
      before.rows.map fun message => read message.digest := by
  have mapped := congrArg (List.map read) same
  rwa [List.map_map, List.map_map] at mapped

theorem count_digest (same : after.rows.map MessageRow.digest = before.rows.map MessageRow.digest)
    (wanted : Nat × Bool × Bool × Int → Bool) :
    (after.count fun message => wanted message.digest) =
      before.count fun message => wanted message.digest := by
  rw [Table.count_eq_countP, map_digest same, ← Table.count_eq_countP]

theorem latestOf_digest
    (same : after.rows.map MessageRow.digest = before.rows.map MessageRow.digest)
    (wanted : Nat × Bool × Bool × Int → Bool) :
    (latestOf after fun message => wanted message.digest) =
      latestOf before fun message => wanted message.digest := by
  have instants := congrArg (List.filterMap id) (map_digest same fun digest =>
    if wanted digest then some digest.2.2.2 else none)
  rw [List.filterMap_map, List.filterMap_map] at instants
  exact congrArg List.max? instants

theorem get?_digest (same : after.rows.map MessageRow.digest = before.rows.map MessageRow.digest)
    {id : Nat} {message : MessageRow} (found : after.get? id = some message) :
    ∃ old, before.get? id = some old ∧ old.digest = message.digest := by
  have read := congrArg (·[id]?) same
  simp only [List.getElem?_map] at read
  change (after.get? id).map MessageRow.digest = (before.get? id).map MessageRow.digest at read
  rw [found] at read
  obtain ⟨old, there, digest⟩ := Option.map_eq_some_iff.mp read.symm
  exact ⟨old, there, digest⟩

end Digests

structure Summarises (messages : Table MessageRow) (id : Nat) (conversation : ConversationRow) :
    Prop where
  messageCount : conversation.messageCount = messages.count (·.isIn id)
  unreadCount : conversation.unreadCount = messages.count (·.isUnreadIn id)
  lastMessageAt : conversation.lastMessageAt = latestOf messages (·.isIn id)
  lastInboundAt : conversation.lastInboundAt = latestOf messages (·.isInboundIn id)

/-- The counters of a thread whose badge may be cleared already, and its rows not yet. -/
structure Tallies (messages : Table MessageRow) (marking : List Nat) (id : Nat)
    (conversation : ConversationRow) : Prop where
  messageCount : conversation.messageCount = messages.count (·.isIn id)
  unreadCount : conversation.unreadCount =
    if id ∈ marking then 0 else messages.count (·.isUnreadIn id)
  lastMessageAt : conversation.lastMessageAt = latestOf messages (·.isIn id)
  lastInboundAt : conversation.lastInboundAt = latestOf messages (·.isInboundIn id)

structure Tallied (conversations : Table ConversationRow) (messages : Table MessageRow)
    (marking : List Nat) : Prop where
  filed : ∀ id message, messages.get? id = some message →
    message.conversationId < conversations.nextId
  marked : ∀ id ∈ marking, id < conversations.nextId
  tallies : ∀ id conversation, conversations.get? id = some conversation →
    Tallies messages marking id conversation

namespace Tallied

variable {conversations : Table ConversationRow} {messages : Table MessageRow}
  {marking : List Nat}

theorem empty : Tallied .empty .empty [] := by
  constructor
  · intro id message found
    rw [Table.get?_empty] at found
    contradiction
  · intro id member
    exact absurd member List.not_mem_nil
  · intro id conversation found
    rw [Table.get?_empty] at found
    contradiction

theorem changed (tallied : Tallied conversations messages marking) (target : Nat)
    {change : ConversationRow → ConversationRow}
    (kept : ∀ conversation, (change conversation).messageCount = conversation.messageCount ∧
      (change conversation).unreadCount = conversation.unreadCount ∧
      (change conversation).lastMessageAt = conversation.lastMessageAt ∧
      (change conversation).lastInboundAt = conversation.lastInboundAt) :
    Tallied (conversations.update target change) messages marking := by
  constructor
  · intro id message found
    rw [Table.nextId_update]
    exact tallied.filed id message found
  · intro id member
    rw [Table.nextId_update]
    exact tallied.marked id member
  · intro id conversation found
    rw [Table.get?_update] at found
    split at found
    · obtain ⟨old, there, rfl⟩ := Option.map_eq_some_iff.mp found
      have tallies := tallied.tallies id old there
      obtain ⟨messageCount, unreadCount, lastMessageAt, lastInboundAt⟩ := kept old
      exact ⟨messageCount.trans tallies.messageCount, unreadCount.trans tallies.unreadCount,
        lastMessageAt.trans tallies.lastMessageAt, lastInboundAt.trans tallies.lastInboundAt⟩
    · exact tallied.tallies id conversation found

theorem opened (tallied : Tallied conversations messages marking) (input : UpsertConversationInput) :
    Tallied (conversations.insert input.row) messages marking := by
  have nobody : ∀ id message, messages.get? id = some message →
      (message.conversationId == conversations.nextId) = false := by
    intro id message found
    exact beq_eq_false_iff_ne.mpr (Nat.ne_of_lt (tallied.filed id message found))
  constructor
  · intro id message found
    rw [Table.nextId_insert]
    exact Nat.lt_succ_of_lt (tallied.filed id message found)
  · intro id member
    rw [Table.nextId_insert]
    exact Nat.lt_succ_of_lt (tallied.marked id member)
  · intro id conversation found
    rw [Table.get?_insert] at found
    split at found
    · next same =>
        subst same
        rw [← Option.some.inj found]
        have unmarked : conversations.nextId ∉ marking :=
          fun member => Nat.lt_irrefl _ (tallied.marked _ member)
        constructor
        · refine (Table.count_eq_zero_iff.mpr fun id message there => ?_).symm
          exact nobody id message there
        · rw [if_neg unmarked]
          refine (Table.count_eq_zero_iff.mpr fun id message there => ?_).symm
          rw [MessageRow.isUnreadIn, nobody id message there, Bool.false_and, Bool.false_and]
        · exact (latestOf_eq_none nobody).symm
        · refine (latestOf_eq_none fun id message there => ?_).symm
          rw [MessageRow.isInboundIn, nobody id message there, Bool.false_and]
    · exact tallied.tallies id conversation found

theorem digested (tallied : Tallied conversations messages marking) {after : Table MessageRow}
    (same : after.rows.map MessageRow.digest = messages.rows.map MessageRow.digest) :
    Tallied conversations after marking := by
  constructor
  · intro id message found
    obtain ⟨old, there, digest⟩ := get?_digest same found
    rw [← show old.conversationId = message.conversationId from congrArg Prod.fst digest]
    exact tallied.filed id old there
  · exact tallied.marked
  · intro id conversation found
    have tallies := tallied.tallies id conversation found
    have ins := count_digest same fun digest => digest.1 == id
    have unreads := count_digest same fun digest => digest.1 == id && digest.2.1 && !digest.2.2.1
    have lasts := latestOf_digest same fun digest => digest.1 == id
    have inbounds := latestOf_digest same fun digest => digest.1 == id && digest.2.1
    constructor
    · exact tallies.messageCount.trans ins.symm
    · rw [tallies.unreadCount]
      split
      · rfl
      · exact unreads.symm
    · exact tallies.lastMessageAt.trans lasts.symm
    · exact tallies.lastInboundAt.trans inbounds.symm

theorem recorded (tallied : Tallied conversations messages marking) {target : Nat}
    {row : MessageRow} (filed : row.conversationId = target)
    (there : target < conversations.nextId) {inbound : Bool}
    (direction : (row.direction == .inbound) = inbound) (read : row.isRead = !inbound)
    (unmarked : inbound = true → target ∉ marking) :
    Tallied (conversations.update target (·.recorded inbound row.occurredAt))
      (messages.insert row) marking := by
  constructor
  · intro id message found
    rw [Table.nextId_update]
    rw [Table.get?_insert] at found
    split at found
    · rw [← Option.some.inj found, filed]
      exact there
    · exact tallied.filed id message found
  · intro id member
    rw [Table.nextId_update]
    exact tallied.marked id member
  · intro id conversation found
    rw [Table.get?_update] at found
    split at found
    · next same =>
        subst same
        obtain ⟨old, before, rfl⟩ := Option.map_eq_some_iff.mp found
        have tallies := tallied.tallies target old before
        have here : (row.conversationId == target) = true := beq_iff_eq.mpr filed
        have isIn : row.isIn target = true := here
        have isInbound : row.isInboundIn target = inbound := by
          rw [MessageRow.isInboundIn, here, direction, Bool.true_and]
        have isUnread : row.isUnreadIn target = inbound := by
          rw [MessageRow.isUnreadIn, here, direction, read, Bool.true_and, Bool.not_not,
            Bool.and_self]
        constructor
        · rw [Table.count_insert, isIn, ← tallies.messageCount]
          rfl
        · rw [Table.count_insert, isUnread]
          have unread := tallies.unreadCount
          cases inbound with
          | true =>
              rw [if_neg (unmarked rfl)] at unread ⊢
              rw [← unread]
              rfl
          | false => exact unread
        · rw [latestOf_insert, isIn, if_pos rfl, ← tallies.lastMessageAt]
          rfl
        · rw [latestOf_insert, isInbound, ← tallies.lastInboundAt]
          rfl
    · next different =>
        have tallies := tallied.tallies id conversation found
        have elsewhere : (row.conversationId == id) = false := by
          rw [filed]
          exact beq_eq_false_iff_ne.mpr different
        have isIn : row.isIn id = false := elsewhere
        have isInbound : row.isInboundIn id = false := by
          rw [MessageRow.isInboundIn, elsewhere, Bool.false_and]
        have isUnread : row.isUnreadIn id = false := by
          rw [MessageRow.isUnreadIn, elsewhere, Bool.false_and, Bool.false_and]
        constructor
        · rw [Table.count_insert, isIn]
          exact tallies.messageCount
        · rw [Table.count_insert, isUnread]
          exact tallies.unreadCount
        · rw [latestOf_insert, isIn]
          exact tallies.lastMessageAt
        · rw [latestOf_insert, isInbound]
          exact tallies.lastInboundAt

theorem cleared (tallied : Tallied conversations messages marking) {target : Nat}
    (there : target < conversations.nextId) :
    Tallied (conversations.update target ({ · with unreadCount := 0 })) messages
      (target :: marking) := by
  constructor
  · intro id message found
    rw [Table.nextId_update]
    exact tallied.filed id message found
  · intro id member
    rw [Table.nextId_update]
    rcases List.mem_cons.mp member with rfl | before
    · exact there
    · exact tallied.marked id before
  · intro id conversation found
    rw [Table.get?_update] at found
    split at found
    · next same =>
        subst same
        obtain ⟨old, before, rfl⟩ := Option.map_eq_some_iff.mp found
        have tallies := tallied.tallies target old before
        refine ⟨tallies.messageCount, ?_, tallies.lastMessageAt, tallies.lastInboundAt⟩
        rw [if_pos List.mem_cons_self]
    · next different =>
        have tallies := tallied.tallies id conversation found
        refine ⟨tallies.messageCount, ?_, tallies.lastMessageAt, tallies.lastInboundAt⟩
        have others : id ∈ target :: marking ↔ id ∈ marking := by
          rw [List.mem_cons, or_iff_right (Ne.symm different)]
        simp only [others]
        exact tallies.unreadCount

theorem markedRead (tallied : Tallied conversations messages marking) {target : Nat}
    (cleared : target ∈ marking) :
    Tallied conversations
      (messages.updateWhere
        (fun _ message => message.conversationId == target && message.direction == .inbound)
        ({ · with isRead := true })) (marking.erase target) := by
  constructor
  · intro id message found
    rw [Table.get?_updateWhere, Option.map_eq_some_iff] at found
    obtain ⟨old, there, rfl⟩ := found
    have filed := tallied.filed id old there
    split <;> exact filed
  · exact fun id member => tallied.marked id (List.mem_of_mem_erase member)
  · intro id conversation found
    have tallies := tallied.tallies id conversation found
    constructor
    · refine tallies.messageCount.trans (Eq.symm (Table.count_updateWhere messages ?_))
      exact fun _ _ _ => rfl
    · by_cases same : id = target
      · subst same
        rw [tallies.unreadCount, if_pos cleared]
        split
        · rfl
        · -- Every row of the thread that came in is read now.
          refine (Table.count_eq_zero_iff.mpr fun other message there => ?_).symm
          rw [Table.get?_updateWhere, Option.map_eq_some_iff] at there
          obtain ⟨old, before, rfl⟩ := there
          rw [MessageRow.isUnreadIn]
          split
          · simp
          · next unwanted =>
              rw [Bool.eq_false_iff.mpr unwanted, Bool.false_and]
      · have others : id ∈ marking.erase target ↔ id ∈ marking := List.mem_erase_of_ne same
        have unseen : ∀ (other : Nat) (message : MessageRow),
            (message.conversationId == target && message.direction == .inbound) = true →
            MessageRow.isUnreadIn id { message with isRead := true } =
              message.isUnreadIn id := by
          intro other message wanted
          have here : message.conversationId = target :=
            eq_of_beq (Bool.and_eq_true_iff.mp wanted).1
          have elsewhere : (message.conversationId == id) = false := by
            rw [here]
            exact beq_eq_false_iff_ne.mpr (Ne.symm same)
          simp [MessageRow.isUnreadIn, elsewhere]
        rw [Table.count_updateWhere messages unseen]
        simp only [others]
        exact tallies.unreadCount
    · refine tallies.lastMessageAt.trans (Eq.symm (latestOf_updateWhere messages ?_ ?_))
      · exact fun _ => rfl
      · exact fun _ => rfl
    · refine tallies.lastInboundAt.trans (Eq.symm (latestOf_updateWhere messages ?_ ?_))
      · exact fun _ => rfl
      · exact fun _ => rfl

/-- A `markRead` that ends without its second statement, where there was nothing to mark or
another one is at work on the thread. -/
theorem givenUp (tallied : Tallied conversations messages marking) {target : Nat}
    (cleared : target ∈ marking)
    (settled : target ∉ marking.erase target → messages.count (·.isUnreadIn target) = 0) :
    Tallied conversations messages (marking.erase target) := by
  refine ⟨tallied.filed, fun id member => tallied.marked id (List.mem_of_mem_erase member), ?_⟩
  intro id conversation found
  have tallies := tallied.tallies id conversation found
  refine ⟨tallies.messageCount, ?_, tallies.lastMessageAt, tallies.lastInboundAt⟩
  by_cases same : id = target
  · subst same
    rw [tallies.unreadCount, if_pos cleared]
    split
    · rfl
    · next left => exact (settled left).symm
  · have others : id ∈ marking.erase target ↔ id ∈ marking := List.mem_erase_of_ne same
    simp only [others]
    exact tallies.unreadCount

end Tallied

/-! ### Transactions -/

def InboxStore.Tallied (store : InboxStore) : Prop :=
  Projection.Tallied store.inbox.conversations store.inbox.messages store.marking

def Joined (store : InboxStore) : InboxTransaction → List InboxLock → Prop
  | .deliver state, _ => ∀ id, state.conversation = some (.found id) →
      id < store.inbox.conversations.nextId
  | .reply _ _ _, _ | .clearBadge _, _ | .markRowsRead _, _ | .recordDelivery _ _ _ _, _ => True

/-- Whether a transaction is about to store a customer's message in a thread that a `markRead`
has cleared the badge of, and not yet the rows. -/
def InboxServer.slipsIn (server : InboxServer) (id : Nat) : Bool :=
  match server.transactions.get? id with
  | some (some ⟨.deliver state, _⟩) =>
      state.step == .commit && state.delivery.isIncoming && state.written == some .inserted &&
        server.store.marking.any fun conversationId =>
          state.conversation == some (.found conversationId)
  | _ => false

/-- Whether a `markRead` is about to end without its second statement, in a thread that has
unread messages and that no other `markRead` has cleared the badge of. -/
def InboxServer.leavesUnread (server : InboxServer) (id : Nat) (choice : InboxChoice) : Bool :=
  match server.transactions.get? id with
  | some (some ⟨.markRowsRead conversationId, _⟩) =>
      choice.fails && server.store.marking.contains conversationId &&
        !(server.store.marking.erase conversationId).contains conversationId &&
          server.store.inbox.messages.count (·.isUnreadIn conversationId) != 0
  | _ => false

/-- No customer's message is stored in a thread between the two statements of a `markRead`, and
none gives up between them while the thread has unread messages. -/
def Unhurried (server : InboxServer) : InboxTurn → Prop
  | .begins state => state.isOpening = true
  | .advances id choice => server.slipsIn id = false ∧ server.leavesUnread id choice = false

instance (server : InboxServer) : (turn : InboxTurn) → Decidable (Unhurried server turn)
  | .begins state => inferInstanceAs (Decidable (state.isOpening = true))
  | .advances id choice => inferInstanceAs
      (Decidable (server.slipsIn id = false ∧ server.leavesUnread id choice = false))

theorem stamped_digest (message : MessageRow) (platformMessageId : String) (now : Int) :
    (message.stamped platformMessageId now).digest = message.digest := rfl

theorem publishAdoption_digest (adopted : List Nat) (parentId : Nat) (inbox : Inbox) :
    (inbox.publishAdoption adopted parentId).messages.rows.map MessageRow.digest =
      inbox.messages.rows.map MessageRow.digest := by
  refine Table.map_updateWhere inbox.messages ?_
  exact fun _ _ _ => rfl

theorem publish_tallied {inbox : Inbox} {marking : List Nat}
    (tallied : Tallied inbox.conversations inbox.messages marking) (state : DeliveryState)
    (customer : Entry CustomerResolution) {conversation : Entry Nat}
    (there : ∀ id, conversation = .found id → id < inbox.conversations.nextId)
    (unmarked : ∀ id, state.delivery.isIncoming = true → state.written = some .inserted →
      conversation = .found id → id ∉ marking) :
    Tallied (state.publish customer conversation inbox).conversations
        (state.publish customer conversation inbox).messages marking ∧
      inbox.conversations.nextId ≤
        (state.publish customer conversation inbox).conversations.nextId := by
  have messages := state.publishEntry_messages customer conversation inbox
  have threads := state.publishEntry_conversations customer conversation inbox
  -- Joining a thread, or opening one, leaves everything tallied.
  have entered : Tallied (state.publishEntry customer conversation inbox).2.2.conversations
        (state.publishEntry customer conversation inbox).2.2.messages marking ∧
      inbox.conversations.nextId ≤
        (state.publishEntry customer conversation inbox).2.2.conversations.nextId ∧
      (state.publishEntry customer conversation inbox).2.1.id <
        (state.publishEntry customer conversation inbox).2.2.conversations.nextId ∧
      (state.delivery.isIncoming = true → state.written = some .inserted →
        (state.publishEntry customer conversation inbox).2.1.id ∉ marking) := by
    rw [messages]
    cases conversation with
    | found id =>
        obtain ⟨joined, conversations⟩ := threads
        rw [conversations, joined, Table.nextId_update]
        refine ⟨tallied.changed id fun _ => ⟨rfl, rfl, rfl, rfl⟩, Nat.le_refl _, there id rfl, ?_⟩
        exact fun incoming inserted => unmarked id incoming inserted rfl
    | added =>
        obtain ⟨joined, conversations⟩ := threads
        rw [conversations, joined, Table.nextId_insert]
        refine ⟨tallied.opened _, Nat.le_succ _, Nat.lt_succ_self _, ?_⟩
        exact fun _ _ member => Nat.lt_irrefl _ (tallied.marked _ member)
  unfold DeliveryState.publish
  generalize state.publishEntry customer conversation inbox = published at entered ⊢
  obtain ⟨resolved, joined, current⟩ := published
  obtain ⟨entered, grown, thread, fresh⟩ := entered
  dsimp only at entered grown thread fresh ⊢
  cases written : state.written with
  | none => exact ⟨entered, grown⟩
  | some way =>
      cases way with
      | stamped id =>
          refine ⟨entered.digested ?_, grown⟩
          rw [publishAdoption_digest]
          refine Table.map_update current.messages ?_ id
          exact fun message => stamped_digest message ..
      | inserted =>
          dsimp only
          rw [Delivery.count_conversations, Delivery.count_messages, Table.nextId_update]
          refine ⟨Tallied.digested ?_ (publishAdoption_digest ..), grown⟩
          rw [← state.delivery.row_occurredAt resolved.customerId joined.id state.parentMessageId]
          exact entered.recorded (Delivery.row_conversationId ..) thread
            (Delivery.row_direction ..) (Delivery.row_isRead ..)
            fun incoming => fresh incoming written

theorem reply_tallied {inbox : Inbox} {marking : List Nat}
    (tallied : Tallied inbox.conversations inbox.messages marking) (input : ReplyInput)
    (now : Int) :
    Tallied (inbox.reply input now).conversations (inbox.reply input now).messages marking ∧
      (inbox.reply input now).conversations.nextId = inbox.conversations.nextId := by
  unfold Inbox.reply
  split
  · exact ⟨tallied, rfl⟩
  · next conversation found =>
      split
      · exact ⟨tallied, rfl⟩
      · rw [recordEngagement_conversations, recordEngagement_messages]
        refine ⟨?_, Table.nextId_update ..⟩
        exact tallied.recorded (rfl : (input.row conversation now).conversationId = _)
          (Table.get?_lt found) rfl rfl nofun

theorem recordDelivery_tallied {inbox : Inbox} {marking : List Nat}
    (tallied : Tallied inbox.conversations inbox.messages marking) (messageId : Nat)
    (platformMessageId : Option String) (status : Outbound.MessageStatus) (now : Int) :
    Tallied (inbox.recordDelivery messageId platformMessageId status now).conversations
        (inbox.recordDelivery messageId platformMessageId status now).messages marking ∧
      (inbox.recordDelivery messageId platformMessageId status now).conversations =
        inbox.conversations := by
  unfold Inbox.recordDelivery
  split
  · exact ⟨tallied, rfl⟩
  · split
    · exact ⟨tallied, rfl⟩
    · refine ⟨tallied.digested (Table.map_update inbox.messages ?_ messageId), rfl⟩
      exact fun _ => rfl

theorem commit_tallied {store next : InboxStore} {choice : InboxChoice}
    {state : InboxTransaction} {locks : List InboxLock} (tallied : store.Tallied) (joined : Joined store state locks)
    (unhurried : ∀ delivering conversationId, state = .deliver delivering →
      delivering.step = .commit → delivering.delivery.isIncoming = true →
      delivering.written = some .inserted →
      delivering.conversation = some (.found conversationId) → conversationId ∉ store.marking)
    (settled : ∀ conversationId, state = .markRowsRead conversationId → choice.fails = true →
      conversationId ∈ store.marking → conversationId ∉ store.marking.erase conversationId →
      store.inbox.messages.count (·.isUnreadIn conversationId) = 0)
    (commits : Commits choice store state next) :
    next.Tallied ∧ store.inbox.conversations.nextId ≤ next.inbox.conversations.nextId := by
  cases commits with
  | @delivers delivering at_ customer _ conversation found =>
      refine publish_tallied tallied delivering customer ?_ ?_
      · exact fun id same => joined id (by rw [found, same])
      · exact fun id incoming inserted same =>
          unhurried delivering id rfl at_ incoming inserted (by rw [found, same])
  | replies input now =>
      obtain ⟨kept, same⟩ := reply_tallied tallied input now
      exact ⟨kept, Nat.le_of_eq same.symm⟩
  | clears there => exact ⟨tallied.cleared there, Nat.le_of_eq (Table.nextId_update ..).symm⟩
  | reads cleared => exact ⟨tallied.markedRead cleared, Nat.le_refl _⟩
  | givesUp fails cleared =>
      exact ⟨tallied.givenUp cleared (settled _ rfl fails cleared), Nat.le_refl _⟩
  | records _ messageId platformMessageId status now =>
      obtain ⟨kept, same⟩ :=
        recordDelivery_tallied tallied messageId platformMessageId status now
      exact ⟨kept, Nat.le_of_eq (congrArg Table.nextId same.symm)⟩

theorem tallied_turn {server : InboxServer} {turn : InboxTurn}
    (keeps : server.Keeps InboxStore.Tallied Joined) (unhurried : Unhurried server turn) :
    (server.turn inboxTransactions turn).Keeps InboxStore.Tallied Joined := by
  cases turn with
  | begins state =>
      refine keeps.begin ?_
      cases state with
      | deliver state =>
          intro id joined
          rw [DeliveryState.opening_of_isOpening unhurried] at joined
          contradiction
      | reply _ _ _ => trivial
      | clearBadge _ => trivial
      | markRowsRead _ => trivial
      | recordDelivery _ _ _ _ => trivial
  | advances id choice =>
      refine keeps.advance_of ?_ ?_
      · intro running next found result
        have ready := keeps.transactions id running found
        obtain ⟨state, locks⟩ := running
        cases (inboxTransactions_continues result).2 with
        | replies _ _ _ _ => trivial
        | delivers decided =>
            cases decided with
            | joins _ stored there =>
                intro id joined
                cases joined
                exact Table.get?_lt (Table.find?_some there).1
            | opens _ _ => exact nofun
            | _ => exact ready
      · intro running next found result
        have ready := keeps.transactions id running found
        obtain ⟨state, locks⟩ := running
        have apart : ∀ delivering conversationId, state = .deliver delivering →
            delivering.step = .commit → delivering.delivery.isIncoming = true →
            delivering.written = some .inserted →
            delivering.conversation = some (.found conversationId) →
            conversationId ∉ server.store.marking := by
          rintro delivering conversationId rfl at_ incoming inserted joined member
          have slips : server.slipsIn id = true := by
            unfold InboxServer.slipsIn
            rw [found]
            simp only [at_, incoming, inserted, joined, beq_self_eq_true, Bool.and_self,
              Bool.true_and, List.any_eq_true, beq_iff_eq, Option.some.injEq, Entry.found.injEq]
            exact ⟨conversationId, member, rfl⟩
          exact absurd (unhurried.1.symm.trans slips) Bool.false_ne_true
        have settled : ∀ conversationId, state = .markRowsRead conversationId →
            choice.fails = true → conversationId ∈ server.store.marking →
            conversationId ∉ server.store.marking.erase conversationId →
            server.store.inbox.messages.count (·.isUnreadIn conversationId) = 0 := by
          rintro conversationId rfl fails cleared last
          have patient := unhurried.2
          simp only [InboxServer.leavesUnread, found, fails,
            List.contains_iff_mem.mpr cleared, Bool.true_and] at patient
          rw [Bool.eq_false_iff.mpr (fun more => last (List.contains_iff_mem.mp more))] at patient
          simpa using patient
        obtain ⟨kept, grown⟩ :=
          commit_tallied keeps.store ready apart settled (inboxTransactions_commits result)
        refine ⟨kept, fun other waiting _ there _ => ?_⟩
        have waits := keeps.transactions other waiting there
        obtain ⟨state, locks⟩ := waiting
        cases state with
        | deliver state => exact fun id joined => Nat.lt_of_lt_of_le (waits id joined) grown
        | reply _ _ _ => trivial
        | clearBadge _ => trivial
        | markRowsRead _ => trivial
        | recordDelivery _ _ _ _ => trivial

/-- In every order of the statements of any number of projections, replies, notes, write-backs
and reads, where no customer's message is stored in a thread between the two statements of a
`markRead` and none gives up there with messages unread, the counters of every thread that no
`markRead` is in the middle of say what its rows say. -/
theorem counters_summarise {script : List InboxTurn}
    (unhurried : Server.Permits inboxTransactions Unhurried (.idle .empty) script)
    {id : Nat} {conversation : ConversationRow}
    (found : ((Server.idle .empty).turns inboxTransactions script).store.inbox.conversations.get?
      id = some conversation)
    (unmarked : id ∉ ((Server.idle .empty).turns inboxTransactions script).store.marking) :
    Summarises ((Server.idle .empty).turns inboxTransactions script).store.inbox.messages id
      conversation := by
  have start : Server.Keeps InboxStore.Tallied Joined (Server.idle .empty) :=
    .idle Tallied.empty
  have kept := unhurried.keeps _ (fun _ _ keeps allowed => tallied_turn keeps allowed) start
  have tallies := kept.store.tallies id conversation found
  refine ⟨tallies.messageCount, ?_, tallies.lastMessageAt, tallies.lastInboundAt⟩
  rw [tallies.unreadCount, if_neg unmarked]

/-! ### A message between the two statements -/

def firstMessage : List InboxTurn :=
  .begins (.deliver (.opening (greeting "m1" 1 none) 1)) :: statements 0 13

def messageWhileReading : List InboxTurn :=
  firstMessage ++ .begins (.clearBadge 0) :: statements 1 1 ++
    .begins (.deliver (.opening (greeting "m2" 2 none) 2)) :: statements 2 13 ++
      .begins (.markRowsRead 0) :: statements 3 1

def readGivenUp : List InboxTurn :=
  firstMessage ++ .begins (.clearBadge 0) :: statements 1 1 ++
    [.begins (.markRowsRead 0), .advances 2 ⟨[], true⟩]

/-- The badge is empty beside a message that is unread. -/
example :
    let server := (Server.idle .empty).turns inboxTransactions readGivenUp
    server.isQuiet = true ∧ server.store.marking = [] ∧
      (server.store.inbox.conversations.get? 0).map (·.unreadCount) = some 0 ∧
      server.store.inbox.messages.count (·.isUnreadIn 0) = 1 := by
  decide +kernel

def Opens (_ : InboxServer) : InboxTurn → Prop
  | .begins state => state.isOpening = true
  | .advances _ _ => True

instance (server : InboxServer) : (turn : InboxTurn) → Decidable (Opens server turn)
  | .begins state => inferInstanceAs (Decidable (state.isOpening = true))
  | .advances _ _ => inferInstanceAs (Decidable True)

/-- The badge shows a message that is read. -/
theorem messageWhileReading_counted : ¬∀ (script : List InboxTurn),
    Server.Permits inboxTransactions Opens (.idle .empty) script →
    ((Server.idle .empty).turns inboxTransactions script).isQuiet = true →
    ((Server.idle .empty).turns inboxTransactions script).store.marking = [] →
    ∀ id conversation,
      ((Server.idle .empty).turns inboxTransactions script).store.inbox.conversations.get? id =
        some conversation →
      Summarises ((Server.idle .empty).turns inboxTransactions script).store.inbox.messages id
        conversation := by
  intro always
  have there : (((Server.idle .empty).turns inboxTransactions
      messageWhileReading).store.inbox.conversations.get? 0).map (·.unreadCount) = some 1 := by
    decide +kernel
  obtain ⟨conversation, found, badge⟩ := Option.map_eq_some_iff.mp there
  have summarises := always messageWhileReading (by decide +kernel) (by decide +kernel)
    (by decide +kernel) 0 conversation found
  have read : ((Server.idle .empty).turns inboxTransactions
      messageWhileReading).store.inbox.messages.count (·.isUnreadIn 0) = 0 := by decide +kernel
  rw [summarises.unreadCount, read] at badge
  exact absurd badge Nat.zero_ne_one

theorem counters_summarise_first : ∃ conversation,
    ((Server.idle .empty).turns inboxTransactions firstMessage).store.inbox.conversations.get? 0 =
        some conversation ∧
      Summarises ((Server.idle .empty).turns inboxTransactions firstMessage).store.inbox.messages 0
        conversation := by
  have there : (((Server.idle .empty).turns inboxTransactions
      firstMessage).store.inbox.conversations.get? 0).isSome = true := by decide +kernel
  obtain ⟨conversation, found⟩ := Option.isSome_iff_exists.mp there
  exact ⟨conversation, found,
    counters_summarise (by decide +kernel) found (by decide +kernel)⟩

end UnifiedService.Projection
