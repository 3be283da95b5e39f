import UnifiedService.Projection.MarkProperties
import UnifiedService.Projection.ThreadProperties

/-! A message projected again. The customer and the thread are upserted before the duplicate
is found, in the transaction that then commits. -/

set_option autoImplicit false

namespace UnifiedService.Projection

open UnifiedService.Library
open UnifiedService.Outbound (Platform ConversationKind truthy)
open UnifiedService.Inbound (ProjectionContext ProjectionOutcome)

theorem composeThreadKey_direct {kind : ConversationKind} {platformId senderId : String}
    (same : composeThreadKey kind platformId = composeThreadKey .directMessage senderId) :
    kind = .directMessage ∧ platformId = senderId := by
  have letters := congrArg String.toList same
  unfold composeThreadKey at letters
  cases kind with
  | directMessage =>
      simp only [threadKeyPrefix, String.toList_append, List.append_assoc,
        List.append_cancel_left_eq] at letters
      exact ⟨rfl, String.toList_inj.mp letters⟩
  | commentThread => simp [threadKeyPrefix] at letters
  | mention => simp [threadKeyPrefix] at letters
  | review => simp [threadKeyPrefix] at letters

/-! ### Statements that find what they are for -/

section Statements

variable {channels : Channels} {inbox : Inbox}

theorem resolveOrCreate_of_identified {input : CreateCustomerInput}
    (identified : Identified inbox.identifiers input.key) (now : Int) :
    ∃ existing : CustomerResolution, existing.created = false ∧
      inbox.resolveOrCreate input now =
        (existing, { inbox with
          customers := inbox.customers.update existing.customerId (·.named input.displayName) }) := by
  obtain ⟨id, identifier, found, same⟩ := identified
  have present : (inbox.identifiers.find? (·.key == input.key)).isSome = true :=
    (Table.find?_isSome_iff _).mpr ⟨id, identifier, found, beq_iff_eq.mpr same⟩
  obtain ⟨stored, first⟩ := Option.isSome_iff_exists.mp present
  refine ⟨⟨stored.row.customerId, stored.id, false⟩, rfl, ?_⟩
  unfold Inbox.resolveOrCreate Inbox.findByIdentifier
  rw [first]
  rfl

theorem upsert_of_thread (threaded : Threaded channels inbox) {id : Nat}
    {conversation : ConversationRow} (found : inbox.conversations.get? id = some conversation)
    {input : UpsertConversationInput} (same : conversation.thread = input.thread) :
    inbox.upsert input = (⟨id, false⟩,
      { inbox with conversations := inbox.conversations.update id (·.joined input) }) := by
  have present : (inbox.conversations.find? (·.thread == input.thread)).isSome = true :=
    (Table.find?_isSome_iff _).mpr ⟨id, conversation, found, beq_iff_eq.mpr same⟩
  obtain ⟨stored, first⟩ := Option.isSome_iff_exists.mp present
  obtain ⟨there, thread⟩ := Table.find?_some first
  have one := threaded.unique stored.id id _ _ there found ((eq_of_beq thread).trans same.symm)
  unfold Inbox.upsert
  rw [first, ← one]

/-- Joining a thread of direct messages changes at most its status. -/
theorem joined_direct (conversation : ConversationRow) {input : UpsertConversationInput}
    (subject : input.subject = none) (post : input.postId = none) :
    conversation.joined input =
      { conversation with
        status := if conversation.status.isDone then .open_ else conversation.status } := by
  unfold ConversationRow.joined
  rw [subject, post]
  rfl

theorem Threaded.identified (threaded : Threaded channels inbox) {id : Nat}
    {conversation : ConversationRow} (found : inbox.conversations.get? id = some conversation)
    {senderId : String} (key : conversation.platformThreadId =
      composeThreadKey .directMessage senderId) :
    Identified inbox.identifiers
      (conversation.enterpriseId, platformIdentifierKind conversation.platform, senderId) := by
  obtain ⟨_, platformId, composed, identified⟩ := threaded.keyed id conversation found
  rw [key] at composed
  obtain ⟨direct, rfl⟩ := composeThreadKey_direct composed.symm
  exact identified direct

end Statements

/-! ### What a duplicate leaves -/

/-- What resolving a known customer may change: a name they lack is filled in, and a handle
nobody has is linked. -/
structure Learns (before after : Inbox) (displayName username : Option String) : Prop where
  customers : ∃ customerId,
    after.customers = before.customers.update customerId (·.named displayName)
  identifiers : after.identifiers = before.identifiers ∨
    ∃ identifier, after.identifiers = before.identifiers.insert identifier ∧
      identifier.identifierKind = .instagramUsername ∧ identifier.isPrimary = false ∧
      truthy username = some identifier.identifierValue
  engagements : after.engagements = before.engagements
  messages : after.messages = before.messages
  posts : after.posts = before.posts
  jobs : after.jobs = before.jobs

/-- What a duplicate may change beside: the status of its thread, if that is done. -/
structure Reprojected (before after : Inbox) (conversationId : Nat)
    (conversation : ConversationRow) (displayName username : Option String) : Prop where
  learns : Learns before after displayName username
  undone : conversation.status.isDone = false → after.conversations = before.conversations
  conversations : ∃ status, after.conversations =
    before.conversations.update conversationId ({ · with status := status })

section Reprojected

variable {inbox : Inbox} {id : Nat} {conversation : ConversationRow}

theorem rejoined (found : inbox.conversations.get? id = some conversation)
    {input : UpsertConversationInput} (subject : input.subject = none)
    (post : input.postId = none) :
    (conversation.status.isDone = false →
        inbox.conversations.update id (·.joined input) = inbox.conversations) ∧
      ∃ status, inbox.conversations.update id (·.joined input) =
        inbox.conversations.update id ({ · with status := status }) := by
  rw [Table.update_eq_const _ found, joined_direct conversation subject post]
  constructor
  · intro undone
    have still := Table.update_eq_const (fun row : ConversationRow => row) found
    rw [Table.update_id] at still
    rw [undone]
    exact still.symm
  · have opened := Table.update_eq_const (fun row : ConversationRow =>
      { row with
        status := if conversation.status.isDone then .open_ else conversation.status }) found
    exact ⟨_, opened.symm⟩

theorem Incoming.resolve_learns {incoming : Incoming}
    (identified : Identified inbox.identifiers incoming.customer.key) (now : Int) :
    Learns inbox (incoming.resolve now inbox).2 incoming.displayName incoming.username := by
  obtain ⟨existing, old, resolved⟩ := resolveOrCreate_of_identified identified now
  unfold Incoming.resolve
  rw [resolved]
  dsimp only
  rw [old, Bool.false_and, if_neg Bool.false_ne_true]
  split
  · next username _ handle =>
      unfold Inbox.linkIdentifier
      split
      · exact ⟨⟨existing.customerId, rfl⟩, .inl rfl, rfl, rfl, rfl, rfl⟩
      · exact ⟨⟨existing.customerId, rfl⟩, .inr ⟨_, rfl, rfl, rfl, handle⟩, rfl, rfl, rfl, rfl⟩
  · exact ⟨⟨existing.customerId, rfl⟩, .inl rfl, rfl, rfl, rfl, rfl⟩

theorem Threaded.person {channels : Channels} (threaded : Threaded channels inbox)
    (found : inbox.conversations.get? id = some conversation) {enterpriseId channelId : Nat}
    {platform : Platform} {senderId : String}
    (known : channels channelId = (enterpriseId, platform))
    (thread : conversation.thread = (channelId, composeThreadKey .directMessage senderId)) :
    Identified inbox.identifiers (enterpriseId, platformIdentifierKind platform, senderId) := by
  obtain ⟨channel, key⟩ := Prod.mk.inj thread
  have same := (threaded.keyed id conversation found).known
  rw [channel, known] at same
  obtain ⟨enterprise, issued⟩ := Prod.mk.inj same
  have person := threaded.identified found key
  rwa [← enterprise, ← issued] at person

theorem Incoming.reprojected {channels : Channels} (threaded : Threaded channels inbox)
    (found : inbox.conversations.get? id = some conversation) {incoming : Incoming}
    (known : channels incoming.channelId = (incoming.enterpriseId, incoming.platform))
    (thread : conversation.thread =
      (incoming.channelId, composeThreadKey .directMessage incoming.senderId))
    (held : (inbox.findIdByPlatformMessageId incoming.enterpriseId incoming.mid).isSome = true)
    (now : Int) :
    Reprojected inbox (incoming.project now inbox).1 id conversation incoming.displayName
      incoming.username := by
  have learns := Incoming.resolve_learns (threaded.person found known thread) now
  have again : (incoming.resolve now inbox).2.upsert
      (incoming.thread (incoming.resolve now inbox).1) = (⟨id, false⟩,
        { (incoming.resolve now inbox).2 with
          conversations := inbox.conversations.update id
            (·.joined (incoming.thread (incoming.resolve now inbox).1)) }) := by
    rw [upsert_of_thread (threaded.frame (incoming.resolve_frame inbox now))
      (by rw [incoming.resolve_conversations]; exact found) thread,
      incoming.resolve_conversations]
  obtain ⟨undone, reopened⟩ := rejoined found
    (rfl : (incoming.thread (incoming.resolve now inbox).1).subject = none) rfl
  rw [incoming.project_of_held inbox now held, Incoming.enter, again]
  exact ⟨⟨learns.customers, learns.identifiers, learns.engagements, learns.messages,
    learns.posts, learns.jobs⟩, undone, reopened⟩

theorem Echoed.reprojected {channels : Channels} (threaded : Threaded channels inbox)
    (found : inbox.conversations.get? id = some conversation) {echoed : Echoed}
    (known : channels echoed.channelId = (echoed.enterpriseId, echoed.platform))
    (thread : conversation.thread =
      (echoed.channelId, composeThreadKey .directMessage echoed.customerScopedId))
    (held : (inbox.findIdByPlatformMessageId echoed.enterpriseId echoed.mid).isSome = true)
    (now : Int) :
    Reprojected inbox (echoed.project now inbox).1 id conversation none none := by
  have person : Identified inbox.identifiers echoed.customer.key :=
    threaded.person found known thread
  obtain ⟨existing, old, resolved⟩ := resolveOrCreate_of_identified person now
  have again : (inbox.resolveOrCreate echoed.customer now).2.upsert
      (echoed.thread (inbox.resolveOrCreate echoed.customer now).1) = (⟨id, false⟩,
        { (inbox.resolveOrCreate echoed.customer now).2 with
          conversations := inbox.conversations.update id
            (·.joined (echoed.thread (inbox.resolveOrCreate echoed.customer now).1)) }) := by
    rw [upsert_of_thread (threaded.frame (resolveOrCreate_frame inbox now echoed.customer))
      (by rw [resolveOrCreate_conversations]; exact found) thread,
      resolveOrCreate_conversations]
  obtain ⟨undone, reopened⟩ := rejoined found
    (rfl : (echoed.thread (inbox.resolveOrCreate echoed.customer now).1).subject = none) rfl
  rw [echoed.project_of_held inbox now held, Echoed.enter, again, resolved]
  rw [resolved] at undone reopened
  exact ⟨⟨⟨existing.customerId, rfl⟩, .inl rfl, rfl, rfl, rfl, rfl⟩, undone, reopened⟩

end Reprojected

/-! ### Events -/

namespace Arrival

variable (normalizeText : String → String) (arrival : Arrival)

def isEcho : Bool := arrival.event.body.any EventMessage.isEcho

def otherSide : Option String :=
  match arrival.event.about, arrival.event.body with
  | .message mid, some message =>
      if message.isEcho then
        (DirectMessageProjectorService.echoed arrival.context arrival.event message mid).map
          Echoed.customerScopedId
      else truthy (arrival.event.sender.bind EventSender.id)
  | _, _ => none

def displayName : Option String :=
  if arrival.isEcho then none
  else
    DirectMessageProjectorService.normalizeOptionalText normalizeText
      (arrival.event.sender.bind EventSender.name)

def username : Option String :=
  if arrival.isEcho then none else arrival.event.sender.bind EventSender.username

end Arrival

/-- What is projected again of a reachable inbox leaves the messages, the engagements and
every thread that is not done as they are, and of its customer learns a name that is missing
and a handle. -/
theorem projected_again (normalizeText : String → String) {channels : Channels}
    {calls : List InboxCall} (known : ∀ call ∈ calls, call.Known channels) {arrival : Arrival}
    (channel : ProjectionContext.known channels arrival.context) {mid senderId : String}
    (message : arrival.event.about = .message mid) (other : arrival.otherSide = some senderId)
    {stored : Stored MessageRow}
    (isHeld : held arrival.context.enterpriseId mid
      (InboxCall.applyAll normalizeText calls).messages = some stored)
    {conversation : ConversationRow}
    (found : (InboxCall.applyAll normalizeText calls).conversations.get?
      stored.row.conversationId = some conversation)
    (thread : conversation.thread =
      (arrival.context.channelId, composeThreadKey .directMessage senderId)) :
    Reprojected (InboxCall.applyAll normalizeText calls)
      (arrival.project normalizeText (InboxCall.applyAll normalizeText calls))
      stored.row.conversationId conversation (arrival.displayName normalizeText)
      arrival.username := by
  have threaded : Threaded channels (InboxCall.applyAll normalizeText calls) :=
    calls_threaded normalizeText known (threaded_empty channels)
  generalize InboxCall.applyAll normalizeText calls = inbox at *
  have isKnown : (inbox.findIdByPlatformMessageId arrival.context.enterpriseId mid).isSome =
      true := by
    rw [findId_eq_held, isHeld]
    rfl
  unfold Arrival.project
  rw [project_eq, message]
  unfold Arrival.otherSide at other
  unfold Arrival.displayName Arrival.username Arrival.isEcho
  rw [message] at other
  cases body : arrival.event.body with
  | none =>
      rw [body] at other
      contradiction
  | some event =>
      rw [body] at other
      dsimp only [Option.any_some] at other ⊢
      unfold DirectMessageProjectorService.projectMessage
      by_cases echo : event.isEcho = true
      · rw [if_pos echo] at other
        rw [if_pos echo, if_pos echo, if_pos echo]
        obtain ⟨echoed, built, rfl⟩ := Option.map_eq_some_iff.mp other
        rw [built]
        unfold DirectMessageProjectorService.echoed at built
        rw [Option.bind_eq_some_iff] at built
        obtain ⟨customer, _, built⟩ := built
        split at built
        · contradiction
        · obtain rfl := Option.some.inj built
          refine Echoed.reprojected threaded found ?_ ?_ ?_ arrival.now
          · exact channel
          · exact thread
          · exact isKnown
      · rw [if_neg echo] at other
        rw [if_neg echo, if_neg echo, if_neg echo, other]
        exact @Incoming.reprojected inbox _ conversation channels threaded found
          (DirectMessageProjectorService.incoming normalizeText arrival.context arrival.event event
            mid senderId) channel thread isKnown arrival.now

/-! ### A copy that brings a name -/

def liveHello : InboxCall :=
  .project .directMessage ⟨1, 7, .instagram, 0, ["page"], 1⟩ (.messaging helloDelivered.event) 1
    ⟨.unknown, false, false⟩

def recoveredHello : Arrival :=
  { helloDelivered with
    context := ⟨1, 7, .instagram, 1, ["page"], 1⟩
    event :=
      { helloDelivered.event with
        sender := some ⟨some "u1", some "Ann", none⟩
        recovered := true }
    now := 2 }

theorem liveHello_known : ∀ call ∈ [liveHello], call.Known fun _ => (1, .instagram) := by
  intro call member
  rw [List.mem_singleton.mp member]
  rfl

theorem liveHello_stored : ∃ stored conversation,
    held 1 "m1" (InboxCall.applyAll (fun text => text) [liveHello]).messages = some stored ∧
      (InboxCall.applyAll (fun text => text) [liveHello]).conversations.get?
        stored.row.conversationId = some conversation ∧
      conversation.thread = (7, composeThreadKey .directMessage "u1") := by
  have ids : (held 1 "m1" (InboxCall.applyAll (fun text => text) [liveHello]).messages).map
      (·.row.conversationId) = some 0 := by decide +kernel
  obtain ⟨stored, isHeld, first⟩ := Option.map_eq_some_iff.mp ids
  have threads : ((InboxCall.applyAll (fun text => text) [liveHello]).conversations.get? 0).map
      ConversationRow.thread = some (7, composeThreadKey .directMessage "u1") := by decide +kernel
  obtain ⟨conversation, found, thread⟩ := Option.map_eq_some_iff.mp threads
  exact ⟨stored, conversation, isHeld, by rw [first]; exact found, thread⟩

/-- The copy is by design not without effect: the customer had no name. -/
theorem recoveredHello_names : ¬∀ (normalizeText : String → String) (channels : Channels)
    (calls : List InboxCall) (arrival : Arrival) (mid senderId : String)
    (stored : Stored MessageRow) (conversation : ConversationRow),
    (∀ call ∈ calls, call.Known channels) →
    ProjectionContext.known channels arrival.context →
    arrival.event.about = .message mid → arrival.otherSide = some senderId →
    held arrival.context.enterpriseId mid (InboxCall.applyAll normalizeText calls).messages =
      some stored →
    (InboxCall.applyAll normalizeText calls).conversations.get? stored.row.conversationId =
      some conversation →
    conversation.thread =
      (arrival.context.channelId, composeThreadKey .directMessage senderId) →
    (arrival.project normalizeText (InboxCall.applyAll normalizeText calls)).conversations =
        (InboxCall.applyAll normalizeText calls).conversations ∧
      (arrival.project normalizeText (InboxCall.applyAll normalizeText calls)).customers =
        (InboxCall.applyAll normalizeText calls).customers ∧
      (arrival.project normalizeText (InboxCall.applyAll normalizeText calls)).identifiers =
        (InboxCall.applyAll normalizeText calls).identifiers ∧
      (arrival.project normalizeText (InboxCall.applyAll normalizeText calls)).engagements =
        (InboxCall.applyAll normalizeText calls).engagements ∧
      (arrival.project normalizeText (InboxCall.applyAll normalizeText calls)).messages =
        (InboxCall.applyAll normalizeText calls).messages := by
  intro unchanged
  obtain ⟨stored, conversation, isHeld, found, thread⟩ := liveHello_stored
  obtain ⟨_, customers, _⟩ := unchanged (fun text => text) (fun _ => (1, .instagram)) [liveHello]
    recoveredHello "m1" "u1" stored conversation liveHello_known rfl (by decide) (by decide)
    isHeld found thread
  have named : ¬(recoveredHello.project (fun text => text)
      (InboxCall.applyAll (fun text => text) [liveHello])).customers =
        (InboxCall.applyAll (fun text => text) [liveHello]).customers := by decide +kernel
  exact named customers

theorem projected_again_recovered : ∃ stored conversation,
    held 1 "m1" (InboxCall.applyAll (fun text => text) [liveHello]).messages = some stored ∧
      Reprojected (InboxCall.applyAll (fun text => text) [liveHello])
        (recoveredHello.project (fun text => text)
          (InboxCall.applyAll (fun text => text) [liveHello]))
        stored.row.conversationId conversation (some "Ann") none := by
  obtain ⟨stored, conversation, isHeld, found, thread⟩ := liveHello_stored
  refine ⟨stored, conversation, isHeld, ?_⟩
  exact @projected_again (fun text => text) (fun _ => (1, .instagram)) [liveHello]
    liveHello_known recoveredHello rfl "m1" "u1" (by decide) (by decide) stored isHeld
    conversation found thread

end UnifiedService.Projection
