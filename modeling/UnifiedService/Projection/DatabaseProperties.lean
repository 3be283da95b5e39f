import UnifiedService.Projection.Comments

/-! What each statement of the inbox leaves as it was. -/

set_option autoImplicit false

namespace UnifiedService.Projection

open UnifiedService.Library

variable (inbox : Inbox) (now : Int)

/-! ### Statements that leave the messages -/

@[simp] theorem resolveOrCreate_messages (input : CreateCustomerInput) :
    (inbox.resolveOrCreate input now).2.messages = inbox.messages := by
  unfold Inbox.resolveOrCreate
  split <;> rfl

@[simp] theorem linkIdentifier_messages (enterpriseId customerId : Nat) (kind : IdentifierKind)
    (value : String) :
    (inbox.linkIdentifier enterpriseId customerId kind value).messages = inbox.messages := by
  unfold Inbox.linkIdentifier
  split <;> rfl

@[simp] theorem upsert_messages (input : UpsertConversationInput) :
    (inbox.upsert input).2.messages = inbox.messages := by
  unfold Inbox.upsert
  split <;> rfl

@[simp] theorem recordMessage_messages (conversationId : Nat) (inbound : Bool)
    (occurredAt : Int) :
    (inbox.recordMessage conversationId inbound occurredAt).messages = inbox.messages := rfl

@[simp] theorem touchLastSeen_messages (customerId channelId : Nat) :
    (inbox.touchLastSeen customerId channelId now).messages = inbox.messages := rfl

@[simp] theorem recordEngagement_messages (input : EngagementInput) :
    (inbox.recordEngagement input now).messages = inbox.messages := by
  unfold Inbox.recordEngagement
  split <;> rfl

@[simp] theorem upsertPost_messages (post : PostRow) :
    (inbox.upsertPost post).messages = inbox.messages := by
  unfold Inbox.upsertPost
  split <;> rfl

@[simp] theorem Incoming.resolve_messages (incoming : Incoming) :
    (incoming.resolve now inbox).2.messages = inbox.messages := by
  unfold Incoming.resolve
  dsimp only
  split
  · rw [linkIdentifier_messages]
    split <;> exact resolveOrCreate_messages ..
  · dsimp only
    split <;> exact resolveOrCreate_messages ..

@[simp] theorem Incoming.count_messages (incoming : Incoming) (customerId : Nat)
    (conversation : UpsertConversationResult) :
    (incoming.count customerId conversation now inbox).messages = inbox.messages :=
  recordEngagement_messages ..

@[simp] theorem StoredComment.resolve_messages (stored : StoredComment) :
    (stored.resolve now inbox).2.messages = inbox.messages := by
  unfold StoredComment.resolve
  dsimp only
  split
  · exact resolveOrCreate_messages ..
  · rw [linkIdentifier_messages]
    exact resolveOrCreate_messages ..
  · exact resolveOrCreate_messages ..

/-! ### Statements that leave the conversations -/

@[simp] theorem resolveOrCreate_conversations (input : CreateCustomerInput) :
    (inbox.resolveOrCreate input now).2.conversations = inbox.conversations := by
  unfold Inbox.resolveOrCreate
  split <;> rfl

@[simp] theorem linkIdentifier_conversations (enterpriseId customerId : Nat)
    (kind : IdentifierKind) (value : String) :
    (inbox.linkIdentifier enterpriseId customerId kind value).conversations =
      inbox.conversations := by
  unfold Inbox.linkIdentifier
  split <;> rfl

@[simp] theorem recordEngagement_conversations (input : EngagementInput) :
    (inbox.recordEngagement input now).conversations = inbox.conversations := by
  unfold Inbox.recordEngagement
  split <;> rfl

@[simp] theorem StoredComment.resolve_conversations (stored : StoredComment) :
    (stored.resolve now inbox).2.conversations = inbox.conversations := by
  unfold StoredComment.resolve
  dsimp only
  split
  · exact resolveOrCreate_conversations ..
  · rw [linkIdentifier_conversations]
    exact resolveOrCreate_conversations ..
  · exact resolveOrCreate_conversations ..

@[simp] theorem Incoming.resolve_conversations (incoming : Incoming) :
    (incoming.resolve now inbox).2.conversations = inbox.conversations := by
  unfold Incoming.resolve
  dsimp only
  split
  · rw [linkIdentifier_conversations]
    split <;> exact resolveOrCreate_conversations ..
  · dsimp only
    split <;> exact resolveOrCreate_conversations ..

/-! ### Statements that leave the posts -/

@[simp] theorem upsert_posts (input : UpsertConversationInput) :
    (inbox.upsert input).2.posts = inbox.posts := by
  unfold Inbox.upsert
  split <;> rfl

@[simp] theorem recordEngagement_posts (input : EngagementInput) :
    (inbox.recordEngagement input now).posts = inbox.posts := by
  unfold Inbox.recordEngagement
  split <;> rfl

/-! ### Storing a message -/

/-- A message is stored unless its id of the platform is held already. -/
theorem insertMessage_cases (message : MessageRow) :
    inbox.insertMessage message = (none, inbox) ∨
      inbox.insertMessage message =
        (some inbox.messages.nextId, { inbox with messages := inbox.messages.insert message }) := by
  unfold Inbox.insertMessage
  split
  · exact .inl rfl
  · exact .inr rfl

theorem insertMessage_of_held {message : MessageRow} {platformMessageId : String}
    (named : message.platformMessageId = some platformMessageId)
    (held : (inbox.findIdByPlatformMessageId message.enterpriseId platformMessageId).isSome = true) :
    inbox.insertMessage message = (none, inbox) := by
  rw [Inbox.insertMessage, named, if_pos]
  exact held

theorem insertMessage_of_unheld {message : MessageRow} {platformMessageId : String}
    (named : message.platformMessageId = some platformMessageId)
    (unheld : inbox.findIdByPlatformMessageId message.enterpriseId platformMessageId = none) :
    inbox.insertMessage message =
      (some inbox.messages.nextId, { inbox with messages := inbox.messages.insert message }) := by
  rw [Inbox.insertMessage, named, if_neg]
  simp [unheld]

theorem findIdByPlatformMessageId_congr {one other : Inbox} (same : one.messages = other.messages)
    (enterpriseId : Nat) (platformMessageId : String) :
    one.findIdByPlatformMessageId enterpriseId platformMessageId =
      other.findIdByPlatformMessageId enterpriseId platformMessageId := by
  unfold Inbox.findIdByPlatformMessageId
  rw [same]

/-! ### The two transactions -/

/-- The customer and the thread of a message, before the message itself. -/
def Incoming.enter (incoming : Incoming) : CustomerResolution × UpsertConversationResult × Inbox :=
  let resolved := incoming.resolve now inbox
  let joined := resolved.2.upsert (incoming.thread resolved.1)
  (resolved.1, joined.1, joined.2)

@[simp] theorem Incoming.enter_messages (incoming : Incoming) :
    (incoming.enter inbox now).2.2.messages = inbox.messages := by
  simp [Incoming.enter]

theorem Incoming.row_named (incoming : Incoming) (customerId conversationId : Nat)
    (parentMessageId : Option Nat) :
    (incoming.row customerId conversationId parentMessageId now).platformMessageId =
      some incoming.mid := rfl

def Incoming.stored (incoming : Incoming) : MessageRow :=
  incoming.row (incoming.enter inbox now).1.customerId (incoming.enter inbox now).2.1.id
    (incoming.parent (incoming.enter inbox now).2.2) now

theorem Incoming.project_of_held {incoming : Incoming}
    (held : (inbox.findIdByPlatformMessageId incoming.enterpriseId incoming.mid).isSome = true) :
    incoming.project now inbox = ((incoming.enter inbox now).2.2, skipped) := by
  have heldHere : ((incoming.enter inbox now).2.2.findIdByPlatformMessageId incoming.enterpriseId
      incoming.mid).isSome = true := by
    rwa [findIdByPlatformMessageId_congr (incoming.enter_messages inbox now)]
  unfold Incoming.enter at heldHere ⊢
  unfold Incoming.project
  dsimp only at heldHere ⊢
  rw [insertMessage_of_held _ (incoming.row_named now _ _ _) heldHere]

theorem Incoming.project_of_unheld {incoming : Incoming}
    (unheld : inbox.findIdByPlatformMessageId incoming.enterpriseId incoming.mid = none) :
    incoming.project now inbox =
      (incoming.count (incoming.enter inbox now).1.customerId (incoming.enter inbox now).2.1 now
          (Inbox.adoptOrphanReplies incoming.enterpriseId inbox.messages.nextId incoming.mid
            { (incoming.enter inbox now).2.2 with
              messages := inbox.messages.insert (incoming.stored inbox now) }),
        ⟨true, some (incoming.trigger (incoming.enter inbox now).1.customerId
          inbox.messages.nextId now), none⟩) := by
  have same := incoming.enter_messages inbox now
  have unheldHere : (incoming.enter inbox now).2.2.findIdByPlatformMessageId incoming.enterpriseId
      incoming.mid = none := by
    rwa [findIdByPlatformMessageId_congr same]
  rw [← same]
  unfold Incoming.stored
  unfold Incoming.enter at unheldHere ⊢
  unfold Incoming.project
  dsimp only at unheldHere ⊢
  rw [insertMessage_of_unheld _ (incoming.row_named now _ _ _) unheldHere]

def Echoed.enter (echoed : Echoed) : CustomerResolution × UpsertConversationResult × Inbox :=
  let resolved := inbox.resolveOrCreate echoed.customer now
  let joined := resolved.2.upsert (echoed.thread resolved.1)
  (resolved.1, joined.1, joined.2)

@[simp] theorem Echoed.enter_messages (echoed : Echoed) :
    (echoed.enter inbox now).2.2.messages = inbox.messages := by
  simp [Echoed.enter]

theorem Echoed.row_named (echoed : Echoed) (customerId conversationId : Nat) :
    (echoed.row customerId conversationId now).platformMessageId = some echoed.mid := rfl

def Echoed.waiting (echoed : Echoed) : Option (Stored MessageRow) :=
  inbox.messages.find? (·.awaitsEcho echoed.enterpriseId (echoed.enter inbox now).2.1.id
    echoed.text)

def Echoed.stored (echoed : Echoed) : MessageRow :=
  echoed.row (echoed.enter inbox now).1.customerId (echoed.enter inbox now).2.1.id now

theorem Echoed.project_of_held {echoed : Echoed}
    (held : (inbox.findIdByPlatformMessageId echoed.enterpriseId echoed.mid).isSome = true) :
    echoed.project now inbox = ((echoed.enter inbox now).2.2, skipped) := by
  obtain ⟨id, found⟩ := Option.isSome_iff_exists.mp held
  have foundHere : (echoed.enter inbox now).2.2.findIdByPlatformMessageId echoed.enterpriseId
      echoed.mid = some id := by
    rwa [findIdByPlatformMessageId_congr (echoed.enter_messages inbox now)]
  unfold Echoed.enter at foundHere
  unfold Echoed.project
  dsimp only at foundHere ⊢
  rw [foundHere]
  rfl

theorem Echoed.project_of_waiting {echoed : Echoed} {waiting : Stored MessageRow}
    (unheld : inbox.findIdByPlatformMessageId echoed.enterpriseId echoed.mid = none)
    (waits : echoed.waiting inbox now = some waiting) :
    echoed.project now inbox =
      (Inbox.adoptOrphanReplies echoed.enterpriseId waiting.id echoed.mid
          { (echoed.enter inbox now).2.2 with
            messages := inbox.messages.update waiting.id (·.stamped echoed.mid now) },
        skipped) := by
  have same := echoed.enter_messages inbox now
  have unheldHere : (echoed.enter inbox now).2.2.findIdByPlatformMessageId echoed.enterpriseId
      echoed.mid = none := by
    rwa [findIdByPlatformMessageId_congr same]
  unfold Echoed.waiting at waits
  rw [← same] at waits ⊢
  unfold Echoed.enter at unheldHere waits ⊢
  unfold Echoed.project Inbox.claimPendingOutbound
  dsimp only at unheldHere waits ⊢
  rw [unheldHere]
  dsimp only
  rw [waits]

theorem Echoed.project_of_unheld {echoed : Echoed}
    (unheld : inbox.findIdByPlatformMessageId echoed.enterpriseId echoed.mid = none)
    (nobody : echoed.waiting inbox now = none) :
    echoed.project now inbox =
      (Inbox.recordMessage (echoed.enter inbox now).2.1.id false (echoed.occurredAt now)
          (Inbox.adoptOrphanReplies echoed.enterpriseId inbox.messages.nextId echoed.mid
            { (echoed.enter inbox now).2.2 with
              messages := inbox.messages.insert (echoed.stored inbox now) }),
        ⟨true, none, none⟩) := by
  have same := echoed.enter_messages inbox now
  have unheldHere : (echoed.enter inbox now).2.2.findIdByPlatformMessageId echoed.enterpriseId
      echoed.mid = none := by
    rwa [findIdByPlatformMessageId_congr same]
  unfold Echoed.waiting at nobody
  rw [← same] at nobody ⊢
  unfold Echoed.stored
  unfold Echoed.enter at unheldHere nobody ⊢
  unfold Echoed.project Inbox.claimPendingOutbound
  dsimp only at unheldHere nobody ⊢
  rw [unheldHere]
  dsimp only
  rw [nobody]
  dsimp only
  rw [insertMessage_of_unheld _ (echoed.row_named now _ _) unheldHere]

end UnifiedService.Projection
