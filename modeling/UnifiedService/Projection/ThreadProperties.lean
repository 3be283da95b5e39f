import UnifiedService.Projection.DatabaseProperties
import UnifiedService.Projection.Agents

/-! Threads and the people they are with: a thread is there once, under the key of its kind,
and whoever a direct message is with has an identifier. -/

set_option autoImplicit false

namespace UnifiedService.Projection

open UnifiedService.Library
open UnifiedService.Outbound (Platform ConversationKind)
open UnifiedService.Inbound (ProjectionContext ProjectionOutcome InboundEventType)

abbrev Channels := Nat → Nat × Platform

def ProjectionContext.known (channels : Channels) (context : ProjectionContext) : Prop :=
  channels context.channelId = (context.enterpriseId, context.platform)

/-! ### What stays of a conversation -/

structure ConversationRow.SameThread (one other : ConversationRow) : Prop where
  enterprise : other.enterpriseId = one.enterpriseId
  channel : other.channelId = one.channelId
  customer : other.customerId = one.customerId
  platform : other.platform = one.platform
  kind : other.conversationKind = one.conversationKind
  key : other.platformThreadId = one.platformThreadId

theorem ConversationRow.SameThread.refl (conversation : ConversationRow) :
    conversation.SameThread conversation := ⟨rfl, rfl, rfl, rfl, rfl, rfl⟩

theorem ConversationRow.SameThread.trans {one middle other : ConversationRow}
    (first : one.SameThread middle) (second : middle.SameThread other) : one.SameThread other :=
  ⟨second.enterprise.trans first.enterprise, second.channel.trans first.channel,
    second.customer.trans first.customer, second.platform.trans first.platform,
    second.kind.trans first.kind, second.key.trans first.key⟩

theorem ConversationRow.SameThread.thread {one other : ConversationRow}
    (same : one.SameThread other) : other.thread = one.thread := by
  unfold ConversationRow.thread
  rw [same.channel, same.key]

structure Frame (before after : Inbox) : Prop where
  identifiers : Table.Kept (· = ·) before.identifiers after.identifiers
  conversations : Table.Kept ConversationRow.SameThread before.conversations after.conversations
  none_ : after.conversations.nextId = before.conversations.nextId

theorem Frame.refl (inbox : Inbox) : Frame inbox inbox :=
  ⟨.refl (fun _ => rfl) _, .refl ConversationRow.SameThread.refl _, rfl⟩

theorem Frame.trans {before middle after : Inbox} (first : Frame before middle)
    (second : Frame middle after) : Frame before after :=
  ⟨first.identifiers.trans Eq.trans second.identifiers,
    first.conversations.trans ConversationRow.SameThread.trans second.conversations,
    second.none_.trans first.none_⟩

theorem Frame.of_eq {before after : Inbox} (identifiers : after.identifiers = before.identifiers)
    (conversations : after.conversations = before.conversations) : Frame before after := by
  constructor
  · rw [identifiers]
    exact .refl (fun _ => rfl) _
  · rw [conversations]
    exact .refl ConversationRow.SameThread.refl _
  · rw [conversations]

section Frames

variable (inbox : Inbox) (now : Int)

theorem Frame.changed (conversationId : Nat) {change : ConversationRow → ConversationRow}
    (same : ∀ conversation : ConversationRow, conversation.SameThread (change conversation)) :
    Frame inbox
      { inbox with conversations := inbox.conversations.update conversationId change } :=
  ⟨.refl (fun _ => rfl) _,
    .update ConversationRow.SameThread.refl inbox.conversations conversationId same,
    Table.nextId_update ..⟩

theorem resolveOrCreate_frame (input : CreateCustomerInput) :
    Frame inbox (inbox.resolveOrCreate input now).2 := by
  unfold Inbox.resolveOrCreate
  split
  · exact .of_eq rfl rfl
  · exact ⟨.insert (fun _ => rfl) _ _, .refl ConversationRow.SameThread.refl _, rfl⟩

theorem linkIdentifier_frame (enterpriseId customerId : Nat) (kind : IdentifierKind)
    (value : String) : Frame inbox (inbox.linkIdentifier enterpriseId customerId kind value) := by
  unfold Inbox.linkIdentifier
  split
  · exact .refl inbox
  · exact ⟨.insert (fun _ => rfl) _ _, .refl ConversationRow.SameThread.refl _, rfl⟩

theorem recordEngagement_frame (input : EngagementInput) :
    Frame inbox (inbox.recordEngagement input now) := by
  unfold Inbox.recordEngagement
  split <;> exact .of_eq rfl rfl

theorem touchLastSeen_frame (customerId channelId : Nat) :
    Frame inbox (inbox.touchLastSeen customerId channelId now) := .of_eq rfl rfl

theorem recordMessage_frame (conversationId : Nat) (inbound : Bool) (occurredAt : Int) :
    Frame inbox (inbox.recordMessage conversationId inbound occurredAt) :=
  .changed inbox conversationId fun _ => ⟨rfl, rfl, rfl, rfl, rfl, rfl⟩

theorem Incoming.resolve_frame (incoming : Incoming) :
    Frame inbox (incoming.resolve now inbox).2 := by
  have resolved := resolveOrCreate_frame inbox now incoming.customer
  have looked : Frame inbox
      (if (inbox.resolveOrCreate incoming.customer now).1.created && incoming.nameless then
        { (inbox.resolveOrCreate incoming.customer now).2 with
          jobs := (Sync.SyncJobRepository.enqueueIfAbsent incoming.resync now
            (inbox.resolveOrCreate incoming.customer now).2.jobs).2 }
      else (inbox.resolveOrCreate incoming.customer now).2) := by
    split
    · exact resolved.trans (.of_eq rfl rfl)
    · exact resolved
  unfold Incoming.resolve
  dsimp only
  split
  · exact looked.trans (linkIdentifier_frame ..)
  · exact looked

theorem Incoming.count_frame (incoming : Incoming) (customerId : Nat)
    (conversation : UpsertConversationResult) :
    Frame inbox (incoming.count customerId conversation now inbox) := by
  have recorded := recordMessage_frame inbox conversation.id true (incoming.occurredAt now)
  have touched := recorded.trans (touchLastSeen_frame _ now customerId incoming.channelId)
  exact touched.trans (recordEngagement_frame ..)

theorem StoredComment.resolve_frame (stored : StoredComment) :
    Frame inbox (stored.resolve now inbox).2 := by
  have resolved := resolveOrCreate_frame inbox now stored.customer
  unfold StoredComment.resolve
  dsimp only
  split
  · exact resolved
  · exact resolved.trans (linkIdentifier_frame ..)
  · exact resolved

end Frames

/-! ### The invariant -/

def Identified (identifiers : Table IdentifierRow) (key : Nat × IdentifierKind × String) : Prop :=
  ∃ id identifier, identifiers.get? id = some identifier ∧ identifier.key = key

theorem Identified.kept {before after : Table IdentifierRow}
    {key : Nat × IdentifierKind × String} (identified : Identified before key)
    (kept : Table.Kept (· = ·) before after) : Identified after key := by
  obtain ⟨id, identifier, found, same⟩ := identified
  obtain ⟨later, there, rfl⟩ := kept id identifier found
  exact ⟨id, identifier, there, same⟩

structure ConversationRow.Keyed (channels : Channels) (identifiers : Table IdentifierRow)
    (conversation : ConversationRow) : Prop where
  known : channels conversation.channelId = (conversation.enterpriseId, conversation.platform)
  key : ∃ platformId,
    conversation.platformThreadId = composeThreadKey conversation.conversationKind platformId ∧
      (conversation.conversationKind = .directMessage →
        Identified identifiers
          (conversation.enterpriseId, platformIdentifierKind conversation.platform, platformId))

structure Threaded (channels : Channels) (inbox : Inbox) : Prop where
  keyed : ∀ id conversation, inbox.conversations.get? id = some conversation →
    conversation.Keyed channels inbox.identifiers
  unique : ∀ one other first second, inbox.conversations.get? one = some first →
    inbox.conversations.get? other = some second → first.thread = second.thread → one = other

theorem threaded_empty (channels : Channels) : Threaded channels .empty :=
  ⟨fun _ _ found => (nomatch found), fun _ _ _ _ found => (nomatch found)⟩

section Threaded

variable {channels : Channels} {inbox after : Inbox}

theorem ConversationRow.Keyed.kept {one other : ConversationRow}
    {before later : Table IdentifierRow} (keyed : one.Keyed channels before)
    (same : one.SameThread other) (kept : Table.Kept (· = ·) before later) :
    other.Keyed channels later := by
  obtain ⟨known, platformId, key, identified⟩ := keyed
  constructor
  · rw [same.channel, same.enterprise, same.platform]
    exact known
  · refine ⟨platformId, ?_, fun direct => ?_⟩
    · rw [same.key, same.kind]
      exact key
    · rw [same.enterprise, same.platform]
      exact (identified (same.kind ▸ direct)).kept kept

theorem Threaded.frame (threaded : Threaded channels inbox) (frame : Frame inbox after) :
    Threaded channels after := by
  constructor
  · intro id conversation found
    obtain ⟨before, there, same⟩ := frame.conversations.origin frame.none_ found
    exact (threaded.keyed id before there).kept same frame.identifiers
  · intro one other first second foundFirst foundSecond thread
    obtain ⟨former, there, sameFirst⟩ := frame.conversations.origin frame.none_ foundFirst
    obtain ⟨latter, where_, sameSecond⟩ := frame.conversations.origin frame.none_ foundSecond
    refine threaded.unique one other former latter there where_ ?_
    rw [← sameFirst.thread, ← sameSecond.thread]
    exact thread

structure UpsertConversationInput.Ready (channels : Channels) (input : UpsertConversationInput)
    (identifiers : Table IdentifierRow) : Prop where
  known : channels input.channelId = (input.enterpriseId, input.platform)
  key : ∃ platformId,
    input.platformThreadId = composeThreadKey input.conversationKind platformId ∧
      (input.conversationKind = .directMessage →
        Identified identifiers
          (input.enterpriseId, platformIdentifierKind input.platform, platformId))

theorem Threaded.upsert (threaded : Threaded channels inbox) {input : UpsertConversationInput}
    (ready : input.Ready channels inbox.identifiers) :
    Threaded channels (inbox.upsert input).2 := by
  unfold Inbox.upsert
  cases found : inbox.conversations.find? (·.thread == input.thread) with
  | some stored =>
      exact threaded.frame (.changed inbox stored.id fun _ => ⟨rfl, rfl, rfl, rfl, rfl, rfl⟩)
  | none =>
      have absent : ∀ id conversation, inbox.conversations.get? id = some conversation →
          conversation.thread ≠ input.thread := by
        intro id conversation there same
        have unfound := Table.find?_eq_none.mp found id conversation there
        rw [same, beq_self_eq_true] at unfound
        contradiction
      constructor
      · intro id conversation there
        change (inbox.conversations.insert input.row).get? id = some conversation at there
        change conversation.Keyed channels inbox.identifiers
        rw [Table.get?_insert] at there
        split at there
        · rw [← Option.some.inj there]
          exact ⟨ready.known, ready.key⟩
        · exact threaded.keyed id conversation there
      · intro one other first second foundFirst foundSecond thread
        change (inbox.conversations.insert input.row).get? one = some first at foundFirst
        change (inbox.conversations.insert input.row).get? other = some second at foundSecond
        rw [Table.get?_insert] at foundFirst foundSecond
        split at foundFirst <;> split at foundSecond
        · next first_ second_ => rw [first_, second_]
        · rw [← Option.some.inj foundFirst] at thread
          exact absurd thread.symm (absent other second foundSecond)
        · rw [← Option.some.inj foundSecond] at thread
          exact absurd thread (absent one first foundFirst)
        · exact threaded.unique one other first second foundFirst foundSecond thread

theorem resolveOrCreate_identified (inbox : Inbox) (input : CreateCustomerInput) (now : Int) :
    Identified (inbox.resolveOrCreate input now).2.identifiers input.key := by
  unfold Inbox.resolveOrCreate Inbox.findByIdentifier
  cases found : inbox.identifiers.find? (·.key == input.key) with
  | some stored =>
      obtain ⟨there, same⟩ := Table.find?_some found
      exact ⟨stored.id, stored.row, there, eq_of_beq same⟩
  | none => exact ⟨_, _, Table.get?_insert_self .., rfl⟩

/-! ### Projections -/

theorem linkIdentifier_identified {key : Nat × IdentifierKind × String} {before : Inbox}
    (identified : Identified before.identifiers key) (enterpriseId customerId : Nat)
    (kind : IdentifierKind) (value : String) :
    Identified (before.linkIdentifier enterpriseId customerId kind value).identifiers key :=
  identified.kept (linkIdentifier_frame before enterpriseId customerId kind value).identifiers

theorem Incoming.resolve_identified (incoming : Incoming) (inbox : Inbox) (now : Int) :
    Identified (incoming.resolve now inbox).2.identifiers incoming.customer.key := by
  have resolved := resolveOrCreate_identified inbox incoming.customer now
  have looked : Identified
      (if (inbox.resolveOrCreate incoming.customer now).1.created && incoming.nameless then
        { (inbox.resolveOrCreate incoming.customer now).2 with
          jobs := (Sync.SyncJobRepository.enqueueIfAbsent incoming.resync now
            (inbox.resolveOrCreate incoming.customer now).2.jobs).2 }
      else (inbox.resolveOrCreate incoming.customer now).2).identifiers incoming.customer.key := by
    split <;> exact resolved
  unfold Incoming.resolve
  dsimp only
  split
  · exact linkIdentifier_identified looked ..
  · exact looked

theorem Incoming.enter_threaded (threaded : Threaded channels inbox) {incoming : Incoming}
    (known : channels incoming.channelId = (incoming.enterpriseId, incoming.platform))
    (now : Int) : Threaded channels (incoming.enter inbox now).2.2 := by
  refine (threaded.frame (incoming.resolve_frame inbox now)).upsert ⟨known, ?_⟩
  exact ⟨incoming.senderId, rfl, fun _ => incoming.resolve_identified inbox now⟩

theorem Incoming.project_threaded (threaded : Threaded channels inbox) {incoming : Incoming}
    (known : channels incoming.channelId = (incoming.enterpriseId, incoming.platform))
    (now : Int) : Threaded channels (incoming.project now inbox).1 := by
  have entered := Incoming.enter_threaded threaded known now
  cases there : inbox.findIdByPlatformMessageId incoming.enterpriseId incoming.mid with
  | some id =>
      rw [incoming.project_of_held inbox now (by rw [there]; rfl)]
      exact entered
  | none =>
      rw [incoming.project_of_unheld inbox now there]
      refine entered.frame (.trans ?_ (incoming.count_frame _ now _ _))
      exact .of_eq rfl rfl

theorem Echoed.enter_threaded (threaded : Threaded channels inbox) {echoed : Echoed}
    (known : channels echoed.channelId = (echoed.enterpriseId, echoed.platform))
    (now : Int) : Threaded channels (echoed.enter inbox now).2.2 := by
  refine (threaded.frame (resolveOrCreate_frame inbox now echoed.customer)).upsert ⟨known, ?_⟩
  exact ⟨echoed.customerScopedId, rfl, fun _ => resolveOrCreate_identified inbox echoed.customer now⟩

theorem Echoed.project_threaded (threaded : Threaded channels inbox) {echoed : Echoed}
    (known : channels echoed.channelId = (echoed.enterpriseId, echoed.platform))
    (now : Int) : Threaded channels (echoed.project now inbox).1 := by
  have entered := Echoed.enter_threaded threaded known now
  cases there : inbox.findIdByPlatformMessageId echoed.enterpriseId echoed.mid with
  | some id =>
      rw [echoed.project_of_held inbox now (by rw [there]; rfl)]
      exact entered
  | none =>
      cases waits : echoed.waiting inbox now with
      | some waiting =>
          rw [echoed.project_of_waiting inbox now there waits]
          exact entered.frame (.of_eq rfl rfl)
      | none =>
          rw [echoed.project_of_unheld inbox now there waits]
          refine entered.frame (.trans ?_ (recordMessage_frame _ _ false _))
          exact .of_eq rfl rfl

theorem StoredComment.store_threaded (threaded : Threaded channels inbox) {stored : StoredComment}
    (known : channels stored.channelId = (stored.enterpriseId, stored.platform))
    (indirect : stored.conversationKind ≠ .directMessage) (now : Int) :
    Threaded channels (stored.store now inbox).1 := by
  have resolved := threaded.frame (stored.resolve_frame inbox now)
  have entered : Threaded channels ((stored.resolve now inbox).2.upsert
      (stored.thread (stored.resolve now inbox).1
        (stored.post (stored.resolve now inbox).2))).2 :=
    resolved.upsert
      ⟨known, stored.comment.rootCommentId, rfl, fun direct => absurd direct indirect⟩
  unfold StoredComment.store
  dsimp only
  generalize ((stored.resolve now inbox).2.upsert
    (stored.thread (stored.resolve now inbox).1
      (stored.post (stored.resolve now inbox).2))) = threaded at entered ⊢
  obtain ⟨conversation, current⟩ := threaded
  dsimp only at entered ⊢
  rcases insertMessage_cases current (stored.row (stored.resolve now inbox).1.customerId
    conversation.id (stored.parent current) now) with held | kept
  · rw [held]
    exact entered
  · rw [kept]
    have inserted : Frame current { current with
        messages := current.messages.insert (stored.row
          (stored.resolve now inbox).1.customerId conversation.id (stored.parent current) now) } :=
      .of_eq rfl rfl
    have recorded := inserted.trans
      (recordMessage_frame _ conversation.id true (stored.occurredAt now))
    have touched := recorded.trans (touchLastSeen_frame _ now
      (stored.resolve now inbox).1.customerId stored.channelId)
    exact entered.frame (touched.trans (recordEngagement_frame ..))

theorem directMessage_threaded (normalizeText : String → String)
    (threaded : Threaded channels inbox) {context : ProjectionContext}
    (known : ProjectionContext.known channels context) (event : MessagingEvent) (now : Int) :
    Threaded channels
      (DirectMessageProjectorService.project normalizeText context event now inbox).1 := by
  have same : ∀ {current : Inbox}, current.identifiers = inbox.identifiers →
      current.conversations = inbox.conversations → Threaded channels current :=
    fun identifiers conversations => threaded.frame (.of_eq identifiers conversations)
  unfold DirectMessageProjectorService.project
  split
  · unfold DirectMessageProjectorService.handleMessageEdit
    split
    · exact threaded
    · split
      · exact threaded
      · split
        · exact threaded
        · exact same rfl rfl
  · split
    · exact same rfl rfl
    · split
      · unfold Inbox.markSeenByCustomer
        split <;> exact same rfl rfl
      · split
        · split
          · exact same rfl rfl
          · dsimp only
            unfold DirectMessageProjectorService.projectMessage
            split
            · cases echo : DirectMessageProjectorService.echoed context event _ _ with
              | none => exact threaded
              | some echoed =>
                  unfold DirectMessageProjectorService.echoed at echo
                  rw [Option.bind_eq_some_iff] at echo
                  obtain ⟨customer, _, built⟩ := echo
                  split at built
                  · contradiction
                  · rw [← Option.some.inj built]
                    refine Echoed.project_threaded threaded ?_ now
                    exact known
            · split
              · exact threaded
              · refine Incoming.project_threaded threaded ?_ now
                exact known
        · exact threaded

theorem projectNormalized_threaded (normalizeText : String → String)
    (threaded : Threaded channels inbox) {context : ProjectionContext}
    (known : ProjectionContext.known channels context) (oracle : ProjectionOracle) (now : Int)
    {kindOf : CanonicalComment → Inbox → ConversationKind}
    (indirect : ∀ comment current, kindOf comment current ≠ .directMessage)
    (normalized : NormalizedComment) :
    Threaded channels
      (CommentProjectorService.projectNormalized normalizeText context oracle now kindOf inbox
        normalized).1 := by
  cases normalized with
  | skip => exact threaded
  | moderation moderation =>
      have moderated : Threaded channels
          (inbox.applyPlatformModeration context.enterpriseId moderation now).2 :=
        threaded.frame (.of_eq rfl rfl)
      simp only [CommentProjectorService.projectNormalized,
        CommentProjectorService.applyModeration]
      split
      · next result => rwa [result] at moderated
      · next current result =>
          rw [result] at moderated
          split
          · exact moderated
          · split <;> exact moderated
  | comment comment =>
      simp only [CommentProjectorService.projectNormalized]
      split
      · exact threaded
      · refine StoredComment.store_threaded threaded ?_ (indirect comment inbox) now
        exact known

theorem mentionKind_indirect (context : ProjectionContext) (comment : CanonicalComment)
    (current : Inbox) :
    CommentProjectorService.mentionKind context comment current ≠ .directMessage := by
  unfold CommentProjectorService.mentionKind
  split <;> exact nofun

theorem projectors_threaded (normalizeText : String → String) (threaded : Threaded channels inbox)
    {context : ProjectionContext} (known : ProjectionContext.known channels context)
    (eventType : InboundEventType) (payload : InboundPayload) (now : Int)
    (oracle : ProjectionOracle) :
    Threaded channels (projectors normalizeText eventType context payload now oracle inbox).1 := by
  have comments : ∀ normalized, Threaded channels
      (CommentProjectorService.project normalizeText context normalized oracle now inbox).1 := by
    intro normalized
    refine projectNormalized_threaded normalizeText threaded known oracle now ?_ normalized
    intro comment current
    exact nofun
  unfold projectors
  split
  · exact threaded
  · split
    · exact comments _
    · exact comments _
    · exact directMessage_threaded normalizeText threaded known _ now
    · exact projectNormalized_threaded normalizeText threaded known oracle now
        (mentionKind_indirect context) _
    · unfold CommentProjectorService.projectInstagramMention
      split
      · exact threaded
      · exact projectNormalized_threaded normalizeText threaded known oracle now
          (mentionKind_indirect context) _
    · unfold PostProjectorService.project
      split
      · exact threaded
      · unfold Inbox.upsertPost
        split <;> exact threaded.frame (.of_eq rfl rfl)
    · exact threaded

/-! ### Every call -/

def InboxCall.Known (channels : Channels) : InboxCall → Prop
  | .project _ context _ _ _ => ProjectionContext.known channels context
  | .reply _ _ | .setStatus _ _ | .clearBadge _ | .markRowsRead _ | .recordDelivery _ _ _ _
  | .moderate _ _ _ | .applyPlatformProfile _ _ | .nameByIdentifier _ _
  | .linkIdentifier _ _ _ => True

theorem call_threaded (normalizeText : String → String) (threaded : Threaded channels inbox)
    {call : InboxCall} (known : call.Known channels) :
    Threaded channels (InboxCall.apply normalizeText inbox call) := by
  have same : ∀ {current : Inbox}, current.identifiers = inbox.identifiers →
      current.conversations = inbox.conversations → Threaded channels current :=
    fun identifiers conversations => threaded.frame (.of_eq identifiers conversations)
  cases call with
  | project eventType context payload now oracle =>
      exact projectors_threaded normalizeText threaded known eventType payload now oracle
  | reply input now =>
      simp only [InboxCall.apply, Inbox.reply]
      split
      · exact threaded
      · split
        · exact threaded
        · next conversation _ _ =>
            have inserted : Frame inbox { inbox with
                messages := inbox.messages.insert (input.row conversation now) } :=
              .of_eq rfl rfl
            have recorded := inserted.trans
              (recordMessage_frame _ input.conversationId false now)
            exact threaded.frame (recorded.trans (recordEngagement_frame ..))
  | setStatus conversationId status =>
      exact threaded.frame
        (.changed inbox conversationId fun _ => ⟨rfl, rfl, rfl, rfl, rfl, rfl⟩)
  | clearBadge conversationId =>
      exact threaded.frame
        (.changed inbox conversationId fun _ => ⟨rfl, rfl, rfl, rfl, rfl, rfl⟩)
  | markRowsRead conversationId => exact same rfl rfl
  | recordDelivery messageId platformMessageId status now =>
      simp only [InboxCall.apply, Inbox.recordDelivery]
      split
      · exact threaded
      · split <;> exact same rfl rfl
  | moderate messageId action now => exact same rfl rfl
  | applyPlatformProfile customerId displayName => exact same rfl rfl
  | nameByIdentifier key displayName => exact same rfl rfl
  | linkIdentifier enterpriseId customerId username =>
      exact threaded.frame (linkIdentifier_frame ..)

theorem calls_threaded (normalizeText : String → String) {calls : List InboxCall}
    (known : ∀ call ∈ calls, call.Known channels) (threaded : Threaded channels inbox) :
    Threaded channels (calls.foldl (InboxCall.apply normalizeText) inbox) := by
  induction calls generalizing inbox with
  | nil => exact threaded
  | cons call rest ih =>
      refine ih (fun later member => known later (List.mem_cons_of_mem call member)) ?_
      exact call_threaded normalizeText threaded (known call List.mem_cons_self)

end Threaded

end UnifiedService.Projection
