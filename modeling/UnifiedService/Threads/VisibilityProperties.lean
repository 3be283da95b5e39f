import UnifiedService.Listing.PageProperties
import UnifiedService.Threads.Service

/-! A conversation that an actor may not see, against one that is not there: two runs from states
that differ in nothing else. -/

set_option autoImplicit false

namespace UnifiedService.Threads

open UnifiedService.Library
open UnifiedService.Outbound

def Request.permits (request : Request) (action : ConversationAction) (row : ConversationRow) :
    Bool :=
  request.holds (permissionFor row.conversationKind action)

def InboxDb.shows (db : InboxDb) (request : Request) (action : ConversationAction)
    (messageId : Nat) (message : MessageRow) : Prop :=
  db.outbound.messages.get? messageId = some message ∧
    ∃ row ∈ db.conversations, request.permits action row = true ∧
      message.conversationId = row.id.value

/-- Two states that differ only in conversations the actor may not act on, in their messages
and in what belongs to these. -/
structure SameBut (request : Request) (action : ConversationAction) (db other : InboxDb) :
    Prop where
  conversations : ∀ row, request.permits action row = true →
    (row ∈ db.conversations ↔ row ∈ other.conversations)
  messages : ∀ id message,
    db.shows request action id message ↔ other.shows request action id message
  readMessages : ∀ id message, db.shows request action id message →
    (id ∈ db.readMessages ↔ id ∈ other.readMessages)
  attachments : ∀ attachment message, db.shows request action attachment.messageId message →
    (attachment ∈ db.attachments ↔ attachment ∈ other.attachments)
  events : db.outbound.events = other.outbound.events
  platform : db.outbound.platform = other.outbound.platform
  jobs : db.jobs = other.jobs
  identifiers : db.identifiers = other.identifiers
  employees : db.employees = other.employees
  channels : db.channels = other.channels

section Lookup

variable {request : Request} {action : ConversationAction} {db other : InboxDb} {refId : String}

theorem SameBut.symm (same : SameBut request action db other) :
    SameBut request action other db where
  conversations := fun row permitted => (same.conversations row permitted).symm
  messages := fun id message => (same.messages id message).symm
  readMessages := fun id message shown =>
    (same.readMessages id message ((same.messages id message).mpr shown)).symm
  attachments := fun attachment message shown =>
    (same.attachments attachment message ((same.messages _ message).mpr shown)).symm
  events := same.events.symm
  platform := same.platform.symm
  jobs := same.jobs.symm
  identifiers := same.identifiers.symm
  employees := same.employees.symm
  channels := same.channels.symm

theorem findByRefId_some {enterpriseId : Nat} {row : ConversationRow}
    (found : db.findByRefId enterpriseId refId = some row) :
    row ∈ db.conversations ∧ row.refId = refId := by
  have wanted := List.find?_some found
  simp only [Bool.and_eq_true, beq_iff_eq] at wanted
  exact ⟨List.mem_of_find?_eq_some found, wanted.1.2⟩

def Hidden (request : Request) (action : ConversationAction) (refId : String) (db : InboxDb) :
    Prop :=
  ∃ row ∈ db.conversations, row.refId = refId ∧ request.permits action row = false

theorem not_permitted_of_hidden (wellFormed : db.WellFormed) (otherFormed : other.WellFormed)
    (same : SameBut request action db other)
    (hidden : Hidden request action refId db ∨ Hidden request action refId other)
    {row : ConversationRow} (member : row ∈ db.conversations) (named : row.refId = refId) :
    request.permits action row = false := by
  cases permitted : request.permits action row with
  | false => rfl
  | true =>
      rcases hidden with ⟨unseen, there, ref, refused⟩ | ⟨unseen, there, ref, refused⟩
      · have equal := List.inj_on_of_nodup_map wellFormed.refIds member there (named.trans ref.symm)
        rw [← equal, permitted] at refused
        exact absurd refused.symm Bool.false_ne_true
      · have seen := (same.conversations row permitted).mp member
        have equal := List.inj_on_of_nodup_map otherFormed.refIds seen there (named.trans ref.symm)
        rw [← equal, permitted] at refused
        exact absurd refused.symm Bool.false_ne_true

theorem requireConversation_hidden (wellFormed : db.WellFormed) (otherFormed : other.WellFormed)
    (same : SameBut request action db other)
    (hidden : Hidden request action refId db ∨ Hidden request action refId other) :
    requireConversation request db refId action = .error .conversationNotFound := by
  unfold requireConversation
  cases found : db.findByRefId request.enterpriseId refId with
  | none => rfl
  | some row =>
      obtain ⟨member, named⟩ := findByRefId_some found
      have refused := not_permitted_of_hidden wellFormed otherFormed same hidden member named
      exact if_neg (by rw [Request.permits] at refused; rw [refused]; exact Bool.false_ne_true)

end Lookup

def refusal (operation : Operation) (request : Request) (db : InboxDb) : ThreadError :=
  match operation with
  | .reply _ => if request.employeeId.isNone then .authNoActiveEmployment else .conversationNotFound
  | .assign employeeRefId =>
      match assignee request db employeeRefId with
      | .error refused => refused
      | .ok _ => .conversationNotFound
  | .readThread | .requestResync | .refreshAttachments | .moderateComment _ _
  | .retryModeration _ | .setStatus _ | .markRead => .conversationNotFound

theorem bind_of_error {Value Next : Type} {step : Except ThreadError Value}
    {refused : ThreadError} {next : Value → Except ThreadError Next} (failed : step = .error refused) :
    (step >>= next) = .error refused := by
  rw [failed]
  rfl

theorem run_of_not_found {request : Request} {db : InboxDb} {refId : String}
    {operation : Operation} (checked : operation ≠ .requestResync)
    (missing : requireConversation request db refId operation.action =
      .error .conversationNotFound) :
    operation.run request db refId = .error (refusal operation request db) := by
  cases operation with
  | requestResync => exact absurd rfl checked
  | readThread => exact bind_of_error missing
  | refreshAttachments => exact bind_of_error missing
  | reply input =>
      unfold Operation.run Threads.reply refusal
      by_cases absent : request.employeeId.isNone = true
      · dsimp only
        rw [if_pos absent, if_pos absent]
        rfl
      · dsimp only
        rw [if_neg absent, if_neg absent]
        exact bind_of_error missing
  | moderateComment messageId action => exact bind_of_error missing
  | retryModeration messageId => exact bind_of_error missing
  | assign employeeRefId =>
      unfold Operation.run Threads.assign refusal
      dsimp only
      cases assignee request db employeeRefId with
      | error refused => rfl
      | ok employeeId =>
          change (requireConversation request db refId .assign >>= _) = _
          exact bind_of_error missing
  | setStatus status => exact bind_of_error missing
  | markRead => exact bind_of_error missing

section Resync

inductive ResyncFinding where
  | absent
  | unsupported
  | inFlight
  | due
  deriving DecidableEq, Repr

/-- What a resync would find: nothing, a thread that cannot be read again for one person, a
person whose resync is waiting or running, or one whose resync is not. -/
def resyncFinding (db : InboxDb) (enterpriseId : Nat) (refId : String) : ResyncFinding :=
  match db.findByRefId enterpriseId refId with
  | none => .absent
  | some row =>
      if row.conversationKind ≠ .directMessage then .unsupported
      else
        match truthy (db.identifierOf row) with
        | none => .unsupported
        | some platformId =>
            match db.jobs.find? fun job => job.isLive &&
                job.slot == (row.channelId, .resyncConversation, platformId) with
            | some stored => if stored.row.status = .paused then .due else .inFlight
            | none => .due

variable {request : Request} {db : InboxDb} {refId : String}

theorem findResyncTarget_eq (db : InboxDb) (enterpriseId : Nat) (refId : String) :
    db.findResyncTarget enterpriseId refId = (db.findByRefId enterpriseId refId).map fun row =>
      ⟨row.channelId, row.conversationKind, db.identifierOf row⟩ := rfl

theorem enqueueIfAbsent_cases (input : Sync.EnqueueSyncInput) (now : Int)
    (jobs : Table Sync.SyncJobRow) :
    match jobs.find? fun job => job.isLive && job.slot == input.slot with
    | some stored =>
        if stored.row.status = .paused then
          ∃ next, next ≠ jobs ∧ Sync.SyncJobRepository.enqueueIfAbsent input now jobs = (true, next)
        else Sync.SyncJobRepository.enqueueIfAbsent input now jobs = (false, jobs)
    | none =>
        ∃ next, next ≠ jobs ∧ Sync.SyncJobRepository.enqueueIfAbsent input now jobs = (true, next) := by
  unfold Sync.SyncJobRepository.enqueueIfAbsent
  cases found : jobs.find? fun job => job.isLive && job.slot == input.slot with
  | none =>
      refine ⟨_, ?_, rfl⟩
      intro same
      have longer := congrArg Table.nextId same
      rw [Table.nextId_insert] at longer
      omega
  | some stored =>
      obtain ⟨there, -⟩ := Table.find?_some found
      dsimp only
      split
      · rename_i paused
        refine ⟨jobs.update stored.id (·.revived input.triggerKind now), ?_, ?_⟩
        · intro same
          have row := congrArg (fun table => table.get? stored.id) same
          rw [Table.get?_update_self, there, Option.map_some] at row
          have status := congrArg Sync.SyncJobRow.status (Option.some.inj row)
          rw [paused] at status
          cases status
        · unfold Table.updateIf
          rw [there, Option.any_some, if_pos (beq_iff_eq.mpr paused)]
      · rename_i running
        unfold Table.updateIf
        rw [there, Option.any_some, if_neg fun paused => running (beq_iff_eq.mp paused)]

theorem requestResync_cases (request : Request) (db : InboxDb) (refId : String) :
    match resyncFinding db request.enterpriseId refId with
    | .absent => requestResync request db refId = .error .conversationNotFound
    | .unsupported => requestResync request db refId = .error .conversationResyncUnsupported
    | .inFlight => requestResync request db refId = .ok (.queued false, db)
    | .due => ∃ jobs, jobs ≠ db.jobs ∧
        requestResync request db refId = .ok (.queued true, { db with jobs := jobs }) := by
  unfold resyncFinding requestResync
  rw [findResyncTarget_eq]
  cases db.findByRefId request.enterpriseId refId with
  | none => rfl
  | some row =>
      rw [Option.map_some]
      dsimp only
      by_cases message : row.conversationKind = .directMessage
      · have resyncable : ¬ (!resyncableKinds.contains row.conversationKind) = true := by
          rw [message]
          decide
        rw [if_neg (not_not.mpr message), if_neg resyncable]
        cases truthy (db.identifierOf row) with
        | none => rfl
        | some platformId =>
            have enqueued := enqueueIfAbsent_cases ⟨request.enterpriseId, row.channelId,
              .resyncConversation, .manual, some platformId⟩ request.time db.jobs
            dsimp only [Sync.EnqueueSyncInput.slot, Option.getD_some] at enqueued ⊢
            cases found : db.jobs.find? fun job => job.isLive &&
                job.slot == (row.channelId, .resyncConversation, platformId) with
            | none =>
                rw [found] at enqueued
                obtain ⟨next, changed, answered⟩ := enqueued
                exact ⟨next, changed, by rw [answered]⟩
            | some stored =>
                rw [found] at enqueued
                dsimp only at enqueued ⊢
                by_cases paused : stored.row.status = .paused
                · rw [if_pos paused] at enqueued ⊢
                  obtain ⟨next, changed, answered⟩ := enqueued
                  exact ⟨next, changed, by rw [answered]⟩
                · rw [if_neg paused] at enqueued ⊢
                  dsimp only
                  rw [enqueued]
      · have unsupported : (!resyncableKinds.contains row.conversationKind) = true := by
          revert message
          cases row.conversationKind <;> decide
        rw [if_pos message, if_pos unsupported]

end Resync

/-- The answer of an operation is the same in two states, and it changes neither. -/
def Indistinct (operation : Operation) (request : Request) (db other : InboxDb) (refId : String) :
    Prop :=
  operation.answer request db refId = operation.answer request other refId ∧
    operation.after request db refId = db ∧ operation.after request other refId = other

theorem refusal_congr {request : Request} {action : ConversationAction} {db other : InboxDb}
    (same : SameBut request action db other) (operation : Operation) :
    refusal operation request db = refusal operation request other := by
  cases operation with
  | assign employeeRefId =>
      have assigned : assignee request db employeeRefId = assignee request other employeeRefId := by
        unfold assignee InboxDb.findEmployee
        rw [same.employees]
      unfold refusal
      dsimp only
      rw [assigned]
  | readThread => rfl
  | requestResync => rfl
  | refreshAttachments => rfl
  | reply input => rfl
  | moderateComment messageId action => rfl
  | retryModeration messageId => rfl
  | setStatus status => rfl
  | markRead => rfl

def resyncAnswer : ResyncFinding → Except ThreadError Answer
  | .absent => .error .conversationNotFound
  | .unsupported => .error .conversationResyncUnsupported
  | .inFlight => .ok (.queued false)
  | .due => .ok (.queued true)

theorem resyncAnswer_inj {one other : ResyncFinding}
    (same : resyncAnswer one = resyncAnswer other) : one = other := by
  cases one <;> cases other <;> first | rfl | cases same

theorem resync_answer (request : Request) (db : InboxDb) (refId : String) :
    Operation.requestResync.answer request db refId =
      resyncAnswer (resyncFinding db request.enterpriseId refId) := by
  have does := requestResync_cases request db refId
  unfold Operation.answer Operation.run
  cases finding : resyncFinding db request.enterpriseId refId with
  | absent =>
      rw [finding] at does
      dsimp only at does ⊢
      rw [does]
      rfl
  | unsupported =>
      rw [finding] at does
      dsimp only at does ⊢
      rw [does]
      rfl
  | inFlight =>
      rw [finding] at does
      dsimp only at does ⊢
      rw [does]
      rfl
  | due =>
      rw [finding] at does
      obtain ⟨jobs, -, queued⟩ := does
      dsimp only
      rw [queued]
      rfl

theorem resync_after (request : Request) (db : InboxDb) (refId : String) :
    Operation.requestResync.after request db refId = db ↔
      resyncFinding db request.enterpriseId refId ≠ .due := by
  have does := requestResync_cases request db refId
  unfold Operation.after Operation.run
  cases finding : resyncFinding db request.enterpriseId refId with
  | absent =>
      rw [finding] at does
      dsimp only at does ⊢
      rw [does]
      exact iff_of_true rfl nofun
  | unsupported =>
      rw [finding] at does
      dsimp only at does ⊢
      rw [does]
      exact iff_of_true rfl nofun
  | inFlight =>
      rw [finding] at does
      dsimp only at does ⊢
      rw [does]
      exact iff_of_true rfl nofun
  | due =>
      rw [finding] at does
      obtain ⟨jobs, changed, queued⟩ := does
      dsimp only
      rw [queued]
      exact iff_of_false (fun same => changed (congrArg InboxDb.jobs same)) fun other => other rfl

/-- A resync gives itself away unless it finds the same in both states, and nothing to start. -/
theorem resync_indistinct (request : Request) (db other : InboxDb) (refId : String) :
    Indistinct .requestResync request db other refId ↔
      resyncFinding db request.enterpriseId refId = resyncFinding other request.enterpriseId refId ∧
        resyncFinding db request.enterpriseId refId ≠ .due := by
  unfold Indistinct
  rw [resync_answer, resync_answer, resync_after, resync_after]
  constructor
  · rintro ⟨answered, quiet, -⟩
    exact ⟨resyncAnswer_inj answered, quiet⟩
  · rintro ⟨found, quiet⟩
    exact ⟨congrArg resyncAnswer found, quiet, found ▸ quiet⟩

theorem admitted_visible {options : Listing.InboxOptions} {held : List String} {enterpriseId : Nat}
    {row : Listing.ConversationRow} (admitted : (options.input held enterpriseId).admits row = true) :
    row.conversationKind ∈ visibleKinds held := by
  have asked : row.conversationKind ∈ options.kinds held := by
    unfold Listing.InboxInput.admits Listing.InboxOptions.input at admitted
    simp only [Bool.and_eq_true] at admitted
    exact List.contains_iff_mem.mp admitted.2
  unfold Listing.InboxOptions.kinds at asked
  split at asked
  · exact asked
  · exact List.mem_of_mem_filter asked

theorem listInbox_indistinct (runtime : Listing.Runtime) {request : Request} {db other : InboxDb}
    (wellFormed : db.WellFormed) (otherFormed : other.WellFormed)
    (same : SameBut request .view db other) (options : Listing.InboxOptions)
    (cursor : Option String) :
    listInbox runtime request db options cursor = listInbox runtime request other options cursor := by
  have distinct : ∀ db : InboxDb, db.WellFormed →
      ((db.conversations.map (·.toConversationRow)).map Listing.ConversationRow.id).Nodup := by
    intro db wellFormed
    rw [List.map_map]
    exact wellFormed.ids
  have shown : ((db.conversations.map (·.toConversationRow)).filter
      (options.input request.permissions request.enterpriseId).admits).Perm
      ((other.conversations.map (·.toConversationRow)).filter
        (options.input request.permissions request.enterpriseId).admits) := by
    have included : ∀ {db other : InboxDb}, SameBut request .view db other → ∀ row,
        row ∈ db.conversations.map (·.toConversationRow) →
        (options.input request.permissions request.enterpriseId).admits row = true →
        row ∈ other.conversations.map (·.toConversationRow) := by
      intro db other same row member admitted
      obtain ⟨full, there, rfl⟩ := List.mem_map.mp member
      have permitted : request.permits .view full = true :=
        mem_visibleKinds.mp (admitted_visible admitted)
      exact List.mem_map.mpr ⟨full, (same.conversations full permitted).mp there, rfl⟩
    refine (List.perm_ext_iff_of_nodup ((distinct db wellFormed).of_map.filter _)
      ((distinct other otherFormed).of_map.filter _)).mpr fun row => ?_
    rw [List.mem_filter, List.mem_filter]
    exact ⟨fun ⟨member, admitted⟩ => ⟨included same row member admitted, admitted⟩,
      fun ⟨member, admitted⟩ => ⟨included same.symm row member admitted, admitted⟩⟩
  unfold listInbox Listing.listInbox Listing.selectInbox
  dsimp only
  rw [Listing.keysetQuery_congr (distinct db wellFormed) shown]

theorem hidden_thread_indistinct (runtime : Listing.Runtime) (request : Request)
    (db other : InboxDb) (wellFormed : db.WellFormed) (otherFormed : other.WellFormed) :
    (∀ (operation : Operation) (refId : String), SameBut request operation.action db other →
      (Hidden request operation.action refId db ∨ Hidden request operation.action refId other) →
      (Indistinct operation request db other refId ↔
        (operation = .requestResync →
          resyncFinding db request.enterpriseId refId =
              resyncFinding other request.enterpriseId refId ∧
            resyncFinding db request.enterpriseId refId ≠ .due))) ∧
    (SameBut request .view db other → ∀ options cursor,
      listInbox runtime request db options cursor =
        listInbox runtime request other options cursor) := by
  refine ⟨fun operation refId same hidden => ?_, fun same options cursor =>
    listInbox_indistinct runtime wellFormed otherFormed same options cursor⟩
  by_cases resync : operation = .requestResync
  · subst resync
    rw [resync_indistinct]
    exact ⟨fun settled _ => settled, fun settled => settled rfl⟩
  · refine ⟨fun _ resynced => absurd resynced resync, fun _ => ?_⟩
    have here := run_of_not_found resync
      (requireConversation_hidden wellFormed otherFormed same hidden)
    have there := run_of_not_found resync
      (requireConversation_hidden otherFormed wellFormed same.symm hidden.symm)
    unfold Indistinct Operation.answer Operation.after
    rw [here, there, refusal_congr same]
    exact ⟨rfl, rfl, rfl⟩

section Example

def privateThread : ConversationRow where
  id := .first
  enterpriseId := 1
  isDeleted := false
  status := .open_
  assignedToEmployeeId := none
  conversationKind := .directMessage
  lastMessageAt := none
  refId := "c1"
  channelId := 1
  customerIdentifierId := some 1
  platform := .instagram
  platformThreadId := "dm:p1"
  subject := none
  postId := none
  contextMetadata := ⟨none, none, none, false, []⟩
  unreadCount := 0
  messageCount := 0
  lastInboundAt := none
  firstRespondedAt := none

def businessWith (conversations : List ConversationRow) : InboxDb where
  conversations := conversations
  outbound := .empty
  readMessages := []
  attachments := []
  jobs := .empty
  identifiers := [⟨1, 1, "p1", false⟩]
  employees := []
  channels := []

def mentionsAgent : Request where
  enterpriseId := 1
  employeeId := some 1
  permissions := ["mentions.view", "mentions.manage"]
  now := .epoch
  freshLinks := fun _ => none
  page := fun rows => ⟨rows, none, false⟩

theorem businessWith_wellFormed (conversations : List ConversationRow)
    (few : conversations = [privateThread] ∨ conversations = []) :
    (businessWith conversations).WellFormed := by
  rcases few with rfl | rfl
  · exact ⟨by decide, by decide⟩
  · exact ⟨by decide, by decide⟩

theorem private_sameBut {action : ConversationAction}
    (refused : mentionsAgent.permits action privateThread = false) :
    SameBut mentionsAgent action (businessWith [privateThread]) (businessWith []) := by
  have nothing : ∀ db : List ConversationRow, ∀ id message,
      ¬ (businessWith db).shows mentionsAgent action id message := by
    rintro db id message ⟨there, -⟩
    cases there
  refine ⟨fun row permitted => ?_, fun id message => iff_of_false (nothing _ _ _) (nothing _ _ _),
    fun id message shown => absurd shown (nothing _ _ _),
    fun attachment message shown => absurd shown (nothing _ _ _), rfl, rfl, rfl, rfl, rfl, rfl⟩
  refine iff_of_false (fun member => ?_) List.not_mem_nil
  rw [List.mem_singleton.mp member, refused] at permitted
  exact Bool.false_ne_true permitted

theorem hidden_thread_unread : Indistinct .readThread mentionsAgent (businessWith [privateThread])
    (businessWith []) "c1" :=
  ((hidden_thread_indistinct ⟨fun _ => [], fun _ => none⟩ mentionsAgent _ _
    (businessWith_wellFormed _ (.inl rfl)) (businessWith_wellFormed _ (.inr rfl))).1 .readThread "c1"
    (private_sameBut rfl) (.inl ⟨privateThread, List.mem_singleton_self _, rfl, rfl⟩)).mpr nofun

/-- Who handles mentions only finds out that a private conversation is there, and has it read
again. -/
theorem resync_of_private_thread : ¬ ∀ (request : Request) (db other : InboxDb),
    db.WellFormed → other.WellFormed → ∀ (operation : Operation) (refId : String),
      SameBut request operation.action db other →
      (Hidden request operation.action refId db ∨ Hidden request operation.action refId other) →
      Indistinct operation request db other refId := by
  intro indistinct
  have revealed := indistinct mentionsAgent _ _ (businessWith_wellFormed _ (.inl rfl))
    (businessWith_wellFormed _ (.inr rfl)) .requestResync "c1" (private_sameBut rfl)
    (.inl ⟨privateThread, List.mem_singleton_self _, rfl, rfl⟩)
  exact ((resync_indistinct _ _ _ _).mp revealed).2 rfl

end Example

end UnifiedService.Threads
