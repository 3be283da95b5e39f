import UnifiedService.Library.Dues
import UnifiedService.Library.Tally
import UnifiedService.Projection.DatabaseProperties

/-! Whether what a customer did reaches the reward engine. A projection commits before its
row is settled, and only then is the engine called: a settlement that fails in between
loses the call. -/

set_option autoImplicit false

namespace UnifiedService.Projection

open UnifiedService.Library
open UnifiedService.Outbound (Platform ConversationKind)
open UnifiedService.Inbound

/-! ### What a projection stores -/

def CustomerWrote (messages : Table MessageRow) (id : Nat) : Prop :=
  ∃ row, messages.get? id = some row ∧ row.direction = .inbound

structure Stores (before after : Table MessageRow) (stored : List Nat) : Prop where
  wrote : ∀ id, CustomerWrote after id ↔ CustomerWrote before id ∨ id ∈ stored
  once : stored.Nodup
  fresh : ∀ id ∈ stored, before.nextId ≤ id
  grows : before.nextId ≤ after.nextId

section Stores

variable {before after later : Table MessageRow} {stored : List Nat}

theorem Stores.nothing (messages : Table MessageRow) : Stores messages messages [] :=
  ⟨fun _ => by simp, List.nodup_nil, fun _ member => absurd member List.not_mem_nil,
    Nat.le_refl _⟩

theorem customerWrote_insert (messages : Table MessageRow) (row : MessageRow) (id : Nat) :
    CustomerWrote (messages.insert row) id ↔
      CustomerWrote messages id ∨ (id = messages.nextId ∧ row.direction = .inbound) := by
  unfold CustomerWrote
  rw [Table.get?_insert]
  split
  · next same =>
      subst same
      simp
  · next different => simp [different]

theorem Stores.inbound (messages : Table MessageRow) {row : MessageRow}
    (theirs : row.direction = .inbound) :
    Stores messages (messages.insert row) [messages.nextId] := by
  refine ⟨fun id => ?_, List.nodup_singleton _, fun id member => ?_, ?_⟩
  · rw [customerWrote_insert, List.mem_singleton]
    simp [theirs]
  · rw [List.mem_singleton.mp member]
  · rw [Table.nextId_insert]
    exact Nat.le_succ _

theorem Stores.outbound (messages : Table MessageRow) {row : MessageRow}
    (ours : row.direction = .outbound) : Stores messages (messages.insert row) [] := by
  refine ⟨fun id => ?_, List.nodup_nil, fun _ member => absurd member List.not_mem_nil, ?_⟩
  · rw [customerWrote_insert]
    simp [ours]
  · rw [Table.nextId_insert]
    exact Nat.le_succ _

theorem customerWrote_updateWhere (messages : Table MessageRow) (wanted : Nat → MessageRow → Bool)
    {change : MessageRow → MessageRow} (same : ∀ row, (change row).direction = row.direction)
    (id : Nat) : CustomerWrote (messages.updateWhere wanted change) id ↔ CustomerWrote messages id := by
  unfold CustomerWrote
  rw [Table.get?_updateWhere]
  cases messages.get? id with
  | none => simp
  | some row =>
      have kept : (if wanted id row then change row else row).direction = row.direction := by
        split
        · exact same row
        · rfl
      simp [kept]

theorem Stores.updateWhere (stores : Stores before after stored)
    (wanted : Nat → MessageRow → Bool) {change : MessageRow → MessageRow}
    (same : ∀ row, (change row).direction = row.direction) :
    Stores before (after.updateWhere wanted change) stored := by
  refine ⟨fun id => ?_, stores.once, stores.fresh, ?_⟩
  · rw [customerWrote_updateWhere _ _ same, stores.wrote]
  · rw [Table.nextId_updateWhere]
    exact stores.grows

theorem Stores.update (stores : Stores before after stored) (target : Nat)
    {change : MessageRow → MessageRow} (same : ∀ row, (change row).direction = row.direction) :
    Stores before (after.update target change) stored := by
  have asWhere : after.update target change =
      after.updateWhere (fun other _ => other == target && true) change := by
    rw [Table.updateWhere_id]
    simp
  rw [asWhere]
  exact stores.updateWhere _ same

end Stores

def offers (outcome : Option ProjectionOutcome) : List Nat :=
  (outcome.bind ProjectionOutcome.trigger).toList.map ProjectedTriggerFacts.sourceRefId

/-- What a projection tells the worker: the messages of customers it stored, and that there
is nothing to tell where it says so. -/
structure Reports (before after : Table MessageRow) (outcome : Option ProjectionOutcome) :
    Prop where
  stores : Stores before after (offers outcome)
  quiet : ∀ told, outcome = some told → told.projected = false → told = skipped

section Reports

variable {before after : Table MessageRow}

theorem Reports.skipped (stores : Stores before after []) :
    Reports before after (some skipped) := by
  refine ⟨stores, fun told same _ => ?_⟩
  exact (Option.some.inj same).symm

theorem Reports.threw (stores : Stores before after []) : Reports before after none :=
  ⟨stores, fun _ same => nomatch same⟩

theorem Reports.projected {told : ProjectionOutcome} (projected : told.projected = true)
    (stores : Stores before after (offers (some told))) : Reports before after (some told) := by
  refine ⟨stores, fun other same quiet => ?_⟩
  obtain rfl := Option.some.inj same
  rw [projected] at quiet
  exact absurd quiet.symm Bool.false_ne_true

end Reports

section Projectors

variable (normalizeText : String → String) (context : ProjectionContext) (now : Int)
  (inbox : Inbox)

theorem Incoming.project_reports (incoming : Incoming) :
    Reports inbox.messages (incoming.project now inbox).1.messages
      (some (incoming.project now inbox).2) := by
  unfold Incoming.project
  dsimp only
  have same : ((incoming.resolve now inbox).2.upsert
      (incoming.thread (incoming.resolve now inbox).1)).2.messages = inbox.messages := by simp
  generalize ((incoming.resolve now inbox).2.upsert
    (incoming.thread (incoming.resolve now inbox).1)) = threaded at same ⊢
  obtain ⟨conversation, current⟩ := threaded
  dsimp only at same ⊢
  rw [← same]
  rcases insertMessage_cases current (incoming.row (incoming.resolve now inbox).1.customerId
    conversation.id (incoming.parent current) now) with held | stored
  · rw [held]
    exact .skipped (.nothing _)
  · rw [stored, Incoming.count_messages]
    refine .projected rfl ?_
    exact (Stores.inbound _ rfl).updateWhere _ fun _ => rfl

theorem Echoed.project_reports (echoed : Echoed) :
    Reports inbox.messages (echoed.project now inbox).1.messages
      (some (echoed.project now inbox).2) := by
  unfold Echoed.project
  dsimp only
  have same : ((inbox.resolveOrCreate echoed.customer now).2.upsert
      (echoed.thread (inbox.resolveOrCreate echoed.customer now).1)).2.messages =
        inbox.messages := by simp
  generalize ((inbox.resolveOrCreate echoed.customer now).2.upsert
    (echoed.thread (inbox.resolveOrCreate echoed.customer now).1)) = threaded at same ⊢
  obtain ⟨conversation, current⟩ := threaded
  dsimp only at same ⊢
  rw [← same]
  split
  · exact .skipped (.nothing _)
  · unfold Inbox.claimPendingOutbound
    cases current.messages.find? (·.awaitsEcho echoed.enterpriseId conversation.id
      echoed.text) with
    | some waiting =>
        have stamps : ∀ row : MessageRow, (row.stamped echoed.mid now).direction = row.direction :=
          fun _ => rfl
        refine .skipped ?_
        exact ((Stores.nothing current.messages).update waiting.id stamps).updateWhere _
          fun _ => rfl
    | none =>
        dsimp only
        rcases insertMessage_cases current
          (echoed.row (inbox.resolveOrCreate echoed.customer now).1.customerId conversation.id
            now) with held | stored
        · rw [held]
          exact .skipped (.nothing _)
        · rw [stored, recordMessage_messages]
          refine .projected rfl ?_
          exact (Stores.outbound _ rfl).updateWhere _ fun _ => rfl

theorem StoredComment.store_reports (stored : StoredComment) :
    Reports inbox.messages (stored.store now inbox).1.messages
      (some (stored.store now inbox).2) := by
  unfold StoredComment.store
  dsimp only
  have same : ((stored.resolve now inbox).2.upsert
      (stored.thread (stored.resolve now inbox).1
        (stored.post (stored.resolve now inbox).2))).2.messages = inbox.messages := by simp
  generalize ((stored.resolve now inbox).2.upsert
    (stored.thread (stored.resolve now inbox).1
      (stored.post (stored.resolve now inbox).2))) = threaded at same ⊢
  obtain ⟨conversation, current⟩ := threaded
  dsimp only at same ⊢
  rw [← same]
  rcases insertMessage_cases current (stored.row (stored.resolve now inbox).1.customerId
    conversation.id (stored.parent current) now) with held | kept
  · rw [held]
    exact .skipped (.nothing _)
  · rw [kept, recordEngagement_messages, touchLastSeen_messages, recordMessage_messages]
    exact .projected rfl (.inbound _ rfl)

theorem directMessage_reports (event : MessagingEvent) :
    Reports inbox.messages
      (DirectMessageProjectorService.project normalizeText context event now inbox).1.messages
      (DirectMessageProjectorService.project normalizeText context event now inbox).2 := by
  unfold DirectMessageProjectorService.project
  split
  · unfold DirectMessageProjectorService.handleMessageEdit
    split
    · exact .skipped (.nothing _)
    · split
      · exact .skipped (.nothing _)
      · split
        · exact .threw (.nothing _)
        · exact .skipped (.nothing _)
  · split
    · refine .skipped ?_
      exact (Stores.nothing inbox.messages).updateWhere _ fun _ => rfl
    · split
      · refine .skipped ?_
        unfold Inbox.markSeenByCustomer
        split
        · exact .nothing _
        · exact (Stores.nothing inbox.messages).updateWhere _ fun _ => rfl
      · split
        · split
          · refine .skipped ?_
            exact (Stores.nothing inbox.messages).updateWhere _ fun _ => rfl
          · dsimp only
            unfold DirectMessageProjectorService.projectMessage
            split
            · split
              · exact .skipped (.nothing _)
              · exact Echoed.project_reports now inbox _
            · split
              · exact .skipped (.nothing _)
              · exact Incoming.project_reports now inbox _
        · exact .skipped (.nothing _)

theorem applyModeration_reports (moderation : CommentModeration) (oracle : ProjectionOracle) :
    Reports inbox.messages
      (CommentProjectorService.applyModeration context moderation oracle now inbox).1.messages
      (CommentProjectorService.applyModeration context moderation oracle now inbox).2 := by
  have changed : Stores inbox.messages
      (inbox.applyPlatformModeration context.enterpriseId moderation now).2.messages [] :=
    (Stores.nothing inbox.messages).updateWhere _ fun _ => rfl
  unfold CommentProjectorService.applyModeration
  split
  · next result =>
      rw [result] at changed
      exact .skipped changed
  · next current result =>
      rw [result] at changed
      dsimp only
      split
      · exact .projected rfl changed
      · split
        · exact .threw changed
        · exact .projected rfl changed

theorem projectNormalized_reports (oracle : ProjectionOracle)
    (kindOf : CanonicalComment → Inbox → ConversationKind) (normalized : NormalizedComment) :
    Reports inbox.messages
      (CommentProjectorService.projectNormalized normalizeText context oracle now kindOf inbox
        normalized).1.messages
      (CommentProjectorService.projectNormalized normalizeText context oracle now kindOf inbox
        normalized).2 := by
  cases normalized with
  | skip => exact .skipped (.nothing _)
  | moderation moderation => exact applyModeration_reports context now inbox moderation oracle
  | comment comment =>
      simp only [CommentProjectorService.projectNormalized]
      split
      · exact .skipped (.nothing _)
      · exact StoredComment.store_reports now inbox _

theorem projectors_reports (eventType : InboundEventType) (payload : InboundPayload)
    (oracle : ProjectionOracle) :
    Reports inbox.messages
      (projectors normalizeText eventType context payload now oracle inbox).1.messages
      (projectors normalizeText eventType context payload now oracle inbox).2 := by
  unfold projectors
  split
  · exact .threw (.nothing _)
  · split
    · exact projectNormalized_reports ..
    · exact projectNormalized_reports ..
    · exact directMessage_reports ..
    · exact projectNormalized_reports ..
    · unfold CommentProjectorService.projectInstagramMention
      split
      · exact .threw (.nothing _)
      · exact projectNormalized_reports ..
    · unfold PostProjectorService.project
      split
      · exact .skipped (.nothing _)
      · rw [upsertPost_messages]
        exact .projected rfl (.nothing _)
    · exact .skipped (.nothing _)

end Projectors

/-! ### What the worker owes the reward engine -/

def reversals (outcome : ProjectionOutcome) : List Nat :=
  outcome.reversal.toList.map ProjectedReversalFacts.sourceRefId

def owedOffers (task : ProjectorTask InboundPayload) : List Nat :=
  match task.step with
  | .markProcessed _ outcome | .offerToRewards outcome => offers (some outcome)
  | .next | .findContext _ | .project _ _ | .markSkipped _ _ | .reverseRewards _
  | .markFailed _ _ => []

def owedReversals (task : ProjectorTask InboundPayload) : List Nat :=
  match task.step with
  | .offerToRewards outcome | .reverseRewards outcome => reversals outcome
  | .next | .findContext _ | .project _ _ | .markSkipped _ _ | .markProcessed _ _
  | .markFailed _ _ => []

def atHand (state : IntakeState Inbox InboundPayload) (party : IntakeParty) :
    Option (ProjectorStep InboundPayload) :=
  match party with
  | .worker _ => (state.left party).head?.map ProjectorTask.step
  | .reaper | .ingest _ | .operator => none

def lostBy (fails : Bool) (step : ProjectorStep InboundPayload) : List Nat :=
  match step with
  | .markProcessed _ outcome => if fails then offers (some outcome) else []
  | .next | .findContext _ | .project _ _ | .markSkipped _ _ | .offerToRewards _
  | .reverseRewards _ | .markFailed _ _ => []

def settledBy (fails : Bool) (step : ProjectorStep InboundPayload) : List Nat :=
  match step with
  | .markProcessed _ outcome => if fails then [] else reversals outcome
  | .next | .findContext _ | .project _ _ | .markSkipped _ _ | .offerToRewards _
  | .reverseRewards _ | .markFailed _ _ => []

def lostOffers (state : IntakeState Inbox InboundPayload) (party : IntakeParty)
    (choice : IntakeChoice InboundPayload ProjectionOracle) : List Nat :=
  (atHand state party).elim [] (lostBy choice.fails)

def settledTakedowns (state : IntakeState Inbox InboundPayload) (party : IntakeParty)
    (choice : IntakeChoice InboundPayload ProjectionOracle) : List Nat :=
  (atHand state party).elim [] (settledBy choice.fails)

def moderationOf (eventType : InboundEventType) (payload : InboundPayload) :
    Option CommentModeration :=
  let normalized :=
    match eventType, payload with
    | .comment, .facebookComment change => normalizeFacebook change
    | .comment, .instagramComment change => normalizeInstagram change
    | .mention, .facebookMention change => normalizeFacebookMention change
    | _, _ => .skip
  match normalized with
  | .moderation moderation => some moderation
  | .comment _ | .skip => none

def takenDown (state : IntakeState Inbox InboundPayload) (party : IntakeParty)
    (choice : IntakeChoice InboundPayload ProjectionOracle) : List Nat :=
  match atHand state party with
  | some (.project event context) =>
      if choice.oracle.fails then []
      else
        match moderationOf event.eventType event.payload with
        | some ⟨commentId, .removed, _⟩ | some ⟨commentId, .hidden, _⟩ =>
            (state.store.inbox.findIdByPlatformMessageId context.enterpriseId commentId).toList
        | _ => []
  | _ => []

def offeredIds (intake : Intake Inbox InboundPayload) : List Nat :=
  intake.offered.map ProjectedTriggerFacts.sourceRefId

def reversedIds (intake : Intake Inbox InboundPayload) : List Nat :=
  intake.reversed.map ProjectedReversalFacts.sourceRefId

def StoredSince (base : Nat) (intake : Intake Inbox InboundPayload) (id : Nat) : Prop :=
  base ≤ id ∧ CustomerWrote intake.inbox.messages id

section Worker

variable (normalizeText : String → String)

structure Accounts (base : Nat) (before after : Intake Inbox InboundPayload)
    (had has : List (ProjectorTask InboundPayload)) (lost settled : List Nat) : Prop where
  begun : base ≤ after.inbox.messages.nextId
  conserves : ∃ fresh offered, offeredIds after = offeredIds before ++ offered ∧
    Crew.Conserves owedOffers (StoredSince base before) (StoredSince base after) had has fresh
      (offered ++ lost)
  takes : ∀ id, id ∈ reversedIds after ∨ id ∈ Crew.owed owedReversals has ↔
    id ∈ reversedIds before ∨ id ∈ Crew.owed owedReversals had ∨ id ∈ settled

variable {base : Nat} {before after : Intake Inbox InboundPayload}
  {task : ProjectorTask InboundPayload} {next rest : List (ProjectorTask InboundPayload)}

theorem takes_of_still (reversed : after.reversed = before.reversed)
    (nothing : owedReversals task = []) (nextNothing : Crew.owed owedReversals next = []) (id : Nat) :
    id ∈ reversedIds after ∨ id ∈ Crew.owed owedReversals (next ++ rest) ↔
      id ∈ reversedIds before ∨ id ∈ Crew.owed owedReversals (task :: rest) ∨ id ∈ [] := by
  rw [Crew.owed_append, nextNothing, Crew.owed_cons, nothing, reversedIds, reversed, reversedIds]
  simp

theorem Accounts.still (begun : base ≤ before.inbox.messages.nextId)
    (inbox : after.inbox = before.inbox) (offered : after.offered = before.offered)
    (reversed : after.reversed = before.reversed) (nothing : owedOffers task = [])
    (nextNothing : Crew.owed owedOffers next = []) (takesNothing : owedReversals task = [])
    (nextTakesNothing : Crew.owed owedReversals next = []) :
    Accounts base before after (task :: rest) (next ++ rest) [] [] := by
  refine ⟨by rwa [inbox], ⟨[], [], ?_, ?_⟩, takes_of_still reversed takesNothing nextTakesNothing⟩
  · rw [offeredIds, offered, List.append_nil, offeredIds]
  · refine Crew.Conserves.run ?_ List.nodup_nil (fun _ member => absurd member List.not_mem_nil) ?_
    · rw [nothing, nextNothing]
      exact .refl _
    · intro id
      simp [StoredSince, inbox]

theorem project_accounts (context : ProjectionContext) (event : ClaimedInboundEvent InboundPayload)
    (choice : IntakeChoice InboundPayload ProjectionOracle)
    (begun : base ≤ before.inbox.messages.nextId) (leaseOwner : Nat)
    (events : List (ClaimedInboundEvent InboundPayload)) :
    Accounts base before
      (InboundProjectorWorker.runStep (projectors normalizeText) leaseOwner choice before events
        (.project event context)).1
      (⟨.project event context, events⟩ :: rest)
      ((InboundProjectorWorker.runStep (projectors normalizeText) leaseOwner choice before events
        (.project event context)).2 ++ rest) [] [] := by
  have reports := projectors_reports normalizeText context choice.now before.inbox event.eventType
    event.payload choice.oracle
  simp only [InboundProjectorWorker.runStep]
  generalize projectors normalizeText event.eventType context event.payload choice.now
    choice.oracle before.inbox = projected at reports ⊢
  obtain ⟨inbox, outcome⟩ := projected
  obtain ⟨stores, quiet⟩ := reports
  have raises : ∀ id, StoredSince base { before with inbox := inbox } id ↔
      StoredSince base before id ∨ id ∈ offers outcome := by
    intro id
    have fresh : id ∈ offers outcome → base ≤ id :=
      fun member => Nat.le_trans begun (stores.fresh id member)
    simp only [StoredSince, stores.wrote]
    tauto
  have unraised : ∀ id ∈ offers outcome, ¬StoredSince base before id := by
    rintro id member ⟨_, row, found, _⟩
    exact absurd (Table.get?_lt found) (Nat.not_lt.mpr (stores.fresh id member))
  have grown : base ≤ inbox.messages.nextId := Nat.le_trans begun stores.grows
  cases outcome with
  | none =>
      refine ⟨grown, ⟨[], [], (List.append_nil _).symm, ?_⟩, takes_of_still rfl rfl rfl⟩
      exact Crew.Conserves.run (.refl _) List.nodup_nil unraised raises
  | some outcome =>
      refine ⟨grown, ⟨offers (some outcome), [], (List.append_nil _).symm, ?_⟩, ?_⟩
      · refine Crew.Conserves.run ?_ stores.once unraised raises
        rw [Crew.owed_singleton]
        split
        · exact .refl _
        · next idle =>
            rw [quiet outcome rfl (Bool.eq_false_iff.mpr idle)]
            exact .refl _
      · refine takes_of_still rfl rfl ?_
        rw [Crew.owed_singleton]
        split <;> rfl

theorem runStep_accounts (leaseOwner : Nat)
    (choice : IntakeChoice InboundPayload ProjectionOracle)
    (begun : base ≤ before.inbox.messages.nextId) (task : ProjectorTask InboundPayload) :
    Accounts base before
      (InboundProjectorWorker.runStep (projectors normalizeText) leaseOwner choice before task.rest
        task.step).1
      (task :: rest)
      ((InboundProjectorWorker.runStep (projectors normalizeText) leaseOwner choice before
        task.rest task.step).2 ++ rest)
      (lostBy choice.fails task.step) (settledBy choice.fails task.step) := by
  have same : ∀ id, StoredSince base before id ↔ StoredSince base before id ∨ id ∈ [] := by
    simp
  obtain ⟨step, events⟩ := task
  cases step with
  | next =>
      cases events with
      | nil => apply Accounts.still begun <;> rfl
      | cons event events =>
          simp only [InboundProjectorWorker.runStep]
          split <;> apply Accounts.still begun <;> rfl
  | findContext event =>
      simp only [InboundProjectorWorker.runStep]
      split
      · apply Accounts.still begun <;> rfl
      · split <;> apply Accounts.still begun <;> rfl
  | project event context =>
      exact project_accounts normalizeText context event choice begun leaseOwner events
  | markSkipped event tried =>
      simp only [InboundProjectorWorker.runStep]
      split
      · split <;> apply Accounts.still begun <;> rfl
      · apply Accounts.still begun <;> rfl
  | markProcessed event outcome =>
      simp only [InboundProjectorWorker.runStep, lostBy, settledBy]
      split
      · refine ⟨begun, ⟨[], [], (List.append_nil _).symm, ?_⟩, takes_of_still rfl rfl rfl⟩
        refine Crew.Conserves.run ?_ List.nodup_nil (fun _ member => nomatch member) same
        exact .refl _
      · refine ⟨begun, ⟨[], [], (List.append_nil _).symm, ?_⟩, fun id => ?_⟩
        · refine Crew.Conserves.run ?_ List.nodup_nil (fun _ member => nomatch member) same
          rw [List.append_nil, Crew.owed_singleton]
          exact .refl _
        · simp [reversedIds, owedReversals, or_comm]
  | offerToRewards outcome =>
      refine ⟨begun, ⟨[], offers (some outcome), List.map_append, ?_⟩, fun id => ?_⟩
      · refine Crew.Conserves.run ?_ List.nodup_nil (fun _ member => nomatch member) ?_
        · simp [owedOffers, lostBy, InboundProjectorWorker.runStep]
        · intro id
          simp [StoredSince, InboundProjectorWorker.runStep]
      · simp [reversedIds, owedReversals, settledBy, InboundProjectorWorker.runStep]
  | reverseRewards outcome =>
      refine ⟨begun, ⟨[], [], (List.append_nil _).symm, ?_⟩, fun id => ?_⟩
      · exact Crew.Conserves.run (.refl _) List.nodup_nil (fun _ member => nomatch member) same
      · simp [reversedIds, reversals, owedReversals, settledBy, InboundProjectorWorker.runStep,
          or_assoc]
  | markFailed event nextAttemptAt =>
      simp only [InboundProjectorWorker.runStep]
      split <;> apply Accounts.still begun <;> rfl

theorem Accounts.started (begun : base ≤ before.inbox.messages.nextId)
    (inbox : after.inbox = before.inbox) (offered : after.offered = before.offered)
    (reversed : after.reversed = before.reversed) {has : List (ProjectorTask InboundPayload)}
    (nothing : Crew.owed owedOffers has = []) (takesNothing : Crew.owed owedReversals has = []) :
    Accounts base before after [] has [] [] := by
  refine ⟨by rwa [inbox], ⟨[], [], ?_, ?_⟩, fun id => ?_⟩
  · rw [offeredIds, offered, List.append_nil, offeredIds]
  · refine ⟨?_, List.nodup_nil, fun _ member => (nomatch member), fun id => ?_⟩
    · rw [nothing]
      exact .refl _
    · simp [StoredSince, inbox]
  · rw [takesNothing, reversedIds, reversed, reversedIds]
    simp

theorem startIntake_accounts (begun : base ≤ before.inbox.messages.nextId) (party : IntakeParty)
    (choice : IntakeChoice InboundPayload ProjectionOracle) :
    Accounts base before (startIntake before party choice).1 []
      (startIntake before party choice).2 [] [] := by
  cases party with
  | worker leaseOwner =>
      simp only [startIntake, InboundProjectorWorker.pollOnce]
      split <;> apply Accounts.started begun <;> rfl
  | reaper =>
      simp only [startIntake]
      split <;> apply Accounts.started begun <;> rfl
  | ingest id =>
      simp only [startIntake]
      split <;> apply Accounts.started begun <;> rfl
  | operator =>
      simp only [startIntake]
      split <;> apply Accounts.started begun <;> rfl

/-! ### Runs -/

def OnlyWorkers (state : IntakeState Inbox InboundPayload) : Prop :=
  ∀ party, (∀ leaseOwner, party ≠ .worker leaseOwner) → state.left party = []

theorem onlyWorkers_step {state : IntakeState Inbox InboundPayload} (only : OnlyWorkers state)
    (party : IntakeParty) (choice : IntakeChoice InboundPayload ProjectionOracle) :
    OnlyWorkers ((intake (projectors normalizeText)).step state party choice) := by
  intro other notWorker
  by_cases same : other = party
  · subst same
    rw [((intake (projectors normalizeText)).step_start (only other notWorker) choice).2]
    cases other with
    | worker leaseOwner => exact absurd rfl (notWorker leaseOwner)
    | reaper => rfl
    | ingest id => rfl
    | operator => rfl
  · rw [Crew.left_step_of_ne _ _ _ same]
    exact only other notWorker

theorem step_accounts {state : IntakeState Inbox InboundPayload} (only : OnlyWorkers state)
    (begun : base ≤ state.store.inbox.messages.nextId) (party : IntakeParty)
    (choice : IntakeChoice InboundPayload ProjectionOracle) :
    Accounts base state.store ((intake (projectors normalizeText)).advance state party choice).1
      (state.left party) ((intake (projectors normalizeText)).advance state party choice).2
      (lostOffers state party choice) (settledTakedowns state party choice) := by
  unfold lostOffers settledTakedowns atHand
  cases queued : state.left party with
  | nil =>
      rw [Crew.advance_start _ queued]
      cases party with
      | worker leaseOwner => exact startIntake_accounts begun (.worker leaseOwner) choice
      | reaper => exact startIntake_accounts begun .reaper choice
      | ingest id => exact startIntake_accounts begun (.ingest id) choice
      | operator => exact startIntake_accounts begun .operator choice
  | cons task rest =>
      rw [Crew.advance_run _ queued]
      cases party with
      | worker leaseOwner => exact runStep_accounts normalizeText leaseOwner choice begun task
      | reaper => exact absurd (queued.symm.trans (only _ fun _ => nofun)) (List.cons_ne_nil _ _)
      | ingest id => exact absurd (queued.symm.trans (only _ fun _ => nofun)) (List.cons_ne_nil _ _)
      | operator => exact absurd (queued.symm.trans (only _ fun _ => nofun)) (List.cons_ne_nil _ _)

structure Offering (base : Nat) (state : IntakeState Inbox InboundPayload) (lost : List Nat) :
    Prop where
  begun : base ≤ state.store.inbox.messages.nextId
  only : OnlyWorkers state
  dues : Crew.Dues owedOffers (StoredSince base state.store) (offeredIds state.store ++ lost)
    state.left

theorem Offering.step {state : IntakeState Inbox InboundPayload} {lost : List Nat}
    (offering : Offering base state lost) (party : IntakeParty)
    (choice : IntakeChoice InboundPayload ProjectionOracle) :
    Offering base ((intake (projectors normalizeText)).step state party choice)
      (lost ++ lostOffers state party choice) := by
  have accounts := step_accounts normalizeText offering.only offering.begun party choice
  obtain ⟨fresh, offered, grown, conserves⟩ := accounts.conserves
  refine ⟨accounts.begun, onlyWorkers_step normalizeText offering.only party choice, ?_⟩
  refine (offering.dues.step conserves).perm ?_
  -- What goes is offered or lost, and the offers of the run stand before the losses.
  have regroup : (offeredIds state.store ++ lost ++ (offered ++ lostOffers state party choice)).Perm
      (offeredIds state.store ++ offered ++ (lost ++ lostOffers state party choice)) := by
    rw [List.append_assoc, List.append_assoc]
    refine .append_left _ ?_
    rw [← List.append_assoc, ← List.append_assoc]
    exact .append_right _ List.perm_append_comm
  rw [← grown] at regroup
  exact regroup

structure Reversing (state : IntakeState Inbox InboundPayload) (settled : List Nat) : Prop where
  only : OnlyWorkers state
  taken : ∀ id, id ∈ settled ↔
    id ∈ reversedIds state.store ∨ ∃ party, id ∈ Crew.owed owedReversals (state.left party)

theorem Reversing.step {state : IntakeState Inbox InboundPayload} {settled : List Nat}
    (reversing : Reversing state settled) (party : IntakeParty)
    (choice : IntakeChoice InboundPayload ProjectionOracle) :
    Reversing ((intake (projectors normalizeText)).step state party choice)
      (settled ++ settledTakedowns state party choice) := by
  have takes := (step_accounts normalizeText reversing.only (Nat.zero_le _) party choice).takes
  refine ⟨onlyWorkers_step normalizeText reversing.only party choice, fun id => ?_⟩
  have others : ∀ other, other ≠ party →
      ((intake (projectors normalizeText)).step state party choice).left other =
        state.left other := fun other different => Crew.left_step_of_ne _ _ _ different
  have self := (intake (projectors normalizeText)).left_step_self state party choice
  rw [List.mem_append, reversing.taken]
  constructor
  · rintro ((before | ⟨other, owes⟩) | now)
    · rcases (takes id).mpr (.inl before) with after | owes
      · exact .inl after
      · exact .inr ⟨party, by rwa [self]⟩
    · by_cases same : other = party
      · subst same
        rcases (takes id).mpr (.inr (.inl owes)) with after | still
        · exact .inl after
        · exact .inr ⟨other, by rwa [self]⟩
      · exact .inr ⟨other, by rwa [others other same]⟩
    · rcases (takes id).mpr (.inr (.inr now)) with after | owes
      · exact .inl after
      · exact .inr ⟨party, by rwa [self]⟩
  · have here : id ∈ reversedIds ((intake (projectors normalizeText)).step state party choice).store ∨
          id ∈ Crew.owed owedReversals
            ((intake (projectors normalizeText)).advance state party choice).2 →
        (id ∈ reversedIds state.store ∨
          ∃ party, id ∈ Crew.owed owedReversals (state.left party)) ∨
          id ∈ settledTakedowns state party choice := by
      intro member
      rcases (takes id).mp member with before | owes | now
      · exact .inl (.inl before)
      · exact .inl (.inr ⟨party, owes⟩)
      · exact .inr now
    rintro (after | ⟨other, owes⟩)
    · exact here (.inl after)
    · by_cases same : other = party
      · subst same
        rw [self] at owes
        exact here (.inr owes)
      · rw [others other same] at owes
        exact .inl (.inr ⟨other, owes⟩)

abbrev IntakeScript := List (IntakeParty × IntakeChoice InboundPayload ProjectionOracle)

/-- Whether nobody stopped with something to tell the reward engine. -/
def NothingOwed (state : IntakeState Inbox InboundPayload) : Prop :=
  ∀ party, ∀ task ∈ state.left party, owedOffers task = [] ∧ owedReversals task = []

theorem owed_eq_nil {due : ProjectorTask InboundPayload → List Nat}
    {tasks : List (ProjectorTask InboundPayload)} (nothing : ∀ task ∈ tasks, due task = []) :
    Crew.owed due tasks = [] :=
  List.flatMap_eq_nil_iff.mpr nothing

/-- Every message of a customer that a run stored was offered once, and whatever it took
down was taken back. -/
def EverythingTold (inbox : Inbox) (script : IntakeScript) : Prop :=
  let start : IntakeState Inbox InboundPayload := Crew.idle (.start inbox)
  let last := (intake (projectors normalizeText)).after start script
  (∀ id, StoredSince inbox.messages.nextId last.store id →
      (offeredIds last.store).count id = 1) ∧
    ∀ id ∈ (intake (projectors normalizeText)).collect takenDown start script,
      id ∈ reversedIds last.store

theorem offering (inbox : Inbox) (script : IntakeScript) :
    Offering inbox.messages.nextId
      ((intake (projectors normalizeText)).after (Crew.idle (.start inbox)) script)
      ((intake (projectors normalizeText)).collect lostOffers (Crew.idle (.start inbox))
        script) := by
  have begins : Offering inbox.messages.nextId (Crew.idle (.start inbox)) [] := by
    refine ⟨Nat.le_refl _, fun _ _ => rfl, .idle ?_⟩
    rintro id ⟨since, row, found, _⟩
    exact absurd (Table.get?_lt found) (Nat.not_lt.mpr since)
  exact Crew.after_collect (Offering inbox.messages.nextId)
    (fun _ party choice _ offering => offering.step normalizeText party choice) begins script

theorem reversing (inbox : Inbox) (script : IntakeScript) :
    Reversing ((intake (projectors normalizeText)).after (Crew.idle (.start inbox)) script)
      ((intake (projectors normalizeText)).collect settledTakedowns (Crew.idle (.start inbox))
        script) := by
  have begins : Reversing (Crew.idle (.start inbox)) [] := by
    refine ⟨fun _ _ => rfl, fun id => ?_⟩
    simp [reversedIds, Intake.start, Crew.idle]
  exact Crew.after_collect Reversing
    (fun _ party choice _ reversing => reversing.step normalizeText party choice) begins script

/-- The reward engine is told everything exactly where no settlement fails that carries an
offer, and whatever is taken down is settled in some attempt. -/
theorem everythingTold_iff (inbox : Inbox) (script : IntakeScript)
    (finished : NothingOwed
      ((intake (projectors normalizeText)).after (Crew.idle (.start inbox)) script)) :
    EverythingTold normalizeText inbox script ↔
      (intake (projectors normalizeText)).collect lostOffers (Crew.idle (.start inbox)) script =
          [] ∧
        ∀ id ∈ (intake (projectors normalizeText)).collect takenDown (Crew.idle (.start inbox))
            script,
          id ∈ (intake (projectors normalizeText)).collect settledTakedowns
            (Crew.idle (.start inbox)) script := by
  have dues := (offering normalizeText inbox script).dues
  have taken := (reversing normalizeText inbox script).taken
  simp only [EverythingTold]
  generalize (intake (projectors normalizeText)).after (Crew.idle (.start inbox)) script = last at *
  generalize (intake (projectors normalizeText)).collect lostOffers _ script = lost at *
  have unowed : ∀ party, Crew.owed owedOffers (last.left party) = [] :=
    fun party => owed_eq_nil fun task member => (finished party task member).1
  have reversed : ∀ id, id ∈ (intake (projectors normalizeText)).collect settledTakedowns
      (Crew.idle (.start inbox)) script ↔ id ∈ reversedIds last.store := by
    intro id
    rw [taken]
    refine or_iff_left ?_
    rintro ⟨party, owes⟩
    rw [owed_eq_nil fun task member => (finished party task member).2] at owes
    exact absurd owes List.not_mem_nil
  obtain ⟨offeredOnce, _, apart⟩ := List.nodup_append'.mp dues.once
  refine and_congr ?_ (forall₂_congr fun id _ => (reversed id).symm)
  constructor
  · intro told
    refine List.eq_nil_iff_forall_not_mem.mpr fun id gone => ?_
    have once := told id ((dues.all id).mpr (.inl (List.mem_append_right _ gone)))
    have offered : id ∈ offeredIds last.store := List.count_pos_iff.mp (once ▸ Nat.one_pos)
    exact apart offered gone
  · intro nothing id stored
    rw [nothing, List.append_nil] at dues
    rcases (dues.all id).mp stored with offered | ⟨party, owes⟩
    · exact List.count_eq_one_of_mem offeredOnce offered
    · rw [unowed party] at owes
      exact absurd owes List.not_mem_nil

/-! ### A comment, and a settlement that fails -/

def newComment : FacebookCommentChange where
  item := some "comment"
  verb := some "add"
  commentId := some "c1"
  parentId := some "p1"
  postId := some "p1"
  message := some "mine!"
  createdTime := some 1
  author := some ⟨some "u1", some "Ann"⟩

def stepAt (now : Int) (fails : Bool) : IntakeChoice InboundPayload ProjectionOracle where
  now := now
  jitter := 0
  batchSize := 10
  leaseSeconds := 60
  skipped := []
  channel := some ⟨"page", none⟩
  oracle := ⟨.unknown, false, false⟩
  input := ⟨some 1, some 7, .facebook, .comment, "facebook:comment:c1:add",
    .facebookComment newComment, none⟩
  replays := 0
  fails := fails

def commentPoll (now : Int) (fails : Bool) : IntakeScript :=
  [(.worker 1, stepAt now false), (.worker 1, stepAt now false), (.worker 1, stepAt now false),
    (.worker 1, stepAt now false), (.worker 1, stepAt now fails), (.worker 1, stepAt now false)]

def failedSettlement : IntakeScript :=
  (.ingest 1, stepAt 0 false) :: (commentPoll 1 true ++ [(.worker 1, stepAt 1 false)] ++
    commentPoll 3600000 false)

def plainSettlement : IntakeScript :=
  (.ingest 1, stepAt 0 false) :: (commentPoll 1 false ++
    [(.worker 1, stepAt 1 false), (.worker 1, stepAt 1 false)])

theorem nothingOwed_of_script {script : IntakeScript}
    (who : ∀ turn ∈ script, turn.1 = .ingest 1 ∨ turn.1 = .worker 1)
    (ended : ((intake (projectors normalizeText)).after (Crew.idle (.start .empty)) script).left
      (.worker 1) = []) :
    NothingOwed
      ((intake (projectors normalizeText)).after (Crew.idle (.start .empty)) script) := by
  intro party task member
  by_cases working : party = .worker 1
  · rw [working, ended] at member
    exact absurd member List.not_mem_nil
  · by_cases ingesting : party = .ingest 1
    · rw [(offering normalizeText .empty script).only party (by rw [ingesting]; exact nofun)]
        at member
      exact absurd member List.not_mem_nil
    · have absent : ∀ turn ∈ script, turn.1 ≠ party := by
        rintro turn there rfl
        exact (who turn there).elim ingesting working
      rw [Crew.left_after_of_not_mem absent] at member
      exact absurd member List.not_mem_nil

/-- The comment of a settlement that fails is stored, and never offered. -/
theorem failedSettlement_untold : ¬∀ (normalizeText : String → String) (inbox : Inbox)
    (script : IntakeScript),
    NothingOwed
        ((intake (projectors normalizeText)).after (Crew.idle (.start inbox)) script) →
      EverythingTold normalizeText inbox script := by
  intro told
  have ended : ((intake (projectors fun text => text)).after (Crew.idle (.start .empty))
      failedSettlement).left (.worker 1) = [] := by decide +kernel
  have everything := told (fun text => text) .empty failedSettlement
    (nothingOwed_of_script _ (by decide) ended)
  have stored : ((((intake (projectors fun text => text)).after (Crew.idle (.start .empty))
      failedSettlement).store.inbox.messages.get? 0).any (·.direction == .inbound)) = true := by
    decide +kernel
  have unoffered : offeredIds ((intake (projectors fun text => text)).after
      (Crew.idle (.start .empty)) failedSettlement).store = [] := by decide +kernel
  rw [Option.any_eq_true] at stored
  obtain ⟨row, found, theirs⟩ := stored
  have once := everything.1 0 ⟨Nat.zero_le _, row, found, beq_iff_eq.mp theirs⟩
  rw [unoffered] at once
  exact absurd once (by decide)

/-- The plain run tells everything. -/
theorem plainSettlement_told : EverythingTold (fun text => text) .empty plainSettlement := by
  have ended : ((intake (projectors fun text => text)).after (Crew.idle (.start .empty))
      plainSettlement).left (.worker 1) = [] := by decide +kernel
  refine (everythingTold_iff _ .empty plainSettlement
    (nothingOwed_of_script _ (by decide) ended)).mpr ⟨?_, ?_⟩
  · decide +kernel
  · decide +kernel

end Worker

end UnifiedService.Projection
