import UnifiedService.Projection.Transactions

/-! What one statement of a projection decides, and what its commit publishes. -/

set_option autoImplicit false

namespace UnifiedService.Projection

open UnifiedService.Library

namespace Delivery

variable (delivery : Delivery)

theorem row_conversationId (customerId conversationId : Nat)
    (parentMessageId : Option Nat) (now : Int) :
    (delivery.row customerId conversationId parentMessageId now).conversationId =
      conversationId := by
  cases delivery <;> rfl

theorem row_direction (customerId conversationId : Nat)
    (parentMessageId : Option Nat) (now : Int) :
    ((delivery.row customerId conversationId parentMessageId now).direction == .inbound) =
      delivery.isIncoming := by
  cases delivery <;> rfl

theorem row_isRead (customerId conversationId : Nat)
    (parentMessageId : Option Nat) (now : Int) :
    (delivery.row customerId conversationId parentMessageId now).isRead =
      !delivery.isIncoming := by
  cases delivery <;> rfl

theorem row_occurredAt (customerId conversationId : Nat)
    (parentMessageId : Option Nat) (now : Int) :
    (delivery.row customerId conversationId parentMessageId now).occurredAt =
      delivery.occurredAt now := by
  cases delivery <;> rfl

theorem count_conversations (customerId : Nat)
    (conversation : UpsertConversationResult) (now : Int) (inbox : Inbox) :
    (delivery.count customerId conversation now inbox).conversations =
      inbox.conversations.update conversation.id
        (·.recorded delivery.isIncoming (delivery.occurredAt now)) := by
  cases delivery with
  | incoming message => exact recordEngagement_conversations ..
  | echoed message => rfl

theorem count_messages (customerId : Nat)
    (conversation : UpsertConversationResult) (now : Int) (inbox : Inbox) :
    (delivery.count customerId conversation now inbox).messages = inbox.messages := by
  cases delivery with
  | incoming message => exact Incoming.count_messages ..
  | echoed message => rfl

end Delivery

namespace DeliveryStep

def isJoined : DeliveryStep → Bool
  | find | backfillName | create | reread | resync | link | join => false
  | open_ | look | claim | insert | adopt | record | touch | engage | commit => true

def isRead : DeliveryStep → Bool
  | insert | adopt | record | touch | engage | commit => true
  | find | backfillName | create | reread | resync | link | join | open_ | look | claim => false

def isCounting : DeliveryStep → Bool
  | record | touch | engage => true
  | find | backfillName | create | reread | resync | link | join | open_ | look | claim | insert
  | adopt | commit => false

end DeliveryStep

namespace DeliveryState

inductive Decided (choice : InboxChoice) (inbox : Inbox) (state : DeliveryState) :
    DeliveryState → Prop where
  | prepares (step : DeliveryStep) (before : state.step.isJoined = false)
      (after : step.isJoined = false) : Decided choice inbox state { state with step := step }
  | finds (existing : CustomerResolution) (step : DeliveryStep)
      (before : state.step.isJoined = false) (after : step.isJoined = false)
      (found : inbox.findByIdentifier state.delivery.customer.key = some existing) :
      Decided choice inbox state
        { state with customer := some (.found existing), step := step }
  | creates (at_ : state.step = .create)
      (absent : inbox.findByIdentifier state.delivery.customer.key = none) :
      Decided choice inbox state { state with customer := some .added, step := .resync }
  | links (at_ : state.step = .link) (username : String)
      (handle : state.delivery.handle = some username)
      (absent : inbox.findByIdentifier (state.delivery.handleKey username) = none) :
      Decided choice inbox state { state with linked := true, step := .join }
  | joins (at_ : state.step = .join) (stored : Stored ConversationRow)
      (found : inbox.conversations.find? (·.thread == state.threadKey) = some stored) :
      Decided choice inbox state
        { state with conversation := some (.found stored.id), step := .look }
  | opens (at_ : state.step = .join)
      (absent : inbox.conversations.find? (·.thread == state.threadKey) = none) :
      Decided choice inbox state { state with conversation := some .added, step := .open_ }
  | opened (at_ : state.step = .open_) : Decided choice inbox state { state with step := .look }
  | looks (at_ : state.step = .look) (incoming : Incoming)
      (ours : state.delivery = .incoming incoming) :
      Decided choice inbox state
        { state with parentMessageId := incoming.parent inbox, step := .insert }
  | misses (at_ : state.step = .look) (echoed : Echoed) (ours : state.delivery = .echoed echoed) :
      Decided choice inbox state { state with step := .claim }
  | passes (at_ : state.step = .claim) : Decided choice inbox state { state with step := .insert }
  | knows (at_ : state.step = .insert ∨ state.step = .look ∧ ∃ echoed, state.delivery = .echoed echoed)
      (held : (inbox.findIdByPlatformMessageId state.delivery.enterpriseId
        state.delivery.mid).isSome = true) :
      Decided choice inbox state { state with step := .commit }
  | stamps (at_ : state.step = .claim) (stored : Stored MessageRow)
      (claimed : state.claimed choice inbox = some stored)
      (unheld : inbox.findIdByPlatformMessageId state.delivery.enterpriseId
        state.delivery.mid = none) :
      Decided choice inbox state
        { state with written := some (.stamped stored.id), step := .adopt }
  | inserts (at_ : state.step = .insert)
      (unheld : inbox.findIdByPlatformMessageId state.delivery.enterpriseId
        state.delivery.mid = none) :
      Decided choice inbox state { state with written := some .inserted, step := .adopt }
  | adopts (at_ : state.step = .adopt) (step : DeliveryStep)
      (next : step.isCounting = true ∨ step = .commit) :
      Decided choice inbox state
        { state with
          adopted := inbox.orphans state.delivery.enterpriseId state.delivery.mid
          step := step }
  | counts (at_ : state.step.isCounting = true) (step : DeliveryStep)
      (next : step.isCounting = true ∨ step = .commit) :
      Decided choice inbox state { state with step := step }

theorem statement_continues {choice : InboxChoice} {inbox : Inbox} {state next : DeliveryState}
    (result : state.statement choice inbox = .continues next) :
    Decided choice inbox state next := by
  have early : ∀ {step : DeliveryStep}, state.step = step → step.isJoined = false →
      state.step.isJoined = false := fun at_ before => by rw [at_, before]
  unfold statement at result
  cases at_ : state.step <;> simp only [at_] at result
  case find =>
      split at result
      · next existing found =>
          cases result
          exact .finds existing .backfillName (early at_ rfl) rfl found
      · cases result
        exact .prepares .create (early at_ rfl) rfl
  case backfillName =>
      cases result
      exact .prepares .link (early at_ rfl) rfl
  case create =>
      split at result
      · cases result
        exact .prepares .reread (early at_ rfl) rfl
      · next absent =>
          cases result
          exact .creates at_ absent
  case reread =>
      split at result
      · next winner found =>
          cases result
          exact .finds winner .link (early at_ rfl) rfl found
      · contradiction
  case resync =>
      cases result
      exact .prepares .link (early at_ rfl) rfl
  case link =>
      split at result
      · cases result
        exact .prepares .join (early at_ rfl) rfl
      · next username handle =>
          split at result
          · cases result
            exact .prepares .join (early at_ rfl) rfl
          · next absent =>
              cases result
              exact .links at_ username handle absent
  case join =>
      split at result
      · next stored found =>
          cases result
          exact .joins at_ stored found
      · next absent =>
          cases result
          exact .opens at_ absent
  case open_ =>
      cases result
      exact .opened at_
  case look =>
      split at result
      · next incoming ours =>
          cases result
          exact .looks at_ incoming ours
      · next echoed ours =>
          split at result
          · next id held =>
              cases result
              refine .knows (.inr ⟨at_, echoed, ours⟩) ?_
              rw [ours]
              exact Option.isSome_iff_exists.mpr ⟨id, held⟩
          · cases result
            exact .misses at_ echoed ours
  case claim =>
      split at result
      · cases result
        exact .passes at_
      · next stored claimed =>
          split at result
          · contradiction
          · next unheld =>
              cases result
              exact .stamps at_ stored claimed (by simpa using unheld)
  case insert =>
      split at result
      · next id held =>
          cases result
          exact .knows (.inl at_) (Option.isSome_iff_exists.mpr ⟨id, held⟩)
      · next unheld =>
          cases result
          exact .inserts at_ unheld
  case adopt =>
      cases result
      refine .adopts at_ _ ?_
      split
      · exact .inl rfl
      · exact .inr rfl
  case record =>
      cases result
      refine .counts (by rw [at_]; rfl) _ ?_
      split
      · exact .inl rfl
      · exact .inr rfl
  case touch =>
      cases result
      exact .counts (by rw [at_]; rfl) .engage (.inl rfl)
  case engage =>
      cases result
      exact .counts (by rw [at_]; rfl) .commit (.inr rfl)
  case commit => split at result <;> contradiction

/-- A projection commits what it has decided, at its last statement. -/
theorem statement_commits {choice : InboxChoice} {inbox next : Inbox} {state : DeliveryState}
    (result : state.statement choice inbox = .commits next) :
    state.step = .commit ∧ ∃ customer conversation, state.customer = some customer ∧
      state.conversation = some conversation ∧ next = state.publish customer conversation inbox := by
  unfold statement at result
  cases at_ : state.step <;> simp only [at_] at result
  case commit =>
      split at result
      · next customer conversation found joined =>
          cases result
          exact ⟨rfl, customer, conversation, found, joined, rfl⟩
      · contradiction
  all_goals repeat' (first | contradiction | split at result)

/-! ### What a commit publishes -/

section Publish

variable (state : DeliveryState) (customer : Entry CustomerResolution) (conversation : Entry Nat)
  (inbox : Inbox)

theorem publishCustomer_conversations (input : CreateCustomerInput) (now : Int) :
    (inbox.publishCustomer input now customer).2.conversations = inbox.conversations := by
  cases customer <;> rfl

theorem publishCustomer_messages (input : CreateCustomerInput) (now : Int) :
    (inbox.publishCustomer input now customer).2.messages = inbox.messages := by
  cases customer <;> rfl

theorem publishEntry_messages :
    (state.publishEntry customer conversation inbox).2.2.messages = inbox.messages := by
  unfold publishEntry
  cases conversation <;> dsimp only [Inbox.publishThread] <;> split <;> split <;>
    exact publishCustomer_messages ..

/-- What becomes of the threads: one is joined, or one without messages is opened. -/
theorem publishEntry_conversations :
    let published := state.publishEntry customer conversation inbox
    match conversation with
    | .found id => published.2.1 = ⟨id, false⟩ ∧
        published.2.2.conversations =
          inbox.conversations.update id (·.joined (state.delivery.thread published.1))
    | .added => published.2.1 = ⟨inbox.conversations.nextId, true⟩ ∧
        published.2.2.conversations =
          inbox.conversations.insert (state.delivery.thread published.1).row := by
  have same := publishCustomer_conversations customer inbox state.delivery.customer state.now
  unfold publishEntry
  cases conversation <;> dsimp only [Inbox.publishThread] <;> split <;> split <;>
    rw [← same] <;> exact ⟨rfl, rfl⟩

end Publish

theorem opening_of_isOpening {state : DeliveryState}
    (opens : (InboxTransaction.deliver state).isOpening = true) :
    state = .opening state.delivery state.now := by
  simpa [InboxTransaction.isOpening] using opens

end DeliveryState

/-! ### Every transaction -/

inductive Continues (choice : InboxChoice) (store : InboxStore) :
    InboxTransaction → InboxTransaction → Prop where
  | delivers {state next : DeliveryState} (decided : state.Decided choice store.inbox next) :
      Continues choice store (.deliver state) (.deliver next)
  | replies (input : ReplyInput) (now : Int) (step next : ReplyStep) :
      Continues choice store (.reply input now step) (.reply input now next)

/-- A statement that commits, or the end of a `markRead` that gives up. -/
inductive Commits (choice : InboxChoice) (store : InboxStore) :
    InboxTransaction → InboxStore → Prop where
  | delivers {state : DeliveryState} (at_ : state.step = .commit)
      {customer : Entry CustomerResolution} (resolved : state.customer = some customer)
      {conversation : Entry Nat} (joined : state.conversation = some conversation) :
      Commits choice store (.deliver state)
        { store with
          inbox := state.publish customer conversation store.inbox
          delivered := store.delivered ++ [state.delivery] }
  | replies (input : ReplyInput) (now : Int) :
      Commits choice store (.reply input now .commit)
        { store with inbox := store.inbox.reply input now }
  | clears {conversationId : Nat} (there : conversationId < store.inbox.conversations.nextId) :
      Commits choice store (.clearBadge conversationId)
        { store with
          inbox := store.inbox.clearBadge conversationId
          marking := conversationId :: store.marking }
  | reads {conversationId : Nat} (cleared : conversationId ∈ store.marking) :
      Commits choice store (.markRowsRead conversationId)
        { store with
          inbox := store.inbox.markRowsRead conversationId
          marking := store.marking.erase conversationId }
  | givesUp {conversationId : Nat} (fails : choice.fails = true)
      (cleared : conversationId ∈ store.marking) :
      Commits choice store (.markRowsRead conversationId)
        { store with marking := store.marking.erase conversationId }
  | records (runs : choice.fails = false) (messageId : Nat) (platformMessageId : Option String)
      (status : Outbound.MessageStatus) (now : Int) :
      Commits choice store (.recordDelivery messageId platformMessageId status now)
        { store with
          inbox := store.inbox.recordDelivery messageId platformMessageId status now }

section Every

variable {store : InboxStore} {choice : InboxChoice} {state : InboxTransaction}

theorem takes_of_runs (runs : choice.fails = false) :
    inboxTransactions.takes store state choice = state.takes store choice := by
  simp [inboxTransactions, runs]

theorem waits_of_runs (runs : choice.fails = false) :
    inboxTransactions.waits store state choice = state.waits store choice := by
  simp [inboxTransactions, runs]

theorem failure_continues {next : InboxTransaction} :
    state.failure store ≠ .continues next := by
  intro result
  cases state with
  | markRowsRead conversationId =>
      simp only [InboxTransaction.failure] at result
      split at result <;> contradiction
  | deliver _ => contradiction
  | reply _ _ _ => contradiction
  | clearBadge _ => contradiction
  | recordDelivery _ _ _ _ => contradiction

theorem inboxTransactions_continues {next : InboxTransaction}
    (result : inboxTransactions.statement store state choice = .continues next) :
    choice.fails = false ∧ Continues choice store state next := by
  simp only [inboxTransactions] at result
  by_cases fails : choice.fails = true
  · rw [if_pos fails] at result
    exact absurd result failure_continues
  · rw [if_neg fails] at result
    refine ⟨Bool.eq_false_iff.mpr fails, ?_⟩
    unfold InboxTransaction.statement at result
    cases state with
    | deliver state =>
        simp only at result
        split at result
        · next goes =>
            cases result
            exact .delivers (DeliveryState.statement_continues goes)
        · contradiction
        · contradiction
    | reply input now step =>
        simp only at result
        split at result
        · contradiction
        · cases step <;> simp only at result
          case insert =>
            split at result
            · contradiction
            · cases result
              exact .replies input now .insert .record
          case record =>
            cases result
            exact .replies input now .record .engage
          case engage =>
            cases result
            exact .replies input now .engage .commit
          case commit => contradiction
    | clearBadge conversationId =>
        simp only at result
        split at result <;> contradiction
    | markRowsRead conversationId =>
        simp only at result
        split at result <;> contradiction
    | recordDelivery messageId platformMessageId status now => contradiction

theorem inboxTransactions_commits {next : InboxStore}
    (result : inboxTransactions.statement store state choice = .commits next) :
    Commits choice store state next := by
  simp only [inboxTransactions] at result
  by_cases fails : choice.fails = true
  · rw [if_pos fails] at result
    cases state with
    | markRowsRead conversationId =>
        simp only [InboxTransaction.failure] at result
        split at result
        · next cleared =>
            cases result
            exact .givesUp fails (List.contains_iff_mem.mp cleared)
        · contradiction
    | deliver _ => contradiction
    | reply _ _ _ => contradiction
    | clearBadge _ => contradiction
    | recordDelivery _ _ _ _ => contradiction
  · rw [if_neg fails] at result
    unfold InboxTransaction.statement at result
    cases state with
    | deliver state =>
        simp only at result
        split at result
        · contradiction
        · next inbox commits =>
            cases result
            obtain ⟨at_, customer, conversation, resolved, joined, rfl⟩ :=
              DeliveryState.statement_commits commits
            exact .delivers at_ resolved joined
        · contradiction
    | reply input now step =>
        simp only at result
        split at result
        · contradiction
        · cases step <;> simp only at result
          case insert => split at result <;> contradiction
          case record => contradiction
          case engage => contradiction
          case commit =>
            cases result
            exact .replies input now
    | clearBadge conversationId =>
        simp only at result
        split at result
        · next there =>
            cases result
            exact .clears (Table.get?_isSome_iff.mp there)
        · contradiction
    | markRowsRead conversationId =>
        simp only at result
        split at result
        · next cleared =>
            cases result
            exact .reads (List.contains_iff_mem.mp cleared)
        · contradiction
    | recordDelivery messageId platformMessageId status now =>
        cases result
        exact .records (Bool.eq_false_iff.mpr fails) messageId platformMessageId status now

end Every

/-! ### Scripts -/

def statements (id : Nat) : Nat → List InboxTurn
  | 0 => []
  | count + 1 => .advances id ⟨[], false⟩ :: statements id count

def greeting (mid : String) (second : Int) (answers : Option String) : Delivery :=
  .incoming
    { enterpriseId := 1
      channelId := 7
      platform := .instagram
      inboundEventId := 0
      senderId := "u1"
      displayName := none
      username := none
      nameless := true
      mid := mid
      text := some "Hello"
      media := ⟨[], .text, false, false⟩
      metadata := { MessageMetadata.empty with replyToPlatformMessageId := answers }
      timestamp := some second }

def ownMessage (mid : String) (second : Int) : Delivery :=
  .echoed
    { enterpriseId := 1
      channelId := 7
      platform := .instagram
      inboundEventId := 0
      customerScopedId := "u1"
      mid := mid
      text := some "Thanks"
      media := ⟨[], .text, false, false⟩
      timestamp := some second }

end UnifiedService.Projection
