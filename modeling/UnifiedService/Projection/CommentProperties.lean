import UnifiedService.Library.Register
import UnifiedService.Projection.DatabaseProperties

/-! What the events about one comment leave of it, whichever order they are projected in. -/

set_option autoImplicit false

namespace UnifiedService.Projection

open UnifiedService.Library
open UnifiedService.Outbound (Platform ConversationKind truthy)
open UnifiedService.Inbound (ProjectionContext InboundEventType)

/-! ### Events about a comment -/

structure CommentEvent where
  eventType : InboundEventType
  context : ProjectionContext
  payload : InboundPayload
  oracle : ProjectionOracle
  now : Int
  happenedAt : Int
  deriving DecidableEq, Repr

inductive CommentChange where
  | filed (thread : Nat × String) (text : Option String)
  | moderated (action : CommentAction) (text : Option String) (happenedAt : Int)
  deriving DecidableEq, Repr

namespace CommentEvent

variable (normalizeText : String → String) (event : CommentEvent)

def project (inbox : Inbox) : Inbox :=
  (projectors normalizeText event.eventType event.context event.payload event.now event.oracle
    inbox).1

def projectAll (events : List CommentEvent) (inbox : Inbox) : Inbox :=
  events.foldl (fun inbox event => event.project normalizeText inbox) inbox

def normalized : Option NormalizedComment :=
  if event.oracle.fails then none
  else
    match event.eventType, event.payload with
    | .comment, .facebookComment change => some (normalizeFacebook change)
    | .comment, .instagramComment change => some (normalizeInstagram change)
    | .mention, .facebookMention change => some (normalizeFacebookMention change)
    | .mention, .instagramMention change =>
        (CommentProjectorService.resolveInstagramMention change event.oracle.mention).map
          (normalizeInstagramMention normalizeText)
    | _, _ => none

def kindOf (comment : CanonicalComment) (inbox : Inbox) : ConversationKind :=
  if event.eventType = .mention then
    CommentProjectorService.mentionKind event.context comment inbox
  else .commentThread

def isOfComment : Bool := event.eventType = .comment || event.eventType = .mention

def commentId? : Option String :=
  match event.normalized normalizeText with
  | some (.comment comment) => some comment.commentId
  | some (.moderation moderation) => some moderation.commentId
  | some .skip | none => none

def change? (inbox : Inbox) : Option CommentChange :=
  match event.normalized normalizeText with
  | some (.comment comment) =>
      if CommentProjectorService.isOwnAuthor event.context comment then none
      else
        some (.filed
          (event.context.channelId,
            composeThreadKey (event.kindOf comment inbox) comment.rootCommentId)
          comment.text)
  | some (.moderation moderation) =>
      some (.moderated moderation.action moderation.text event.happenedAt)
  | some .skip | none => none

def concerns (enterpriseId : Nat) (commentId : String) : Prop :=
  event.isOfComment = true ∧ event.context.enterpriseId = enterpriseId ∧
    ∀ named ∈ event.commentId? normalizeText, named = commentId

theorem project_eq (isOfComment : event.isOfComment = true) (inbox : Inbox) :
    event.project normalizeText inbox =
      match event.normalized normalizeText with
      | none => inbox
      | some normalized =>
          (CommentProjectorService.projectNormalized normalizeText event.context event.oracle
            event.now event.kindOf inbox normalized).1 := by
  obtain ⟨eventType, context, payload, oracle, now, happenedAt⟩ := event
  unfold project projectors normalized
  cases failing : oracle.fails with
  | true => rfl
  | false =>
      cases eventType with
      | comment => cases payload <;> rfl
      | mention =>
          cases payload with
          | instagramMention change =>
              simp only [Bool.false_eq_true, if_false,
                CommentProjectorService.projectInstagramMention]
              cases CommentProjectorService.resolveInstagramMention change oracle.mention <;> rfl
          | _ => rfl
      | _ => simp [CommentEvent.isOfComment] at isOfComment

end CommentEvent

/-! ### What is shown of a comment -/

structure ShownComment where
  conversationId : Nat
  body : Option String
  hidden : Bool
  removed : Bool
  deriving DecidableEq, Repr

/-- What the inbox holds of one comment: its threads, in the order they were opened, and the
rows with the comment's id. -/
structure CommentView where
  threads : List (Nat × String)
  comments : List ShownComment
  deriving DecidableEq, Repr

def MessageRow.shown (message : MessageRow) : ShownComment where
  conversationId := message.conversationId
  body := message.body
  hidden := message.isHiddenOnPlatform
  removed := message.platformDeletedAt.isSome

def ShownComment.changed (shown : ShownComment) : CommentChange → ShownComment
  | .filed .. => shown
  | .moderated action text _ =>
      { shown with
        body := if action = .edited then text.orElse fun _ => shown.body else shown.body
        hidden :=
          match action with
          | .hidden => true
          | .unhidden => false
          | .edited | .removed => shown.hidden
        removed := shown.removed || action = .removed }

section Threads

local instance lawfulBEq_thread : LawfulBEq (Nat × String) := inferInstance

def CommentView.changed (view : CommentView) : CommentChange → CommentView
  | .filed thread text =>
      { threads := if thread ∈ view.threads then view.threads else view.threads ++ [thread]
        comments :=
          if view.comments = [] then [⟨view.threads.idxOf thread, text, false, false⟩]
          else view.comments }
  | .moderated action text happenedAt =>
      { view with comments := view.comments.map (·.changed (.moderated action text happenedAt)) }

end Threads

namespace Inbox

def threads (inbox : Inbox) : List (Nat × String) :=
  inbox.conversations.rows.map ConversationRow.thread

def copies (enterpriseId : Nat) (commentId : String) (inbox : Inbox) : List MessageRow :=
  inbox.messages.rows.filter (·.isPlatform enterpriseId commentId)

def view (enterpriseId : Nat) (commentId : String) (inbox : Inbox) : CommentView where
  threads := inbox.threads
  comments := (inbox.copies enterpriseId commentId).map MessageRow.shown

/-! ### One projection -/

variable (inbox : Inbox)

theorem not_mem_threads {thread : Nat × String}
    (missing : inbox.conversations.find? (·.thread == thread) = none) :
    thread ∉ inbox.threads := by
  intro member
  obtain ⟨row, listed, same⟩ := List.mem_map.mp member
  obtain ⟨id, there⟩ := Table.mem_rows_iff.mp listed
  simpa [same] using Table.find?_eq_none.mp missing id row there

theorem threads_update (id : Nat) {change : ConversationRow → ConversationRow}
    (unseen : ∀ conversation, (change conversation).thread = conversation.thread) :
    (inbox.conversations.update id change).rows.map ConversationRow.thread = inbox.threads :=
  Table.map_update _ unseen id

theorem threads_upsert (input : UpsertConversationInput) :
    (inbox.upsert input).2.threads =
      if input.thread ∈ inbox.threads then inbox.threads else inbox.threads ++ [input.thread] := by
  unfold Inbox.upsert
  cases found : inbox.conversations.find? (·.thread == input.thread) with
  | some stored =>
      obtain ⟨there, same⟩ := Table.find?_some found
      have member : input.thread ∈ inbox.threads :=
        List.mem_map.mpr ⟨stored.row, Table.mem_rows_iff.mpr ⟨_, there⟩, by simpa using same⟩
      rw [if_pos member]
      exact inbox.threads_update stored.id fun _ => rfl
  | none =>
      rw [if_neg (inbox.not_mem_threads found)]
      exact List.map_append ..

theorem upsert_id (input : UpsertConversationInput) :
    (inbox.upsert input).1.id = inbox.threads.idxOf input.thread := by
  unfold Inbox.upsert
  cases found : inbox.conversations.find? (·.thread == input.thread) with
  | some stored => exact Table.find?_idxOf found
  | none =>
      rw [List.idxOf_eq_length (inbox.not_mem_threads found)]
      exact (List.length_map ..).symm

theorem copies_eq_nil (enterpriseId : Nat) (commentId : String) :
    inbox.copies enterpriseId commentId = [] ↔
      inbox.findIdByPlatformMessageId enterpriseId commentId = none := by
  rw [findIdByPlatformMessageId, Option.map_eq_none_iff, Table.find?_eq_none, copies,
    List.filter_eq_nil_iff]
  constructor
  · intro absent id row found
    simpa using absent row (Table.mem_rows_iff.mpr ⟨id, found⟩)
  · intro absent row member
    obtain ⟨id, found⟩ := Table.mem_rows_iff.mp member
    simp [absent id row found]

theorem copies_applyPlatformModeration (enterpriseId : Nat) (moderation : CommentModeration)
    (now : Int) :
    (inbox.applyPlatformModeration enterpriseId moderation now).2.copies enterpriseId
        moderation.commentId =
      (inbox.copies enterpriseId moderation.commentId).map
        (·.moderated moderation.action moderation.text now) := by
  have mapped := Table.updateWhere_rows inbox.messages
    (MessageRow.isPlatform enterpriseId moderation.commentId)
    (MessageRow.moderated moderation.action moderation.text now)
  rw [copies, applyPlatformModeration, mapped, List.filter_map, copies]
  have seen : (MessageRow.isPlatform enterpriseId moderation.commentId ∘
      fun message : MessageRow =>
        if message.isPlatform enterpriseId moderation.commentId then
          message.moderated moderation.action moderation.text now else message) =
      MessageRow.isPlatform enterpriseId moderation.commentId := by
    funext message
    dsimp only [Function.comp]
    split <;> rfl
  rw [seen]
  refine List.map_congr_left fun message member => ?_
  rw [if_pos (List.mem_filter.mp member).2]

theorem copies_congr {one other : Inbox} (same : one.messages = other.messages)
    (enterpriseId : Nat) (commentId : String) :
    one.copies enterpriseId commentId = other.copies enterpriseId commentId := by
  unfold copies
  rw [same]

end Inbox

namespace StoredComment

variable (stored : StoredComment) (now : Int) (inbox : Inbox)

theorem resolve_posts : (stored.resolve now inbox).2.posts = inbox.posts := by
  unfold StoredComment.resolve Inbox.linkIdentifier Inbox.resolveOrCreate
  dsimp only
  repeat' split
  all_goals rfl

def threadKey : Nat × String :=
  (stored.channelId, composeThreadKey stored.conversationKind stored.comment.rootCommentId)

theorem store_posts : (stored.store now inbox).1.posts = inbox.posts := by
  unfold StoredComment.store
  dsimp only
  split
  · next refused =>
      obtain same | same := insertMessage_cases _ _ <;> rw [same] at refused <;> cases refused
      rw [upsert_posts, resolve_posts]
  · next accepted =>
      obtain same | same := insertMessage_cases _ _ <;> rw [same] at accepted <;> cases accepted
      rw [recordEngagement_posts]
      exact (upsert_posts ..).trans (stored.resolve_posts now inbox)

/-- The first copy of a comment is shown, in the thread it names. A later one opens the thread
it names, and is dropped. -/
theorem view_store :
    (stored.store now inbox).1.view stored.enterpriseId stored.comment.commentId =
      (inbox.view stored.enterpriseId stored.comment.commentId).changed
        (.filed stored.threadKey stored.comment.text) := by
  have conversations := StoredComment.resolve_conversations inbox now stored
  have messages := StoredComment.resolve_messages inbox now stored
  unfold StoredComment.store
  generalize stored.resolve now inbox = resolution at conversations messages
  obtain ⟨customer, resolved⟩ := resolution
  dsimp only at conversations messages ⊢
  have threads := Inbox.threads_upsert resolved (stored.thread customer (stored.post resolved))
  have upserted := Inbox.upsert_id resolved (stored.thread customer (stored.post resolved))
  have kept := upsert_messages resolved (stored.thread customer (stored.post resolved))
  generalize resolved.upsert (stored.thread customer (stored.post resolved)) = opening
    at threads upserted kept
  obtain ⟨conversation, opened⟩ := opening
  dsimp only at threads upserted kept ⊢
  have same : opened.copies stored.enterpriseId stored.comment.commentId =
      inbox.copies stored.enterpriseId stored.comment.commentId :=
    Inbox.copies_congr (kept.trans messages) _ _
  have before : resolved.threads = inbox.threads := by
    rw [Inbox.threads, conversations]
    rfl
  rw [before] at threads upserted
  generalize written : stored.row customer.customerId conversation.id
    (stored.parent opened) now = row
  have named : row.platformMessageId = some stored.comment.commentId := by rw [← written]; rfl
  have owner : row.enterpriseId = stored.enterpriseId := by rw [← written]; rfl
  cases unheld : inbox.copies stored.enterpriseId stored.comment.commentId with
  | nil =>
      have free := (opened.copies_eq_nil _ _).mp (same.trans unheld)
      rw [← owner] at free
      rw [insertMessage_of_unheld opened named free]
      refine congrArg₂ CommentView.mk ?_ ?_
      · rw [Inbox.threads, recordEngagement_conversations]
        have recorded : (opened.conversations.update conversation.id
            (·.recorded true (stored.occurredAt now))).rows.map ConversationRow.thread =
              opened.threads :=
          opened.threads_update conversation.id fun _ => rfl
        exact recorded.trans threads
      · have wanted : row.isPlatform stored.enterpriseId stored.comment.commentId = true := by
          rw [MessageRow.isPlatform, owner, named]
          simp
        rw [Inbox.copies, recordEngagement_messages]
        have filed : (opened.messages.rows ++ [row]).filter
            (·.isPlatform stored.enterpriseId stored.comment.commentId) = [row] := by
          rw [List.filter_append, List.filter_singleton, wanted]
          exact congrArg (· ++ [row]) (same.trans unheld)
        refine (congrArg (List.map MessageRow.shown) filed).trans ?_
        rw [Inbox.view, unheld, ← written]
        exact congrArg (fun id => [ShownComment.mk id _ _ _]) upserted
  | cons held rest =>
      have present : (opened.findIdByPlatformMessageId row.enterpriseId
          stored.comment.commentId).isSome = true := by
        rw [owner, Option.isSome_iff_ne_none]
        intro free
        rw [← Inbox.copies_eq_nil, same, unheld] at free
        cases free
      rw [insertMessage_of_held opened named present]
      refine congrArg₂ CommentView.mk threads ?_
      rw [same, Inbox.view, unheld]
      rfl

end StoredComment

namespace CommentEvent

variable {normalizeText : String → String} {event : CommentEvent} {enterpriseId : Nat}
  {commentId : String}

theorem kindOf_congr (comment : CanonicalComment) {one other : Inbox}
    (same : one.posts = other.posts) : event.kindOf comment one = event.kindOf comment other := by
  unfold kindOf CommentProjectorService.mentionKind Inbox.findIdByPlatformPostId
  rw [same]

theorem change?_congr {one other : Inbox} (same : one.posts = other.posts) :
    event.change? normalizeText one = event.change? normalizeText other := by
  unfold change?
  cases event.normalized normalizeText with
  | none => rfl
  | some normalized =>
      cases normalized with
      | comment comment =>
          dsimp only
          rw [kindOf_congr comment same]
      | moderation _ => rfl
      | skip => rfl

theorem applyModeration_inbox (context : ProjectionContext) (moderation : CommentModeration)
    (oracle : ProjectionOracle) (now : Int) (inbox : Inbox) :
    (CommentProjectorService.applyModeration context moderation oracle now inbox).1 =
      (inbox.applyPlatformModeration context.enterpriseId moderation now).2 := by
  unfold CommentProjectorService.applyModeration
  split
  · next missing => rw [missing]
  · next applied =>
      rw [applied]
      dsimp only
      split
      · rfl
      · split <;> rfl

theorem project_posts (isOfComment : event.isOfComment = true) (inbox : Inbox) :
    (event.project normalizeText inbox).posts = inbox.posts := by
  rw [event.project_eq normalizeText isOfComment]
  cases event.normalized normalizeText with
  | none => rfl
  | some normalized =>
      cases normalized with
      | comment comment =>
          unfold CommentProjectorService.projectNormalized
          dsimp only
          split
          · rfl
          · exact StoredComment.store_posts ..
      | moderation moderation =>
          have applied := applyModeration_inbox event.context moderation event.oracle event.now inbox
          exact (congrArg Inbox.posts applied).trans rfl
      | skip => rfl

/-- One projection changes what is shown of its comment as its reading says. -/
theorem view_project (concerns : event.concerns normalizeText enterpriseId commentId)
    (inbox : Inbox) :
    (event.project normalizeText inbox).view enterpriseId commentId =
      match event.change? normalizeText inbox with
      | none => inbox.view enterpriseId commentId
      | some change => (inbox.view enterpriseId commentId).changed change := by
  obtain ⟨isOfComment, rfl, named⟩ := concerns
  rw [event.project_eq normalizeText isOfComment]
  unfold change?
  unfold commentId? at named
  cases reading : event.normalized normalizeText with
  | none => rfl
  | some normalized =>
      rw [reading] at named
      cases normalized with
      | comment comment =>
          cases named _ rfl
          unfold CommentProjectorService.projectNormalized
          dsimp only
          split
          · rfl
          · exact StoredComment.view_store ..
      | moderation moderation =>
          cases named _ rfl
          have applied := applyModeration_inbox event.context moderation event.oracle event.now inbox
          refine (congrArg (Inbox.view _ _) applied).trans ?_
          refine congrArg₂ CommentView.mk rfl ?_
          rw [Inbox.copies_applyPlatformModeration, Inbox.view, List.map_map, List.map_map]
          refine List.map_congr_left fun message _ => ?_
          cases moderation.action <;> cases removed : message.platformDeletedAt <;>
            simp [MessageRow.shown, MessageRow.moderated, ShownComment.changed, removed]
      | skip => rfl

def changes (normalizeText : String → String) (events : List CommentEvent) (inbox : Inbox) :
    List CommentChange :=
  events.filterMap (·.change? normalizeText inbox)

theorem view_projectAll {events : List CommentEvent}
    (concern : ∀ event ∈ events, event.concerns normalizeText enterpriseId commentId)
    (inbox : Inbox) :
    (projectAll normalizeText events inbox).view enterpriseId commentId =
      (changes normalizeText events inbox).foldl CommentView.changed
        (inbox.view enterpriseId commentId) := by
  induction events generalizing inbox with
  | nil => rfl
  | cons event rest ih =>
      have first := concern event List.mem_cons_self
      have later := ih (fun other member => concern other (List.mem_cons_of_mem _ member))
        (event.project normalizeText inbox)
      have same : changes normalizeText rest (event.project normalizeText inbox) =
          changes normalizeText rest inbox :=
        List.filterMap_congr fun other _ => change?_congr (project_posts first.1 inbox)
      rw [view_project first, same] at later
      refine later.trans ?_
      conv_rhs => rw [changes, List.filterMap_cons]
      cases event.change? normalizeText inbox <;> rfl

end CommentEvent

/-! ### Any order -/

namespace CommentChange

def filed? : CommentChange → Option (Nat × String)
  | .filed thread _ => some thread
  | .moderated .. => none

def edit? : CommentChange → Option (Write Int (Option String))
  | .moderated .edited (some text) happenedAt => some ⟨happenedAt, some text⟩
  | _ => none

def visibility? : CommentChange → Option (Write Int Bool)
  | .moderated .hidden _ happenedAt => some ⟨happenedAt, true⟩
  | .moderated .unhidden _ happenedAt => some ⟨happenedAt, false⟩
  | _ => none

def removes : CommentChange → Bool
  | .moderated .removed .. => true
  | _ => false

def happenedAt? : CommentChange → Option Int
  | .filed .. => none
  | .moderated _ _ happenedAt => some happenedAt

def sinceFiled : List CommentChange → Option (((Nat × String) × Option String) × List CommentChange)
  | [] => none
  | .filed thread text :: later => some ((thread, text), later)
  | .moderated .. :: rest => sinceFiled rest

end CommentChange

open CommentChange

theorem ShownComment.foldl_changed (changes : List CommentChange) (shown : ShownComment) :
    changes.foldl ShownComment.changed shown =
      { conversationId := shown.conversationId
        body := Write.settle shown.body (changes.filterMap edit?)
        hidden := Write.settle shown.hidden (changes.filterMap visibility?)
        removed := shown.removed || changes.any removes } := by
  induction changes generalizing shown with
  | nil => simp
  | cons change rest ih =>
      rw [List.foldl_cons, ih]
      cases change with
      | filed thread text => rfl
      | moderated action text happenedAt =>
          cases action <;> cases text <;>
            simp [ShownComment.changed, List.filterMap_cons, edit?, visibility?, removes]

namespace CommentView

theorem foldl_stored (changes : List CommentChange) {view : CommentView} {shown : ShownComment}
    (stored : view.comments = [shown]) :
    (changes.foldl CommentView.changed view).comments =
      [changes.foldl ShownComment.changed shown] := by
  induction changes generalizing view shown with
  | nil => exact stored
  | cons change rest ih =>
      rw [List.foldl_cons, List.foldl_cons]
      apply ih
      cases change with
      | filed thread text =>
          refine (if_neg ?_).trans stored
          rw [stored]
          exact List.cons_ne_nil _ _
      | moderated action text happenedAt =>
          rw [CommentView.changed, stored]
          rfl

theorem foldl_threads (changes : List CommentChange) (view : CommentView) :
    view.threads <+: (changes.foldl CommentView.changed view).threads := by
  induction changes generalizing view with
  | nil => exact List.prefix_refl _
  | cons change rest ih =>
      refine List.IsPrefix.trans ?_ (ih (view.changed change))
      cases change with
      | filed thread text =>
          unfold CommentView.changed
          dsimp only
          split
          · exact List.prefix_refl _
          · exact List.prefix_append _ _
      | moderated action text happenedAt => exact List.prefix_refl _

theorem foldl_threads_eq {changes : List CommentChange} {view : CommentView}
    (known : ∀ thread ∈ changes.filterMap filed?, thread ∈ view.threads) :
    (changes.foldl CommentView.changed view).threads = view.threads := by
  induction changes generalizing view with
  | nil => rfl
  | cons change rest ih =>
      rw [List.foldl_cons]
      cases change with
      | filed thread text =>
          have same : (view.changed (.filed thread text)).threads = view.threads :=
            if_pos (known thread (by simp [filed?]))
          rw [← same]
          exact ih fun other member => same ▸ known other (by simp_all [filed?])
      | moderated action text happenedAt =>
          exact ih fun other member => known other (by simpa [filed?] using member)

/-- What is shown of a comment that was not stored: its first copy, and what came after it. -/
theorem foldl_unstored {changes : List CommentChange} {view : CommentView}
    (unstored : view.comments = []) {thread : Nat × String} {text : Option String}
    {later : List CommentChange} (filed : sinceFiled changes = some ((thread, text), later)) :
    ∃ stored : CommentView, changes.foldl CommentView.changed view =
        later.foldl CommentView.changed stored ∧
      stored.comments = [⟨view.threads.idxOf thread, text, false, false⟩] ∧
      stored.threads =
        if thread ∈ view.threads then view.threads else view.threads ++ [thread] := by
  induction changes generalizing view with
  | nil => cases filed
  | cons change rest ih =>
      cases change with
      | filed other body =>
          cases filed
          exact ⟨view.changed (.filed thread text), rfl, if_pos unstored, rfl⟩
      | moderated action body happenedAt =>
          refine ih ?_ filed
          rw [CommentView.changed, unstored]
          rfl

end CommentView

/-- One row, one thread, and nothing that depends on the order: the text of the latest edit,
hidden where the latest of the hides and unhides hides, removed where a removal came. -/
def ShownInAnyOrder (enterpriseId : Nat) (commentId : String) (changes : List CommentChange)
    (before after : Inbox) : Prop :=
  ∃ row conversation,
    after.copies enterpriseId commentId = [row] ∧
    after.conversations.get? row.conversationId = some conversation ∧
    (∀ id, before.conversations.nextId ≤ id → id < after.conversations.nextId →
      id = row.conversationId) ∧
    (∀ edit, Write.IsLatest (changes.filterMap edit?) edit → row.body = edit.value) ∧
    (∀ visibility, Write.IsLatest (changes.filterMap visibility?) visibility →
      row.isHiddenOnPlatform = visibility.value) ∧
    (changes.filterMap visibility? = [] → row.isHiddenOnPlatform = false) ∧
    row.platformDeletedAt.isSome = changes.any removes

/-- The comment comes first, its copies name one thread, and what the platform did to it is
projected in the order it was done. -/
def InTimelyOrder (changes : List CommentChange) : Prop :=
  ∃ thread text later, changes = .filed thread text :: later ∧
    (∀ other ∈ later.filterMap filed?, other = thread) ∧
    (later.filterMap happenedAt?).Pairwise (· < ·)

theorem pairwise_filterMap_time {Value : Type} {changes : List CommentChange}
    {read : CommentChange → Option (Write Int Value)}
    (timed : ∀ change write, read change = some write → change.happenedAt? = some write.time)
    (timely : (changes.filterMap happenedAt?).Pairwise (· < ·)) :
    (changes.filterMap read).Pairwise fun one next => one.time < next.time := by
  rw [List.pairwise_filterMap] at timely ⊢
  refine timely.imp fun {one next} before write written other read_next => ?_
  exact before _ (timed one write written) _ (timed next other read_next)

theorem ordered_edits {changes : List CommentChange}
    (timely : (changes.filterMap happenedAt?).Pairwise (· < ·)) :
    (changes.filterMap edit?).Pairwise fun one next => one.time < next.time := by
  refine pairwise_filterMap_time (fun change write written => ?_) timely
  unfold edit? at written
  split at written
  · cases written
    rfl
  · cases written

theorem ordered_visibility {changes : List CommentChange}
    (timely : (changes.filterMap happenedAt?).Pairwise (· < ·)) :
    (changes.filterMap visibility?).Pairwise fun one next => one.time < next.time := by
  refine pairwise_filterMap_time (fun change write written => ?_) timely
  unfold visibility? at written
  split at written
  · cases written
    rfl
  · cases written
    rfl
  · cases written

section Order

variable {normalizeText : String → String} {events : List CommentEvent} {inbox : Inbox}
  {enterpriseId : Nat} {commentId : String} {thread : Nat × String} {text : Option String}
  {later : List CommentChange}

structure StoredAs (before after : Inbox) (enterpriseId : Nat) (commentId : String)
    (thread : Nat × String) (text : Option String) (later : List CommentChange)
    (row : MessageRow) : Prop where
  copies : after.copies enterpriseId commentId = [row]
  filed : ∃ conversation, after.conversations.get? row.conversationId = some conversation ∧
    conversation.thread = thread
  body : row.body = Write.settle text (later.filterMap edit?)
  hidden : row.isHiddenOnPlatform = Write.settle false (later.filterMap visibility?)
  removed : row.platformDeletedAt.isSome = later.any removes
  alone : (∀ other ∈ later.filterMap filed?, other = thread) →
    ∀ id, before.conversations.nextId ≤ id → id < after.conversations.nextId →
      id = row.conversationId

theorem storedAs_of_filed
    (concern : ∀ event ∈ events, event.concerns normalizeText enterpriseId commentId)
    (unstored : inbox.copies enterpriseId commentId = [])
    (filed : sinceFiled (CommentEvent.changes normalizeText events inbox) =
      some ((thread, text), later)) :
    ∃ row, StoredAs inbox (CommentEvent.projectAll normalizeText events inbox) enterpriseId
      commentId thread text later row := by
  have none_shown : (inbox.view enterpriseId commentId).comments = [] :=
    congrArg (List.map MessageRow.shown) unstored
  obtain ⟨stored, ran, comments, threads⟩ := CommentView.foldl_unstored none_shown filed
  change stored.threads = if thread ∈ inbox.threads then inbox.threads
    else inbox.threads ++ [thread] at threads
  have viewed := CommentEvent.view_projectAll concern inbox
  rw [ran] at viewed
  generalize CommentEvent.projectAll normalizeText events inbox = after at viewed ⊢
  have shown := congrArg CommentView.comments viewed
  rw [CommentView.foldl_stored later comments, ShownComment.foldl_changed] at shown
  obtain ⟨row, copies, same⟩ := List.map_eq_singleton_iff.mp shown
  have place : row.conversationId = inbox.threads.idxOf thread :=
    congrArg ShownComment.conversationId same
  have opened : stored.threads[inbox.threads.idxOf thread]? = some thread := by
    rw [threads]
    split
    · next member => exact List.getElem?_idxOf member
    · next absent =>
        rw [List.idxOf_eq_length absent]
        exact List.getElem?_concat_length
  refine ⟨row, copies, ?_, congrArg ShownComment.body same, congrArg ShownComment.hidden same,
    (congrArg ShownComment.removed same).trans (Bool.false_or _), ?_⟩
  · have kept : after.threads[row.conversationId]? = some thread := by
      obtain ⟨more, longer⟩ := CommentView.foldl_threads later stored
      have extended : stored.threads ++ more = after.threads :=
        longer.trans (congrArg CommentView.threads viewed).symm
      rw [place, ← extended,
        List.getElem?_append_left (List.getElem?_eq_some_iff.mp opened).1]
      exact opened
    rw [Inbox.threads, List.getElem?_map, Option.map_eq_some_iff] at kept
    exact kept
  · intro together id fresh there
    have same_threads : after.threads = stored.threads := by
      refine (congrArg CommentView.threads viewed).trans (CommentView.foldl_threads_eq ?_)
      intro other member
      rw [together other member]
      exact List.mem_of_getElem? opened
    have counted : after.conversations.nextId = stored.threads.length := by
      rw [← same_threads]
      exact (List.length_map _).symm
    have before : inbox.threads.length = inbox.conversations.nextId := List.length_map _
    rw [counted, threads] at there
    rw [place]
    split at there
    · exact absurd there (Nat.not_lt.mpr (before.trans_le fresh))
    · next absent =>
        rw [List.length_append, List.length_singleton, before] at there
        rw [List.idxOf_eq_length absent, before]
        exact Nat.le_antisymm (Nat.le_of_lt_succ there) fresh

/-- What is projected before the comment is stored changes nothing of it. After that the edit,
the hide or unhide and the removal projected last stand. Where the comment comes first and
what was done to it comes in its order, these are the latest. -/
theorem comment_shows_last_projected
    (concern : ∀ event ∈ events, event.concerns normalizeText enterpriseId commentId)
    (unstored : inbox.copies enterpriseId commentId = []) :
    (∀ thread text later,
      sinceFiled (CommentEvent.changes normalizeText events inbox) =
          some ((thread, text), later) →
        ∃ row, StoredAs inbox (CommentEvent.projectAll normalizeText events inbox) enterpriseId
          commentId thread text later row) ∧
      (InTimelyOrder (CommentEvent.changes normalizeText events inbox) →
        ShownInAnyOrder enterpriseId commentId (CommentEvent.changes normalizeText events inbox)
          inbox (CommentEvent.projectAll normalizeText events inbox)) := by
  refine ⟨fun thread text later filed => storedAs_of_filed concern unstored filed, ?_⟩
  rintro ⟨thread, text, later, order, together, timely⟩
  have filed : sinceFiled (CommentEvent.changes normalizeText events inbox) =
      some ((thread, text), later) := by rw [order]; rfl
  obtain ⟨row, stored⟩ := storedAs_of_filed concern unstored filed
  obtain ⟨conversation, found, -⟩ := stored.filed
  rw [order]
  refine ⟨row, conversation, stored.copies, found, stored.alone together, ?_, ?_, ?_, ?_⟩
  · intro edit latest
    rw [stored.body]
    exact Write.settle_of_ordered (ordered_edits timely) latest _
  · intro visibility latest
    rw [stored.hidden]
    exact Write.settle_of_ordered (ordered_visibility timely) latest _
  · intro none_changed
    rw [stored.hidden, show later.filterMap visibility? = [] from none_changed]
    rfl
  · exact stored.removed

end Order

/-! ### A hide that comes first -/

def feedChange (verb : String) (message : Option String) (happenedAt : Int) : CommentEvent where
  eventType := .comment
  context := ⟨1, 7, .facebook, 0, [], 1⟩
  payload :=
    .facebookComment
      ⟨some "comment", some verb, some "c1", none, some "p1", message, some happenedAt,
        some ⟨some "u1", some "Ann"⟩⟩
  oracle := ⟨.unknown, false, false⟩
  now := 100
  happenedAt := happenedAt

theorem feedChange_concerns {verb : String} (known : verb = "add" ∨ verb = "edited" ∨ verb = "hide")
    (message : Option String) (happenedAt : Int) :
    (feedChange verb message happenedAt).concerns id 1 "c1" := by
  refine ⟨rfl, rfl, fun named member => ?_⟩
  rcases known with rfl | rfl | rfl <;> cases member <;> rfl

/-- The hide of a comment is projected before the comment, and skipped. -/
theorem hide_before_comment : ¬∀ (normalizeText : String → String) (events : List CommentEvent)
    (inbox : Inbox) (enterpriseId : Nat) (commentId : String),
    (∀ event ∈ events, event.concerns normalizeText enterpriseId commentId) →
      inbox.copies enterpriseId commentId = [] →
      (sinceFiled (CommentEvent.changes normalizeText events inbox)).isSome = true →
      ((CommentEvent.changes normalizeText events inbox).filterMap happenedAt?).Nodup →
      ShownInAnyOrder enterpriseId commentId (CommentEvent.changes normalizeText events inbox)
        inbox (CommentEvent.projectAll normalizeText events inbox) := by
  intro claimed
  obtain ⟨row, conversation, copies, -, -, -, visible, -⟩ :=
    claimed id [feedChange "hide" none 2, feedChange "add" (some "Hello") 1] .empty 1 "c1"
      (by
        intro event member
        rcases List.mem_cons.mp member with rfl | member
        · exact feedChange_concerns (.inr (.inr rfl)) _ _
        · cases List.mem_singleton.mp member
          exact feedChange_concerns (.inl rfl) _ _)
      rfl rfl (by decide)
  have hidden := visible ⟨2, true⟩ (by refine ⟨by decide, by decide⟩)
  have shown := congrArg (List.map MessageRow.isHiddenOnPlatform) copies
  rw [List.map_singleton, hidden] at shown
  exact absurd shown (by decide)

theorem comment_shows_last_projected_hidden :
    ShownInAnyOrder 1 "c1"
      [.filed (7, "comment:c1") (some "Hello"), .moderated .edited (some "Hi") 2,
        .moderated .hidden none 3]
      .empty
      (CommentEvent.projectAll id
        [feedChange "add" (some "Hello") 1, feedChange "edited" (some "Hi") 2,
          feedChange "hide" none 3] .empty) := by
  refine (@comment_shows_last_projected id _ _ _ _ ?_ rfl).2 ⟨_, _, _, rfl, by decide, by decide⟩
  intro event member
  simp only [List.mem_cons, List.not_mem_nil, or_false] at member
  rcases member with rfl | rfl | rfl
  · exact feedChange_concerns (.inl rfl) _ _
  · exact feedChange_concerns (.inr (.inl rfl)) _ _
  · exact feedChange_concerns (.inr (.inr rfl)) _ _

end UnifiedService.Projection
