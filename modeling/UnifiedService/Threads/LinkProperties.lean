import Mathlib.Algebra.Order.BigOperators.Group.List
import Mathlib.Data.List.Forall2
import UnifiedService.Threads.Attachments

/-! Where a fresh link lands: the rows of a message against the links that the thread gives for
it now. -/

set_option autoImplicit false

namespace UnifiedService.Threads

open UnifiedService.Library
open UnifiedService.Outbound (truthy)

inductive LinkClass where
  | expiring | stable | unreadable
  deriving DecidableEq, Repr

def InboxDb.rowsOf (db : InboxDb) (messageId : Nat) : List AttachmentRow :=
  db.attachments.filter (·.messageId == messageId)

namespace UrlRuntime

variable (runtime : UrlRuntime)

def linkClass (url : String) : LinkClass :=
  if runtime.isExpiringMediaUrl (some url) then .expiring
  else if (runtime.hostOf (some url)).isSome then .stable
  else .unreadable

def SameClass (one other : Option String) : Prop :=
  (truthy one).map runtime.linkClass = (truthy other).map runtime.linkClass

instance (one other : Option String) : Decidable (runtime.SameClass one other) :=
  inferInstanceAs (Decidable (_ = _))

structure SameAttachment (one other : GraphAttachment) : Prop where
  image : runtime.SameClass one.imageUrl other.imageUrl
  video : runtime.SameClass one.videoUrl other.videoUrl
  file : runtime.SameClass one.fileUrl other.fileUrl

structure Reread (first later : GraphMessage) : Prop where
  attachments : List.Forall₂ runtime.SameAttachment first.attachments later.attachments
  shares : List.Forall₂ runtime.SameClass first.shares later.shares

def storedRows (enterpriseId messageId firstId : Nat) (message : GraphMessage) :
    List AttachmentRow :=
  (mediaRows enterpriseId messageId firstId
    (runtime.normalizeAttachments (message.translated.map (·.toPlatform))).attachments).map
      (·.toAttachmentRow)

/-- A row as it was stored, but for what earlier refreshes wrote: a link of the same class, and
the mime type. -/
structure Relinked (stored row : AttachmentRow) : Prop where
  kept : row = { stored with sourceUrl := row.sourceUrl, mimeType := row.mimeType }
  link : row.sourceUrl.map runtime.linkClass = stored.sourceUrl.map runtime.linkClass

structure HoldsLink (row : AttachmentRow) (attachment : WebhookAttachment) : Prop where
  link : ∃ url, row.sourceUrl = some url ∧
    runtime.linkClass url = runtime.linkClass attachment.url
  stable : row.stableUrl = (runtime.linkClass attachment.url == .stable)

/-- A row with the fresh link and mime type of its attachment, if the link expires. -/
def relink (row : AttachmentRow) (attachment : WebhookAttachment) : AttachmentRow :=
  if runtime.isExpiringMediaUrl (some attachment.url) then
    { row with
      sourceUrl := some attachment.url
      mimeType := (truthy attachment.mimeType).or row.mimeType }
  else row

def relinked (rows : List AttachmentRow) (message : GraphMessage) : List AttachmentRow :=
  List.zipWith runtime.relink rows (message.translated.take maxAttachmentsPerMessage)

/-- Which of its rows a message is said to hold: those the service would refresh, or those with
a link that expires. -/
inductive Held where
  | refreshable | expiring
  deriving DecidableEq, Repr

def heldCount (held : Held) (rows : List AttachmentRow) : Nat :=
  match held with
  | .refreshable => rows.countP fun row => row.sourceUrl.isSome && !row.stableUrl
  | .expiring => rows.countP fun row => runtime.isExpiringMediaUrl row.sourceUrl

/-- Where the message has as many links that expire as rows are held, each row has the fresh
link and mime type of its own attachment, if that expires, and no other row is touched.
Otherwise none is, and those that were to be refreshed are counted. -/
def LinksLand (held : Held) (rows rowsAfter : List AttachmentRow) (later : GraphMessage)
    (beyondReach : Nat) : Prop :=
  if (runtime.expiringLinks later).length = runtime.heldCount held rows then
    rowsAfter = runtime.relinked rows later
  else rowsAfter = rows ∧ runtime.heldCount .refreshable rows ≤ beyondReach

/-- Of the attachments that are kept, those whose link cannot be read. -/
def unreadableCount (message : GraphMessage) : Nat :=
  (message.translated.take maxAttachmentsPerMessage).countP fun attachment =>
    runtime.linkClass attachment.url == .unreadable

/-- Of the attachments that are cut off, those whose link expires. -/
def cutCount (message : GraphMessage) : Nat :=
  (message.translated.drop maxAttachmentsPerMessage).countP fun attachment =>
    runtime.isExpiringMediaUrl (some attachment.url)

/-- Every kept link can be read; or the numbers give it away, and, if only rows with a link
that expires are held, one was cut off or no link has moved. -/
def Unmistakable (held : Held) (rows : List AttachmentRow) (later : GraphMessage) : Prop :=
  runtime.unreadableCount later = 0 ∨
    runtime.unreadableCount later ≠ runtime.cutCount later ∧
      match held with
      | .refreshable => True
      | .expiring => runtime.cutCount later ≠ 0 ∨ runtime.relinked rows later = rows

def OffPage (db : InboxDb) (page : List GraphMessage) (messageId : Nat) : Prop :=
  ∀ row, db.outbound.messages.get? messageId = some row →
    ∀ one ∈ page, row.platformMessageId ≠ some one.id

/-- A message of a thread whose rows were stored from what the read edge told of it. -/
structure Holding (db : InboxDb) (enterpriseId conversationId messageId : Nat)
    (message : GraphMessage) : Prop where
  stored : ∃ row, db.outbound.messages.get? messageId = some row ∧
    row.enterpriseId = enterpriseId ∧ row.conversationId = conversationId ∧
    row.platformMessageId = some message.id
  /-- `messages_platform_uniq`. -/
  unique : ∀ id row, db.outbound.messages.get? id = some row → row.enterpriseId = enterpriseId →
    row.platformMessageId = some message.id → id = messageId
  keys : (db.attachments.map (·.id)).Nodup
  rows : ∃ firstId, List.Forall₂ runtime.Relinked
    (runtime.storedRows enterpriseId messageId firstId message) (db.rowsOf messageId)

def entryOf (db : InboxDb) (enterpriseId conversationId : Nat) (attachment : AttachmentRow) :
    Option InboxDb.Refreshable := do
  let sourceUrl ← attachment.sourceUrl
  let message ← db.outbound.messages.get? attachment.messageId
  let platformMessageId ← message.platformMessageId
  if attachment.enterpriseId = enterpriseId ∧ message.enterpriseId = enterpriseId ∧
      message.conversationId = conversationId ∧ attachment.stableUrl = false then
    some ⟨attachment.id, platformMessageId, attachment.sortOrder, sourceUrl⟩
  else none

def refreshableOf (platformMessageId : String) (row : AttachmentRow) :
    Option InboxDb.Refreshable :=
  if row.stableUrl then none
  else row.sourceUrl.map fun url => ⟨row.id, platformMessageId, row.sortOrder, url⟩

/-! ### Classes -/

theorem isExpiring_iff (url : String) :
    runtime.isExpiringMediaUrl (some url) = true ↔ runtime.linkClass url = .expiring := by
  unfold linkClass
  split
  · next expires => exact iff_of_true expires rfl
  · next lasts =>
      refine iff_of_false lasts ?_
      split <;> decide

theorem isStable_eq (url : String) :
    runtime.isStableMediaUrl (some url) = (runtime.linkClass url == .stable) := by
  unfold linkClass isStableMediaUrl
  cases runtime.isExpiringMediaUrl (some url) <;>
    cases (runtime.hostOf (some url)).isSome <;> rfl

theorem map_filterMap_congr {Item Kept Mark : Type} {related : Item → Item → Prop}
    {keep : Item → Option Kept} {mark : Kept → Mark}
    (agree : ∀ one other, related one other → (keep one).map mark = (keep other).map mark)
    {items others : List Item} (pairwise : List.Forall₂ related items others) :
    (items.filterMap keep).map mark = (others.filterMap keep).map mark := by
  induction pairwise with
  | nil => rfl
  | @cons one other items others here _ ih =>
      have same := agree one other here
      rw [List.filterMap_cons, List.filterMap_cons]
      cases first : keep one with
      | none =>
          cases second : keep other with
          | none => exact ih
          | some kept => rw [first, second] at same; cases same
      | some kept =>
          cases second : keep other with
          | none => rw [first, second] at same; cases same
          | some keptToo =>
              rw [first, second] at same
              simp only [List.map_cons, ih]
              rw [Option.some.inj same]

theorem Reread.classes {first later : GraphMessage} (reread : runtime.Reread first later) :
    first.translated.map (fun attachment => runtime.linkClass attachment.url) =
      later.translated.map fun attachment => runtime.linkClass attachment.url := by
  simp only [GraphMessage.translated, toWebhookAttachments, List.map_append]
  congr 1
  · refine map_filterMap_congr (fun one other same => ?_) reread.shares
    simp only [shareToWebhook, Option.map_map]
    exact same
  · refine map_filterMap_congr (fun one other same => ?_) reread.attachments
    obtain ⟨image, video, file⟩ := same
    unfold SameClass at image video file
    unfold attachmentToWebhook
    cases oneImage : truthy one.imageUrl <;> cases otherImage : truthy other.imageUrl <;>
      rw [oneImage, otherImage] at image <;> first | cases image | skip
    · cases oneVideo : truthy one.videoUrl <;> cases otherVideo : truthy other.videoUrl <;>
        rw [oneVideo, otherVideo] at video <;> first | cases video | skip
      · simp only [Option.map_none, Option.none_or, Option.map_map]
        exact file
      · exact video
    · exact image

/-! ### The rows of a message -/

theorem length_storedRows (enterpriseId messageId firstId : Nat) (message : GraphMessage) :
    (runtime.storedRows enterpriseId messageId firstId message).length =
      min maxAttachmentsPerMessage message.translated.length := by
  unfold storedRows mediaRows normalizeAttachments
  split
  · next nothing =>
      rw [List.map_eq_nil_iff] at nothing
      simp [nothing]
  · dsimp only
    split <;> simp

theorem getElem_storedRows (enterpriseId messageId firstId : Nat) (message : GraphMessage)
    {index : Nat}
    (bound : index < (runtime.storedRows enterpriseId messageId firstId message).length)
    (inside : index < message.translated.length) :
    ∃ mimeType, (runtime.storedRows enterpriseId messageId firstId message)[index] =
      { id := firstId + index
        enterpriseId
        messageId
        sourceUrl := some message.translated[index].url
        sortOrder := index
        mimeType
        stableUrl :=
          ((truthy (some message.translated[index].url)).map fun url =>
            runtime.isStableMediaUrl (some url)) == some true
        isDeleted := false } := by
  unfold storedRows mediaRows normalizeAttachments at bound ⊢
  split
  · next nothing =>
      rw [List.map_eq_nil_iff] at nothing
      rw [nothing] at inside
      exact absurd inside (Nat.not_lt_zero index)
  · dsimp only
    split <;>
      simp [WebhookAttachment.toPlatform, normalizeAttachment, sourceUrlOf]

theorem stableMark_eq (url : String) :
    (((truthy (some url)).map fun url => runtime.isStableMediaUrl (some url)) == some true) =
      (runtime.linkClass url == .stable) := by
  rw [← isStable_eq]
  by_cases empty : url = ""
  · subst empty
    rfl
  · have there : truthy (some url) = some url := by simp [truthy, Option.filter, empty]
    rw [there, Option.map_some]
    cases runtime.isStableMediaUrl (some url) <;> rfl

theorem entryOf_eq_some {db : InboxDb} {enterpriseId conversationId : Nat} {row : AttachmentRow}
    {entry : InboxDb.Refreshable}
    (entered : entryOf db enterpriseId conversationId row = some entry) :
    entry.id = row.id ∧ ∃ message, db.outbound.messages.get? row.messageId = some message ∧
      message.enterpriseId = enterpriseId ∧
      message.platformMessageId = some entry.platformMessageId := by
  rw [entryOf] at entered
  obtain ⟨url, -, entered⟩ := Option.bind_eq_some_iff.mp entered
  obtain ⟨message, found, entered⟩ := Option.bind_eq_some_iff.mp entered
  obtain ⟨platformMessageId, named, entered⟩ := Option.bind_eq_some_iff.mp entered
  split at entered
  · next conditions =>
      cases entered
      exact ⟨rfl, message, found, conditions.2.1, named⟩
  · cases entered

section Held

variable {runtime} {db : InboxDb} {enterpriseId conversationId messageId : Nat}
  {first later : GraphMessage}
  (holding : runtime.Holding db enterpriseId conversationId messageId first)

include holding

theorem Holding.length_rows :
    (db.rowsOf messageId).length = min maxAttachmentsPerMessage first.translated.length := by
  obtain ⟨firstId, same⟩ := holding.rows
  rw [← same.length_eq, length_storedRows]

theorem Holding.row_at {index : Nat} (bound : index < (db.rowsOf messageId).length)
    (inside : index < first.translated.length) :
    (db.rowsOf messageId)[index].enterpriseId = enterpriseId ∧
      (db.rowsOf messageId)[index].sortOrder = index ∧
      runtime.HoldsLink (db.rowsOf messageId)[index] first.translated[index] := by
  obtain ⟨firstId, same⟩ := holding.rows
  obtain ⟨lengths, each⟩ := List.forall₂_iff_get.mp same
  obtain ⟨kept, link⟩ := each index (lengths ▸ bound) bound
  obtain ⟨mimeType, stored⟩ := runtime.getElem_storedRows enterpriseId messageId firstId first
    (lengths ▸ bound) inside
  rw [List.get_eq_getElem, List.get_eq_getElem, stored] at kept link
  refine ⟨by rw [kept], by rw [kept], ?_, by rw [kept, ← stableMark_eq]⟩
  obtain ⟨url, found, alike⟩ := Option.map_eq_some_iff.mp link
  exact ⟨url, found, alike⟩

theorem Holding.aligned (reread : runtime.Reread first later) :
    List.Forall₂ runtime.HoldsLink (db.rowsOf messageId)
      (later.translated.take maxAttachmentsPerMessage) := by
  have classes := reread.classes
  have lengths : first.translated.length = later.translated.length := by
    simpa using congrArg List.length classes
  rw [List.forall₂_iff_get]
  refine ⟨by rw [holding.length_rows, List.length_take, lengths], fun index bound taken => ?_⟩
  have within : index < later.translated.length :=
    taken.trans_le ((List.length_take_le' ..))
  obtain ⟨-, -, link, stable⟩ := holding.row_at bound (lengths ▸ within)
  have alike : runtime.linkClass first.translated[index].url =
      runtime.linkClass later.translated[index].url := by
    have here := congrArg (fun marks => marks[index]?) classes
    simpa [lengths ▸ within, within] using here
  rw [List.get_eq_getElem, List.get_eq_getElem, List.getElem_take]
  exact ⟨alike ▸ link, alike ▸ stable⟩

theorem Holding.ordered :
    (db.rowsOf messageId).Pairwise fun one other => one.sortOrder < other.sortOrder := by
  rw [List.pairwise_iff_getElem]
  intro before after bound boundAfter less
  have inside : after < first.translated.length := by
    have := holding.length_rows
    omega
  rw [(holding.row_at bound (less.trans inside)).2.1, (holding.row_at boundAfter inside).2.1]
  exact less

theorem Holding.enterprise {row : AttachmentRow} (member : row ∈ db.rowsOf messageId) :
    row.enterpriseId = enterpriseId := by
  obtain ⟨index, bound, rfl⟩ := List.mem_iff_getElem.mp member
  have inside : index < first.translated.length := by
    have := holding.length_rows
    omega
  exact (holding.row_at bound inside).1

theorem Holding.listRefreshable :
    ((db.listRefreshable enterpriseId conversationId).filter fun entry =>
        entry.platformMessageId == first.id) =
      (db.rowsOf messageId).filterMap (refreshableOf first.id) := by
  have each : ∀ row ∈ db.attachments,
      ((entryOf db enterpriseId conversationId row).filter fun entry =>
        entry.platformMessageId == first.id) =
        if row.messageId == messageId then refreshableOf first.id row else none := by
    intro row listed
    obtain ⟨message, found, sameEnterprise, inThread, platformId⟩ := holding.stored
    by_cases here : row.messageId = messageId
    · have own : row.enterpriseId = enterpriseId :=
        holding.enterprise (List.mem_filter.mpr ⟨listed, beq_iff_eq.mpr here⟩)
      rw [if_pos (beq_iff_eq.mpr here), entryOf, refreshableOf, here, found]
      cases row.sourceUrl with
      | none => simp
      | some url =>
          cases row.stableUrl <;> simp [platformId, own, sameEnterprise, inThread]
    · rw [if_neg (by simpa using here), Option.filter_eq_none_iff]
      intro entry entered
      obtain ⟨-, other, there, sameEnterprise, told⟩ := entryOf_eq_some entered
      rw [beq_iff_eq]
      intro named
      exact here (holding.unique _ _ there sameEnterprise (named ▸ told))
  have gathered : ((db.attachments.filterMap (entryOf db enterpriseId conversationId)).filter
      fun entry => entry.platformMessageId == first.id) =
        (db.rowsOf messageId).filterMap (refreshableOf first.id) := by
    rw [List.filter_filterMap, InboxDb.rowsOf, List.filterMap_filter]
    exact List.filterMap_congr each
  have strict : ((db.rowsOf messageId).filterMap (refreshableOf first.id)).Pairwise
      fun one other => one.sortOrder < other.sortOrder := by
    refine List.Pairwise.filterMap (refreshableOf first.id) ?_ holding.ordered
    intro one other less entry entered later enteredLater
    rw [refreshableOf] at entered enteredLater
    split at entered
    · cases entered
    · split at enteredLater
      · cases enteredLater
      · obtain ⟨_, -, rfl⟩ := Option.map_eq_some_iff.mp entered
        obtain ⟨_, -, rfl⟩ := Option.map_eq_some_iff.mp enteredLater
        exact less
  have sorted : ((db.listRefreshable enterpriseId conversationId).filter fun entry =>
      entry.platformMessageId == first.id).Pairwise
        fun one other => one.sortOrder ≤ other.sortOrder :=
    (List.pairwise_insertionSort _ _).sublist List.filter_sublist
  have same : ((db.listRefreshable enterpriseId conversationId).filter fun entry =>
      entry.platformMessageId == first.id).Perm
        ((db.rowsOf messageId).filterMap (refreshableOf first.id)) := by
    rw [← gathered]
    exact (List.perm_insertionSort _ _).filter _
  refine List.Perm.eq_of_pairwise (fun one other listed gatheredToo less more => ?_) sorted
    (strict.imp Nat.le_of_lt) same
  have places : (((db.rowsOf messageId).filterMap (refreshableOf first.id)).map
      (·.sortOrder)).Nodup := by
    rw [List.Nodup, List.pairwise_map]
    exact strict.imp Nat.ne_of_lt
  exact List.inj_on_of_nodup_map places (same.mem_iff.mp listed) gatheredToo
    (Nat.le_antisymm less more)

end Held

/-! ### A refresh of a thread -/

structure ThreadRead (request : Request) (db : InboxDb) (refId : String)
    (conversation : ConversationRow) (page : List GraphMessage) : Prop where
  visible : requireConversation request db refId .view = .ok conversation
  connected : ∃ channel,
    db.findSendContext request.enterpriseId conversation.channelId = some channel ∧
      channel.hasToken = true ∧ channel.reauthRequired = false
  named : participantOf conversation.platformThreadId ≠ ""
  answered : request.freshLinks conversation = some (runtime.readFreshAttachmentLinks page)

section Thread

variable (db : InboxDb) (enterpriseId conversationId : Nat) (page : List GraphMessage)

def settledLinks (platformMessageId : String) : Option (List InboxDb.LinkUpdate) :=
  (runtime.readFreshAttachmentLinks page platformMessageId).bind
    (linkUpdates ((db.listRefreshable enterpriseId conversationId).filter fun entry =>
      entry.platformMessageId == platformMessageId))

def refreshableMessages : List String :=
  ((db.listRefreshable enterpriseId conversationId).map (·.platformMessageId)).dedup

def threadUpdates : List InboxDb.LinkUpdate :=
  (refreshableMessages db enterpriseId conversationId).flatMap fun message =>
    (runtime.settledLinks db enterpriseId conversationId page message).getD []

def threadBeyond : Nat :=
  ((refreshableMessages db enterpriseId conversationId).map fun message =>
    if (runtime.settledLinks db enterpriseId conversationId page message).isSome then 0
    else ((db.listRefreshable enterpriseId conversationId).filter fun entry =>
      entry.platformMessageId == message).length).sum

end Thread

theorem refreshSourceUrls_nil (db : InboxDb) (enterpriseId : Nat) :
    db.refreshSourceUrls enterpriseId [] = db := by
  simp [InboxDb.refreshSourceUrls]

theorem refreshAttachments_eq {request : Request} {db : InboxDb} {refId : String}
    {conversation : ConversationRow} {page : List GraphMessage}
    (reads : runtime.ThreadRead request db refId conversation page) :
    Threads.refreshAttachments request db refId =
      .ok (.refreshed
          (runtime.threadUpdates db request.enterpriseId conversation.id.value page).length
          (runtime.threadBeyond db request.enterpriseId conversation.id.value page),
        db.refreshSourceUrls request.enterpriseId
          (runtime.threadUpdates db request.enterpriseId conversation.id.value page)) := by
  obtain ⟨visible, ⟨channel, connected, token, authorized⟩, named, answered⟩ := reads
  rw [refreshAttachments, visible]
  change (if _ then _ else _) = _
  split
  · next nothing =>
      have none : refreshableMessages db request.enterpriseId conversation.id.value = [] := by
        rw [refreshableMessages, nothing]
        rfl
      rw [threadUpdates, threadBeyond, none, List.flatMap_nil, refreshSourceUrls_nil]
      rfl
  · have reachable : (!channel.hasToken || channel.reauthRequired ||
        decide (participantOf conversation.platformThreadId = "")) = false := by
      simp [token, authorized, named]
    rw [connected]
    dsimp only
    rw [reachable, answered, if_neg Bool.false_ne_true]
    simp only [threadUpdates, threadBeyond, List.map_map, List.flatMap_map]
    rfl

/-! ### What lands on a row -/

def applyUpdates (enterpriseId : Nat) (updates : List InboxDb.LinkUpdate) (row : AttachmentRow) :
    AttachmentRow :=
  match updates.find? fun update =>
      update.id == row.id && row.enterpriseId == enterpriseId with
  | some update =>
      { row with
        sourceUrl := some update.sourceUrl
        mimeType := update.mimeType.or row.mimeType }
  | none => row

theorem rowsOf_refreshSourceUrls (db : InboxDb) (enterpriseId messageId : Nat)
    (updates : List InboxDb.LinkUpdate) :
    (db.refreshSourceUrls enterpriseId updates).rowsOf messageId =
      (db.rowsOf messageId).map (applyUpdates enterpriseId updates) := by
  rw [InboxDb.rowsOf, InboxDb.refreshSourceUrls, InboxDb.rowsOf, List.filter_map]
  congr 1
  refine List.filter_congr fun row _ => ?_
  simp only [Function.comp_apply]
  split <;> rfl

theorem applyUpdates_of_absent {enterpriseId : Nat} {updates : List InboxDb.LinkUpdate}
    {row : AttachmentRow} (absent : ∀ update ∈ updates, update.id ≠ row.id) :
    applyUpdates enterpriseId updates row = row := by
  have missing : (updates.find? fun update =>
      update.id == row.id && row.enterpriseId == enterpriseId) = none := by
    rw [List.find?_eq_none]
    intro update member
    simp [absent update member]
  rw [applyUpdates, missing]

theorem applyUpdates_of_mem {enterpriseId : Nat} {updates : List InboxDb.LinkUpdate}
    {row : AttachmentRow} {update : InboxDb.LinkUpdate} (own : row.enterpriseId = enterpriseId)
    (member : update ∈ updates) (addressed : update.id = row.id) :
    ∃ found ∈ updates, found.id = row.id ∧
      applyUpdates enterpriseId updates row =
        { row with
          sourceUrl := some found.sourceUrl
          mimeType := found.mimeType.or row.mimeType } := by
  cases result : updates.find? fun update =>
      update.id == row.id && row.enterpriseId == enterpriseId with
  | none =>
      have rejected := List.find?_eq_none.mp result update member
      simp [addressed, own] at rejected
  | some found =>
      have accepted := List.find?_some result
      rw [Bool.and_eq_true, beq_iff_eq] at accepted
      exact ⟨found, List.mem_of_find?_eq_some result, accepted.1, by rw [applyUpdates, result]⟩

theorem mem_linkUpdates {rows : List InboxDb.Refreshable} {links : List FreshLink}
    {update : InboxDb.LinkUpdate} (member : update ∈ (linkUpdates rows links).getD []) :
    ∃ entry ∈ rows, update.id = entry.id := by
  rw [linkUpdates] at member
  split at member
  · obtain ⟨pair, inside, changes⟩ := List.mem_filterMap.mp member
    split at changes
    · cases changes
    · cases changes
      exact ⟨pair.1, (List.of_mem_zip inside).1, rfl⟩
  · cases member

theorem mem_settledLinks {db : InboxDb} {enterpriseId conversationId : Nat}
    {page : List GraphMessage} {message : String} {update : InboxDb.LinkUpdate}
    (member : update ∈ (runtime.settledLinks db enterpriseId conversationId page message).getD []) :
    ∃ row ∈ db.attachments, ∃ entry, entryOf db enterpriseId conversationId row = some entry ∧
      entry.platformMessageId = message ∧ entry.id = row.id ∧ update.id = row.id := by
  rw [settledLinks] at member
  cases fresh : runtime.readFreshAttachmentLinks page message with
  | none =>
      rw [fresh] at member
      cases member
  | some links =>
      rw [fresh] at member
      obtain ⟨entry, inside, addressed⟩ := mem_linkUpdates member
      obtain ⟨listed, named⟩ := List.mem_filter.mp inside
      obtain ⟨row, held, entered⟩ := List.mem_filterMap.mp ((List.mem_insertionSort _).mp listed)
      have same := (entryOf_eq_some entered).1
      exact ⟨row, held, entry, entered, beq_iff_eq.mp named, same, addressed.trans same⟩

theorem page_holds_settled {db : InboxDb} {enterpriseId conversationId : Nat}
    {page : List GraphMessage} {message : String} {update : InboxDb.LinkUpdate}
    (member : update ∈ (runtime.settledLinks db enterpriseId conversationId page message).getD []) :
    ∃ one ∈ page, one.id = message := by
  rw [settledLinks, readFreshAttachmentLinks] at member
  cases found : page.reverse.find? fun one =>
      one.id == message && !(runtime.expiringLinks one).isEmpty with
  | none =>
      rw [found] at member
      cases member
  | some one =>
      have accepted := List.find?_some found
      rw [Bool.and_eq_true, beq_iff_eq] at accepted
      exact ⟨one, List.mem_reverse.mp (List.mem_of_find?_eq_some found), accepted.1⟩

section Landing

variable {runtime} {db : InboxDb} {enterpriseId conversationId messageId : Nat}
  {first later : GraphMessage} {page : List GraphMessage}
  (holding : runtime.Holding db enterpriseId conversationId messageId first)
  (paged : page.filter (·.id == first.id) = [later])

include paged in
theorem readFresh_eq :
    runtime.readFreshAttachmentLinks page first.id =
      if runtime.expiringLinks later = [] then none else some (runtime.expiringLinks later) := by
  have only : ∀ message ∈ page, message.id = first.id → message = later := by
    intro message member same
    have inside : message ∈ page.filter (·.id == first.id) :=
      List.mem_filter.mpr ⟨member, beq_iff_eq.mpr same⟩
    rw [paged] at inside
    exact List.mem_singleton.mp inside
  have there : later ∈ page ∧ later.id = first.id := by
    have inside : later ∈ page.filter (·.id == first.id) := by
      rw [paged]
      exact List.mem_singleton_self later
    exact ⟨(List.mem_filter.mp inside).1, beq_iff_eq.mp (List.mem_filter.mp inside).2⟩
  rw [readFreshAttachmentLinks]
  cases result : page.reverse.find? fun message =>
      message.id == first.id && !(runtime.expiringLinks message).isEmpty with
  | none =>
      have rejected := List.find?_eq_none.mp result later (List.mem_reverse.mpr there.1)
      rw [if_pos (by simpa [there.2] using rejected)]
      rfl
  | some message =>
      have accepted := List.find?_some result
      rw [Bool.and_eq_true, beq_iff_eq] at accepted
      have same := only message (List.mem_reverse.mp (List.mem_of_find?_eq_some result)) accepted.1
      subst same
      rw [if_neg (by simpa using accepted.2)]
      rfl

include holding paged in
theorem Holding.settledLinks_eq :
    (runtime.settledLinks db enterpriseId conversationId page first.id).getD [] =
      (linkUpdates ((db.rowsOf messageId).filterMap (refreshableOf first.id))
        (runtime.expiringLinks later)).getD [] := by
  rw [settledLinks, readFresh_eq paged, holding.listRefreshable]
  split
  · next nothing =>
      rw [nothing, linkUpdates]
      split
      · rw [List.zip_nil_right]
        rfl
      · rfl
  · rfl

include holding in
theorem Holding.mem_threadUpdates_iff {row : AttachmentRow} (member : row ∈ db.rowsOf messageId)
    {update : InboxDb.LinkUpdate} (addressed : update.id = row.id) :
    update ∈ runtime.threadUpdates db enterpriseId conversationId page ↔
      update ∈ (runtime.settledLinks db enterpriseId conversationId page first.id).getD [] := by
  obtain ⟨listed, own⟩ := List.mem_filter.mp member
  rw [threadUpdates, List.mem_flatMap]
  constructor
  · rintro ⟨message, -, inside⟩
    obtain ⟨other, held, entry, entered, named, same, toOther⟩ := mem_settledLinks runtime inside
    have alike : other = row :=
      List.inj_on_of_nodup_map holding.keys held listed (toOther.symm.trans addressed)
    subst alike
    obtain ⟨stored, found, -, -, platformId⟩ := holding.stored
    obtain ⟨-, message', there, -, platformId'⟩ := entryOf_eq_some entered
    rw [beq_iff_eq.mp own, found] at there
    cases there
    rw [platformId, named] at platformId'
    rwa [← Option.some.inj platformId'] at inside
  · intro inside
    refine ⟨first.id, ?_, inside⟩
    obtain ⟨other, held, entry, entered, named, -, -⟩ := mem_settledLinks runtime inside
    rw [refreshableMessages, List.mem_dedup, List.mem_map]
    exact ⟨entry, (List.mem_insertionSort _).mpr (List.mem_filterMap.mpr ⟨other, held, entered⟩),
      named⟩

end Landing

/-! ### Positions -/

section Positions

variable {runtime} {rows : List AttachmentRow} {items : List WebhookAttachment}
  (aligned : List.Forall₂ runtime.HoldsLink rows items)

include aligned

theorem refreshable_eq (platformMessageId : String) :
    rows.filterMap (refreshableOf platformMessageId) =
      ((rows.zip items).filter fun pair =>
        runtime.linkClass pair.2.url != .stable).map fun pair =>
          ⟨pair.1.id, platformMessageId, pair.1.sortOrder, pair.1.sourceUrl.getD ""⟩ := by
  induction aligned with
  | nil => rfl
  | @cons row item rows items holds _ ih =>
      obtain ⟨⟨url, link, -⟩, stable⟩ := holds
      rw [List.zip_cons_cons, List.filter_cons, List.filterMap_cons, refreshableOf, stable, link]
      cases runtime.linkClass item.url with
      | stable => exact ih
      | expiring =>
          rw [if_neg (by decide), if_pos (by decide), List.map_cons, ← ih, link]
          rfl
      | unreadable =>
          rw [if_neg (by decide), if_pos (by decide), List.map_cons, ← ih, link]
          rfl

theorem filter_eq_zip (wanted : WebhookAttachment → Bool) :
    items.filter wanted =
      ((rows.zip items).filter fun pair => wanted pair.2).map Prod.snd := by
  have same : (rows.zip items).map Prod.snd = items :=
    List.map_snd_zip (Nat.le_of_eq aligned.length_eq.symm)
  conv_lhs => rw [← same, List.filter_map]
  rfl

theorem linkUpdates_aligned (platformMessageId : String)
    (readable : ∀ item ∈ items, runtime.linkClass item.url ≠ .unreadable) :
    linkUpdates (rows.filterMap (refreshableOf platformMessageId))
        ((items.filter fun item => runtime.isExpiringMediaUrl (some item.url)).map fun item =>
          ⟨item.url, item.mimeType⟩) =
      some (((rows.zip items).filter fun pair =>
        runtime.isExpiringMediaUrl (some pair.2.url)).filterMap fun pair =>
          if pair.2.url = pair.1.sourceUrl.getD "" ∧ (truthy pair.2.mimeType).isNone then none
          else some ⟨pair.1.id, pair.2.url, truthy pair.2.mimeType⟩) := by
  have classes : ((rows.zip items).filter fun pair =>
      runtime.linkClass pair.2.url != .stable) =
        (rows.zip items).filter fun pair => runtime.isExpiringMediaUrl (some pair.2.url) := by
    refine List.filter_congr fun pair member => ?_
    have known := readable pair.2 (List.of_mem_zip member).2
    rw [Bool.eq_iff_iff, isExpiring_iff]
    cases marked : runtime.linkClass pair.2.url with
    | unreadable => exact absurd marked known
    | expiring => decide
    | stable => decide
  rw [refreshable_eq aligned, classes, filter_eq_zip aligned, List.map_map, linkUpdates,
    if_pos (by simp), List.zip_map', List.filterMap_map]
  rfl

theorem length_refreshable (platformMessageId : String) :
    (rows.filterMap (refreshableOf platformMessageId)).length =
      (items.countP fun item => runtime.isExpiringMediaUrl (some item.url)) +
        items.countP fun item => runtime.linkClass item.url == .unreadable := by
  induction aligned with
  | nil => rfl
  | @cons row item rows items holds _ ih =>
      obtain ⟨⟨url, link, -⟩, stable⟩ := holds
      have marked := runtime.isExpiring_iff item.url
      rw [List.filterMap_cons, refreshableOf, stable, link, List.countP_cons, List.countP_cons]
      cases known : runtime.linkClass item.url with
      | stable =>
          have lasts : runtime.isExpiringMediaUrl (some item.url) = false := by
            rw [Bool.eq_false_iff, Ne, marked, known]
            decide
          rw [lasts]
          exact ih
      | expiring =>
          rw [marked.mpr known]
          simp only [beq_iff_eq, reduceCtorEq, if_false, Option.map_some, List.length_cons, ih,
            if_true]
          omega
      | unreadable =>
          have lasts : runtime.isExpiringMediaUrl (some item.url) = false := by
            rw [Bool.eq_false_iff, Ne, marked, known]
            decide
          rw [lasts]
          simp only [beq_iff_eq, reduceCtorEq, if_false, Option.map_some, List.length_cons, ih,
            beq_self_eq_true, if_true, Bool.false_eq_true]
          omega

theorem countP_expiring : (rows.countP fun row => runtime.isExpiringMediaUrl row.sourceUrl) =
    items.countP fun item => runtime.isExpiringMediaUrl (some item.url) := by
  induction aligned with
  | nil => rfl
  | @cons row item rows items holds _ ih =>
      obtain ⟨⟨url, link, alike⟩, -⟩ := holds
      have same : runtime.isExpiringMediaUrl row.sourceUrl =
          runtime.isExpiringMediaUrl (some item.url) := by
        rw [Bool.eq_iff_iff, link, isExpiring_iff, isExpiring_iff, alike]
      rw [List.countP_cons, List.countP_cons, ih, same]

end Positions

section Right

variable {runtime} {db : InboxDb} {enterpriseId conversationId messageId : Nat}
  {first later : GraphMessage} {page : List GraphMessage}
  (holding : runtime.Holding db enterpriseId conversationId messageId first)
  (reread : runtime.Reread first later)
  (paged : page.filter (·.id == first.id) = [later])

include holding reread in
theorem Holding.pairs_inj {one other : AttachmentRow × WebhookAttachment}
    (member : one ∈ (db.rowsOf messageId).zip (later.translated.take maxAttachmentsPerMessage))
    (member' : other ∈ (db.rowsOf messageId).zip (later.translated.take maxAttachmentsPerMessage))
    (same : one.1.id = other.1.id) : one = other := by
  have aligned := holding.aligned reread
  have keys : (((db.rowsOf messageId).zip
      (later.translated.take maxAttachmentsPerMessage)).map fun pair => pair.1.id).Nodup := by
    have firsts : ((db.rowsOf messageId).zip
        (later.translated.take maxAttachmentsPerMessage)).map Prod.fst = db.rowsOf messageId :=
      List.map_fst_zip (Nat.le_of_eq aligned.length_eq)
    rw [show (fun pair : AttachmentRow × WebhookAttachment => pair.1.id) =
      (·.id) ∘ Prod.fst from rfl, ← List.map_map, firsts]
    exact holding.keys.sublist (List.filter_sublist.map _)
  exact List.inj_on_of_nodup_map keys member member' same

include holding reread paged in
/-- Where every kept link can be read and none that expires was cut off, each row of the
message gets its own link. -/
theorem Holding.lands
    (readable : ∀ item ∈ later.translated.take maxAttachmentsPerMessage,
      runtime.linkClass item.url ≠ .unreadable)
    (uncut : (later.translated.drop maxAttachmentsPerMessage).filter
      (fun item => runtime.isExpiringMediaUrl (some item.url)) = []) :
    (db.rowsOf messageId).map (applyUpdates enterpriseId
        (runtime.threadUpdates db enterpriseId conversationId page)) =
      runtime.relinked (db.rowsOf messageId) later := by
  have aligned := holding.aligned reread
  have links : runtime.expiringLinks later =
      ((later.translated.take maxAttachmentsPerMessage).filter fun item =>
        runtime.isExpiringMediaUrl (some item.url)).map fun item => ⟨item.url, item.mimeType⟩ := by
    rw [expiringLinks]
    conv_lhs => rw [← List.take_append_drop maxAttachmentsPerMessage later.translated]
    rw [List.filter_append, uncut, List.append_nil]
  have updates := holding.settledLinks_eq paged
  rw [links, linkUpdates_aligned aligned first.id readable, Option.getD_some] at updates
  rw [relinked, ← List.map_uncurry_zip_eq_zipWith]
  have firsts : (db.rowsOf messageId) = ((db.rowsOf messageId).zip
      (later.translated.take maxAttachmentsPerMessage)).map Prod.fst :=
    (List.map_fst_zip (Nat.le_of_eq aligned.length_eq)).symm
  conv_lhs => rw [firsts, List.map_map]
  refine List.map_congr_left fun pair member => ?_
  have row := (List.of_mem_zip member).1
  have told : ∀ update : InboxDb.LinkUpdate, update.id = pair.1.id →
      (update ∈ runtime.threadUpdates db enterpriseId conversationId page ↔
        runtime.isExpiringMediaUrl (some pair.2.url) = true ∧
          ¬(pair.2.url = pair.1.sourceUrl.getD "" ∧ (truthy pair.2.mimeType).isNone = true) ∧
          update = ⟨pair.1.id, pair.2.url, truthy pair.2.mimeType⟩) := by
    intro update addressed
    rw [holding.mem_threadUpdates_iff row addressed, updates, List.mem_filterMap]
    constructor
    · rintro ⟨other, inside, changes⟩
      obtain ⟨listed, expires⟩ := List.mem_filter.mp inside
      split at changes
      · cases changes
      · next moved =>
          cases changes
          cases holding.pairs_inj reread listed member addressed
          exact ⟨expires, moved, rfl⟩
    · rintro ⟨expires, moved, rfl⟩
      exact ⟨pair, List.mem_filter.mpr ⟨member, expires⟩, if_neg moved⟩
  rw [Function.comp_apply, Function.uncurry, relink]
  by_cases changes : runtime.isExpiringMediaUrl (some pair.2.url) = true ∧
      ¬(pair.2.url = pair.1.sourceUrl.getD "" ∧ (truthy pair.2.mimeType).isNone = true)
  · obtain ⟨found, inside, addressed, applied⟩ := applyUpdates_of_mem (holding.enterprise row)
      ((told ⟨pair.1.id, pair.2.url, truthy pair.2.mimeType⟩ rfl).mpr ⟨changes.1, changes.2, rfl⟩)
      rfl
    obtain ⟨-, -, rfl⟩ := (told found addressed).mp inside
    rw [applied, if_pos changes.1]
  · rw [applyUpdates_of_absent fun update inside addressed =>
      changes ⟨((told update addressed).mp inside).1, ((told update addressed).mp inside).2.1⟩]
    split
    · next expires =>
        -- The link has not moved, and nothing is told of it.
        have still := not_not.mp (not_and.mp changes expires)
        obtain ⟨⟨url, link, -⟩, -⟩ := List.forall₂_zip aligned member
        rw [link, Option.getD_some] at still
        rw [still.1, Option.isNone_iff_eq_none.mp still.2, Option.none_or, ← link]
    · rfl

include holding paged in
/-- Where the links differ in number from the refreshable rows, the message is left untouched,
and its rows are counted. -/
theorem Holding.left (differ : (runtime.expiringLinks later).length ≠
      ((db.rowsOf messageId).filterMap (refreshableOf first.id)).length) :
    (db.rowsOf messageId).map (applyUpdates enterpriseId
        (runtime.threadUpdates db enterpriseId conversationId page)) = db.rowsOf messageId ∧
      ((db.rowsOf messageId).filterMap (refreshableOf first.id)).length ≤
        runtime.threadBeyond db enterpriseId conversationId page := by
  have unmatched : linkUpdates ((db.rowsOf messageId).filterMap (refreshableOf first.id))
      (runtime.expiringLinks later) = none := if_neg differ
  have unsettled : runtime.settledLinks db enterpriseId conversationId page first.id = none := by
    rw [settledLinks, readFresh_eq paged, holding.listRefreshable]
    split
    · rfl
    · exact unmatched
  constructor
  · have same : ∀ row ∈ db.rowsOf messageId, applyUpdates enterpriseId
        (runtime.threadUpdates db enterpriseId conversationId page) row = row := by
      intro row member
      refine applyUpdates_of_absent fun update inside addressed => ?_
      rw [holding.mem_threadUpdates_iff member addressed, unsettled] at inside
      cases inside
    rw [List.map_congr_left same, List.map_id']
  · cases listed : (db.rowsOf messageId).filterMap (refreshableOf first.id) with
    | nil => exact Nat.zero_le _
    | cons entry rest =>
        rw [← listed, ← holding.listRefreshable]
        have member : entry ∈ (db.listRefreshable enterpriseId conversationId).filter
            fun entry => entry.platformMessageId == first.id := by
          rw [holding.listRefreshable, listed]
          exact List.mem_cons_self
        obtain ⟨inside, named⟩ := List.mem_filter.mp member
        rw [threadBeyond]
        refine List.single_le_sum (fun _ _ => Nat.zero_le _) _
          (List.mem_map.mpr ⟨first.id, ?_, by rw [unsettled]; rfl⟩)
        rw [refreshableMessages, List.mem_dedup]
        exact List.mem_map.mpr ⟨entry, inside, beq_iff_eq.mp named⟩

include holding reread paged in
/-- Where a kept link cannot be read and the numbers agree all the same, its row gets the link
of another attachment. -/
theorem Holding.strays
    (agree : (runtime.expiringLinks later).length =
      ((db.rowsOf messageId).filterMap (refreshableOf first.id)).length)
    {index : Nat} (bound : index < (db.rowsOf messageId).length)
    (taken : index < (later.translated.take maxAttachmentsPerMessage).length)
    (unreadable : runtime.linkClass
      (later.translated.take maxAttachmentsPerMessage)[index].url = .unreadable) :
    applyUpdates enterpriseId (runtime.threadUpdates db enterpriseId conversationId page)
      (db.rowsOf messageId)[index] ≠ (db.rowsOf messageId)[index] := by
  have aligned := holding.aligned reread
  have row := List.getElem_mem bound
  have holds : runtime.HoldsLink (db.rowsOf messageId)[index]
      (later.translated.take maxAttachmentsPerMessage)[index] :=
    (List.forall₂_iff_get.mp aligned).2 index bound taken
  obtain ⟨⟨url, link, alike⟩, stable⟩ := holds
  rw [unreadable] at alike stable
  have expires : ∀ fresh ∈ runtime.expiringLinks later,
      runtime.linkClass fresh.url = .expiring := by
    intro fresh member
    obtain ⟨item, inside, rfl⟩ := List.mem_map.mp member
    exact (runtime.isExpiring_iff item.url).mp (List.mem_filter.mp inside).2
  -- The row is listed, and meets some link.
  have entered : (⟨(db.rowsOf messageId)[index].id, first.id,
      (db.rowsOf messageId)[index].sortOrder, url⟩ : InboxDb.Refreshable) ∈
        (db.rowsOf messageId).filterMap (refreshableOf first.id) := by
    refine List.mem_filterMap.mpr ⟨_, row, ?_⟩
    rw [refreshableOf, stable, link]
    rfl
  obtain ⟨place, inRows, here⟩ := List.mem_iff_getElem.mp entered
  have inLinks : place < (runtime.expiringLinks later).length := agree ▸ inRows
  have updates := holding.settledLinks_eq paged
  rw [linkUpdates, if_pos agree, Option.getD_some] at updates
  have fresh : runtime.linkClass (runtime.expiringLinks later)[place].url = .expiring :=
    expires _ (List.getElem_mem inLinks)
  have moved : (runtime.expiringLinks later)[place].url ≠ url := by
    intro same
    rw [same, alike] at fresh
    cases fresh
  have addressed : (⟨(db.rowsOf messageId)[index].id, (runtime.expiringLinks later)[place].url,
      truthy (runtime.expiringLinks later)[place].mimeType⟩ : InboxDb.LinkUpdate) ∈
        runtime.threadUpdates db enterpriseId conversationId page := by
    rw [holding.mem_threadUpdates_iff row rfl, updates, List.mem_filterMap]
    refine ⟨(((db.rowsOf messageId).filterMap (refreshableOf first.id))[place],
      (runtime.expiringLinks later)[place]), ?_, ?_⟩
    · refine List.mem_iff_getElem.mpr ⟨place, ?_, List.getElem_zip⟩
      rw [List.length_zip]
      exact lt_min inRows inLinks
    · dsimp only
      rw [here, if_neg fun still => moved still.1]
  obtain ⟨found, inside, same, applied⟩ :=
    applyUpdates_of_mem (holding.enterprise row) addressed rfl
  rw [holding.mem_threadUpdates_iff row same, updates] at inside
  obtain ⟨pair, met, changes⟩ := List.mem_filterMap.mp inside
  split at changes
  · cases changes
  · cases changes
    intro unchanged
    rw [applied] at unchanged
    have link' := congrArg AttachmentRow.sourceUrl unchanged
    rw [link] at link'
    have fresh' := expires pair.2 (List.of_mem_zip met).2
    have sameUrl : pair.2.url = url := Option.some.inj link'
    rw [sameUrl, alike] at fresh'
    cases fresh'

end Right

theorem length_expiringLinks (message : GraphMessage) :
    (runtime.expiringLinks message).length =
      ((message.translated.take maxAttachmentsPerMessage).countP fun attachment =>
        runtime.isExpiringMediaUrl (some attachment.url)) + runtime.cutCount message := by
  rw [expiringLinks, List.length_map, ← List.countP_eq_length_filter, cutCount,
    ← List.countP_append, List.take_append_drop]

theorem untouched_unlisted (db : InboxDb) (enterpriseId conversationId : Nat)
    (page : List GraphMessage) :
    ((db.refreshSourceUrls enterpriseId
        (runtime.threadUpdates db enterpriseId conversationId page)).attachments.filter fun row =>
          !((db.listRefreshable enterpriseId conversationId).map (·.id)).contains row.id) =
      db.attachments.filter fun row =>
        !((db.listRefreshable enterpriseId conversationId).map (·.id)).contains row.id := by
  have mapped : (db.refreshSourceUrls enterpriseId
      (runtime.threadUpdates db enterpriseId conversationId page)).attachments =
        db.attachments.map (applyUpdates enterpriseId
          (runtime.threadUpdates db enterpriseId conversationId page)) := rfl
  have sameId : ∀ row, (applyUpdates enterpriseId
      (runtime.threadUpdates db enterpriseId conversationId page) row).id = row.id := by
    intro row
    unfold applyUpdates
    split <;> rfl
  rw [mapped, List.filter_map]
  simp only [Function.comp_def, sameId]
  refine (List.map_congr_left fun row member => ?_).trans (List.map_id' _)
  have unlisted := (List.mem_filter.mp member).2
  refine applyUpdates_of_absent fun update inside addressed => ?_
  obtain ⟨message, -, settled⟩ := List.mem_flatMap.mp inside
  obtain ⟨other, held, entry, entered, -, same, toOther⟩ := mem_settledLinks runtime settled
  have listed : row.id ∈ (db.listRefreshable enterpriseId conversationId).map (·.id) :=
    List.mem_map.mpr ⟨entry, (List.mem_insertionSort _).mpr
      (List.mem_filterMap.mpr ⟨other, held, entered⟩),
      same.trans (toOther.symm.trans addressed)⟩
  rw [List.contains_iff_mem.mpr listed] at unlisted
  exact Bool.false_ne_true unlisted

theorem untouched_off_page {db : InboxDb} (keys : (db.attachments.map (·.id)).Nodup)
    (enterpriseId conversationId : Nat) {page : List GraphMessage} {messageId : Nat}
    (off : OffPage db page messageId) :
    (db.refreshSourceUrls enterpriseId
      (runtime.threadUpdates db enterpriseId conversationId page)).rowsOf messageId =
        db.rowsOf messageId := by
  rw [rowsOf_refreshSourceUrls]
  refine (List.map_congr_left fun row member => ?_).trans (List.map_id' _)
  obtain ⟨listed, own⟩ := List.mem_filter.mp member
  refine applyUpdates_of_absent fun update inside addressed => ?_
  obtain ⟨message, -, settled⟩ := List.mem_flatMap.mp inside
  obtain ⟨other, held, entry, entered, named, -, toOther⟩ := mem_settledLinks runtime settled
  have alike : other = row :=
    List.inj_on_of_nodup_map keys held listed (toOther.symm.trans addressed)
  obtain ⟨-, stored, found, -, platformId⟩ := entryOf_eq_some entered
  obtain ⟨one, onPage, same⟩ := page_holds_settled runtime settled
  rw [alike, beq_iff_eq.mp own] at found
  exact off stored found one onPage (by rw [platformId, named, same])

theorem Holding.counts {db : InboxDb} {enterpriseId conversationId messageId : Nat}
    {first later : GraphMessage} {runtime : UrlRuntime}
    (holding : runtime.Holding db enterpriseId conversationId messageId first)
    (reread : runtime.Reread first later) :
    ((db.rowsOf messageId).filterMap (refreshableOf first.id)).length =
        ((later.translated.take maxAttachmentsPerMessage).countP fun attachment =>
          runtime.isExpiringMediaUrl (some attachment.url)) + runtime.unreadableCount later ∧
      runtime.heldCount .refreshable (db.rowsOf messageId) =
        ((db.rowsOf messageId).filterMap (refreshableOf first.id)).length ∧
      runtime.heldCount .expiring (db.rowsOf messageId) =
        (later.translated.take maxAttachmentsPerMessage).countP fun attachment =>
          runtime.isExpiringMediaUrl (some attachment.url) := by
  have aligned := holding.aligned reread
  refine ⟨length_refreshable aligned first.id, ?_, countP_expiring aligned⟩
  rw [List.length_filterMap_eq_countP, heldCount]
  refine List.countP_congr fun row _ => ?_
  rw [refreshableOf]
  cases row.stableUrl <;> cases row.sourceUrl <;> simp

/-- A link lands on its own attachment: in every thread that is read again, for every message
that was stored from a list of shares and attachments, of any length and mix, and is read again
with links of the same classes, each row with a link that expires has the fresh link and mime
type of its own attachment and no other row is touched, and a message whose links that expire
differ in number from its rows is left untouched and counted, if and only if every kept link
can be read or the numbers give it away. Rows outside the listing of the thread and rows of
messages that the page does not hold are never touched. -/
theorem fresh_links_land {request : Request} {db : InboxDb} {refId : String}
    {conversation : ConversationRow} {page : List GraphMessage} {messageId : Nat}
    {first later : GraphMessage} (held : Held)
    (reads : runtime.ThreadRead request db refId conversation page)
    (holding : runtime.Holding db request.enterpriseId conversation.id.value messageId first)
    (reread : runtime.Reread first later)
    (paged : page.filter (·.id == first.id) = [later]) :
    ∃ refreshed beyondReach after,
      Threads.refreshAttachments request db refId = .ok (.refreshed refreshed beyondReach, after) ∧
        (after.attachments.filter fun row => !((db.listRefreshable request.enterpriseId
            conversation.id.value).map (·.id)).contains row.id) =
          (db.attachments.filter fun row => !((db.listRefreshable request.enterpriseId
            conversation.id.value).map (·.id)).contains row.id) ∧
        (∀ otherId, OffPage db page otherId → after.rowsOf otherId = db.rowsOf otherId) ∧
        (runtime.LinksLand held (db.rowsOf messageId) (after.rowsOf messageId) later beyondReach ↔
          runtime.Unmistakable held (db.rowsOf messageId) later) := by
  refine ⟨_, _, _, runtime.refreshAttachments_eq reads, untouched_unlisted runtime ..,
    fun _ off => runtime.untouched_off_page holding.keys _ _ off, ?_⟩
  rw [rowsOf_refreshSourceUrls]
  have counts := holding.counts reread
  obtain ⟨listed, refreshable, expiring⟩ := counts
  have links := runtime.length_expiringLinks later
  have left := holding.left paged
  unfold LinksLand Unmistakable
  by_cases readable : runtime.unreadableCount later = 0
  · have held' : runtime.heldCount held (db.rowsOf messageId) =
        ((db.rowsOf messageId).filterMap (refreshableOf first.id)).length := by
      cases held with
      | refreshable => exact refreshable
      | expiring => omega
    refine iff_of_true ?_ (.inl readable)
    rw [held']
    split
    · next agree =>
        refine holding.lands reread paged (fun item member known => ?_) ?_
        · have none := List.countP_eq_zero.mp readable item member
          exact none (beq_iff_eq.mpr known)
        · have uncut : runtime.cutCount later = 0 := by omega
          exact List.filter_eq_nil_iff.mpr (List.countP_eq_zero.mp uncut)
    · next differ => exact ⟨(left differ).1, refreshable ▸ (left differ).2⟩
  · rw [or_iff_right readable]
    by_cases agree : runtime.unreadableCount later = runtime.cutCount later
    · refine iff_of_false ?_ (fun apart => apart.1 agree)
      obtain ⟨item, member, known⟩ := List.countP_pos_iff.mp (Nat.pos_of_ne_zero readable)
      obtain ⟨index, taken, rfl⟩ := List.mem_iff_getElem.mp member
      have bound : index < (db.rowsOf messageId).length :=
        (holding.aligned reread).length_eq ▸ taken
      have astray := holding.strays reread paged (by omega) bound taken (beq_iff_eq.mp known)
      split
      · intro landed
        have here := congrArg (fun rows => rows[index]?) landed
        have lasts : runtime.isExpiringMediaUrl
            (some (later.translated.take maxAttachmentsPerMessage)[index].url) = false := by
          rw [Bool.eq_false_iff, Ne, isExpiring_iff, beq_iff_eq.mp known]
          decide
        simp only [List.getElem?_map, List.getElem?_eq_getElem bound, Option.map_some, relinked,
          List.getElem?_zipWith, List.getElem?_eq_getElem taken, relink, lasts] at here
        exact astray (Option.some.inj here)
      · intro untouched
        have here := congrArg (fun rows => rows[index]?) untouched.1
        simp only [List.getElem?_map, List.getElem?_eq_getElem bound, Option.map_some] at here
        exact astray (Option.some.inj here)
    · obtain ⟨untouched, counted⟩ := left (by omega)
      rw [untouched, refreshable, and_iff_right agree]
      cases held with
      | refreshable =>
          rw [refreshable, if_neg (by omega)]
          exact iff_of_true ⟨rfl, counted⟩ trivial
      | expiring =>
          rw [expiring]
          dsimp only
          split
          · next same =>
              rw [or_iff_right (by omega)]
              exact eq_comm
          · exact iff_of_true ⟨rfl, counted⟩ (.inl (by omega))

end UrlRuntime

section Example

open UrlRuntime

private def graphLinks : UrlRuntime where
  parse url :=
    if ["https://lookaside.fbsbx.com/1", "https://lookaside.fbsbx.com/2",
        "https://lookaside.fbsbx.com/3"].contains url then
      some ⟨"lookaside.fbsbx.com", url, none⟩
    else if url = "https://www.instagram.com/p/1" then some ⟨"www.instagram.com", "/p/1", none⟩
    else none
  toLowerCase text := text

private def photo (url : String) : GraphAttachment := ⟨none, none, some url, none, none⟩

private def directThread : ConversationRow where
  id := .first
  enterpriseId := 1
  isDeleted := false
  status := .open_
  assignedToEmployeeId := none
  conversationKind := .directMessage
  lastMessageAt := none
  refId := "c1"
  channelId := 1
  customerIdentifierId := none
  platform := .facebook
  platformThreadId := "dm:p1"
  subject := none
  postId := none
  contextMetadata := ⟨none, none, none, false, []⟩
  unreadCount := 0
  messageCount := 1
  lastInboundAt := none
  firstRespondedAt := none

private def mediaMessage : Outbound.MessageRow where
  enterpriseId := 1
  conversationId := 1
  direction := .inbound
  body := none
  status := .delivered
  idempotencyKey := none
  isInternalNote := false
  platformMessageId := some "m1"
  outboundEventId := none
  isHiddenOnPlatform := false
  platformDeletedAt := none
  deletedByBusiness := false
  updatedAt := 0

private def threadOf (message : GraphMessage) : InboxDb where
  conversations := [directThread]
  outbound := { Outbound.OutboundDb.empty with messages := ⟨[mediaMessage]⟩ }
  readMessages := []
  attachments := graphLinks.storedRows 1 0 0 message
  jobs := .empty
  identifiers := []
  employees := []
  channels := [⟨1, 1, false, false, true, false, false⟩]

private def reader (message : GraphMessage) : Request where
  enterpriseId := 1
  employeeId := some 1
  permissions := ["conversations.view"]
  now := .epoch
  freshLinks := fun _ => some (graphLinks.readFreshAttachmentLinks [message])
  page := fun rows => ⟨rows, none, false⟩

private def sent : GraphMessage :=
  ⟨"m1", [photo "https://lookaside.fbsbx.com/1", photo "https://lookaside.fbsbx.com/2"],
    [some "https://www.instagram.com/p/1"]⟩

private def sentAgain : GraphMessage :=
  ⟨"m1", [photo "https://lookaside.fbsbx.com/3", photo "https://lookaside.fbsbx.com/1"],
    [some "https://www.instagram.com/p/1"]⟩

/-- Two photos beside a share get their fresh links, each its own. -/
theorem fresh_links_land_photos :
    ∃ refreshed beyondReach after,
      Threads.refreshAttachments (reader sentAgain) (threadOf sent) "c1" =
          .ok (.refreshed refreshed beyondReach, after) ∧
        graphLinks.LinksLand .expiring ((threadOf sent).rowsOf 0) (after.rowsOf 0) sentAgain
          beyondReach := by
  have reads : graphLinks.ThreadRead (reader sentAgain) (threadOf sent) "c1" directThread
      [sentAgain] := ⟨rfl, ⟨_, rfl, rfl, rfl⟩, by decide, rfl⟩
  have holding : graphLinks.Holding (threadOf sent) 1 1 0 sent := by
    refine ⟨⟨mediaMessage, rfl, rfl, rfl, rfl⟩, fun id row found _ _ => ?_, by decide, 0,
      List.forall₂_same.mpr fun row _ => ⟨rfl, rfl⟩⟩
    cases id with
    | zero => rfl
    | succ id => cases found
  have reread : graphLinks.Reread sent sentAgain :=
    ⟨.cons ⟨by decide, rfl, rfl⟩ (.cons ⟨by decide, rfl, rfl⟩ .nil), .cons (by decide) .nil⟩
  obtain ⟨refreshed, beyondReach, after, same, -, -, lands⟩ :=
    fresh_links_land graphLinks .expiring reads holding reread rfl
  exact ⟨refreshed, beyondReach, after, same, lands.mpr (.inl (by decide))⟩

/-- Nine shares, a photo whose link cannot be read, and a photo that is cut off. -/
private def crowded : GraphMessage :=
  ⟨"m1", [photo "broken", photo "https://lookaside.fbsbx.com/3"],
    List.replicate 9 (some "https://www.instagram.com/p/1")⟩

/-- The photo whose link cannot be read gets the link of the photo that was cut off. -/
theorem cut_off_link_lands_elsewhere :
    ¬∃ refreshed beyondReach after,
      Threads.refreshAttachments (reader crowded) (threadOf crowded) "c1" =
          .ok (.refreshed refreshed beyondReach, after) ∧
        (graphLinks.LinksLand .refreshable ((threadOf crowded).rowsOf 0) (after.rowsOf 0) crowded
            beyondReach ∨
          graphLinks.LinksLand .expiring ((threadOf crowded).rowsOf 0) (after.rowsOf 0) crowded
            beyondReach) := by
  rintro ⟨refreshed, beyondReach, after, same, lands⟩
  have astray : (after.rowsOf 0).map (·.sourceUrl) =
      List.replicate 9 (some "https://www.instagram.com/p/1") ++
        [some "https://lookaside.fbsbx.com/3"] := by
    have computed : (Threads.refreshAttachments (reader crowded) (threadOf crowded) "c1").map
        (fun result => (result.2.rowsOf 0).map (·.sourceUrl)) =
        .ok (List.replicate 9 (some "https://www.instagram.com/p/1") ++
          [some "https://lookaside.fbsbx.com/3"]) := by decide
    rw [same] at computed
    exact Except.ok.inj computed
  cases lands with
  | inl lands =>
    rw [LinksLand, if_pos (by decide)] at lands
    rw [lands] at astray
    revert astray
    decide
  | inr lands =>
    rw [LinksLand, if_neg (by decide)] at lands
    rw [lands.1] at astray
    revert astray
    decide

end Example

end UnifiedService.Threads
