import UnifiedService.Inbound.Recovery

/-! Whether an item of the platform has one key, whichever way it comes in. The keys agree
for comments, tags and messages, and for no post of a page. -/

set_option autoImplicit false

namespace UnifiedService.Inbound

open UnifiedService.Library
open UnifiedService.Outbound (Platform)
open UnifiedService.Sync (ClaimedSyncJob)

/-! ### Items and their announcements -/

inductive PlatformItem where
  | facebookComment (postId : String) (comment : GraphComment)
  | facebookPost (post : RecoveredPost)
  | instagramComment (mediaId : String) (comment : GraphInstagramComment)
  | instagramTag (tag : GraphInstagramTag)
  | message (platform : Platform) (selfPlatformId : String) (counterpartId : Option String)
      (message : GraphMessage)

inductive Announcement where
  | change (change : Json)
  | message (message : Json)

structure Brings (change : Json) (field : String) (value : Json) : Prop where
  field : change.field "field" = some (.str field)
  value : change.field "value" = some value

/-- Whether a webhook tells that an item was created. What else it carries is left open. -/
def PlatformItem.AnnouncedBy : PlatformItem → Announcement → Prop
  | .facebookComment _ comment, .change change =>
      ∃ value, Brings change "feed" value ∧ value.field "item" = some (.str "comment") ∧
        value.field "verb" = some (.str "add") ∧
        value.field "comment_id" = some (.str comment.id)
  | .facebookPost post, .change change =>
      ∃ value kind, Brings change "feed" value ∧ value.field "item" = some (.str kind) ∧
        kind ≠ "comment" ∧ value.field "verb" = some (.str "add") ∧
        value.field "comment_id" = none ∧ value.field "post_id" = some (.str post.postId)
  | .instagramComment _ comment, .change change =>
      ∃ value, Brings change "comments" value ∧ value.field "verb" = none ∧
        value.field "comment_id" = none ∧ value.field "post_id" = none ∧
        value.field "media_id" = none ∧ value.field "id" = some (.str comment.id)
  | .instagramTag tag, .change change =>
      ∃ value, Brings change "mentions" value ∧ value.field "verb" = none ∧
        value.field "comment_id" = none ∧ value.field "post_id" = none ∧
        value.field "media_id" = some (.str tag.id)
  | .message _ _ _ sent, .message event =>
      ∃ inner, event.field "message" = some inner ∧ inner.isObject = true ∧
        inner.field "mid" = some (.str sent.id) ∧ inner.field "is_deleted" = none ∧
        event.field "reaction" = none ∧ event.field "read" = none ∧
        event.field "message_edit" = none
  | _, _ => False

def PlatformItem.platform : PlatformItem → Platform
  | .facebookComment _ _ | .facebookPost _ => .facebook
  | .instagramComment _ _ | .instagramTag _ => .instagram
  | .message platform _ _ _ => platform

section Routes

variable (sha256 : String → String)

def Announcement.item (platform : Platform) : Announcement → WebhookItem
  | .change body => changeItem sha256 platform body
  | .message body => messageItem sha256 platform body

def PlatformItem.recover (job : ClaimedSyncJob) (today : String) :
    PlatformItem → Option (InboundEventInput Json)
  | .facebookComment postId comment => appendComment sha256 job postId comment
  | .facebookPost post => appendPost sha256 job .facebook today post
  | .instagramComment mediaId comment => appendInstagramComment sha256 job mediaId comment
  | .instagramTag tag => appendInstagramTag sha256 job tag
  | .message platform selfPlatformId counterpartId sent =>
      emitMessage sha256 job platform selfPlatformId counterpartId sent

structure OneRow (live copied : InboundEventInput Json) : Prop where
  key : live.dedupKey = copied.dedupKey
  liveFirst : ∀ now later events,
    let inserted := (InboundEventRepository.insertIgnoringDuplicate live now events).2
    InboundEventRepository.insertIgnoringDuplicate copied later inserted = (none, inserted)
  copiedFirst : ∀ now later events,
    let inserted := (InboundEventRepository.insertIgnoringDuplicate copied now events).2
    InboundEventRepository.insertIgnoringDuplicate live later inserted = (none, inserted)

def RouteIndependent (item : PlatformItem) : Prop :=
  ∀ announcement, item.AnnouncedBy announcement →
    ∀ (job : ClaimedSyncJob) (today : String) (channelId : Nat),
      job.jobKind ≠ .refreshPostMetrics →
      ∀ input, PlatformItem.recover sha256 job today item = some input →
        OneRow ((Announcement.item sha256 item.platform announcement).input item.platform job.enterpriseId
          channelId) input

def PlatformItem.IsPagePost : PlatformItem → Prop
  | .facebookPost post => post.postId ≠ ""
  | .facebookComment _ _ | .instagramComment _ _ | .instagramTag _ | .message _ _ _ _ => False

end Routes

/-! ### One key, one row -/

theorem insertIgnoringDuplicate_repeated {first second : InboundEventInput Json}
    (tenant : first.enterpriseId = second.enterpriseId) (key : first.dedupKey = second.dedupKey)
    (now later : Int) (events : Table (InboundEventRow Json)) :
    let inserted := (InboundEventRepository.insertIgnoringDuplicate first now events).2
    InboundEventRepository.insertIgnoringDuplicate second later inserted = (none, inserted) := by
  have same : (second.row later).uniqueKey = (first.row now).uniqueKey := by
    simp [InboundEventRow.uniqueKey, InboundEventInput.row, tenant, key]
  intro inserted
  have taken : (inserted.rows.any fun event =>
      event.uniqueKey == (second.row later).uniqueKey) = true := by
    rw [same]
    unfold inserted InboundEventRepository.insertIgnoringDuplicate
    split
    · assumption
    · simp [Table.insert]
  rw [InboundEventRepository.insertIgnoringDuplicate, if_pos taken]

theorem OneRow.of_key {first second : InboundEventInput Json}
    (tenant : first.enterpriseId = second.enterpriseId)
    (key : first.dedupKey = second.dedupKey) : OneRow first second :=
  ⟨key, insertIgnoringDuplicate_repeated tenant key,
    insertIgnoringDuplicate_repeated tenant.symm key.symm⟩

/-! ### What the webhook reads from an announcement -/

theorem nonEmptyText_of_field {value : Json} {key text : String}
    (found : value.field key = some (.str text)) (present : text ≠ "") :
    nonEmptyText value key = some text := by
  simp [nonEmptyText, Json.textField, found, Json.text?, present]

theorem nonEmptyText_of_none {value : Json} {key : String} (missing : value.field key = none) :
    nonEmptyText value key = none := by
  simp [nonEmptyText, Json.textField, missing]

theorem extractId_comment {value : Json} {id : String}
    (found : value.field "comment_id" = some (.str id)) (present : id ≠ "") :
    extractId value = some id := by
  simp [extractId, nonEmptyText_of_field found present]

theorem extractId_post {value : Json} {id : String} (noComment : value.field "comment_id" = none)
    (found : value.field "post_id" = some (.str id)) (present : id ≠ "") :
    extractId value = some id := by
  simp [extractId, nonEmptyText_of_none noComment, nonEmptyText_of_field found present]

theorem extractId_media {value : Json} {id : String} (noComment : value.field "comment_id" = none)
    (noPost : value.field "post_id" = none) (found : value.field "media_id" = some (.str id))
    (present : id ≠ "") : extractId value = some id := by
  simp [extractId, nonEmptyText_of_none noComment, nonEmptyText_of_none noPost,
    nonEmptyText_of_field found present]

theorem extractId_id {value : Json} {id : String} (noComment : value.field "comment_id" = none)
    (noPost : value.field "post_id" = none) (noMedia : value.field "media_id" = none)
    (found : value.field "id" = some (.str id)) (present : id ≠ "") :
    extractId value = some id := by
  simp [extractId, nonEmptyText_of_none noComment, nonEmptyText_of_none noPost,
    nonEmptyText_of_none noMedia, nonEmptyText_of_field found present]

theorem extractVerb_of_none {value : Json} (missing : value.field "verb" = none) :
    extractVerb value = none :=
  nonEmptyText_of_none missing

theorem extractVerb_of_some {value : Json} {verb : String}
    (found : value.field "verb" = some (.str verb)) (present : verb ≠ "") :
    extractVerb value = some verb :=
  nonEmptyText_of_field found present

theorem nonEmptyText_ne {value : Json} {key text : String}
    (found : nonEmptyText value key = some text) : text ≠ "" :=
  of_decide_eq_true (Option.filter_eq_some_iff.mp found).2

theorem extractId_ne {value : Json} {id : String} (named : extractId value = some id) :
    id ≠ "" := by
  obtain ⟨key, -, found⟩ := List.exists_of_findSome?_eq_some named
  exact nonEmptyText_ne found

section Keys

variable (sha256 : String → String)

theorem changeItem_dedupKey {change value : Json} {field id : String} {verb : Option String}
    (platform : Platform) (brings : Brings change field value) (named : extractId value = some id)
    (acts : extractVerb value = verb) :
    (changeItem sha256 platform change).dedupKey =
      inboundDedupKey sha256 platform (mapChangeField (some field) value)
        ((verb.map fun verb => id ++ ":" ++ verb).getD id) := by
  have reads : change.textField "field" = some field := by
    simp [Json.textField, brings.field, Json.text?]
  have filled : verb ≠ some "" := by
    intro empty
    exact nonEmptyText_ne (acts.trans empty) rfl
  simp only [changeItem, brings.value, Option.getD_some, reads, named, acts]
  exact composeDedupKey_of_id sha256 (extractId_ne named) filled platform _ change

theorem mapChangeField_feed {value : Json} {item : String}
    (found : value.field "item" = some (.str item)) :
    mapChangeField (some "feed") value = if item = "comment" then .comment else .postUpdate := by
  simp [mapChangeField, readItem, Json.textField, found, Json.text?]

/-- A new message has neither a verb nor another message to be about. -/
theorem messageItem_dedupKey {message inner : Json} {id : String} (platform : Platform)
    (found : message.field "message" = some inner) (object : inner.isObject = true)
    (named : inner.field "mid" = some (.str id)) (present : id ≠ "")
    (kept : inner.field "is_deleted" = none) (noReaction : message.field "reaction" = none)
    (noRead : message.field "read" = none) (noEdit : message.field "message_edit" = none) :
    (messageItem sha256 platform message).dedupKey =
      inboundDedupKey sha256 platform .directMessage id := by
  have about : message.objectField "message" = some inner := by
    simp [Json.objectField, found, object]
  have reads : extractMessageId message = some id := by
    simp [extractMessageId, about, nonEmptyText_of_field named present]
  have quiet : ∀ key, message.field key = none → message.objectField key = none := by
    intro key missing
    simp [Json.objectField, missing]
  have plain : extractMessagingVerb message = none := by
    simp [extractMessagingVerb, about, quiet _ noReaction, quiet _ noRead, quiet _ noEdit, kept]
  simp only [messageItem, reads, plain]
  apply composeDedupKey_of_id sha256 present
  intro named
  cases named

end Keys

/-! ### The two routes of an item -/

section Routes

variable {sha256 : String → String} {announcement : Announcement} {job : ClaimedSyncJob}
  {input : InboundEventInput Json}

theorem appended {missing : Prop} [Decidable missing] {platform : Platform}
    {eventType : InboundEventType} {key : String} {payload : Json}
    (copied : (if missing then none
      else some (recovered job platform eventType key payload)) = some input) :
    ¬missing ∧ input.dedupKey = key ∧ input.enterpriseId = some job.enterpriseId := by
  split at copied
  · contradiction
  · next present =>
      obtain rfl := Option.some.inj copied
      exact ⟨present, rfl, rfl⟩

theorem added_identity (id : String) : id ++ ":" ++ "add" = id ++ ":add" :=
  String.append_assoc

theorem recover_enterpriseId {item : PlatformItem} {today : String}
    (copied : PlatformItem.recover sha256 job today item = some input) :
    input.enterpriseId = some job.enterpriseId := by
  cases item with
  | facebookComment postId comment => exact (appended copied).2.2
  | facebookPost post => exact (appended copied).2.2
  | instagramComment mediaId comment => exact (appended copied).2.2
  | instagramTag tag => exact (appended copied).2.2
  | message platform selfPlatformId counterpartId sent =>
      simp only [PlatformItem.recover, emitMessage] at copied
      exact (appended copied).2.2

theorem dedupKey_of_routes {item : PlatformItem} {today : String}
    (announced : item.AnnouncedBy announcement)
    (copied : PlatformItem.recover sha256 job today item = some input)
    (other : ¬item.IsPagePost) :
    (Announcement.item sha256 item.platform announcement).dedupKey = input.dedupKey := by
  cases item with
  | facebookComment postId comment =>
      obtain ⟨present, key, -⟩ := appended copied
      cases announcement with
      | message => exact announced.elim
      | change change =>
          obtain ⟨value, brings, isComment, adds, named⟩ := announced
          have composed := changeItem_dedupKey sha256 .facebook brings
            (extractId_comment named present) (extractVerb_of_some adds (by decide))
          rw [mapChangeField_feed isComment, if_pos rfl, Option.map_some, Option.getD_some,
            added_identity] at composed
          exact composed.trans key.symm
  | facebookPost post => exact absurd (appended copied).1 other
  | instagramComment mediaId comment =>
      obtain ⟨present, key, -⟩ := appended copied
      cases announcement with
      | message => exact announced.elim
      | change change =>
          obtain ⟨value, brings, noVerb, noComment, noPost, noMedia, named⟩ := announced
          have composed := changeItem_dedupKey sha256 .instagram brings
            (extractId_id noComment noPost noMedia named present) (extractVerb_of_none noVerb)
          exact composed.trans key.symm
  | instagramTag tag =>
      obtain ⟨present, key, -⟩ := appended copied
      rw [not_or] at present
      cases announcement with
      | message => exact announced.elim
      | change change =>
          obtain ⟨value, brings, noVerb, noComment, noPost, named⟩ := announced
          have composed := changeItem_dedupKey sha256 .instagram brings
            (extractId_media noComment noPost named present.1) (extractVerb_of_none noVerb)
          exact composed.trans key.symm
  | message platform selfPlatformId counterpartId sent =>
      simp only [PlatformItem.recover, emitMessage] at copied
      obtain ⟨present, key, -⟩ := appended copied
      cases announcement with
      | change => exact announced.elim
      | message event =>
          obtain ⟨inner, found, object, named, kept, noReaction, noRead, noEdit⟩ := announced
          have composed := messageItem_dedupKey sha256 platform found object named present kept
            noReaction noRead noEdit
          exact composed.trans key.symm

theorem jsLength_append (first second : String) :
    jsLength (first ++ second) = jsLength first + jsLength second := by
  simp [jsLength, String.toList_append]

/-- The verb of a webhook moves a post's identity off the one the backfill takes. -/
theorem boundIdentity_added_ne (digest : ∀ text, jsLength (sha256 text) = 64)
    (apart : ∀ id, sha256 (id ++ ":add") ≠ sha256 id) (id : String) :
    boundIdentity sha256 (id ++ ":add") ≠ boundIdentity sha256 id := by
  have longer : jsLength (id ++ ":add") = jsLength id + 4 := jsLength_append id ":add"
  have hashed : ∀ text, jsLength ("h:" ++ sha256 text) = 66 := by
    intro text
    rw [jsLength_append, digest]
    rfl
  unfold boundIdentity maxIdentityChars
  intro same
  have lengths := congrArg jsLength same
  split at lengths <;> split at lengths
  · omega
  · omega
  · rw [hashed] at lengths
    omega
  · next addedLong plainLong =>
      rw [if_neg addedLong, if_neg plainLong, String.append_right_inj] at same
      exact apart id same

def postAdded (id : String) : Json :=
  .obj [("field", .str "feed"),
    ("value", .obj [("item", .str "status"), ("verb", .str "add"), ("post_id", .str id)])]

theorem postAdded_announces (post : RecoveredPost) :
    (PlatformItem.facebookPost post).AnnouncedBy (.change (postAdded post.postId)) :=
  ⟨_, "status", ⟨rfl, rfl⟩, rfl, by decide, rfl, rfl, rfl⟩

def firstWalk : ClaimedSyncJob where
  id := 0
  enterpriseId := 1
  channelId := 1
  jobKind := .backfillPosts
  targetPlatformId := none
  pageCursor := none
  attemptCount := 1

/-- The two routes of a page's post never compose one key. -/
theorem pagePost_routes_differ (digest : ∀ text, jsLength (sha256 text) = 64)
    (apart : ∀ id, sha256 (id ++ ":add") ≠ sha256 id) {post : RecoveredPost}
    (present : post.postId ≠ "") : ¬RouteIndependent sha256 (.facebookPost post) := by
  intro independent
  have row := independent _ (postAdded_announces post) firstWalk "" 1 (by decide) _
    (if_neg present : appendPost sha256 firstWalk .facebook "" post = _)
  have brings : Brings (postAdded post.postId) "feed" _ := ⟨rfl, rfl⟩
  have added := changeItem_dedupKey sha256 .facebook brings (extractId_post rfl rfl present)
    (extractVerb_of_some rfl (by decide))
  rw [mapChangeField_feed rfl, if_neg (by decide), Option.map_some, Option.getD_some,
    added_identity] at added
  have same : inboundDedupKey sha256 .facebook .postUpdate (post.postId ++ ":add") =
      inboundDedupKey sha256 .facebook .postUpdate post.postId := added.symm.trans row.key
  unfold inboundDedupKey at same
  rw [String.append_right_inj] at same
  exact boundIdentity_added_ne digest apart post.postId same

/-- An item is one row exactly if it is no post of a page. -/
theorem routeIndependent_iff (digest : ∀ text, jsLength (sha256 text) = 64)
    (apart : ∀ id, sha256 (id ++ ":add") ≠ sha256 id) (item : PlatformItem) :
    RouteIndependent sha256 item ↔ ¬item.IsPagePost := by
  constructor
  · intro independent isPost
    cases item with
    | facebookPost post => exact pagePost_routes_differ digest apart isPost independent
    | facebookComment | instagramComment | instagramTag | message => exact isPost
  · intro other announcement announced job today channelId _ input copied
    exact .of_key (recover_enterpriseId copied).symm (dedupKey_of_routes announced copied other)

end Routes

/-! ### A post that arrives twice -/

def parityDigest (text : String) : String :=
  String.ofList (List.replicate 64 (if jsLength text / 4 % 2 = 0 then '0' else '1'))

theorem routeIndependent_iff_reply :
    RouteIndependent parityDigest
        (.instagramComment "media" ⟨"17", some "Hi", none, none, some ⟨"9", none⟩, none⟩) ↔
      ¬(PlatformItem.instagramComment "media"
        ⟨"17", some "Hi", none, none, some ⟨"9", none⟩, none⟩).IsPagePost := by
  refine routeIndependent_iff (fun text => ?_) (fun id same => ?_) _
  · unfold parityDigest
    split <;> rfl
  · have longer : jsLength (id ++ ":add") = jsLength id + 4 := jsLength_append id ":add"
    unfold parityDigest at same
    rw [longer, String.ofList_inj, List.replicate_right_inj (by decide)] at same
    split at same <;> split at same
    · omega
    · exact absurd same (by decide)
    · exact absurd same (by decide)
    · omega

/-- A status the page published while the first walk was still under way. -/
def statusPost : RecoveredPost where
  postId := "1_2"
  caption := some "Open today"
  permalink := none
  publishedAt := none
  kind := some "mobile_status_update"
  commentCount := none
  likeCount := none
  shareCount := none
  media := .null

/-- The webhook and the walk of one post make two rows of it, whatever the digest is. -/
theorem statusPost_stored_twice : ¬∀ (sha256 : String → String) item,
    RouteIndependent sha256 item := by
  intro independent
  let sha256 : String → String := fun text => text
  have row := independent sha256 (.facebookPost statusPost) _ (postAdded_announces statusPost) firstWalk
    "" 1 (by decide) _ rfl
  have live : (Announcement.item sha256 .facebook (.change (postAdded "1_2"))).dedupKey =
      "facebook:post_update:1_2:add" := rfl
  have copied : inboundDedupKey sha256 .facebook .postUpdate "1_2" =
      "facebook:post_update:1_2" := rfl
  have same : "facebook:post_update:1_2:add" = "facebook:post_update:1_2" :=
    live.symm.trans (row.key.trans copied)
  exact absurd same (by decide)

end UnifiedService.Inbound
