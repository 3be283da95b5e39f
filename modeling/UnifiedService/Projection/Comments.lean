import UnifiedService.Projection.DirectMessages

/-! The projectors of comments, mentions and posts. A comment is stored in one transaction,
what the platform did to one is applied in two statements. -/

set_option autoImplicit false

namespace UnifiedService.Projection

open UnifiedService.Library
open UnifiedService.Outbound (Platform ConversationKind truthy)
open UnifiedService.Inbound (ProjectionContext ProjectionOutcome ProjectedTriggerFacts
  ProjectedReversalFacts ReversalReason RewardTriggerKind InboundEventType)

/-! ### Normalizing -/

def moderationAction (verb : Option String) : Option CommentAction :=
  if verb = some "edited" ∨ verb = some "edit" then some .edited
  else if verb = some "remove" ∨ verb = some "removed" then some .removed
  else if verb = some "hide" then some .hidden
  else if verb = some "unhide" then some .unhidden
  else none

/-- The parent of a top-level comment is its post, which is no comment. -/
def normalizeFacebook (change : FacebookCommentChange) : NormalizedComment :=
  match change.item, truthy change.commentId with
  | some "comment", some commentId =>
      match moderationAction change.verb with
      | some action => .moderation ⟨commentId, action, change.message⟩
      | none =>
          match change.author.bind fun author => truthy author.id with
          | none => .skip
          | some authorId =>
              let parentCommentId :=
                if change.parentId = change.postId then none else truthy change.parentId
              .comment
                { commentId := commentId
                  rootCommentId := parentCommentId.getD commentId
                  parentId := parentCommentId
                  postId := change.postId
                  text := change.message
                  createdAt := change.createdTime
                  authorPlatformId := authorId
                  authorName := change.author.bind CommentAuthor.name
                  authorHandle := none
                  authorIdentifierKind := none }
  | _, _ => .skip

/-- Without an author's id a comment is not filed: a handle can be reused. -/
def normalizeInstagram (change : InstagramCommentChange) : NormalizedComment :=
  match truthy change.id with
  | none => .skip
  | some id =>
      match moderationAction change.verb with
      | some action => .moderation ⟨id, action, change.text⟩
      | none =>
          match change.author.bind fun author => truthy author.id with
          | none => .skip
          | some authorId =>
              let handle := (change.author.bind CommentAuthor.name).orElse fun _ => change.username
              .comment
                { commentId := id
                  rootCommentId := change.parentId.getD id
                  parentId := change.parentId
                  postId := change.mediaId
                  text := change.text
                  createdAt := change.timestamp
                  authorPlatformId := authorId
                  authorName := handle
                  authorHandle := handle
                  authorIdentifierKind := none }

def normalizeFacebookMention (change : FacebookMentionChange) : NormalizedComment :=
  match truthy (change.commentId.orElse fun _ => change.postId) with
  | none => .skip
  | some mentionId =>
      match moderationAction change.verb with
      | some action => .moderation ⟨mentionId, action, change.message⟩
      | none =>
          match truthy change.senderId with
          | none => .skip
          | some senderId =>
              .comment
                { commentId := mentionId
                  rootCommentId := mentionId
                  parentId := none
                  postId := change.postId
                  text := change.message
                  createdAt := change.createdTime
                  authorPlatformId := senderId
                  authorName := change.senderName
                  authorHandle := none
                  authorIdentifierKind := none }

section Mention

variable (normalizeText : String → String)

/-- The comment wins over the medium. The handle is the only identity there is. -/
def normalizeInstagramMention (change : InstagramMentionChange) : NormalizedComment :=
  match truthy (change.commentId.orElse fun _ => change.mediaId) with
  | none => .skip
  | some target =>
      match truthy change.username with
      | none => .skip
      | some username =>
          .comment
            { commentId := target
              rootCommentId := target
              parentId := none
              postId := change.mediaId
              text := DirectMessageProjectorService.normalizeOptionalText normalizeText change.caption
              createdAt := change.timestamp
              authorPlatformId := username
              authorName := some username
              authorHandle := some username
              authorIdentifierKind := some .instagramUsername }

end Mention

/-! ### Storing -/

structure StoredComment where
  enterpriseId : Nat
  channelId : Nat
  platform : Platform
  inboundEventId : Nat
  comment : CanonicalComment
  displayName : Option String
  subject : Option String
  conversationKind : ConversationKind
  deriving DecidableEq, Repr

namespace StoredComment

variable (stored : StoredComment)

def identifierKind : IdentifierKind :=
  stored.comment.authorIdentifierKind.getD (platformIdentifierKind stored.platform)

def customer : CreateCustomerInput where
  enterpriseId := stored.enterpriseId
  identifierKind := stored.identifierKind
  identifierValue := stored.comment.authorPlatformId
  displayName := stored.displayName
  firstSource := if stored.platform = .instagram then .instagramComment else .facebookComment
  firstChannelId := stored.channelId

def thread (customer : CustomerResolution) (postId : Option Nat) : UpsertConversationInput where
  enterpriseId := stored.enterpriseId
  channelId := stored.channelId
  customerId := customer.customerId
  customerIdentifierId := customer.identifierId
  postId := postId
  platform := stored.platform
  conversationKind := stored.conversationKind
  platformThreadId := composeThreadKey stored.conversationKind stored.comment.rootCommentId
  subject := stored.subject

def occurredAt (now : Int) : Int := stored.comment.createdAt.getD now

def row (customerId conversationId : Nat) (parentMessageId : Option Nat) (now : Int) :
    MessageRow where
  enterpriseId := stored.enterpriseId
  conversationId := conversationId
  direction := .inbound
  customerId := customerId
  inboundEventId := some stored.inboundEventId
  platformMessageId := some stored.comment.commentId
  messageKind := .text
  body := stored.comment.text
  platformSentAt := stored.comment.createdAt
  parentMessageId := parentMessageId
  status := .delivered
  attachments := []
  metadata := .empty
  isRead := false
  isInternalNote := false
  idempotencyKey := none
  isHiddenOnPlatform := false
  platformDeletedAt := none
  createdAt := now
  occurredAt := stored.occurredAt now

def engagement (customerId : Nat) (conversation : UpsertConversationResult) : EngagementInput where
  enterpriseId := stored.enterpriseId
  customerId := customerId
  channelId := stored.channelId
  platform := stored.platform
  inbound := true
  conversationId := conversation.id
  conversationCreated := conversation.created

def trigger (customerId messageId : Nat) (now : Int) : ProjectedTriggerFacts where
  enterpriseId := stored.enterpriseId
  customerId := customerId
  channelId := stored.channelId
  sourceRefId := messageId
  occurredAtUtc := stored.occurredAt now
  content := stored.comment.text
  triggerKind :=
    if stored.conversationKind = .mention then .commentOnMentionedPost else .commentOnOwnPost

def resolve (now : Int) (inbox : Inbox) : CustomerResolution × Inbox :=
  let (customer, inbox) := inbox.resolveOrCreate stored.customer now
  match truthy stored.comment.authorHandle, stored.identifierKind with
  | some _, .instagramUsername => (customer, inbox)
  | some handle, _ =>
      (customer,
        inbox.linkIdentifier stored.enterpriseId customer.customerId .instagramUsername handle)
  | none, _ => (customer, inbox)

def post (inbox : Inbox) : Option Nat :=
  (truthy stored.comment.postId).bind
    (inbox.findIdByPlatformPostId stored.enterpriseId stored.channelId)

def parent (inbox : Inbox) : Option Nat :=
  (truthy stored.comment.parentId).bind (inbox.findIdByPlatformMessageId stored.enterpriseId)

def store (now : Int) (inbox : Inbox) : Inbox × ProjectionOutcome :=
  let (customer, inbox) := stored.resolve now inbox
  let (conversation, inbox) := inbox.upsert (stored.thread customer (stored.post inbox))
  let parentMessageId := stored.parent inbox
  match inbox.insertMessage
    (stored.row customer.customerId conversation.id parentMessageId now) with
  | (none, inbox) => (inbox, skipped)
  | (some id, inbox) =>
      let inbox := inbox.recordMessage conversation.id true (stored.occurredAt now)
      let inbox := inbox.touchLastSeen customer.customerId stored.channelId now
      let inbox := inbox.recordEngagement (stored.engagement customer.customerId conversation) now
      (inbox, ⟨true, some (stored.trigger customer.customerId id now), none⟩)

end StoredComment

/-! ### The projectors -/

/-- What the Mentions API says of a mention the webhook only named. -/
inductive MentionAnswer where
  | unreachable
  | unknown
  | found (username : String) (caption : Option String) (timestamp : Option Int)
      (mediaId : Option String)
  deriving DecidableEq, Repr

structure ProjectionOracle where
  mention : MentionAnswer
  fails : Bool
  lookupFails : Bool
  deriving DecidableEq, Repr

namespace CommentProjectorService

section Project

variable (normalizeText : String → String)

def storedComment (context : ProjectionContext) (comment : CanonicalComment)
    (conversationKind : ConversationKind) : StoredComment where
  enterpriseId := context.enterpriseId
  channelId := context.channelId
  platform := context.platform
  inboundEventId := context.inboundEventId
  comment := comment
  displayName :=
    DirectMessageProjectorService.normalizeOptionalText normalizeText comment.authorName
  subject :=
    (DirectMessageProjectorService.normalizeOptionalText normalizeText comment.text).map
      (jsTake maxConversationSubjectChars)
  conversationKind := conversationKind

/-- Two statements, each committed on its own: the change, and the lookup of the message
that a removal or a hide takes rewards back for. -/
def applyModeration (context : ProjectionContext) (moderation : CommentModeration)
    (oracle : ProjectionOracle) (now : Int) (inbox : Inbox) :
    Inbox × Option ProjectionOutcome :=
  match inbox.applyPlatformModeration context.enterpriseId moderation now with
  | (false, inbox) => (inbox, some skipped)
  | (true, inbox) =>
      let reasonCode : Option ReversalReason :=
        match moderation.action with
        | .removed => some .contentRemoved
        | .hidden => some .contentHidden
        | .edited | .unhidden => none
      match reasonCode with
      | none => (inbox, some ⟨true, none, none⟩)
      | some reasonCode =>
          if oracle.lookupFails then (inbox, none)
          else
            (inbox,
              some
                ⟨true, none,
                  (inbox.findIdByPlatformMessageId context.enterpriseId moderation.commentId).map
                    fun messageId => ⟨context.enterpriseId, messageId, reasonCode⟩⟩)

/-- Our own comments come back to us like anybody's. -/
def isOwnAuthor (context : ProjectionContext) (comment : CanonicalComment) : Bool :=
  context.ownPlatformIds.any (· == comment.authorPlatformId)

def projectNormalized (context : ProjectionContext) (oracle : ProjectionOracle) (now : Int)
    (kindOf : CanonicalComment → Inbox → ConversationKind) (inbox : Inbox) :
    NormalizedComment → Inbox × Option ProjectionOutcome
  | .skip => (inbox, some skipped)
  | .moderation moderation => applyModeration context moderation oracle now inbox
  | .comment comment =>
      if isOwnAuthor context comment then (inbox, some skipped)
      else
        let (inbox, outcome) :=
          (storedComment normalizeText context comment (kindOf comment inbox)).store now inbox
        (inbox, some outcome)

def project (context : ProjectionContext) (normalized : NormalizedComment)
    (oracle : ProjectionOracle) (now : Int) (inbox : Inbox) : Inbox × Option ProjectionOutcome :=
  projectNormalized normalizeText context oracle now (fun _ _ => .commentThread) inbox normalized

/-- A tag on our own post is a comment. -/
def mentionKind (context : ProjectionContext) (comment : CanonicalComment) (inbox : Inbox) :
    ConversationKind :=
  if ((truthy comment.postId).bind
      (inbox.findIdByPlatformPostId context.enterpriseId context.channelId)).isSome then
    .commentThread
  else .mention

/-- What a live mention lacks is fetched. Without an answer the mention is tried again. -/
def resolveInstagramMention (change : InstagramMentionChange) (answer : MentionAnswer) :
    Option InstagramMentionChange :=
  if (truthy change.username).isSome then some change
  else if (truthy change.commentId).isNone && (truthy change.mediaId).isNone then some change
  else
    match answer with
    | .unreachable => none
    | .unknown => some change
    | .found username caption timestamp mediaId =>
        some
          { change with
            username := some username
            caption := caption
            timestamp := timestamp
            mediaId := mediaId.orElse fun _ => change.mediaId }

def projectInstagramMention (context : ProjectionContext) (change : InstagramMentionChange)
    (oracle : ProjectionOracle) (now : Int) (inbox : Inbox) : Inbox × Option ProjectionOutcome :=
  match resolveInstagramMention change oracle.mention with
  | none => (inbox, none)
  | some change =>
      projectNormalized normalizeText context oracle now (mentionKind context) inbox
        (normalizeInstagramMention normalizeText change)

def projectFacebookMention (context : ProjectionContext) (change : FacebookMentionChange)
    (oracle : ProjectionOracle) (now : Int) (inbox : Inbox) : Inbox × Option ProjectionOutcome :=
  projectNormalized normalizeText context oracle now (mentionKind context) inbox
    (normalizeFacebookMention change)

end Project

end CommentProjectorService

namespace PostProjectorService

/-- `toLowerCase`, as far as a word of ASCII letters can tell: of the other letters, only the
Kelvin sign has one of them for its lower case. -/
def lowerLetter (letter : Char) : Char :=
  if letter.toNat = 0x212A then 'k' else letter.toLower

def toPostKind (raw : Option String) (platform : Platform) : String :=
  let value := String.ofList ((raw.getD "").toList.map lowerLetter)
  if platform = .instagram then
    if value = "video" then "video"
    else if value = "carousel_album" then "carousel"
    else if value = "reels" then "reel"
    else if value = "story" then "story"
    else "image"
  else if value = "added_photos" ∨ value = "photo" then "image"
  else if value = "added_video" ∨ value = "video" then "video"
  else if value = "shared_story" ∨ value = "share" ∨ value = "link" then "link"
  else "text"

/-- One row, written again by every later copy. -/
def project (normalizeText : String → String) (context : ProjectionContext) (update : PostUpdate)
    (inbox : Inbox) : Inbox × Option ProjectionOutcome :=
  match truthy update.postId with
  | none => (inbox, some skipped)
  | some postId =>
      (inbox.upsertPost
          { enterpriseId := context.enterpriseId
            channelId := context.channelId
            platform := context.platform
            platformPostId := postId
            postKind :=
              toPostKind (update.postKind.orElse fun _ => update.item) context.platform
            caption :=
              DirectMessageProjectorService.normalizeOptionalText normalizeText
                (update.caption.orElse fun _ => update.message)
            permalinkUrl := update.permalinkUrl.orElse fun _ => update.link
            publishedAt := update.publishedAt.orElse fun _ => update.createdTime
            commentCount := update.commentCount.getD 0
            likeCount := update.likeCount.getD 0
            shareCount := update.shareCount.getD 0
            status := .published },
        some ⟨true, none, none⟩)

end PostProjectorService

/-! ### The registry -/

/-- The projector of each event type. A payload of another shape says nothing to it. -/
def projectors (normalizeText : String → String) :
    Inbound.Projector Inbox InboundPayload ProjectionOracle :=
  fun eventType context payload now oracle inbox =>
    if oracle.fails then (inbox, none)
    else
      match eventType, payload with
      | .comment, .facebookComment change =>
          CommentProjectorService.project normalizeText context (normalizeFacebook change) oracle
            now inbox
      | .comment, .instagramComment change =>
          CommentProjectorService.project normalizeText context (normalizeInstagram change)
            oracle now inbox
      | .directMessage, .messaging event =>
          DirectMessageProjectorService.project normalizeText context event now inbox
      | .mention, .facebookMention change =>
          CommentProjectorService.projectFacebookMention normalizeText context change oracle now
            inbox
      | .mention, .instagramMention change =>
          CommentProjectorService.projectInstagramMention normalizeText context change oracle now
            inbox
      | .postUpdate, .post update =>
          PostProjectorService.project normalizeText context update inbox
      | _, _ => (inbox, some skipped)

end UnifiedService.Projection
