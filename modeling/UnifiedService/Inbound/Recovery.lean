import UnifiedService.Inbound.DedupKey
import UnifiedService.Sync.Jobs

/-! What the backfill appends to the inbound ledger: the items a walk reads from the edges
of the platform, in the shape their webhooks have. -/

set_option autoImplicit false

namespace UnifiedService.Inbound

open UnifiedService.Library
open UnifiedService.Outbound (Platform)
open UnifiedService.Sync (ClaimedSyncJob)

def lowPriority : Nat := 40

/-! ### What the edges return -/

structure GraphAuthor where
  id : String
  name : Option String
  deriving DecidableEq, Repr

structure GraphComment where
  id : String
  message : Option String
  createdTime : Option Int
  author : Option GraphAuthor
  parentId : Option String
  deriving DecidableEq, Repr

structure GraphInstagramComment where
  id : String
  text : Option String
  timestamp : Option String
  parentId : Option String
  author : Option GraphAuthor
  username : Option String
  deriving DecidableEq, Repr

structure GraphInstagramTag where
  id : String
  username : String
  caption : Option String
  permalink : Option String
  timestamp : Option String
  mentionKind : String
  media : Json

/-- A message of a thread. The customer is the participant who is not us. -/
structure GraphMessage where
  id : String
  text : Option String
  createdTime : Option Int
  senderId : Option String
  senderName : Option String
  senderHandle : Option String
  attachments : List Json
  replyTo : Option Json

structure RecoveredPost where
  postId : String
  caption : Option String
  permalink : Option String
  publishedAt : Option String
  kind : Option String
  commentCount : Option Int
  likeCount : Option Int
  shareCount : Option Int
  media : Json

/-! ### What is appended -/

def textOrNull (text : Option String) : Json := (text.map .str).getD .null

def numOrNull (count : Option Int) : Json := (count.map .num).getD .null

section Append

variable (sha256 : String → String) (job : ClaimedSyncJob)

def recovered (platform : Platform) (eventType : InboundEventType) (dedupKey : String)
    (payload : Json) : InboundEventInput Json where
  enterpriseId := some job.enterpriseId
  channelId := some job.channelId
  platform := platform
  eventType := eventType
  dedupKey := dedupKey
  payload := payload
  priority := some lowPriority

def appendComment (postId : String) (comment : GraphComment) : Option (InboundEventInput Json) :=
  if comment.id = "" then none
  else
    some <| recovered job .facebook .comment
      (inboundDedupKey sha256 .facebook .comment (comment.id ++ ":add"))
      (.object
        [("field", some (.str "feed")),
          ("value", some (.object
            [("item", some (.str "comment")), ("verb", some (.str "add")),
              ("comment_id", some (.str comment.id)),
              ("parent_id", some (.str (comment.parentId.getD postId))),
              ("post_id", some (.str postId)), ("message", comment.message.map .str),
              ("created_time", comment.createdTime.map fun time => .num (time / 1000)),
              ("from", comment.author.map fun author =>
                .object [("id", some (.str author.id)), ("name", author.name.map .str)])]))])

def appendInstagramComment (mediaId : String) (comment : GraphInstagramComment) :
    Option (InboundEventInput Json) :=
  if comment.id = "" then none
  else
    some <| recovered job .instagram .comment
      (inboundDedupKey sha256 .instagram .comment comment.id)
      (.object
        [("field", some (.str "comments")),
          ("value", some (.object
            [("id", some (.str comment.id)), ("text", comment.text.map .str),
              ("timestamp", comment.timestamp.map .str),
              ("parent_id", comment.parentId.map .str),
              ("media", some (.object [("id", some (.str mediaId))])),
              ("from", comment.author.map fun author =>
                .object [("id", some (.str author.id)), ("username", author.name.map .str)]),
              ("username", comment.username.map .str)]))])

def appendInstagramTag (tag : GraphInstagramTag) : Option (InboundEventInput Json) :=
  if tag.id = "" ∨ tag.username = "" then none
  else
    some <| recovered job .instagram .mention
      (inboundDedupKey sha256 .instagram .mention tag.id)
      (.object
        [("field", some (.str "mentions")),
          ("value", some (.object
            [("media_id", some (.str tag.id)), ("username", some (.str tag.username)),
              ("caption", tag.caption.map .str), ("permalink", tag.permalink.map .str),
              ("timestamp", tag.timestamp.map .str),
              ("mention_kind", some (.str tag.mentionKind)),
              ("mention_media", some tag.media)]))])

/-- A refresh scopes its key to the day. The first walk takes the id alone. -/
def appendPost (platform : Platform) (today : String) (post : RecoveredPost) :
    Option (InboundEventInput Json) :=
  if post.postId = "" then none
  else
    some <| recovered job platform .postUpdate
      (inboundDedupKey sha256 platform .postUpdate
        (if job.jobKind = .refreshPostMetrics then post.postId ++ ":" ++ today else post.postId))
      (.object
        [("field", some (.str "posts")),
          ("value", some (.object
            [("post_id", some (.str post.postId)), ("caption", some (textOrNull post.caption)),
              ("permalink_url", some (textOrNull post.permalink)),
              ("published_at", some (textOrNull post.publishedAt)),
              ("post_kind", some (textOrNull post.kind)),
              ("comment_count", some (numOrNull post.commentCount)),
              ("like_count", some (numOrNull post.likeCount)),
              ("share_count", some (numOrNull post.shareCount)),
              ("media", some post.media)]))])

/-- A message of our own names the customer as its recipient, any other names us. -/
def emitMessage (platform : Platform) (selfPlatformId : String) (counterpartId : Option String)
    (message : GraphMessage) : Option (InboundEventInput Json) :=
  if message.id = "" then none
  else
    let isEcho := decide (message.senderId = some selfPlatformId)
    let recipientId := if isEcho then counterpartId.getD selfPlatformId else selfPlatformId
    some <| recovered job platform .directMessage
      (inboundDedupKey sha256 platform .directMessage message.id)
      (.object
        [("sender", some (.object
            [("id", message.senderId.map .str),
              ("name", if isEcho then none else (message.senderName.filter (· ≠ "")).map .str),
              ("username",
                if isEcho then none else (message.senderHandle.filter (· ≠ "")).map .str)])),
          ("recipient", some (.object [("id", some (.str recipientId))])),
          ("recovered", some (.bool true)),
          ("timestamp", message.createdTime.map .num),
          ("message", some (.object
            [("mid", some (.str message.id)), ("text", message.text.map .str),
              ("is_echo", some (.bool isEcho)),
              ("attachments",
                if message.attachments.isEmpty then none else some (.arr message.attachments)),
              ("reply_to", message.replyTo)]))])

end Append

end UnifiedService.Inbound
