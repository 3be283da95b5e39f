import UnifiedService.Outbound.Vocabulary
import UnifiedService.Inbound.Worker

/-! What the projectors read: the messaging events, comments and posts of the platforms, in
the shapes their deliveries have. -/

set_option autoImplicit false

namespace UnifiedService.Projection

open UnifiedService.Outbound (Platform ConversationKind MessageDirection MessageStatus)

inductive ConversationStatus where
  | open_ | pending | resolved | closed | archived
  deriving DecidableEq, Repr

/-- Whether a new message makes a conversation need attention again. -/
def ConversationStatus.isDone : ConversationStatus → Bool
  | .resolved | .closed | .archived => true
  | .open_ | .pending => false

inductive IdentifierKind where
  | instagramUserId | instagramUsername | facebookUserId
  deriving DecidableEq, Repr

inductive CustomerFirstSource where
  | instagramDm | facebookComment | instagramComment | facebookDm
  deriving DecidableEq, Repr

inductive MessageKind where
  | text | image | video | audio | sticker | storyReply | file
  deriving DecidableEq, Repr

inductive PostStatus where
  | published | platformDeleted | syncFailed
  deriving DecidableEq, Repr

def threadKeyPrefix : ConversationKind → String
  | .directMessage => "dm"
  | .commentThread => "comment"
  | .mention => "mention"
  | .review => "review"

def composeThreadKey (kind : ConversationKind) (platformId : String) : String :=
  threadKeyPrefix kind ++ ":" ++ platformId

def platformIdentifierKind (platform : Platform) : IdentifierKind :=
  if platform = .instagram then .instagramUserId else .facebookUserId

def orphanEditGraceAttempts : Nat := 1

def maxConversationSubjectChars : Nat := 500

/-! ### Messaging events -/

structure EventSender where
  id : Option String
  name : Option String
  username : Option String
  deriving DecidableEq, Repr

structure EventReaction where
  mid : Option String
  unreact : Bool
  reaction : Option String
  emoji : Option String
  deriving DecidableEq, Repr

structure NormalizedMedia where
  attachments : List (Option String)
  messageKind : MessageKind
  isStoryMention : Bool
  unreadable : Bool
  deriving DecidableEq, Repr

structure EventMessage where
  mid : Option String
  text : Option String
  isEcho : Bool
  isDeleted : Bool
  media : NormalizedMedia
  replyToMid : Option String
  replyToStoryId : Option String
  quickReplyPayload : Option String
  deriving DecidableEq, Repr

structure EventPostback where
  mid : Option String
  title : Option String
  payload : Option String
  deriving DecidableEq, Repr

/-- A messaging entry. A time is the instant it stands for. -/
structure MessagingEvent where
  sender : Option EventSender
  recipientId : Option String
  recovered : Bool
  reaction : Option EventReaction
  readMid : Option String
  timestamp : Option Int
  message : Option EventMessage
  messageEditMid : Option String
  postback : Option EventPostback
  optin : Bool
  referral : Bool
  deriving DecidableEq, Repr

/-! ### Comments, mentions and posts -/

inductive CommentAction where
  | edited | removed | hidden | unhidden
  deriving DecidableEq, Repr

/-- What the projector needs of a comment or a mention, whichever platform it is on. -/
structure CanonicalComment where
  commentId : String
  rootCommentId : String
  parentId : Option String
  postId : Option String
  text : Option String
  createdAt : Option Int
  authorPlatformId : String
  authorName : Option String
  authorHandle : Option String
  authorIdentifierKind : Option IdentifierKind
  deriving DecidableEq, Repr

structure CommentModeration where
  commentId : String
  action : CommentAction
  text : Option String
  deriving DecidableEq, Repr

inductive NormalizedComment where
  | comment (comment : CanonicalComment)
  | moderation (moderation : CommentModeration)
  | skip
  deriving DecidableEq, Repr

structure CommentAuthor where
  id : Option String
  name : Option String
  deriving DecidableEq, Repr

structure FacebookCommentChange where
  item : Option String
  verb : Option String
  commentId : Option String
  parentId : Option String
  postId : Option String
  message : Option String
  createdTime : Option Int
  author : Option CommentAuthor
  deriving DecidableEq, Repr

structure InstagramCommentChange where
  id : Option String
  verb : Option String
  text : Option String
  parentId : Option String
  timestamp : Option Int
  mediaId : Option String
  /-- The author's handle is their name here. -/
  author : Option CommentAuthor
  username : Option String
  deriving DecidableEq, Repr

structure FacebookMentionChange where
  verb : Option String
  postId : Option String
  commentId : Option String
  senderId : Option String
  senderName : Option String
  message : Option String
  createdTime : Option Int
  deriving DecidableEq, Repr

structure InstagramMentionChange where
  mediaId : Option String
  commentId : Option String
  username : Option String
  caption : Option String
  timestamp : Option Int
  deriving DecidableEq, Repr

structure PostUpdate where
  postId : Option String
  item : Option String
  message : Option String
  createdTime : Option Int
  link : Option String
  caption : Option String
  permalinkUrl : Option String
  publishedAt : Option Int
  postKind : Option String
  commentCount : Option Nat
  likeCount : Option Nat
  shareCount : Option Nat
  deriving DecidableEq, Repr

inductive InboundPayload where
  | messaging (event : MessagingEvent)
  | facebookComment (change : FacebookCommentChange)
  | instagramComment (change : InstagramCommentChange)
  | facebookMention (change : FacebookMentionChange)
  | instagramMention (change : InstagramMentionChange)
  | post (update : PostUpdate)
  deriving DecidableEq, Repr

end UnifiedService.Projection
