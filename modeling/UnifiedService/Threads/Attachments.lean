import UnifiedService.Threads.Service

/-! The media of a message: what is kept of the attachments a webhook or the read edge
describes, how their kind is told, and where a fresh link comes from. -/

set_option autoImplicit false

namespace UnifiedService.Threads

open UnifiedService.Library
open UnifiedService.Outbound (truthy)
open UnifiedService.Projection (MessageKind)

inductive MediaKind where
  | image | gif | video | audio | sticker | document
  deriving DecidableEq, Repr

def maxAttachmentsPerMessage : Nat := 10

/-! ### Links -/

structure ParsedUrl where
  hostname : String
  pathname : String
  /-- `searchParams.get('asset_id')`. -/
  assetId : Option String
  deriving DecidableEq, Repr

/-- What the platform of the language does to a text: `new URL`, which may throw, and
`toLowerCase`. -/
structure UrlRuntime where
  parse : String → Option ParsedUrl
  toLowerCase : String → String

def expiringMediaHosts : List String := ["fbsbx.com", "fbcdn.net", "cdninstagram.com"]

def gifHosts : List String := ["giphy.com", "tenor.com"]

def hostMatches (host : String) (domains : List String) : Bool :=
  domains.any fun domain => host == domain || ('.' :: domain.toList).isSuffixOf host.toList

namespace UrlRuntime

variable (runtime : UrlRuntime)

def hostOf (url : Option String) : Option String := do
  let url ← truthy url
  return runtime.toLowerCase (← runtime.parse url).hostname

def extractAssetId (url : Option String) : Option String := do
  (← runtime.parse (← truthy url)).assetId

def isExpiringMediaUrl (url : Option String) : Bool :=
  (runtime.hostOf url).any (hostMatches · expiringMediaHosts)

def isStableMediaUrl (url : Option String) : Bool :=
  (runtime.hostOf url).isSome && !runtime.isExpiringMediaUrl url

def isAnimatedImageUrl (url : Option String) : Bool :=
  (runtime.hostOf url).any (hostMatches · gifHosts) ||
    ((truthy url).bind runtime.parse).any fun parsed =>
      ".gif".toList.isSuffixOf (runtime.toLowerCase parsed.pathname).toList

end UrlRuntime

/-! ### The shape of a webhook -/

structure AttachmentPayload where
  url : Option String
  storyMediaUrl : Option String
  storyMediaId : Option String
  /-- A number is given as its text. -/
  stickerId : Option String
  title : Option String
  mimeType : Option String
  name : Option String
  reelVideoId : Option String
  igPostMediaId : Option String
  deriving DecidableEq, Repr

def AttachmentPayload.empty : AttachmentPayload :=
  ⟨none, none, none, none, none, none, none, none, none⟩

structure PlatformAttachment where
  type : Option String
  payload : AttachmentPayload
  deriving DecidableEq, Repr

structure AttachmentMetadata where
  platformType : Option String
  assetId : Option String
  truncatedFrom : Option Nat
  stickerId : Option String
  title : Option String
  stableUrl : Option Bool
  mimeType : Option String
  fileName : Option String
  kindIsGuessed : Bool
  reelVideoId : Option String
  postMediaId : Option String
  storyMediaId : Option String
  deriving DecidableEq, Repr

structure NormalizedAttachment where
  mediaKind : MediaKind
  sourceUrl : Option String
  sortOrder : Nat
  metadata : AttachmentMetadata
  deriving DecidableEq, Repr

structure NormalizedMedia where
  attachments : List NormalizedAttachment
  messageKind : MessageKind
  isStoryMention : Bool
  deriving DecidableEq, Repr

def storyMentionType : String := "story_mention"

def sharedStoryType : String := "ig_story"

def mediaKindByType (type : String) : Option MediaKind :=
  if ["image", storyMentionType, "ig_post", sharedStoryType].contains type then some .image
  else if ["video", "ig_reel", "reel"].contains type then some .video
  else if ["audio", "voice"].contains type then some .audio
  else if ["file", "share", "location", "fallback", "template"].contains type then some .document
  else none

def messageKindByMedia : MediaKind → MessageKind
  | .image | .gif => .image
  | .video => .video
  | .audio => .audio
  | .sticker => .sticker
  | .document => .file

namespace UrlRuntime

variable (runtime : UrlRuntime)

/-- `text?.trim().toLowerCase()`. -/
def lowered (text : Option String) : Option String :=
  text.map fun text => runtime.toLowerCase (jsTrim text)

def kindOfMimeType (mimeType : String) (url : Option String) : Option MediaKind :=
  if "video/".toList.isPrefixOf mimeType.toList then some .video
  else if "audio/".toList.isPrefixOf mimeType.toList then some .audio
  else if mimeType = "image/gif" then some .gif
  else if "image/".toList.isPrefixOf mimeType.toList then
    some (if runtime.isAnimatedImageUrl url then .gif else .image)
  else none

def toMediaKind (attachment : PlatformAttachment) : MediaKind :=
  if attachment.payload.stickerId.isSome then .sticker
  else
    match (truthy (runtime.lowered attachment.payload.mimeType)).bind fun mimeType =>
        runtime.kindOfMimeType mimeType attachment.payload.url with
    | some mediaKind => mediaKind
    | none =>
        let mediaKind :=
          (mediaKindByType ((runtime.lowered attachment.type).getD "")).getD .document
        if mediaKind = .image ∧ runtime.isAnimatedImageUrl attachment.payload.url = true then .gif
        else mediaKind

def isStoryMention (attachment : PlatformAttachment) : Bool :=
  runtime.lowered attachment.type == some storyMentionType

def sourceUrlOf (attachment : PlatformAttachment) : Option String :=
  attachment.payload.url.or attachment.payload.storyMediaUrl

def normalizeAttachment (truncatedFrom : Option Nat) (index : Nat)
    (attachment : PlatformAttachment) : NormalizedAttachment :=
  let type := runtime.lowered attachment.type
  let sourceUrl := sourceUrlOf attachment
  let mimeType := truthy (runtime.lowered attachment.payload.mimeType)
  { mediaKind := runtime.toMediaKind attachment
    sourceUrl
    sortOrder := index
    metadata :=
      { platformType := truthy type
        assetId := truthy (runtime.extractAssetId sourceUrl)
        truncatedFrom := if index = 0 then truncatedFrom else none
        stickerId := attachment.payload.stickerId
        title := truthy attachment.payload.title
        stableUrl := (truthy sourceUrl).map fun url => runtime.isStableMediaUrl (some url)
        mimeType
        fileName := truthy attachment.payload.name
        kindIsGuessed :=
          (type == some storyMentionType || type == some sharedStoryType) && mimeType.isNone
        reelVideoId := truthy attachment.payload.reelVideoId
        postMediaId := truthy attachment.payload.igPostMediaId
        storyMediaId := truthy attachment.payload.storyMediaId } }

def normalizeAttachments (attachments : List PlatformAttachment) : NormalizedMedia :=
  if attachments = [] then ⟨[], .text, false⟩
  else
    let kept := attachments.take maxAttachmentsPerMessage
    let truncatedFrom :=
      if kept.length < attachments.length then some attachments.length else none
    let isStoryMention := kept.any runtime.isStoryMention
    let normalized := kept.mapIdx (runtime.normalizeAttachment truncatedFrom)
    if isStoryMention then ⟨normalized, .storyReply, isStoryMention⟩
    else
      ⟨normalized,
        match normalized.head? with
        | some first => messageKindByMedia first.mediaKind
        | none => .text,
        isStoryMention⟩

end UrlRuntime

/-! ### The shape of the read edge -/

structure GraphAttachment where
  mimeType : Option String
  name : Option String
  /-- `image_data.url`, `video_data.url` and `file_url`. -/
  imageUrl : Option String
  videoUrl : Option String
  fileUrl : Option String
  deriving DecidableEq, Repr

structure GraphMessage where
  id : String
  attachments : List GraphAttachment
  shares : List (Option String)
  deriving DecidableEq, Repr

/-- What the read edge describes, said as a webhook would say it. -/
structure WebhookAttachment where
  type : String
  url : String
  mimeType : Option String
  name : Option String
  deriving DecidableEq, Repr

def WebhookAttachment.toPlatform (attachment : WebhookAttachment) : PlatformAttachment where
  type := some attachment.type
  payload :=
    { AttachmentPayload.empty with
      url := some attachment.url
      mimeType := attachment.mimeType
      name := attachment.name }

def shareToWebhook (link : Option String) : Option WebhookAttachment :=
  (truthy link).map fun url => ⟨"share", url, none, none⟩

def attachmentToWebhook (attachment : GraphAttachment) : Option WebhookAttachment :=
  let named (type : String) (url : String) : WebhookAttachment :=
    ⟨type, url, truthy attachment.mimeType, truthy attachment.name⟩
  ((truthy attachment.imageUrl).map (named "image")).or
    (((truthy attachment.videoUrl).map (named "video")).or
      ((truthy attachment.fileUrl).map (named "file")))

/-- Shares first, then attachments. One without a link is dropped. -/
def toWebhookAttachments (attachments : List GraphAttachment) (shares : List (Option String)) :
    List WebhookAttachment :=
  shares.filterMap shareToWebhook ++ attachments.filterMap attachmentToWebhook

def GraphMessage.translated (message : GraphMessage) : List WebhookAttachment :=
  toWebhookAttachments message.attachments message.shares

namespace UrlRuntime

variable (runtime : UrlRuntime)

def expiringLinks (message : GraphMessage) : List FreshLink :=
  (message.translated.filter fun attachment =>
    runtime.isExpiringMediaUrl (some attachment.url)).map fun attachment =>
      ⟨attachment.url, attachment.mimeType⟩

def readFreshAttachmentLinks (page : List GraphMessage) (id : String) : Option (List FreshLink) :=
  (page.reverse.find? fun message =>
    message.id == id && !(runtime.expiringLinks message).isEmpty).map runtime.expiringLinks

end UrlRuntime

/-! ### The rows -/

structure MediaRow extends AttachmentRow where
  mediaKind : MediaKind
  kindIsGuessed : Bool
  deriving DecidableEq, Repr

def mediaRows (enterpriseId messageId firstId : Nat) (attachments : List NormalizedAttachment) :
    List MediaRow :=
  attachments.mapIdx fun index attachment =>
    { id := firstId + index
      enterpriseId
      messageId
      sourceUrl := attachment.sourceUrl
      sortOrder := attachment.sortOrder
      mimeType := attachment.metadata.mimeType
      stableUrl := attachment.metadata.stableUrl == some true
      isDeleted := false
      mediaKind := attachment.mediaKind
      kindIsGuessed := attachment.metadata.kindIsGuessed }

/-- What `refreshSourceUrls` does to a row. The kind stays. -/
def MediaRow.refreshed (row : MediaRow) (update : InboxDb.LinkUpdate) : MediaRow :=
  { row with
    sourceUrl := some update.sourceUrl
    mimeType := update.mimeType.or row.mimeType
    kindIsGuessed := row.kindIsGuessed && update.mimeType.isNone }

def refreshMedia (enterpriseId : Nat) (updates : List InboxDb.LinkUpdate)
    (rows : List MediaRow) : List MediaRow :=
  rows.map fun row =>
    match updates.find? fun update =>
        update.id == row.id && row.enterpriseId == enterpriseId with
    | some update => row.refreshed update
    | none => row

end UnifiedService.Threads
