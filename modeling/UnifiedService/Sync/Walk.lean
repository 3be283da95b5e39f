import UnifiedService.Inbound.Recovery
import UnifiedService.Inbound.Worker
import UnifiedService.Sync.Backfill

/-! The walk of a channel's history: which edge of the platform a job reads, what the items
of a page append to the inbound ledger, and the backfill workers beside everyone else who
works that ledger. Who a person is called is not written here. -/

set_option autoImplicit false

namespace UnifiedService.Sync

open UnifiedService.Library
open UnifiedService.Inbound (GraphAuthor GraphComment GraphInstagramComment GraphInstagramTag
  GraphMessage RecoveredPost InboundEventInput Intake IntakeParty IntakeChoice ProjectorTask
  Projector startIntake runIntake appendComment appendInstagramComment appendInstagramTag
  appendPost emitMessage)
open UnifiedService.Outbound (Platform SendError truthy)

/-! ### What the edges return -/

structure GraphFeedPost where
  id : String
  message : Option String
  story : Option String
  permalinkUrl : Option String
  createdTime : Option String
  statusType : Option String
  commentTotal : Option Int
  reactionTotal : Option Int
  shareCount : Option Int
  fullPicture : Option String
  attachmentImage : Option String
  attachmentType : Option String
  comments : List GraphComment
  deriving DecidableEq, Repr

structure GraphInstagramMedia where
  id : String
  caption : Option String
  permalink : Option String
  timestamp : Option String
  mediaType : Option String
  commentsCount : Option Int
  likeCount : Option Int
  mediaUrl : Option String
  thumbnailUrl : Option String
  comments : List GraphInstagramComment
  deriving DecidableEq, Repr

structure GraphParticipant where
  id : String
  name : Option String
  username : Option String
  deriving DecidableEq, Repr

/-- A message as a thread lists it. Its media are in the shape of the webhook already. -/
structure GraphThreadMessage where
  id : String
  message : Option String
  createdTime : Option Int
  author : Option GraphAuthor
  attachments : List Json
  replyTo : Option Json

structure GraphConversation where
  participants : List GraphParticipant
  messages : List GraphThreadMessage

inductive GraphItem where
  | post (post : GraphFeedPost)
  | media (media : GraphInstagramMedia)
  | tag (tag : GraphInstagramTag)
  | conversation (conversation : GraphConversation)

/-- A page of an edge: its items, the cursor behind them, and whether there is a next page. -/
structure GraphEdge (Item : Type) where
  data : List Item
  after : Option String
  next : Bool

inductive GraphAnswer where
  | edge (page : GraphEdge GraphItem)
  | failed (error : SendError)

/-! ### What an item appends -/

structure WalkChannel where
  platform : Platform
  platformChannelId : String
  parentPlatformChannelId : Option String
  deriving DecidableEq, Repr

def facebookMedia (post : GraphFeedPost) : Json :=
  match truthy (post.fullPicture.orElse fun _ => post.attachmentImage) with
  | none => .null
  | some url =>
      .object [("url", some (.str url)), ("type", (truthy post.attachmentType).map .str)]

def instagramMedia (media : GraphInstagramMedia) : Json :=
  match truthy (media.thumbnailUrl.orElse fun _ => media.mediaUrl) with
  | none => .null
  | some url =>
      .object
        [("url", some (.str url)), ("thumbnailUrl", (truthy media.thumbnailUrl).map .str),
          ("type", (truthy media.mediaType).map .str)]

def GraphFeedPost.recovered (post : GraphFeedPost) : RecoveredPost where
  postId := post.id
  caption := post.message.orElse fun _ => post.story
  permalink := post.permalinkUrl
  publishedAt := post.createdTime
  kind := post.statusType
  commentCount := post.commentTotal
  likeCount := post.reactionTotal
  shareCount := post.shareCount
  media := facebookMedia post

/-- The media edge has no count of shares. -/
def GraphInstagramMedia.recovered (media : GraphInstagramMedia) : RecoveredPost where
  postId := media.id
  caption := media.caption
  permalink := media.permalink
  publishedAt := media.timestamp
  kind := media.mediaType
  commentCount := media.commentsCount
  likeCount := media.likeCount
  shareCount := none
  media := instagramMedia media

/-- The other side of a thread: the last participant who is not us. -/
def counterpartId (selfPlatformId : String) (conversation : GraphConversation) : Option String :=
  (conversation.participants.map (·.id)).foldl
    (fun found id => if id ≠ "" ∧ id ≠ selfPlatformId then some id else found) none

def GraphParticipant.label (participant : GraphParticipant) : Option String :=
  if participant.id = "" then none
  else truthy (participant.name.orElse fun _ => participant.username)

/-- Of two entries for one id the later stands. -/
def namesById (conversation : GraphConversation) (id : String) : Option String :=
  conversation.participants.foldl
    (fun found participant =>
      if participant.id = id ∧ participant.label.isSome then participant.label else found) none

def handlesById (conversation : GraphConversation) (id : String) : Option String :=
  conversation.participants.foldl
    (fun found participant =>
      if participant.id = id ∧ participant.label.isSome ∧ (truthy participant.username).isSome then
        participant.username
      else found) none

def GraphConversation.read (conversation : GraphConversation) (message : GraphThreadMessage) :
    GraphMessage where
  id := message.id
  text := message.message
  createdTime := message.createdTime
  senderId := message.author.map (·.id)
  senderName :=
    message.author.bind fun author =>
      (namesById conversation author.id).orElse fun _ => author.name
  senderHandle := message.author.bind fun author => handlesById conversation author.id
  attachments := message.attachments
  replyTo := message.replyTo

def SyncJobKind.isConversation : SyncJobKind → Bool
  | .backfillConversations | .resyncConversation => true
  | .backfillPosts | .backfillComments | .backfillMentions | .refreshProfile
  | .refreshPostMetrics => false

def SyncJobKind.postsOnly : SyncJobKind → Bool
  | .backfillPosts | .refreshPostMetrics => true
  | .backfillComments | .backfillConversations | .backfillMentions | .resyncConversation
  | .refreshProfile => false

/-- Mentions of a page come with its feed, and have no edge of their own. Whatever is not
Instagram is walked as a page. -/
def hasEdge (platform : Platform) (kind : SyncJobKind) : Bool :=
  platform == .instagram || kind != .backfillMentions

namespace BackfillWorker

/-- A thread is appended oldest message first. -/
def emitMessages (sha256 : String → String) (job : ClaimedSyncJob) (channel : WalkChannel)
    (conversation : GraphConversation) : List (InboundEventInput Json) :=
  conversation.messages.reverse.filterMap fun message =>
    emitMessage sha256 job channel.platform channel.platformChannelId
      (counterpartId channel.platformChannelId conversation) (conversation.read message)

def itemInputs (sha256 : String → String) (job : ClaimedSyncJob) (channel : WalkChannel)
    (today : String) : GraphItem → List (InboundEventInput Json)
  | .post post =>
      if job.jobKind.postsOnly then
        (appendPost sha256 job .facebook today post.recovered).toList
      else post.comments.filterMap (appendComment sha256 job post.id)
  | .media media =>
      if job.jobKind.postsOnly then
        (appendPost sha256 job .instagram today media.recovered).toList
      else media.comments.filterMap (appendInstagramComment sha256 job media.id)
  | .tag tag => (appendInstagramTag sha256 job tag).toList
  | .conversation conversation => emitMessages sha256 job channel conversation

def pageInputs (sha256 : String → String) (job : ClaimedSyncJob) (channel : WalkChannel)
    (today : String) (items : List GraphItem) : List (InboundEventInput Json) :=
  items.flatMap (itemInputs sha256 job channel today)

/-- Where a walk goes after a page. A job about one thread is finished with it. -/
def slice (job : ClaimedSyncJob) (page : GraphEdge GraphItem) : Option String × Bool :=
  if job.jobKind.isConversation ∧ job.targetPlatformId.isSome then (none, true)
  else (page.after, !page.next)

end BackfillWorker

/-! ### The backfill beside the inbound ledger -/

structure AppendTask where
  job : ClaimedSyncJob
  cursor : Option String
  pages : Nat
  inputs : List (InboundEventInput Json)
  added : Nat
  nextCursor : Option String
  finished : Bool
  rest : List ClaimedSyncJob

structure Pipeline (Inbox : Type) where
  jobs : Table SyncJobRow
  intake : Intake Inbox Json

inductive PipelineParty where
  | sync (party : SyncParty)
  | intake (party : IntakeParty)
  deriving DecidableEq, Repr

inductive PipelineTask where
  | sync (task : BackfillTask)
  | append (task : AppendTask)
  | intake (task : ProjectorTask Json)

/-- What the environment decides at a step. What a page of a walk comes to is not decided
here but computed from the platform's answer. -/
structure PipelineChoice (Oracle : Type) where
  sync : BackfillChoice
  intake : IntakeChoice Json Oracle
  channel : WalkChannel
  today : String
  answer : GraphAnswer

section Pipeline

variable {Inbox Oracle : Type} (sha256 : String → String)
  (projectors : Projector Inbox Json Oracle)

namespace BackfillWorker

def settled (job : ClaimedSyncJob) (pages : Nat) (choice : PipelineChoice Oracle)
    (answer : SliceAnswer) (rest : List ClaimedSyncJob) : PipelineTask :=
  .sync ⟨page job pages { choice.sync with slice := answer }, rest⟩

def askPage (job : ClaimedSyncJob) (cursor : Option String) (pages : Nat)
    (choice : PipelineChoice Oracle) (rest : List ClaimedSyncJob) : PipelineTask :=
  if hasEdge choice.channel.platform job.jobKind then
    match choice.answer with
    | .failed error => settled job pages choice (.failed error) rest
    | .edge answered =>
        .append
          { job := job
            cursor := cursor
            pages := pages
            inputs := pageInputs sha256 job choice.channel choice.today answered.data
            added := 0
            nextCursor := (slice job answered).1
            finished := (slice job answered).2
            rest := rest }
  else settled job pages choice (.page 0 none true) rest

/-- Appends the next row of a page. A statement that fails gives the page up. -/
def appendNext (task : AppendTask) (choice : PipelineChoice Oracle) (intake : Intake Inbox Json) :
    Intake Inbox Json × PipelineTask :=
  match task.inputs with
  | [] =>
      (intake,
        settled task.job task.pages choice (.page task.added task.nextCursor task.finished)
          task.rest)
  | input :: inputs =>
      if choice.sync.fails then
        (intake, settled task.job task.pages choice (.failed .other) task.rest)
      else
        match Inbound.InboundEventRepository.insertIgnoringDuplicate input choice.sync.now
          intake.events with
        | (none, events) =>
            ({ intake with events := events }, .append { task with inputs := inputs })
        | (some _, events) =>
            ({ intake with events := events },
              .append { task with inputs := inputs, added := task.added + 1 })

/-- A poll's next step. Only asking for a page leaves the sync-job ledger's own statements. -/
def walkStep (leaseOwner : Nat) (task : BackfillTask) (choice : PipelineChoice Oracle)
    (jobs : Table SyncJobRow) : Table SyncJobRow × List PipelineTask :=
  match task.step with
  | .page job cursor pages => (jobs, [askPage sha256 job cursor pages choice task.rest])
  | step =>
      ((runStep leaseOwner choice.sync jobs task.rest step).1,
        (runStep leaseOwner choice.sync jobs task.rest step).2.map .sync)

end BackfillWorker

def startPipeline (store : Pipeline Inbox) (party : PipelineParty)
    (choice : PipelineChoice Oracle) : Pipeline Inbox × List PipelineTask :=
  match party with
  | .sync party =>
      ({ store with jobs := (startBackfill store.jobs party choice.sync).1 },
        (startBackfill store.jobs party choice.sync).2.map .sync)
  | .intake party =>
      ({ store with intake := (startIntake store.intake party choice.intake).1 },
        (startIntake store.intake party choice.intake).2.map .intake)

def runPipeline (store : Pipeline Inbox) (party : PipelineParty) (task : PipelineTask)
    (choice : PipelineChoice Oracle) : Pipeline Inbox × List PipelineTask :=
  match party, task with
  | .sync (.worker leaseOwner), .sync task =>
      ({ store with
          jobs := (BackfillWorker.walkStep sha256 leaseOwner task choice store.jobs).1 },
        (BackfillWorker.walkStep sha256 leaseOwner task choice store.jobs).2)
  | .sync (.worker _), .append task =>
      ({ store with intake := (BackfillWorker.appendNext task choice store.intake).1 },
        [(BackfillWorker.appendNext task choice store.intake).2])
  | .intake party, .intake task =>
      ({ store with intake := (runIntake projectors store.intake party task choice.intake).1 },
        (runIntake projectors store.intake party task choice.intake).2.map .intake)
  | _, _ => (store, [])

def pipeline :
    Crew (Pipeline Inbox) PipelineParty PipelineTask (PipelineChoice Oracle) where
  start := startPipeline
  run := runPipeline sha256 projectors

abbrev PipelineState (Inbox : Type) := CrewState (Pipeline Inbox) PipelineParty PipelineTask

end Pipeline

end UnifiedService.Sync
