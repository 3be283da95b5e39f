import UnifiedService.Library.Stepwise
import UnifiedService.Projection.Comments

/-! The row of a post against the events about it: what it says of the post is what the post's
own events said last, as long as none of the others says otherwise. -/

set_option autoImplicit false

namespace UnifiedService.Projection

open UnifiedService.Library
open UnifiedService.Outbound (Platform truthy)
open UnifiedService.Inbound (ProjectionContext)

/-- What an event about a post reports: the post as it is (an add, an edit or a copy of a
backfill), that it was removed, or what somebody did to it (a like, a reaction, a share). -/
inductive PostNews where
  | described | removed | reaction
  deriving DecidableEq, Repr

structure PostEvent where
  news : PostNews
  update : PostUpdate
  deriving DecidableEq, Repr

/-- What an event that omits the caption or the time says of it: that there is none, or
nothing. -/
inductive Silence where
  | erases | keeps
  deriving DecidableEq, Repr

structure PostDescription where
  postKind : String
  caption : Option String
  publishedAt : Option Int
  deriving DecidableEq, Repr

namespace PostDescription

def followedBy (description later : PostDescription) : PostDescription where
  postKind := later.postKind
  caption := later.caption.or description.caption
  publishedAt := later.publishedAt.or description.publishedAt

def updatedBy (silence : Silence) (description later : PostDescription) : PostDescription :=
  match silence with
  | .erases => later
  | .keeps => description.followedBy later

def Complete (silence : Silence) (later description : PostDescription) : Prop :=
  match silence with
  | .erases => (later.caption = none → description.caption = none) ∧
      (later.publishedAt = none → description.publishedAt = none)
  | .keeps => True

def Repeats (later description : PostDescription) : Prop :=
  later.postKind = description.postKind ∧
    (later.caption = none ∨ later.caption = description.caption) ∧
    (later.publishedAt = none ∨ later.publishedAt = description.publishedAt)

theorem followedBy_eq_iff (description later : PostDescription) :
    description.followedBy later = description ↔ later.Repeats description := by
  obtain ⟨kind, caption, publishedAt⟩ := description
  obtain ⟨laterKind, laterCaption, laterPublishedAt⟩ := later
  cases laterCaption <;> cases laterPublishedAt <;>
    simp [followedBy, Repeats]

theorem followedBy_eq_updatedBy_iff (silence : Silence) (description later : PostDescription) :
    description.followedBy later = description.updatedBy silence later ↔
      later.Complete silence description := by
  cases silence with
  | keeps => exact iff_of_true rfl trivial
  | erases =>
      obtain ⟨kind, caption, publishedAt⟩ := description
      obtain ⟨laterKind, laterCaption, laterPublishedAt⟩ := later
      cases laterCaption <;> cases laterPublishedAt <;>
        simp [followedBy, updatedBy, Complete]

end PostDescription

def PostRow.description (row : PostRow) : PostDescription :=
  ⟨row.postKind, row.caption, row.publishedAt⟩

theorem PostRow.description_refreshed (row later : PostRow) :
    (row.refreshed later).description = row.description.followedBy later.description := by
  simp only [description, refreshed, PostDescription.followedBy, Option.or_eq_orElse]

section Events

variable (normalizeText : String → String) (context : ProjectionContext) (postId : String)

def PostUpdate.description (update : PostUpdate) : PostDescription where
  postKind :=
    PostProjectorService.toPostKind (update.postKind.orElse fun _ => update.item) context.platform
  caption :=
    DirectMessageProjectorService.normalizeOptionalText normalizeText
      (update.caption.orElse fun _ => update.message)
  publishedAt := update.publishedAt.orElse fun _ => update.createdTime

def projectPost (inbox : Inbox) (event : PostEvent) : Inbox :=
  (PostProjectorService.project normalizeText context
    { event.update with postId := some postId } inbox).1

def Inbox.postRow (inbox : Inbox) : Option (Stored PostRow) :=
  inbox.posts.find? fun post =>
    post.channelId == context.channelId && post.platformPostId == postId

/-- What is said of the post after one more event. Somebody's reaction says nothing of it. -/
def saidAfter (silence : Silence) (said : Option PostDescription) (event : PostEvent) :
    Option PostDescription :=
  if event.news = .reaction then said
  else
    let tells := event.update.description normalizeText context
    some (said.elim tells fun before => before.updatedBy silence tells)

def ownDescription (silence : Silence) (events : List PostEvent) : Option PostDescription :=
  events.foldl (saidAfter normalizeText context silence) none

/-- The row says of the post what its own events said, and does not show a removed one as
published. -/
def PostShown (silence : Silence) (inbox : Inbox) (events : List PostEvent) : Prop :=
  (inbox.postRow context postId).map (fun stored => stored.row.description) =
      ownDescription normalizeText context silence events ∧
    ((∃ event ∈ events, event.news = .removed) →
      ∀ stored, inbox.postRow context postId = some stored → stored.row.status ≠ .published)

/-- An event that leaves the row right: no removal, of the post itself one that says what there
is to say, and of what others did only what repeats the row. -/
def Harmless (silence : Silence) (inbox : Inbox) (event : PostEvent) : Prop :=
  let told := event.update.description normalizeText context
  match event.news with
  | .described => ∀ stored, inbox.postRow context postId = some stored →
      told.Complete silence stored.row.description
  | .removed => False
  | .reaction => ∃ stored, inbox.postRow context postId = some stored ∧
      told.Repeats stored.row.description

end Events

section Steps

variable (normalizeText : String → String) {context : ProjectionContext} {postId : String}
  {inbox : Inbox} (event : PostEvent)

def Inbox.PostPublished (context : ProjectionContext) (postId : String) (inbox : Inbox) : Prop :=
  ∀ stored, inbox.postRow context postId = some stored → stored.row.status = .published

theorem projectPost_eq (named : postId ≠ "") (inbox : Inbox) :
    ∃ row : PostRow,
      projectPost normalizeText context postId inbox event = inbox.upsertPost row ∧
        row.channelId = context.channelId ∧ row.platformPostId = postId ∧
        row.description = event.update.description normalizeText context ∧
        row.status = .published := by
  have given : truthy (some postId) = some postId := by
    simp [truthy, Option.filter, named]
  rw [projectPost, PostProjectorService.project, given]
  exact ⟨_, rfl, rfl, rfl, rfl, rfl⟩

theorem projectPost_new (named : postId ≠ "")
    (absent : inbox.postRow context postId = none) :
    ∃ stored, (projectPost normalizeText context postId inbox event).postRow context postId =
        some stored ∧
      stored.row.description = event.update.description normalizeText context ∧
      stored.row.status = .published := by
  obtain ⟨row, same, channel, post, told, published⟩ :=
    projectPost_eq normalizeText event named inbox
  refine ⟨⟨inbox.posts.nextId, row⟩, ?_, told, published⟩
  have missing : (inbox.posts.find? fun other => other.channelId == row.channelId &&
      other.platformPostId == row.platformPostId) = none := by
    rw [channel, post]
    exact absent
  rw [same, Inbox.upsertPost, missing]
  exact Table.find?_insert_new absent (by simp [channel, post])

theorem projectPost_known (named : postId ≠ "") {stored : Stored PostRow}
    (found : inbox.postRow context postId = some stored) :
    ∃ later, (projectPost normalizeText context postId inbox event).postRow context postId =
        some later ∧
      later.row.description = stored.row.description.followedBy
        (event.update.description normalizeText context) ∧
      later.row.status = stored.row.status := by
  obtain ⟨row, same, channel, post, told, published⟩ :=
    projectPost_eq normalizeText event named inbox
  refine ⟨⟨stored.id, stored.row.refreshed row⟩, ?_, ?_, rfl⟩
  · have there : (inbox.posts.find? fun other => other.channelId == row.channelId &&
        other.platformPostId == row.platformPostId) = some stored := by
      rw [channel, post]
      exact found
    rw [same, Inbox.upsertPost, there]
    exact Table.find?_update_self (fun _ => rfl) found
  · rw [PostRow.description_refreshed, told]

theorem projectPost_published (named : postId ≠ "")
    (published : inbox.PostPublished context postId) :
    (projectPost normalizeText context postId inbox event).PostPublished context postId := by
  intro stored found
  cases before : inbox.postRow context postId with
  | none =>
      obtain ⟨first, there, -, shown⟩ := projectPost_new normalizeText event named before
      rw [there] at found
      cases found
      exact shown
  | some earlier =>
      obtain ⟨later, there, -, kept⟩ := projectPost_known normalizeText event named before
      rw [there] at found
      cases found
      rw [kept]
      exact published earlier before

end Steps

section Run

variable (normalizeText : String → String) {context : ProjectionContext} {postId : String}
  {silence : Silence} {inbox : Inbox}

theorem ownDescription_append (events : List PostEvent) (event : PostEvent) :
    ownDescription normalizeText context silence (events ++ [event]) =
      saidAfter normalizeText context silence
        (ownDescription normalizeText context silence events) event :=
  List.foldl_concat ..

theorem ownDescription_isSome (context : ProjectionContext) (silence : Silence)
    {events : List PostEvent} (removal : ∃ event ∈ events, event.news = .removed) :
    (ownDescription normalizeText context silence events).isSome := by
  induction events using List.reverseRecOn with
  | nil =>
      obtain ⟨event, member, -⟩ := removal
      exact absurd member List.not_mem_nil
  | append_singleton earlier last ih =>
      rw [ownDescription_append, saidAfter]
      split
      · next reacts =>
          obtain ⟨event, member, removed⟩ := removal
          rcases List.mem_append.mp member with before | here
          · exact ih ⟨event, before, removed⟩
          · cases List.mem_singleton.mp here
            rw [reacts] at removed
            exact absurd removed (by decide)
      · rfl

/-- Of a post shown as published, the row is right if it says what the post's events said and
none of them removed it. -/
theorem postShown_iff {stored : Stored PostRow} {events : List PostEvent}
    (found : inbox.postRow context postId = some stored)
    (published : stored.row.status = .published) :
    PostShown normalizeText context postId silence inbox events ↔
      some stored.row.description = ownDescription normalizeText context silence events ∧
        ¬∃ event ∈ events, event.news = .removed := by
  rw [PostShown, found, Option.map_some]
  refine and_congr_right fun _ => imp_congr_right fun _ => ?_
  constructor
  · intro hidden
    exact hidden stored rfl published
  · intro impossible
    exact impossible.elim

/-- A right row stays right exactly under a harmless event. -/
theorem postShown_step (named : postId ≠ "") (published : inbox.PostPublished context postId)
    {earlier : List PostEvent} (event : PostEvent)
    (shown : PostShown normalizeText context postId silence inbox earlier) :
    PostShown normalizeText context postId silence
        (projectPost normalizeText context postId inbox event) (earlier ++ [event]) ↔
      Harmless normalizeText context postId silence inbox event := by
  obtain ⟨agree, hidden⟩ := shown
  have noRemoval : ¬∃ event ∈ earlier, event.news = .removed := by
    intro removal
    have said := ownDescription_isSome normalizeText context silence removal
    cases found : inbox.postRow context postId with
    | none =>
        rw [← agree, found] at said
        exact Bool.false_ne_true said
    | some stored => exact hidden removal stored found (published stored found)
  have removal : (∃ other ∈ earlier ++ [event], other.news = .removed) ↔
      event.news = .removed := by
    constructor
    · rintro ⟨other, member, removed⟩
      rcases List.mem_append.mp member with before | here
      · exact absurd ⟨other, before, removed⟩ noRemoval
      · exact List.mem_singleton.mp here ▸ removed
    · intro removed
      exact ⟨event, by simp, removed⟩
  cases found : inbox.postRow context postId with
  | none =>
      obtain ⟨first, there, told, shows⟩ := projectPost_new normalizeText event named found
      rw [found] at agree
      rw [postShown_iff normalizeText there shows, ownDescription_append, saidAfter, ← agree, removal, told,
        Harmless, found]
      cases event.news <;> simp
  | some stored =>
      obtain ⟨later, there, told, kept⟩ := projectPost_known normalizeText event named found
      rw [found] at agree
      rw [postShown_iff normalizeText there (kept.trans (published stored found)),
        ownDescription_append, saidAfter, ← agree, removal, told, Harmless, found]
      cases event.news with
      | described =>
          simp [PostDescription.followedBy_eq_updatedBy_iff]
      | removed => simp
      | reaction => simp [PostDescription.followedBy_eq_iff]

def projectPosts (normalizeText : String → String) (context : ProjectionContext)
    (postId : String) (inbox : Inbox) (events : List PostEvent) : Inbox :=
  events.foldl (projectPost normalizeText context postId) inbox

theorem projectPosts_published (named : postId ≠ "")
    (published : inbox.PostPublished context postId) (events : List PostEvent) :
    (projectPosts normalizeText context postId inbox events).PostPublished context postId := by
  induction events generalizing inbox with
  | nil => exact published
  | cons event rest ih => exact ih (projectPost_published normalizeText event named published)

/-- In every order of events about a post, its row says at each point what the post's own
events said last, and does not show a removed post as published, if and only if none of the
events is a removal, each event of the post itself says what there is to say, and each event
about somebody's reaction says nothing that the row does not say. -/
theorem post_row_describes_the_post (normalizeText : String → String)
    (context : ProjectionContext) (postId : String) (silence : Silence) (inbox : Inbox)
    (events : List PostEvent) (named : postId ≠ "")
    (unknown : inbox.postRow context postId = none) :
    (∀ earlier later, events = earlier ++ later →
      PostShown normalizeText context postId silence
        (projectPosts normalizeText context postId inbox earlier) earlier) ↔
      ∀ earlier event later, events = earlier ++ event :: later →
        Harmless normalizeText context postId silence
          (projectPosts normalizeText context postId inbox earlier) event := by
  have published : inbox.PostPublished context postId := by
    intro stored found
    rw [unknown] at found
    exact absurd found.symm (Option.some_ne_none stored)
  have step : ∀ earlier event,
      projectPosts normalizeText context postId inbox (earlier ++ [event]) =
        projectPost normalizeText context postId
          (projectPosts normalizeText context postId inbox earlier) event := fun _ _ =>
    List.foldl_concat ..
  refine forall_beginning_iff ?_ (fun earlier event shown => ?_) events
  · exact ⟨by rw [projectPosts, List.foldl_nil, unknown]; rfl,
      fun ⟨event, member, _⟩ => absurd member List.not_mem_nil⟩
  · rw [step]
    exact postShown_step normalizeText named
      (projectPosts_published normalizeText named published earlier) event shown

/-- What the page tells of its own post is harmless, where silence keeps what was said. -/
theorem harmless_of_described {event : PostEvent} (own : event.news = .described) :
    Harmless normalizeText context postId .keeps inbox event := by
  rw [Harmless, own]
  exact fun _ _ => trivial

end Run

section Example

private def page : ProjectionContext := ⟨1, 1, .facebook, 1, ["page"], 1⟩

private def postChange (item message : Option String) (createdTime : Int) : PostUpdate where
  postId := some "page_42"
  item := item
  message := message
  createdTime := some createdTime
  link := none
  caption := none
  permalinkUrl := none
  publishedAt := none
  postKind := none
  commentCount := none
  likeCount := none
  shareCount := none

private def menuAdded : PostEvent :=
  ⟨.described, postChange (some "photo") (some "Our new menu") 1000⟩

private def menuEdited : PostEvent :=
  ⟨.described, postChange (some "photo") (some "Our new winter menu") 1000⟩

private def menuLiked : PostEvent := ⟨.reaction, postChange (some "like") none 2000⟩

private def menuRemoved : PostEvent := ⟨.removed, postChange (some "photo") none 1000⟩

/-- An edit of a photo is shown. -/
theorem post_row_describes_the_post_edited :
    PostShown id page "page_42" .keeps
      (projectPosts id page "page_42" .empty [menuAdded, menuEdited])
      [menuAdded, menuEdited] := by
  refine (post_row_describes_the_post id page "page_42" .keeps .empty [menuAdded, menuEdited]
    (by decide) rfl).mpr ?_ [menuAdded, menuEdited] [] rfl
  intro earlier event later split
  apply harmless_of_described
  have member : event ∈ [menuAdded, menuEdited] := by
    rw [split]
    exact List.mem_append_right earlier List.mem_cons_self
  rcases List.mem_cons.mp member with rfl | other
  · rfl
  · cases List.mem_singleton.mp other
    rfl

/-- A like of a photo turns it into a text written when it was liked, and a removed photo stays
published, whatever silence says. -/
theorem like_rewrites_the_post :
    ¬PostShown id page "page_42" .erases
        (projectPosts id page "page_42" .empty [menuAdded, menuLiked]) [menuAdded, menuLiked] ∧
      ¬PostShown id page "page_42" .keeps
        (projectPosts id page "page_42" .empty [menuAdded, menuLiked]) [menuAdded, menuLiked] ∧
      ¬PostShown id page "page_42" .erases
        (projectPosts id page "page_42" .empty [menuAdded, menuRemoved])
        [menuAdded, menuRemoved] ∧
      ¬PostShown id page "page_42" .keeps
        (projectPosts id page "page_42" .empty [menuAdded, menuRemoved])
        [menuAdded, menuRemoved] := by
  refine ⟨fun shown => ?_, fun shown => ?_, fun shown => ?_, fun shown => ?_⟩
  · exact absurd shown.1 (by decide)
  · exact absurd shown.1 (by decide)
  · exact shown.2 ⟨menuRemoved, by simp, rfl⟩ _ rfl rfl
  · exact shown.2 ⟨menuRemoved, by simp, rfl⟩ _ rfl rfl

end Example

end UnifiedService.Projection
