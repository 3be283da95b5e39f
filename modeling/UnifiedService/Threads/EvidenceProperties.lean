import UnifiedService.Library.Stepwise
import UnifiedService.Threads.Attachments

/-! The kind of an attachment against what its row says of the file, and against the kind that
the backfill gives the same file: along every run of deliveries and link refreshes. -/

set_option autoImplicit false

namespace UnifiedService.Threads

open UnifiedService.Library
open UnifiedService.Outbound (truthy)

namespace UrlRuntime

variable (runtime : UrlRuntime)

def namedKind (mimeType url : Option String) : Option MediaKind :=
  (truthy (runtime.lowered mimeType)).bind fun mimeType => runtime.kindOfMimeType mimeType url

def ofKnownFamily (mimeType : Option String) : Bool :=
  (truthy (runtime.lowered mimeType)).any fun mimeType =>
    "video/".toList.isPrefixOf mimeType.toList || "audio/".toList.isPrefixOf mimeType.toList ||
      "image/".toList.isPrefixOf mimeType.toList

def evidence (mimeType url : Option String) : PlatformAttachment :=
  ⟨none, { AttachmentPayload.empty with url, mimeType }⟩

structure EvidenceKept (row : MediaRow) : Prop where
  labelled : runtime.ofKnownFamily row.mimeType = true →
    row.mediaKind = runtime.toMediaKind (evidence row.mimeType row.sourceUrl)
  unguessed : row.kindIsGuessed = false → ∀ kind,
    runtime.namedKind row.mimeType row.sourceUrl = some kind → row.mediaKind = kind

end UrlRuntime

/-! ### Runs -/

structure FreshAttachment where
  id : Nat
  attachment : WebhookAttachment

/-- What a refresh writes of it: the link, and the mime type if there is one. -/
def FreshAttachment.update (fresh : FreshAttachment) : InboxDb.LinkUpdate :=
  ⟨fresh.id, fresh.attachment.url, truthy fresh.attachment.mimeType⟩

def freshFor (enterpriseId : Nat) (fresh : List FreshAttachment) (row : MediaRow) :
    Option FreshAttachment :=
  fresh.find? fun fresh => fresh.id == row.id && row.enterpriseId == enterpriseId

/-- A message is stored with its attachments, delivered or translated from the read edge, or
links are refreshed from the read edge. -/
inductive MediaStep where
  | store (enterpriseId messageId : Nat) (attachments : List PlatformAttachment)
  | refresh (enterpriseId : Nat) (fresh : List FreshAttachment)

namespace UrlRuntime

variable (runtime : UrlRuntime)

def performMedia (rows : List MediaRow) : MediaStep → List MediaRow
  | .store enterpriseId messageId attachments =>
      rows ++ mediaRows enterpriseId messageId rows.length
        (runtime.normalizeAttachments attachments).attachments
  | .refresh enterpriseId fresh => refreshMedia enterpriseId (fresh.map (·.update)) rows

def runMedia (steps : List MediaStep) : List MediaRow := steps.foldl runtime.performMedia []

/-- The kind the backfill gives an attachment, wherever it stands in its message. -/
def BackfilledAs (attachment : WebhookAttachment) (kind : MediaKind) : Prop :=
  ∀ before after : List WebhookAttachment, before.length < maxAttachmentsPerMessage →
    ((runtime.normalizeAttachments
      ((before ++ attachment :: after).map (·.toPlatform))).attachments[before.length]?).map
        (·.mediaKind) = some kind

/-- Every row keeps to its evidence, and those that the last step refreshed are of the kind
that the backfill gives what they were refreshed from. -/
structure Agrees (steps : List MediaStep) : Prop where
  kept : ∀ row ∈ runtime.runMedia steps, runtime.EvidenceKept row
  backfilled : ∀ earlier enterpriseId fresh, steps = earlier ++ [.refresh enterpriseId fresh] →
    ∀ row ∈ runtime.runMedia steps, ∀ entry, freshFor enterpriseId fresh row = some entry →
      runtime.BackfilledAs entry.attachment row.mediaKind

/-- An attachment of a mime type of the three families has no sticker id, and an image that is
no GIF has its link where the kind is told from, or one that is not animated. -/
def Plain (attachment : PlatformAttachment) : Prop :=
  runtime.ofKnownFamily attachment.payload.mimeType = true →
    attachment.payload.stickerId = none ∧
      (runtime.namedKind attachment.payload.mimeType none = some .image →
        attachment.payload.url.isSome = true ∨
          runtime.isAnimatedImageUrl attachment.payload.storyMediaUrl = false)

/-- The kind a label stands for. An image whose link is animated is a GIF. -/
def labelledKind (type url : String) : MediaKind :=
  match mediaKindByType (runtime.toLowerCase (jsTrim type)) with
  | some .image => if runtime.isAnimatedImageUrl (some url) then .gif else .image
  | some kind => kind
  | none => .document

/-- The kind of what the read edge has: the one its mime type names, or its label. -/
def freshKind (attachment : WebhookAttachment) : MediaKind :=
  (runtime.namedKind attachment.mimeType (some attachment.url)).getD
    (runtime.labelledKind attachment.type attachment.url)

/-- The attachments that are kept are plain. A fresh link, with the mime type that comes with
it or is held, names no other kind than the row has, and what it comes from is of that kind. -/
def Unchanging (rows : List MediaRow) : MediaStep → Prop
  | .store _ _ attachments =>
      ∀ attachment ∈ attachments.take maxAttachmentsPerMessage, runtime.Plain attachment
  | .refresh enterpriseId fresh =>
      ∀ row ∈ rows, ∀ entry, freshFor enterpriseId fresh row = some entry →
        (∀ kind, runtime.namedKind ((truthy entry.attachment.mimeType).or row.mimeType)
          (some entry.attachment.url) = some kind → kind = row.mediaKind) ∧
        runtime.freshKind entry.attachment = row.mediaKind

/-! ### Kinds -/

theorem kindOfMimeType_cases (mimeType : String) :
    (∀ url, runtime.kindOfMimeType mimeType url = none) ∨
      (∃ kind, kind ≠ .sticker ∧ kind ≠ .image ∧
        ∀ url, runtime.kindOfMimeType mimeType url = some kind) ∨
      ∀ url, runtime.kindOfMimeType mimeType url =
        some (if runtime.isAnimatedImageUrl url then .gif else .image) := by
  unfold kindOfMimeType
  split
  · exact .inr (.inl ⟨.video, by decide, by decide, fun _ => rfl⟩)
  · split
    · exact .inr (.inl ⟨.audio, by decide, by decide, fun _ => rfl⟩)
    · split
      · exact .inr (.inl ⟨.gif, by decide, by decide, fun _ => rfl⟩)
      · split
        · exact .inr (.inr fun _ => rfl)
        · exact .inl fun _ => rfl

theorem ofKnownFamily_iff (mimeType url : Option String) :
    runtime.ofKnownFamily mimeType = true ↔ (runtime.namedKind mimeType url).isSome = true := by
  unfold ofKnownFamily namedKind
  cases truthy (runtime.lowered mimeType) with
  | none => simp
  | some text =>
      rw [Option.any_some, Option.bind_some, kindOfMimeType]
      split
      · next video =>
          rw [video]
          exact iff_of_true rfl rfl
      · next video =>
          rw [Bool.eq_false_of_not_eq_true video, Bool.false_or]
          split
          · next audio =>
              rw [audio]
              exact iff_of_true rfl rfl
          · next audio =>
              rw [Bool.eq_false_of_not_eq_true audio, Bool.false_or]
              split
              · next gif =>
                  rw [gif]
                  exact iff_of_true (by decide) rfl
              · split
                · next image => exact iff_of_true image rfl
                · next image => exact iff_of_false image Bool.false_ne_true

theorem toMediaKind_eq {attachment : PlatformAttachment} {kind : MediaKind}
    (plain : attachment.payload.stickerId = none)
    (named : runtime.namedKind attachment.payload.mimeType attachment.payload.url = some kind) :
    runtime.toMediaKind attachment = kind := by
  rw [toMediaKind, plain, if_neg (by decide)]
  rw [namedKind] at named
  rw [named]

theorem evidenceKept_iff (row : MediaRow) :
    runtime.EvidenceKept row ↔
      ∀ kind, runtime.namedKind row.mimeType row.sourceUrl = some kind → row.mediaKind = kind := by
  constructor
  · intro kept kind named
    have family := (runtime.ofKnownFamily_iff row.mimeType row.sourceUrl).mpr
      (Option.isSome_of_eq_some named)
    rw [kept.labelled family]
    exact runtime.toMediaKind_eq rfl named
  · intro agrees
    have told : runtime.ofKnownFamily row.mimeType = true →
        ∃ kind, runtime.namedKind row.mimeType row.sourceUrl = some kind := fun family =>
      Option.isSome_iff_exists.mp ((runtime.ofKnownFamily_iff _ _).mp family)
    refine ⟨fun family => ?_, fun _ => agrees⟩
    obtain ⟨kind, named⟩ := told family
    rw [agrees kind named]
    exact (runtime.toMediaKind_eq rfl named).symm

/-! ### Deliveries -/

/-- Trimming and lowering what is trimmed and lowered changes nothing. -/
def Settles : Prop :=
  ∀ text, runtime.toLowerCase (jsTrim (runtime.toLowerCase (jsTrim text))) =
    runtime.toLowerCase (jsTrim text)

theorem namedKind_kept (settles : runtime.Settles) (mimeType url : Option String) :
    runtime.namedKind (truthy (runtime.lowered mimeType)) url =
      runtime.namedKind mimeType url := by
  suffices same : truthy (runtime.lowered (truthy (runtime.lowered mimeType))) =
      truthy (runtime.lowered mimeType) by
    rw [namedKind, same, namedKind]
  cases mimeType with
  | none => rfl
  | some text =>
      simp only [lowered, Option.map_some, truthy, Option.filter_some]
      split
      · next present =>
          rw [Option.map_some, settles, Option.filter_some, if_pos present]
      · rfl

theorem toMediaKind_of_named {attachment : PlatformAttachment} {kind : MediaKind}
    (named : runtime.namedKind attachment.payload.mimeType attachment.payload.url = some kind) :
    runtime.toMediaKind attachment =
      if attachment.payload.stickerId.isSome then .sticker else kind := by
  rw [toMediaKind]
  rw [namedKind] at named
  rw [named]

theorem animated_sourceUrl_iff (attachment : PlatformAttachment) :
    runtime.isAnimatedImageUrl attachment.payload.url =
        runtime.isAnimatedImageUrl (sourceUrlOf attachment) ↔
      attachment.payload.url.isSome = true ∨
        runtime.isAnimatedImageUrl attachment.payload.storyMediaUrl = false := by
  unfold sourceUrlOf
  cases attachment.payload.url with
  | none =>
      rw [Option.none_or, show runtime.isAnimatedImageUrl none = false from rfl, eq_comm]
      simp
  | some url => simp

theorem evidenceKept_iff_plain (settles : runtime.Settles) {row : MediaRow}
    {attachment : PlatformAttachment} (kind : row.mediaKind = runtime.toMediaKind attachment)
    (link : row.sourceUrl = sourceUrlOf attachment)
    (mime : row.mimeType = truthy (runtime.lowered attachment.payload.mimeType)) :
    runtime.EvidenceKept row ↔ runtime.Plain attachment := by
  rw [evidenceKept_iff, kind, link, mime, Plain]
  simp only [namedKind_kept runtime settles]
  cases told : truthy (runtime.lowered attachment.payload.mimeType) with
  | none => simp [namedKind, ofKnownFamily, told]
  | some text =>
      have named : ∀ url, runtime.namedKind attachment.payload.mimeType url =
          runtime.kindOfMimeType text url := fun url => by rw [namedKind, told, Option.bind_some]
      have family := runtime.ofKnownFamily_iff attachment.payload.mimeType none
      simp only [named] at family ⊢
      rcases runtime.kindOfMimeType_cases text with unknown | ⟨kind, noSticker, noImage, fixed⟩ |
        image
      · simp [family, unknown]
      · rw [runtime.toMediaKind_of_named ((named _).trans (fixed _))]
        simp only [fixed, family, Option.some.injEq, Option.isSome_some, forall_const,
          forall_eq']
        cases attachment.payload.stickerId with
        | none => simp [noImage]
        | some sticker => simp [noSticker.symm]
      · rw [runtime.toMediaKind_of_named ((named _).trans (image _)), family, image, image]
        simp only [Option.some.injEq, forall_eq', Option.isSome_some, forall_const,
          show runtime.isAnimatedImageUrl none = false from rfl, Bool.false_eq_true, if_false]
        rw [← animated_sourceUrl_iff]
        cases attachment.payload.stickerId with
        | none =>
            cases runtime.isAnimatedImageUrl attachment.payload.url <;>
              cases runtime.isAnimatedImageUrl (sourceUrlOf attachment) <;> simp
        | some sticker =>
            cases runtime.isAnimatedImageUrl (sourceUrlOf attachment) <;> simp

theorem normalizeAttachments_eq (attachments : List PlatformAttachment) :
    ∃ truncatedFrom, (runtime.normalizeAttachments attachments).attachments =
      (attachments.take maxAttachmentsPerMessage).mapIdx
        (runtime.normalizeAttachment truncatedFrom) := by
  unfold normalizeAttachments
  split
  · next nothing => exact ⟨none, by rw [nothing]; rfl⟩
  · refine ⟨if (attachments.take maxAttachmentsPerMessage).length < attachments.length then
      some attachments.length else none, ?_⟩
    dsimp only
    split <;> rfl

theorem mediaRows_eq (enterpriseId messageId firstId : Nat)
    (attachments : List PlatformAttachment) :
    ∃ rowOf : Nat → PlatformAttachment → MediaRow,
      mediaRows enterpriseId messageId firstId
          (runtime.normalizeAttachments attachments).attachments =
        (attachments.take maxAttachmentsPerMessage).mapIdx rowOf ∧
      ∀ index attachment,
        (rowOf index attachment).mediaKind = runtime.toMediaKind attachment ∧
        (rowOf index attachment).sourceUrl = sourceUrlOf attachment ∧
        (rowOf index attachment).mimeType =
          truthy (runtime.lowered attachment.payload.mimeType) := by
  obtain ⟨truncatedFrom, same⟩ := runtime.normalizeAttachments_eq attachments
  rw [same, mediaRows, List.mapIdx_mapIdx]
  exact ⟨_, rfl, fun _ _ => ⟨rfl, rfl, rfl⟩⟩

theorem stored_kept_iff (settles : runtime.Settles) (enterpriseId messageId firstId : Nat)
    (attachments : List PlatformAttachment) :
    (∀ row ∈ mediaRows enterpriseId messageId firstId
        (runtime.normalizeAttachments attachments).attachments, runtime.EvidenceKept row) ↔
      ∀ attachment ∈ attachments.take maxAttachmentsPerMessage, runtime.Plain attachment := by
  obtain ⟨rowOf, same, told⟩ :=
    runtime.mediaRows_eq enterpriseId messageId firstId attachments
  rw [same]
  generalize attachments.take maxAttachmentsPerMessage = kept
  have one : ∀ index attachment,
      runtime.EvidenceKept (rowOf index attachment) ↔ runtime.Plain attachment := by
    intro index attachment
    obtain ⟨kind, link, mime⟩ := told index attachment
    exact runtime.evidenceKept_iff_plain settles kind link mime
  constructor
  · intro sound attachment member
    obtain ⟨index, bound, rfl⟩ := List.mem_iff_getElem.mp member
    exact (one index kept[index]).mp (sound _ (List.mem_mapIdx.mpr ⟨index, bound, rfl⟩))
  · intro plain row member
    obtain ⟨index, bound, rfl⟩ := List.mem_mapIdx.mp member
    exact (one index kept[index]).mpr (plain _ (List.getElem_mem bound))

/-! ### Refreshes -/

/-- An attachment whose mime type names no kind is what its label says. -/
theorem toMediaKind_of_unnamed {attachment : PlatformAttachment}
    (plain : attachment.payload.stickerId = none)
    (unnamed : runtime.namedKind attachment.payload.mimeType attachment.payload.url = none) :
    runtime.toMediaKind attachment =
      if (mediaKindByType ((runtime.lowered attachment.type).getD "")).getD .document = .image ∧
          runtime.isAnimatedImageUrl attachment.payload.url = true then .gif
      else (mediaKindByType ((runtime.lowered attachment.type).getD "")).getD .document := by
  rw [toMediaKind, plain, if_neg (by decide)]
  rw [namedKind] at unnamed
  rw [unnamed]

theorem toMediaKind_toPlatform (attachment : WebhookAttachment) :
    runtime.toMediaKind attachment.toPlatform = runtime.freshKind attachment := by
  rw [freshKind]
  cases named : runtime.namedKind attachment.mimeType (some attachment.url) with
  | some kind => exact runtime.toMediaKind_eq rfl named
  | none =>
      rw [runtime.toMediaKind_of_unnamed rfl named, Option.getD_none, labelledKind,
        WebhookAttachment.toPlatform, lowered, Option.map_some, Option.getD_some]
      rcases mediaKindByType (runtime.toLowerCase (jsTrim attachment.type)) with _ | kind
      · rfl
      · cases kind <;> simp

theorem backfilledAs_iff (attachment : WebhookAttachment) (kind : MediaKind) :
    runtime.BackfilledAs attachment kind ↔ runtime.freshKind attachment = kind := by
  have one : ∀ before after : List WebhookAttachment, before.length < maxAttachmentsPerMessage →
      ((runtime.normalizeAttachments
        ((before ++ attachment :: after).map (·.toPlatform))).attachments[before.length]?).map
          (·.mediaKind) = some (runtime.freshKind attachment) := by
    intro before after room
    obtain ⟨truncatedFrom, same⟩ := runtime.normalizeAttachments_eq
      ((before ++ attachment :: after).map (·.toPlatform))
    rw [same, List.getElem?_mapIdx, List.getElem?_take_of_lt room, List.getElem?_map]
    simp [normalizeAttachment, toMediaKind_toPlatform]
  constructor
  · intro backfilled
    exact Option.some.inj ((one [] [] (by decide)).symm.trans (backfilled [] [] (by decide)))
  · rintro rfl
    exact one

theorem refreshed_kept_iff (row : MediaRow) (update : InboxDb.LinkUpdate) :
    runtime.EvidenceKept (row.refreshed update) ↔
      ∀ kind, runtime.namedKind (update.mimeType.or row.mimeType) (some update.sourceUrl) =
        some kind → kind = row.mediaKind := by
  rw [evidenceKept_iff]
  exact forall_congr' fun kind => imp_congr_right fun _ => eq_comm

def freshened (enterpriseId : Nat) (fresh : List FreshAttachment) (row : MediaRow) : MediaRow :=
  match freshFor enterpriseId fresh row with
  | some entry => row.refreshed entry.update
  | none => row

theorem refreshMedia_eq (enterpriseId : Nat) (fresh : List FreshAttachment)
    (rows : List MediaRow) :
    refreshMedia enterpriseId (fresh.map (·.update)) rows =
      rows.map (freshened enterpriseId fresh) := by
  refine List.map_congr_left fun row _ => ?_
  have addressed : (fun update : InboxDb.LinkUpdate => update.id == row.id &&
      row.enterpriseId == enterpriseId) ∘ FreshAttachment.update =
        fun fresh => fresh.id == row.id && row.enterpriseId == enterpriseId := rfl
  rw [List.find?_map, addressed, freshened, freshFor]
  cases fresh.find? fun fresh => fresh.id == row.id && row.enterpriseId == enterpriseId <;> rfl

theorem freshened_same (enterpriseId : Nat) (fresh : List FreshAttachment) (row : MediaRow) :
    freshFor enterpriseId fresh (freshened enterpriseId fresh row) =
        freshFor enterpriseId fresh row ∧
      (freshened enterpriseId fresh row).mediaKind = row.mediaKind := by
  have stays : (freshened enterpriseId fresh row).id = row.id ∧
      (freshened enterpriseId fresh row).enterpriseId = row.enterpriseId ∧
      (freshened enterpriseId fresh row).mediaKind = row.mediaKind := by
    unfold freshened
    split <;> exact ⟨rfl, rfl, rfl⟩
  refine ⟨?_, stays.2.2⟩
  unfold freshFor
  rw [stays.1, stays.2.1]

theorem freshened_kept_iff {enterpriseId : Nat} {fresh : List FreshAttachment} {row : MediaRow}
    (kept : runtime.EvidenceKept row) :
    runtime.EvidenceKept (freshened enterpriseId fresh row) ↔
      ∀ entry, freshFor enterpriseId fresh row = some entry →
        ∀ kind, runtime.namedKind ((truthy entry.attachment.mimeType).or row.mimeType)
          (some entry.attachment.url) = some kind → kind = row.mediaKind := by
  unfold freshened
  cases found : freshFor enterpriseId fresh row with
  | none => simp [kept]
  | some entry =>
      rw [refreshed_kept_iff]
      simp [FreshAttachment.update]

/-- A step leaves every row with its evidence, and as the backfill has it, exactly if it
changes neither. -/
theorem agrees_step_iff (settles : runtime.Settles) (earlier : List MediaStep)
    (step : MediaStep) (agrees : runtime.Agrees earlier) :
    runtime.Agrees (earlier ++ [step]) ↔ runtime.Unchanging (runtime.runMedia earlier) step := by
  have ran : runtime.runMedia (earlier ++ [step]) =
      runtime.performMedia (runtime.runMedia earlier) step := List.foldl_concat ..
  cases step with
  | store enterpriseId messageId attachments =>
      rw [Unchanging, ← stored_kept_iff runtime settles enterpriseId messageId
        (runtime.runMedia earlier).length]
      constructor
      · intro after row member
        refine after.kept row ?_
        rw [ran]
        exact List.mem_append_right _ member
      · intro plain
        refine ⟨fun row member => ?_, fun before other fresh split => ?_⟩
        · rw [ran] at member
          exact (List.mem_append.mp member).elim (agrees.kept row) (plain row)
        · have last := (List.append_inj' split rfl).2
          cases last
  | refresh enterpriseId fresh =>
      rw [performMedia, refreshMedia_eq] at ran
      constructor
      · intro after row member entry found
        have there : freshened enterpriseId fresh row ∈
            runtime.runMedia (earlier ++ [.refresh enterpriseId fresh]) := by
          rw [ran]
          exact List.mem_map_of_mem member
        obtain ⟨same, kind⟩ := freshened_same enterpriseId fresh row
        refine ⟨(runtime.freshened_kept_iff (agrees.kept row member)).mp (after.kept _ there)
          entry found, ?_⟩
        have backfilled := after.backfilled earlier enterpriseId fresh rfl _ there entry
          (same.trans found)
        rw [kind] at backfilled
        exact (runtime.backfilledAs_iff _ _).mp backfilled
      · intro unchanging
        refine ⟨fun row member => ?_, fun before other more split row member entry found => ?_⟩
        · rw [ran] at member
          obtain ⟨old, isOld, rfl⟩ := List.mem_map.mp member
          exact (runtime.freshened_kept_iff (agrees.kept old isOld)).mpr
            fun entry found => (unchanging old isOld entry found).1
        · have last := (List.append_inj' split rfl).2
          cases last
          rw [ran] at member
          obtain ⟨old, isOld, rfl⟩ := List.mem_map.mp member
          obtain ⟨same, kind⟩ := freshened_same enterpriseId fresh old
          rw [kind]
          exact (runtime.backfilledAs_iff _ _).mpr
            (unchanging old isOld entry (same.symm.trans found)).2

/-- In every run of deliveries, backfills and link refreshes, every row is labelled as its
mime type and link say, is not contradicted where its kind is no guess, and has, when its link
is refreshed, the kind that the backfill gives what it was refreshed from, if and only if at
every step the attachments that are stored are plain and those that links are refreshed from
name the kinds that the rows have. -/
theorem kinds_keep_to_evidence (settles : runtime.Settles) (steps : List MediaStep) :
    (∀ earlier later, steps = earlier ++ later → runtime.Agrees earlier) ↔
      ∀ earlier step later, steps = earlier ++ step :: later →
        runtime.Unchanging (runtime.runMedia earlier) step := by
  refine forall_beginning_iff ?_ (runtime.agrees_step_iff settles) steps
  refine ⟨fun _ member => absurd member List.not_mem_nil, fun earlier _ _ split => ?_⟩
  exact absurd split.symm (by simp)

/-- A refresh leaves the columns that the inbox service reads as `refreshSourceUrls` does. -/
theorem refreshMedia_toAttachmentRow (db : InboxDb) (enterpriseId : Nat)
    (updates : List InboxDb.LinkUpdate) {rows : List MediaRow}
    (held : db.attachments = rows.map (·.toAttachmentRow)) :
    (db.refreshSourceUrls enterpriseId updates).attachments =
      (refreshMedia enterpriseId updates rows).map (·.toAttachmentRow) := by
  rw [InboxDb.refreshSourceUrls, held, refreshMedia, List.map_map, List.map_map]
  refine List.map_congr_left fun row _ => ?_
  simp only [Function.comp_apply]
  cases updates.find? fun update =>
      update.id == row.id && row.enterpriseId == enterpriseId <;> rfl

end UrlRuntime

section Example

open UrlRuntime

private def lookaside : UrlRuntime where
  parse url :=
    if url = "https://lookaside.fbsbx.com/1" then some ⟨"lookaside.fbsbx.com", "/1", none⟩
    else none
  toLowerCase text := text

private def attached (type : String) : PlatformAttachment :=
  ⟨some type, { AttachmentPayload.empty with url := some "https://lookaside.fbsbx.com/1" }⟩

private def toldAs (type mimeType : String) : MediaStep :=
  .refresh 1 [⟨0, ⟨type, "https://lookaside.fbsbx.com/1", some mimeType, none⟩⟩]

/-- A voice note that turns out to be audio. -/
theorem kinds_keep_to_evidence_voice :
    lookaside.runMedia [.store 1 1 [attached "voice"], toldAs "file" "audio/mp4"] ≠ [] ∧
      lookaside.Agrees [.store 1 1 [attached "voice"], toldAs "file" "audio/mp4"] := by
  refine ⟨by decide, (kinds_keep_to_evidence lookaside (fun text => jsTrim_jsTrim text)
    [.store 1 1 [attached "voice"], toldAs "file" "audio/mp4"]).mpr ?_ _ [] rfl⟩
  intro earlier step later split
  match earlier with
  | [] =>
      cases split
      intro attachment member known
      cases List.mem_singleton.mp member
      exact absurd known (by decide)
  | [first] =>
      cases split
      intro row member entry found
      have stored : lookaside.runMedia [.store 1 1 [attached "voice"]] = [⟨⟨0, 1, 1,
          some "https://lookaside.fbsbx.com/1", 0, none, false, false⟩, .audio, false⟩] := by
        decide
      rw [stored] at member
      cases List.mem_singleton.mp member
      cases (show some (⟨0, ⟨"file", "https://lookaside.fbsbx.com/1", some "audio/mp4", none⟩⟩ :
        FreshAttachment) = some entry from found)
      refine ⟨fun kind named => ?_, by decide⟩
      rw [show lookaside.namedKind _ _ = some .audio by decide] at named
      exact (Option.some.inj named).symm
  | _ :: _ :: _ => simp at split

/-- A shared story that is told to be a video stays an image, and is no longer a guess. -/
theorem story_stays_an_image :
    ¬lookaside.Agrees [.store 1 1 [attached "ig_story"], toldAs "video" "video/mp4"] := by
  intro agrees
  have labelled := (agrees.kept ⟨⟨0, 1, 1, some "https://lookaside.fbsbx.com/1", 0,
    some "video/mp4", false, false⟩, .image, false⟩ (by decide)).labelled (by decide)
  exact absurd labelled (by decide)

end Example

end UnifiedService.Threads
