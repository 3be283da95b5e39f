import Mathlib.Data.List.Perm.Basic
import UnifiedService.Inbound.Webhook

/-! What a receipt owes to the objects of a delivery, and the shapes of a delivery under which
one bad value costs others nothing. -/

set_option autoImplicit false

namespace UnifiedService.Inbound

open UnifiedService.Library
open UnifiedService.Outbound (Platform)

/-! ### Loops that may fail -/

section Loops

variable {Failure Item State : Type}

theorem bind_ok_iff {Value Result : Type} {first : Except Failure Value}
    {rest : Value → Except Failure Result} {result : Result} :
    (first >>= rest) = .ok result ↔ ∃ value, first = .ok value ∧ rest value = .ok result := by
  cases first with
  | error failure =>
      constructor
      · intro impossible
        cases impossible
      · rintro ⟨value, impossible, -⟩
        cases impossible
  | ok value =>
      constructor
      · intro succeeds
        exact ⟨value, rfl, succeeds⟩
      · rintro ⟨_, same, succeeds⟩
        cases same
        exact succeeds

theorem forM_ok_iff {check : Item → Except Failure Unit} {items : List Item} :
    items.forM check = .ok () ↔ ∀ item ∈ items, check item = .ok () := by
  induction items with
  | nil => exact iff_of_true rfl fun _ member => absurd member List.not_mem_nil
  | cons first rest ih =>
      rw [show (first :: rest).forM check = (check first >>= fun _ => rest.forM check) from rfl,
        bind_ok_iff, List.forall_mem_cons, ← ih]
      constructor
      · rintro ⟨⟨⟩, passes, others⟩
        exact ⟨passes, others⟩
      · rintro ⟨passes, others⟩
        exact ⟨(), passes, others⟩

/-- A loop whose rounds succeed on what they accept succeeds if it accepts everything, and then
does what the rounds do. -/
theorem foldlM_ok_iff {round : State → Item → Except Failure State}
    {does : State → Item → State} {Accepts : Item → Prop}
    (spec : ∀ state item after,
      round state item = .ok after ↔ Accepts item ∧ after = does state item)
    {items : List Item} {state after : State} :
    items.foldlM round state = .ok after ↔
      (∀ item ∈ items, Accepts item) ∧ after = items.foldl does state := by
  induction items generalizing state with
  | nil =>
      rw [List.foldlM_nil, List.foldl_nil]
      constructor
      · intro same
        cases same
        exact ⟨fun _ member => absurd member List.not_mem_nil, rfl⟩
      · rintro ⟨-, rfl⟩
        rfl
  | cons first rest ih =>
      rw [List.foldlM_cons, bind_ok_iff, List.forall_mem_cons, List.foldl_cons]
      constructor
      · rintro ⟨next, here, later⟩
        obtain ⟨accepts, rfl⟩ := (spec state first next).mp here
        obtain ⟨others, same⟩ := ih.mp later
        exact ⟨⟨accepts, others⟩, same⟩
      · rintro ⟨⟨accepts, others⟩, same⟩
        exact ⟨does state first, (spec state first _).mpr ⟨accepts, rfl⟩, ih.mpr ⟨others, same⟩⟩

end Loops

/-! ### Reading a value -/

def elementsOf : Option Json → List Json
  | some (.arr items) => items
  | some (.str text) => text.toList.map fun letter => .str (String.singleton letter)
  | _ => []

/-- A loop can walk through it: it is absent, null, an array or a text. -/
def isIterable : Option Json → Bool
  | none | some .null | some (.arr _) | some (.str _) => true
  | some (.bool _) | some (.num _) | some (.decimal _) | some (.infinite _) | some (.obj _) => false

def isRecord : Json → Bool
  | .obj _ => true
  | .null | .bool _ | .num _ | .decimal _ | .infinite _ | .str _ | .arr _ => false

theorem iterate_ok_iff {value : Option Json} {items : List Json} :
    iterate value = .ok items ↔ isIterable value = true ∧ items = elementsOf value := by
  cases value with
  | none => simp [iterate, isIterable, elementsOf, eq_comm]
  | some value => cases value <;> simp [iterate, isIterable, elementsOf, eq_comm]

theorem readProperty_ok_iff {value : Json} {key : String} {found : Option Json} :
    readProperty value key = .ok found ↔ value ≠ .null ∧ found = value.field key := by
  cases value <;> simp [readProperty, eq_comm]

namespace IngestRuntime

variable (runtime : IngestRuntime)

theorem readItems_ok_iff {items : Option Json} {read : List Json} :
    readItems items = .ok read ↔
      isIterable items = true ∧ (∀ item ∈ elementsOf items, item ≠ .null) ∧
        read = elementsOf items := by
  have reads : ∀ item : Json,
      (discard (readProperty item "field") : Except IngestError Unit) = .ok () ↔
        item ≠ .null := by
    intro item
    cases item <;> simp [readProperty, discard, Functor.discard, Functor.mapConst, Except.map]
  rw [readItems, bind_ok_iff]
  constructor
  · rintro ⟨walked, iterates, rest⟩
    obtain ⟨iterable, rfl⟩ := iterate_ok_iff.mp iterates
    obtain ⟨⟨⟩, passes, same⟩ := bind_ok_iff.mp rest
    cases same
    exact ⟨iterable, fun item member => (reads item).mp (forM_ok_iff.mp passes item member), rfl⟩
  · rintro ⟨iterable, present, rfl⟩
    refine ⟨_, iterate_ok_iff.mpr ⟨iterable, rfl⟩, bind_ok_iff.mpr ⟨(), ?_, rfl⟩⟩
    exact forM_ok_iff.mpr fun item member => (reads item).mpr (present item member)

/-! ### What a receipt does where nothing fails -/

def channelsOf (platform : Platform) (entry : Json) : List WebhookChannel :=
  match (entry.field "id").filter isTruthy with
  | none => []
  | some id => runtime.channels.filter fun channel =>
      channel.platform == platform && channel.platformChannelId == runtime.parameter id &&
        !channel.isDeleted && !channel.isDisconnected

def Askable (entry : Json) : Prop :=
  ∀ id, (entry.field "id").filter isTruthy = some id →
    '\x00' ∉ (runtime.parameter id).toList

def Receivable (platform : Platform) (entry : Json) : Prop :=
  entry ≠ .null ∧ runtime.Askable entry ∧
    (runtime.channelsOf platform entry ≠ [] →
      ∀ key ∈ ["changes", "messaging"], isIterable (entry.field key) = true ∧
        ∀ item ∈ elementsOf (entry.field key), item ≠ .null)

def itemsOf (entry : Json) : List Json :=
  elementsOf (entry.field "changes") ++ elementsOf (entry.field "messaging")

def flattened (platform : Platform) (entry : Json) : List WebhookItem :=
  flatten runtime.sha256
    ⟨elementsOf (entry.field "changes"), elementsOf (entry.field "messaging")⟩ platform

/-- `ingestEntry` on an entry it gets through. -/
def receive (platform : Platform) (state : IngestState) (entry : Json) : IngestState :=
  if runtime.channelsOf platform entry = [] then { state with unmatched := state.unmatched + 1 }
  else
    (runtime.channelsOf platform entry).foldl
      (fun state channel => (runtime.flattened platform entry).foldl
        (fun state item => runtime.offer platform channel item state) state) state

theorem matchedChannels_ok_iff {platform : Platform} {entry : Json}
    {channels : List WebhookChannel} :
    runtime.matchedChannels platform ((entry.field "id").filter isTruthy) = .ok channels ↔
      runtime.Askable entry ∧ channels = runtime.channelsOf platform entry := by
  unfold Askable channelsOf
  cases (entry.field "id").filter isTruthy with
  | none => simp [matchedChannels, eq_comm]
  | some id =>
      simp only [matchedChannels, findAllByPlatformId, List.contains_iff_mem, Option.some.injEq,
        forall_eq']
      split
      · next nul => simp [nul]
      · next clean => simp [clean, eq_comm]

theorem flattenEntry_ok_iff {platform : Platform} {entry : Json} {items : List WebhookItem} :
    runtime.flattenEntry platform entry = .ok items ↔
      (∀ key ∈ ["changes", "messaging"], isIterable (entry.field key) = true ∧
        ∀ item ∈ elementsOf (entry.field key), item ≠ .null) ∧
      items = runtime.flattened platform entry := by
  simp only [List.forall_mem_cons, List.not_mem_nil, false_implies, implies_true, and_true]
  rw [flattenEntry, bind_ok_iff]
  constructor
  · rintro ⟨changes, first, rest⟩
    obtain ⟨messaging, second, same⟩ := bind_ok_iff.mp rest
    obtain ⟨iterable, present, rfl⟩ := readItems_ok_iff.mp first
    obtain ⟨iterable', present', rfl⟩ := readItems_ok_iff.mp second
    cases same
    exact ⟨⟨⟨iterable, present⟩, iterable', present'⟩, rfl⟩
  · rintro ⟨⟨⟨iterable, present⟩, iterable', present'⟩, rfl⟩
    exact ⟨_, readItems_ok_iff.mpr ⟨iterable, present, rfl⟩,
      bind_ok_iff.mpr ⟨_, readItems_ok_iff.mpr ⟨iterable', present', rfl⟩, rfl⟩⟩

theorem ingestEntry_ok_iff (platform : Platform) (state : IngestState) (entry : Json)
    (after : IngestState) :
    runtime.ingestEntry platform state entry = .ok after ↔
      runtime.Receivable platform entry ∧ after = runtime.receive platform state entry := by
  rw [ingestEntry, bind_ok_iff, Receivable, receive]
  constructor
  · rintro ⟨id, read, rest⟩
    obtain ⟨present, rfl⟩ := readProperty_ok_iff.mp read
    obtain ⟨channels, asked, rest⟩ := bind_ok_iff.mp rest
    obtain ⟨askable, rfl⟩ := runtime.matchedChannels_ok_iff.mp asked
    by_cases unmatched : runtime.channelsOf platform entry = []
    · rw [if_pos unmatched] at rest ⊢
      cases rest
      exact ⟨⟨present, askable, fun matched => absurd unmatched matched⟩, rfl⟩
    · rw [if_neg unmatched] at rest ⊢
      obtain ⟨items, flattens, same⟩ := bind_ok_iff.mp rest
      obtain ⟨sound, rfl⟩ := runtime.flattenEntry_ok_iff.mp flattens
      cases same
      exact ⟨⟨present, askable, fun _ => sound⟩, rfl⟩
  · rintro ⟨⟨present, askable, sound⟩, rfl⟩
    refine ⟨_, readProperty_ok_iff.mpr ⟨present, rfl⟩,
      bind_ok_iff.mpr ⟨_, runtime.matchedChannels_ok_iff.mpr ⟨askable, rfl⟩, ?_⟩⟩
    by_cases unmatched : runtime.channelsOf platform entry = []
    · rw [if_pos unmatched, if_pos unmatched]
      rfl
    · rw [if_neg unmatched, if_neg unmatched]
      exact bind_ok_iff.mpr ⟨_, runtime.flattenEntry_ok_iff.mpr ⟨sound unmatched, rfl⟩, rfl⟩

/-- `ingest` succeeds on a body it can walk through, with entries it gets through. -/
theorem ingest_ok_iff {events : Table (InboundEventRow Json)} {body : Json}
    {after : IngestState} :
    runtime.ingest events body = .ok after ↔
      (isIterable (body.field "entry") = true ∧
        ∀ entry ∈ elementsOf (body.field "entry"), runtime.Receivable (platformOf body) entry) ∧
      after = (elementsOf (body.field "entry")).foldl (runtime.receive (platformOf body))
        (.start events) := by
  rw [ingest, bind_ok_iff]
  constructor
  · rintro ⟨entries, walked, rest⟩
    obtain ⟨iterable, rfl⟩ := iterate_ok_iff.mp walked
    obtain ⟨all, same⟩ := (foldlM_ok_iff (runtime.ingestEntry_ok_iff (platformOf body))).mp rest
    exact ⟨⟨iterable, all⟩, same⟩
  · rintro ⟨⟨iterable, all⟩, same⟩
    exact ⟨_, iterate_ok_iff.mpr ⟨iterable, rfl⟩,
      (foldlM_ok_iff (runtime.ingestEntry_ok_iff (platformOf body))).mpr ⟨all, same⟩⟩

/-! ### What was offered -/

def offered (state : IngestState) : List (Nat × Json) :=
  state.offers.map fun offer => (offer.1, offer.2.payload)

def Counted (state : IngestState) : Prop :=
  state.accepted + state.duplicates + state.failed = state.offers.length

def offersOf (platform : Platform) (entry : Json) : List (Nat × Json) :=
  (runtime.channelsOf platform entry).flatMap fun channel =>
    (itemsOf entry).map fun item => (channel.id, item)

theorem flattened_payloads (platform : Platform) (entry : Json) :
    (runtime.flattened platform entry).map (·.payload) = itemsOf entry := by
  simp only [flattened, flatten, itemsOf, List.map_append, List.map_map]
  congr 1
  · exact (List.map_congr_left fun _ _ => rfl).trans (List.map_id _)
  · exact (List.map_congr_left fun _ _ => rfl).trans (List.map_id _)

theorem offer_spec (platform : Platform) (channel : WebhookChannel) (item : WebhookItem)
    (state : IngestState) :
    offered (runtime.offer platform channel item state) =
        offered state ++ [(channel.id, item.payload)] ∧
      (Counted state → Counted (runtime.offer platform channel item state)) := by
  unfold offer
  dsimp only
  split
  · refine ⟨by simp [offered], fun counted => ?_⟩
    simp only [Counted, List.length_append, List.length_singleton] at counted ⊢
    omega
  · split
    · refine ⟨by simp [offered], fun counted => ?_⟩
      simp only [Counted, List.length_append, List.length_singleton] at counted ⊢
      omega
    · refine ⟨by simp [offered], fun counted => ?_⟩
      simp only [Counted, List.length_append, List.length_singleton] at counted ⊢
      omega

theorem offers_spec (platform : Platform) (channel : WebhookChannel) (items : List WebhookItem)
    (state : IngestState) :
    offered (items.foldl (fun state item => runtime.offer platform channel item state) state) =
        offered state ++ (items.map (·.payload)).map (channel.id, ·) ∧
      (Counted state →
        Counted (items.foldl (fun state item => runtime.offer platform channel item state)
          state)) := by
  induction items generalizing state with
  | nil => simp
  | cons item items ih =>
      obtain ⟨one, counts⟩ := runtime.offer_spec platform channel item state
      obtain ⟨more, countsMore⟩ := ih (runtime.offer platform channel item state)
      rw [List.foldl_cons]
      refine ⟨?_, fun counted => countsMore (counts counted)⟩
      rw [more, one, List.append_assoc]
      rfl

theorem receive_spec (platform : Platform) (entry : Json) (state : IngestState) :
    offered (runtime.receive platform state entry) =
        offered state ++ runtime.offersOf platform entry ∧
      (Counted state → Counted (runtime.receive platform state entry)) := by
  unfold receive offersOf
  split
  · next unmatched => exact ⟨by rw [unmatched]; simp [offered], id⟩
  · generalize runtime.channelsOf platform entry = channels
    induction channels generalizing state with
    | nil => simp
    | cons channel channels ih =>
        obtain ⟨one, counts⟩ :=
          runtime.offers_spec platform channel (runtime.flattened platform entry) state
        obtain ⟨more, countsMore⟩ := ih _
        rw [List.foldl_cons]
        refine ⟨?_, fun counted => countsMore (counts counted)⟩
        rw [more, one, flattened_payloads, List.flatMap_cons, List.append_assoc]

theorem receiveAll_spec (platform : Platform) (entries : List Json) (state : IngestState) :
    offered (entries.foldl (runtime.receive platform) state) =
        offered state ++ entries.flatMap (runtime.offersOf platform) ∧
      (Counted state → Counted (entries.foldl (runtime.receive platform) state)) := by
  induction entries generalizing state with
  | nil => simp
  | cons entry entries ih =>
      obtain ⟨one, counts⟩ := runtime.receive_spec platform entry state
      obtain ⟨more, countsMore⟩ := ih (runtime.receive platform state entry)
      rw [List.foldl_cons]
      refine ⟨?_, fun counted => countsMore (counts counted)⟩
      rw [more, one, List.flatMap_cons, List.append_assoc]

/-! ### What is owed to the objects of a delivery -/

def objectsIn : Option Json → List Json
  | some (.arr items) => items.filter isRecord
  | _ => []

theorem objectsIn_eq (value : Option Json) :
    objectsIn value = (elementsOf value).filter isRecord := by
  cases value with
  | none => rfl
  | some value =>
      cases value with
      | str text =>
          refine (List.filter_eq_nil_iff.mpr fun item member => ?_).symm
          obtain ⟨letter, -, rfl⟩ := List.mem_map.mp member
          exact Bool.false_ne_true
      | _ => rfl

def entriesIn (body : Json) : List Json :=
  match body.field "entry" with
  | some (.arr entries) => entries
  | _ => []

/-- One offer for each object among the changes and messages of an entry, and each channel the
entry is about. -/
def owed (body : Json) : List (Nat × Json) :=
  (entriesIn body).flatMap fun entry =>
    (runtime.channelsOf (platformOf body) entry).flatMap fun channel =>
      (objectsIn (entry.field "changes") ++ objectsIn (entry.field "messaging")).map
        (channel.id, ·)

/-- A receipt answers with a summary, offers every object as often as it is owed, and counts
these offers. -/
def Isolates (events : Table (InboundEventRow Json)) (body : Json) : Prop :=
  ∃ state, runtime.ingest events body = .ok state ∧
    ((offered state).filter fun offer => isRecord offer.2).Perm (runtime.owed body) ∧
    state.accepted + state.duplicates + state.failed = (runtime.owed body).length

def OnlyObjects (value : Option Json) : Prop :=
  isIterable value = true ∧ ∀ item ∈ elementsOf value, isRecord item = true

/-- The entries can be walked through, none is null, the id of each gets to the database, and
one that is about a channel has only objects for changes and messages. -/
def Wholesome (body : Json) : Prop :=
  isIterable (body.field "entry") = true ∧
    ∀ entry ∈ elementsOf (body.field "entry"), entry ≠ .null ∧ runtime.Askable entry ∧
      (runtime.channelsOf (platformOf body) entry ≠ [] →
        OnlyObjects (entry.field "changes") ∧ OnlyObjects (entry.field "messaging"))

theorem owed_eq (body : Json) :
    runtime.owed body = ((elementsOf (body.field "entry")).flatMap
      (runtime.offersOf (platformOf body))).filter fun offer => isRecord offer.2 := by
  have perEntry : ∀ entry : Json,
      ((runtime.channelsOf (platformOf body) entry).flatMap fun channel =>
        (objectsIn (entry.field "changes") ++ objectsIn (entry.field "messaging")).map
          (channel.id, ·)) =
        (runtime.offersOf (platformOf body) entry).filter fun offer => isRecord offer.2 := by
    intro entry
    rw [offersOf, List.filter_flatMap]
    refine List.flatMap_congr fun channel _ => ?_
    rw [objectsIn_eq, objectsIn_eq, ← List.filter_append, List.filter_map]
    rfl
  rw [owed, List.filter_flatMap]
  unfold entriesIn
  split
  · next entries same =>
      rw [same]
      exact List.flatMap_congr fun entry _ => perEntry entry
  · next other =>
      -- The characters of a text are entries without an id.
      rw [List.flatMap_nil, eq_comm, List.flatMap_eq_nil_iff]
      intro entry member
      rw [← perEntry, List.flatMap_eq_nil_iff]
      intro channel matched
      cases found : body.field "entry" with
      | none => rw [found] at member; cases member
      | some value =>
          rw [found] at member
          cases value with
          | arr entries => exact absurd found (other entries)
          | str text =>
              obtain ⟨letter, -, rfl⟩ := List.mem_map.mp member
              cases matched
          | _ => cases member

/-- One bad item never costs another exactly where a delivery is well formed: for every body,
every subset of inserts that fail and every ledger, a receipt answers with a summary, offers
every change and message that is an object once for each channel of its entry, and counts these
offers, if and only if the entries, and the changes and messages of those about a channel, can
be walked through, no entry is null, no id holds a NUL, and such an entry has only objects. -/
theorem ingest_isolates_items (events : Table (InboundEventRow Json)) (body : Json) :
    runtime.Isolates events body ↔ runtime.Wholesome body := by
  obtain ⟨all, counts⟩ := runtime.receiveAll_spec (platformOf body)
    (elementsOf (body.field "entry")) (.start events)
  have counted := counts rfl
  rw [show offered (.start events) = [] from rfl, List.nil_append] at all
  have length : ∀ state, offered state = (elementsOf (body.field "entry")).flatMap
      (runtime.offersOf (platformOf body)) → Counted state →
      state.accepted + state.duplicates + state.failed =
        ((elementsOf (body.field "entry")).flatMap
          (runtime.offersOf (platformOf body))).length := by
    intro state same counted
    rw [← same, offered, List.length_map]
    exact counted
  have proper : ∀ entry, (∀ offer ∈ runtime.offersOf (platformOf body) entry,
      isRecord offer.2 = true) ↔
        (runtime.channelsOf (platformOf body) entry ≠ [] →
          ∀ item ∈ itemsOf entry, isRecord item = true) := by
    intro entry
    constructor
    · intro records matched item member
      obtain ⟨channel, here⟩ := List.exists_mem_of_ne_nil _ matched
      exact records (channel.id, item)
        (List.mem_flatMap.mpr ⟨channel, here, List.mem_map.mpr ⟨item, member, rfl⟩⟩)
    · intro records offer member
      obtain ⟨channel, here, there⟩ := List.mem_flatMap.mp member
      obtain ⟨item, inside, rfl⟩ := List.mem_map.mp there
      exact records (List.ne_nil_of_mem here) item inside
  constructor
  · rintro ⟨state, succeeds, -, total⟩
    obtain ⟨⟨iterable, receivable⟩, rfl⟩ := runtime.ingest_ok_iff.mp succeeds
    rw [length _ all counted, owed_eq] at total
    have records := List.length_filter_eq_length_iff.mp total.symm
    refine ⟨iterable, fun entry member => ?_⟩
    obtain ⟨present, askable, sound⟩ := receivable entry member
    refine ⟨present, askable, fun matched => ?_⟩
    have each := (proper entry).mp
      (fun offer inside => records offer (List.mem_flatMap.mpr ⟨entry, member, inside⟩)) matched
    obtain ⟨changes, messaging⟩ := List.forall_mem_append.mp each
    have walked := sound matched
    exact ⟨⟨(walked "changes" (by simp)).1, changes⟩, (walked "messaging" (by simp)).1, messaging⟩
  · rintro ⟨iterable, sound⟩
    have records : ∀ offer ∈ (elementsOf (body.field "entry")).flatMap
        (runtime.offersOf (platformOf body)), isRecord offer.2 = true := by
      intro offer member
      obtain ⟨entry, inside, here⟩ := List.mem_flatMap.mp member
      refine (proper entry).mpr (fun matched => ?_) offer here
      obtain ⟨changes, messaging⟩ := (sound entry inside).2.2 matched
      exact List.forall_mem_append.mpr ⟨changes.2, messaging.2⟩
    have present : ∀ item : Json, isRecord item = true → item ≠ .null := by
      rintro item record rfl
      exact Bool.false_ne_true record
    refine ⟨_, runtime.ingest_ok_iff.mpr ⟨⟨iterable, fun entry member => ?_⟩, rfl⟩, ?_, ?_⟩
    · obtain ⟨there, askable, objects⟩ := sound entry member
      refine ⟨there, askable, fun matched => ?_⟩
      obtain ⟨changes, messaging⟩ := objects matched
      simp only [List.forall_mem_cons, List.not_mem_nil, false_implies, implies_true, and_true]
      exact ⟨⟨changes.1, fun item inside => present item (changes.2 item inside)⟩,
        messaging.1, fun item inside => present item (messaging.2 item inside)⟩
    · rw [all, owed_eq]
    · rw [length _ all counted, owed_eq, List.filter_eq_self.mpr records]

end IngestRuntime

section Example

private def connected : IngestRuntime where
  channels := [⟨1, 1, .facebook, "1", false, false⟩]
  parameterText := fun _ => ""
  sha256 := id
  now := 0
  insertFails := fun _ => false

private def delivery : Json :=
  .obj [("object", .str "page"), ("entry", .arr [.obj [("id", .str "1"), ("changes", .arr
    [.null, .obj [("field", .str "feed"), ("value", .obj [("item", .str "comment"),
      ("comment_id", .str "1_2"), ("verb", .str "add")])]])]])]

/-- A null among the changes fails the delivery. -/
theorem null_change_fails_delivery : ¬connected.Isolates .empty delivery := by
  rintro ⟨state, succeeds, -⟩
  have fails : connected.ingest .empty delivery = .error .typeError := rfl
  rw [fails] at succeeds
  cases succeeds

end Example

end UnifiedService.Inbound
