import Mathlib.Data.Int.ConditionallyCompleteOrder
import Mathlib.Data.Prod.Lex
import Mathlib.Order.WithBot
import UnifiedService.Listing.CursorProperties
import UnifiedService.Listing.Queries

/-! Paging reads each row that is listed once, whatever the listing: the order of its query and
the predicate that takes it up again are those of one linear order of places. -/

set_option autoImplicit false

namespace UnifiedService.Listing

open UnifiedService.Library
open UnifiedService.Threads (visibleKinds)

section Places

/-- A null key is below all others. -/
def rank : Option Int → WithBot Int
  | some key => key
  | none => ⊥

def asPlace (place : Option Int × Nat) : WithBot Int ×ₗ Nat := toLex (rank place.1, place.2)

theorem comesAfter_iff {place row : Option Int × Nat} :
    comesAfter place row = true ↔ asPlace row < asPlace place := by
  obtain ⟨reached, reachedId⟩ := place
  obtain ⟨key, id⟩ := row
  unfold asPlace
  rw [Prod.Lex.toLex_lt_toLex]
  cases reached <;> cases key <;> simp [comesAfter, lessRow, rank]

theorem sortedBefore_iff {one other : Option Int × Nat} :
    sortedBefore one other = true ↔ asPlace other ≤ asPlace one := by
  obtain ⟨key, id⟩ := one
  obtain ⟨otherKey, otherId⟩ := other
  unfold asPlace
  rw [Prod.Lex.toLex_le_toLex]
  cases key <;> cases otherKey <;> simp [sortedBefore, rank]

variable {Row : Type} (key : Row → Option Timestamp) (id : Row → SafeId)

def place (row : Row) : WithBot Int ×ₗ Nat := asPlace (placeOf key id row)

theorem orderedRows_eq (limit : Nat) (rows : List Row) :
    orderedRows key id limit rows = (Keyset.listed (place key id) rows).take limit := by
  have same : (fun one other : Row =>
      sortedBefore (placeOf key id one) (placeOf key id other) = true) =
      fun one other => place key id other ≤ place key id one := by
    funext one other
    exact propext sortedBefore_iff
  unfold orderedRows Keyset.listed
  congr! 2

theorem places_distinct {rows : List Row} (distinct : (rows.map id).Nodup) :
    (rows.map (place key id)).Nodup := by
  refine List.Nodup.of_map (fun place => (ofLex place).2) ?_
  rw [List.map_map]
  have values : ((rows.map id).map SafeId.value).Nodup := by
    refine distinct.map ?_
    rintro ⟨one, _⟩ ⟨other, _⟩ rfl
    rfl
  rw [List.map_map] at values
  exact values

end Places

section Queries

variable {Row : Type} {key : Row → Option Timestamp} {id : Row → SafeId} {rows : List Row}
  {admits : Row → Bool}

theorem keysetQuery_first (limit : Nat) : keysetQuery key id rows admits limit none =
    .ok (Keyset.fetch (place key id) (rows.filter admits) limit none) := by
  rw [keysetQuery, orderedRows_eq, Keyset.fetch_first]

theorem bindKey_stored (key : Option Timestamp) :
    bindKey (key.map (·.date)) = .ok (key.map (·.date.getTime)) := by
  cases key with
  | none => rfl
  | some stamp => exact if_pos stamp.stored

theorem keysetQuery_after (limit : Nat) (row : Row) :
    keysetQuery key id rows admits limit (some ⟨(key row).map (·.date), id row⟩) =
      .ok (Keyset.fetch (place key id) (rows.filter admits) limit (some (place key id row))) := by
  have left : (fun other => admits other &&
      comesAfter ((key row).map (·.date.getTime), (id row).value) (placeOf key id other)) =
      fun other => decide (place key id other < place key id row) && admits other := by
    funext other
    rw [Bool.and_comm, Bool.eq_iff_iff.mpr (comesAfter_iff.trans decide_eq_true_iff.symm)]
    rfl
  rw [keysetQuery, bindKey_stored]
  change Except.ok (orderedRows _ _ _ _) = _
  rw [orderedRows_eq, left, ← List.filter_filter]
  rfl

theorem keysetQuery_congr {others : List Row} (distinct : (rows.map id).Nodup)
    (same : (rows.filter admits).Perm (others.filter admits)) (limit : Nat)
    (cursor : Option KeysetCursor) :
    keysetQuery key id rows admits limit cursor = keysetQuery key id others admits limit cursor := by
  have listed : ∀ part : Row → Bool,
      orderedRows key id limit (rows.filter fun row => admits row && part row) =
        orderedRows key id limit (others.filter fun row => admits row && part row) := by
    intro part
    have split : ∀ rows : List Row, (rows.filter fun row => admits row && part row) =
        (rows.filter admits).filter part := by
      intro rows
      rw [List.filter_filter]
      exact List.filter_congr fun row _ => Bool.and_comm _ _
    rw [orderedRows_eq, orderedRows_eq, split, split]
    refine congrArg (List.take limit) (Keyset.listed_eq_of_perm ?_ (same.filter part))
    exact places_distinct key id (distinct.sublist
      ((List.filter_sublist.trans List.filter_sublist).map id))
  cases cursor with
  | none =>
      have whole := listed fun _ => true
      simp only [Bool.and_true] at whole
      rw [keysetQuery, keysetQuery, whole]
  | some cursor =>
      rw [keysetQuery, keysetQuery]
      cases bindKey cursor.key with
      | error refused => rfl
      | ok reached => exact congrArg Except.ok (listed _)

theorem keysetQuery_paged (runtime : Runtime) (distinct : (rows.map id).Nodup) (limit : Nat) :
    Keyset.Paged (place key id) (rows.filter admits) limit
      (fun row => encodeKeysetCursor ((key row).map (·.date)) (id row)) fun cursor =>
        (keysetQuery key id rows admits (limit + 1) (decodeKeysetCursor runtime cursor)).map
          (Page.of limit fun row => encodeKeysetCursor ((key row).map (·.date)) (id row)) where
  distinct := places_distinct key id (distinct.sublist (List.filter_sublist.map id))
  first := by
    change (keysetQuery key id rows admits (limit + 1) none).map _ = _
    rw [keysetQuery_first]
    rfl
  resumes := by
    intro row member
    rw [decodeKeysetCursor_encode, keysetQuery_after]
    rfl

end Queries

section Reading

theorem clampLimit_pos (limit : Option ℚ) : 1 ≤ clampLimit limit := by
  cases limit with
  | none => decide
  | some limit =>
      unfold clampLimit
      dsimp only
      split
      · decide
      · rename_i least
        have floor : 1 ≤ ⌊limit⌋ := Int.le_floor.mpr (by push_cast; exact not_lt.mp least)
        have bound : 1 ≤ maxPageSize := by decide
        exact le_min (by omega) bound

def KeysetCursor.InRange (cursor : KeysetCursor) : Prop :=
  ∀ date, cursor.key = some date → timestampMin ≤ date.getTime

theorem keysetQuery_inRange {Row : Type} (key : Row → Option Timestamp) (id : Row → SafeId)
    (rows : List Row) (admits : Row → Bool) (limit : Nat) {cursor : KeysetCursor}
    (within : cursor.InRange) :
    ∃ found, keysetQuery key id rows admits limit (some cursor) = .ok found := by
  have bound : bindKey cursor.key = .ok (cursor.key.map (·.getTime)) := by
    cases reached : cursor.key with
    | none => rfl
    | some date => exact if_pos (within date reached)
  rw [keysetQuery, bound]
  exact ⟨_, rfl⟩

/-- Following the cursors of a listing reads what it admits, each row once and in order. A
text that does not decode is answered as the first page, one that decodes to a place in range
without an error. -/
structure ReadsOnce {Row : Type} (key : Row → Option Timestamp) (id : Row → SafeId)
    (admitted : List Row) (runtime : Runtime)
    (list : Option String → Except ListingError (Page Row String)) : Prop where
  reads : ∃ front last, Page.walk list (admitted.length + 1) none = some (front ++ [last]) ∧
    (∀ page ∈ front, page.hasMore = true) ∧ last.hasMore = false ∧
    ((front ++ [last]).flatMap Page.items).Perm admitted ∧
    ((front ++ [last]).flatMap Page.items).Nodup ∧
    ((front ++ [last]).flatMap Page.items).Pairwise fun one other =>
      sortedBefore (placeOf key id one) (placeOf key id other) = true
  restarts : ∃ page, list none = .ok page ∧
    ∀ text, decodeKeysetCursor runtime (some text) = none → list (some text) = .ok page
  follows : ∀ text cursor, decodeKeysetCursor runtime (some text) = some cursor →
    cursor.InRange → ∃ page, list (some text) = .ok page

variable {Row : Type} {key : Row → Option Timestamp} {id : Row → SafeId} {admitted : List Row}
  {runtime : Runtime} {list : Option String → Except ListingError (Page Row String)}

theorem ReadsOnce.of_paged {limit : Nat} (positive : 1 ≤ limit)
    (paged : Keyset.Paged (place key id) admitted limit
      (fun row => encodeKeysetCursor ((key row).map (·.date)) (id row)) list)
    (restarts : ∀ text, decodeKeysetCursor runtime (some text) = none →
      list (some text) = list none)
    (follows : ∀ text cursor, decodeKeysetCursor runtime (some text) = some cursor →
      cursor.InRange → ∃ page, list (some text) = .ok page) :
    ReadsOnce key id admitted runtime list := by
  obtain ⟨_, walked, items, front, last, rfl, ended, continued⟩ := Keyset.walk_reads paged positive
  refine ⟨⟨front, last, walked, continued, ended, ?_, ?_, ?_⟩, ⟨_, paged.first, ?_⟩, follows⟩
  · rw [items]
    exact Keyset.listed_perm _
  · rw [items]
    exact ((Keyset.listed_perm _).nodup_iff).mpr paged.distinct.of_map
  · have ordered : (Keyset.listed (place key id) admitted).Pairwise fun one other =>
        place key id other ≤ place key id one := Keyset.listed_pairwise admitted
    rw [items]
    exact ordered.imp fun later => sortedBefore_iff.mpr later
  · intro text undecoded
    rw [restarts text undecoded, paged.first]

theorem ReadsOnce.of_query {rows : List Row} {admits : Row → Bool}
    (distinct : (rows.map id).Nodup) (limit : Option ℚ)
    (answers : ∀ cursor, list cursor =
      (keysetQuery key id rows admits (clampLimit limit + 1) (decodeKeysetCursor runtime cursor)).map
        (Page.of (clampLimit limit) fun row =>
          encodeKeysetCursor ((key row).map (·.date)) (id row))) :
    ReadsOnce key id (rows.filter admits) runtime list := by
  refine .of_paged (clampLimit_pos limit) ?_ (fun text undecoded => ?_)
    fun text cursor decoded within => ?_
  · rw [funext answers]
    exact keysetQuery_paged runtime distinct _
  · rw [answers, answers, undecoded]
    rfl
  · obtain ⟨found, same⟩ := keysetQuery_inRange key id rows admits (clampLimit limit + 1) within
    rw [answers, decoded, same]
    exact ⟨_, rfl⟩

theorem ReadsOnce.of_empty (nothing : admitted = [])
    (empty : ∀ cursor, list cursor = .ok emptyPage) : ReadsOnce key id admitted runtime list := by
  subst nothing
  refine ⟨⟨[], emptyPage, ?_, fun _ member => absurd member List.not_mem_nil, rfl, .nil, .nil, .nil⟩,
    ⟨emptyPage, empty none, fun text _ => empty (some text)⟩,
    fun text _ _ _ => ⟨emptyPage, empty (some text)⟩⟩
  rw [List.length_nil, Page.walk, empty]
  rfl

/-- The rows of a table: no two share their key. -/
structure Stored {Row : Type} (id : Row → SafeId) where
  rows : List Row
  distinct : (rows.map id).Nodup

theorem listInbox_reads (runtime : Runtime) (conversations : Stored ConversationRow.id)
    (held : List String) (enterpriseId : Nat) (options : InboxOptions) :
    ReadsOnce ConversationRow.lastMessageAt ConversationRow.id
      (conversations.rows.filter (options.input held enterpriseId).admits) runtime
      (listInbox runtime conversations.rows held enterpriseId options) := by
  by_cases none_ : options.kinds held = []
  · refine .of_empty (List.filter_eq_nil_iff.mpr fun row _ => ?_) fun cursor => ?_
    · unfold InboxInput.admits InboxOptions.input
      rw [none_, List.contains_nil, Bool.and_false]
      exact Bool.false_ne_true
    · unfold listInbox
      dsimp only
      rw [if_pos none_, ite_self]
  · have visible : visibleKinds held ≠ [] := by
      intro nothing
      refine none_ ?_
      unfold InboxOptions.kinds
      rw [nothing]
      cases options.conversationKind <;> rfl
    refine .of_query conversations.distinct options.limit fun cursor => ?_
    unfold listInbox
    dsimp only
    rw [if_neg visible, if_neg none_]
    rfl

theorem listCustomers_reads (runtime : Runtime) (ilike : String → String → Bool)
    (customers : Stored CustomerRow.id) (identifiers : List IdentifierRow) (enterpriseId : Nat)
    (search : Option String) (limit : Option ℚ) :
    ReadsOnce CustomerRow.lastSeenAt CustomerRow.id
      (customers.rows.filter (admitsCustomer ilike identifiers enterpriseId search)) runtime
      (listCustomers runtime ilike customers.rows identifiers enterpriseId search limit) :=
  .of_query customers.distinct limit fun _ => rfl

theorem listPosts_reads (runtime : Runtime) (posts : Stored PostRow.id)
    (channels : List ChannelRow) (enterpriseId : Nat) {channelRefId channelId : Option Nat}
    (resolved : resolveChannel channels enterpriseId channelRefId = .ok channelId)
    (limit : Option ℚ) :
    ReadsOnce PostRow.publishedAt PostRow.id
      (posts.rows.filter (admitsPost channels enterpriseId channelId)) runtime
      (listPosts runtime posts.rows channels enterpriseId channelRefId limit) := by
  refine .of_query posts.distinct limit fun cursor => ?_
  unfold listPosts
  rw [resolved]
  rfl

theorem listThread_eq (rows : List MessageRow) (enterpriseId conversationId limit : Nat)
    (cursor : Option ThreadCursor) :
    listThread rows enterpriseId conversationId limit cursor =
      keysetQuery (fun row => some (MessageRow.sortedAt row)) MessageRow.id rows
        (admitsMessage enterpriseId conversationId) limit
        (cursor.map fun cursor => ⟨some cursor.sortedAt, cursor.id⟩) := by
  cases cursor with
  | none => rfl
  | some cursor =>
      rw [Option.map_some, listThread, keysetQuery]
      by_cases within : timestampMin ≤ cursor.sortedAt.getTime
      · have bound : bindKey (some cursor.sortedAt) = .ok (some cursor.sortedAt.getTime) :=
          if_pos within
        have same : ∀ row, comesAfter (some cursor.sortedAt.getTime, cursor.id.value)
            (placeOf (fun row => some (MessageRow.sortedAt row)) MessageRow.id row) =
            lessRow (some row.sortedAt.date.getTime, row.id.value)
              (some cursor.sortedAt.getTime, cursor.id.value) := by
          intro row
          simp [comesAfter, placeOf]
        rw [bound]
        change Except.ok _ = Except.ok _
        simp only [same]
      · have refused : bindKey (some cursor.sortedAt) = .error .timestampOutOfRange :=
          if_neg within
        rw [refused]
        rfl

theorem readThread_reads (runtime : Runtime) (messages : Stored MessageRow.id)
    (enterpriseId conversationId : Nat) (limit : Option ℚ) :
    ReadsOnce (fun row => some (MessageRow.sortedAt row)) MessageRow.id
      (messages.rows.filter (admitsMessage enterpriseId conversationId)) runtime
      (readThread runtime messages.rows enterpriseId conversationId limit none) := by
  have answers : readThread runtime messages.rows enterpriseId conversationId limit none =
      fun cursor => (keysetQuery (fun row => some (MessageRow.sortedAt row)) MessageRow.id
        messages.rows (admitsMessage enterpriseId conversationId) (clampLimit limit + 1)
        ((decodeThreadCursor runtime cursor).map fun cursor =>
          ⟨some cursor.sortedAt, cursor.id⟩)).map (Page.of (clampLimit limit) fun row =>
            encodeKeysetCursor (some (MessageRow.sortedAt row).date) row.id) := by
    funext cursor
    unfold readThread
    rw [Option.bind_none, Option.or_none, ← listThread_eq]
    rfl
  rw [answers]
  refine .of_paged (clampLimit_pos limit) ⟨?_, ?_, ?_⟩ (fun text undecoded => ?_)
    fun text cursor decoded within => ?_
  · exact places_distinct _ _ (messages.distinct.sublist (List.filter_sublist.map MessageRow.id))
  · change (keysetQuery _ _ _ _ _ none).map _ = _
    rw [keysetQuery_first]
    rfl
  · intro row member
    have decoded : decodeThreadCursor runtime
        (some (encodeKeysetCursor (some row.sortedAt.date) row.id)) =
        some ⟨row.sortedAt.date, row.id⟩ := by
      rw [decodeThreadCursor, decodeKeysetCursor_encode]
      rfl
    have resumed := @keysetQuery_after _ (fun row => some (MessageRow.sortedAt row)) MessageRow.id
      messages.rows (admitsMessage enterpriseId conversationId) (clampLimit limit + 1) row
    rw [Option.map_some] at resumed ⊢
    rw [decoded, Option.map_some, resumed]
    rfl
  · have keyless : decodeThreadCursor runtime (some text) = none := by
      rw [decodeThreadCursor, undecoded]
      rfl
    rw [keyless]
    rfl
  · obtain ⟨reached, id⟩ := cursor
    rw [decodeThreadCursor, decoded]
    cases reached with
    | none => exact ⟨_, rfl⟩
    | some date =>
        obtain ⟨found, same⟩ := keysetQuery_inRange (fun row => some (MessageRow.sortedAt row))
          MessageRow.id messages.rows (admitsMessage enterpriseId conversationId)
          (clampLimit limit + 1) within
        change ∃ page, Except.map _ (keysetQuery _ _ _ _ _ (some ⟨some date, id⟩)) = .ok page
        rw [same]
        exact ⟨_, rfl⟩

/-- Paging reads everything once, in each of the four listings: the cursors that it hands out
decode to where they were made, and a text that does not decode starts over, and one that
decodes to a place in range is followed without an error. -/
theorem paging_reads_once (runtime : Runtime) (ilike : String → String → Bool)
    (conversations : Stored ConversationRow.id) (customers : Stored CustomerRow.id)
    (identifiers : List IdentifierRow) (posts : Stored PostRow.id) (channels : List ChannelRow)
    (messages : Stored MessageRow.id) (held : List String) (enterpriseId : Nat)
    (options : InboxOptions) (search : Option String) (channelRefId : Option Nat)
    (conversationId : Nat) (limit : Option ℚ) :
    ReadsOnce ConversationRow.lastMessageAt ConversationRow.id
      (conversations.rows.filter (options.input held enterpriseId).admits) runtime
      (listInbox runtime conversations.rows held enterpriseId options) ∧
    ReadsOnce CustomerRow.lastSeenAt CustomerRow.id
      (customers.rows.filter (admitsCustomer ilike identifiers enterpriseId search)) runtime
      (listCustomers runtime ilike customers.rows identifiers enterpriseId search limit) ∧
    (match resolveChannel channels enterpriseId channelRefId with
      | .ok channelId => ReadsOnce PostRow.publishedAt PostRow.id
          (posts.rows.filter (admitsPost channels enterpriseId channelId)) runtime
          (listPosts runtime posts.rows channels enterpriseId channelRefId limit)
      | .error refused => ∀ cursor,
          listPosts runtime posts.rows channels enterpriseId channelRefId limit cursor =
            .error refused) ∧
    ReadsOnce (fun row => some (MessageRow.sortedAt row)) MessageRow.id
      (messages.rows.filter (admitsMessage enterpriseId conversationId)) runtime
      (readThread runtime messages.rows enterpriseId conversationId limit none) ∧
    ∀ key id, decodeKeysetCursor runtime (some (encodeKeysetCursor key id)) = some ⟨key, id⟩ := by
  refine ⟨listInbox_reads runtime conversations held enterpriseId options,
    listCustomers_reads runtime ilike customers identifiers enterpriseId search limit, ?_,
    readThread_reads runtime messages enterpriseId conversationId limit,
    decodeKeysetCursor_encode runtime⟩
  cases resolved : resolveChannel channels enterpriseId channelRefId with
  | ok channelId => exact listPosts_reads runtime posts channels enterpriseId resolved limit
  | error refused =>
      intro cursor
      unfold listPosts
      rw [resolved]
      rfl

/-- The text of `{"i":5}` is not what any key and id are encoded as, and is followed. -/
theorem made_up_cursor : ¬ ∀ (runtime : Runtime) (text : String),
    (∀ key id, encodeKeysetCursor key id ≠ text) →
    ∀ (conversations : Stored ConversationRow.id) (held : List String) (enterpriseId : Nat)
      (options : InboxOptions),
      listInbox runtime conversations.rows held enterpriseId options (some text) =
        listInbox runtime conversations.rows held enterpriseId options none := by
  intro restarts
  have decoded : ∀ runtime, decodeKeysetCursor runtime (some "eyJpIjo1fQ") =
      some ⟨none, ⟨5, by decide⟩⟩ := by
    intro runtime
    have text : "eyJpIjo1fQ" = Buffer.toBase64url (Buffer.ofUtf8 "\x7b\"i\":5\x7d") := by
      decide +kernel
    have parsed : JsonText.parse "\x7b\"i\":5\x7d" = .ok (.record [(jsUnits "i", .number 5 0)]) := rfl
    have number : safeInteger (.number 5 0) = some ⟨5, by decide⟩ := safeInteger_natCast ⟨5, by decide⟩
    have read : readCursor runtime "eyJpIjo1fQ" = .ok (some ⟨none, ⟨5, by decide⟩⟩) := by
      have plain : ("\x7b\"i\":5\x7d".toList.all fun letter =>
          decide (letter.toNat < 0x80)) = true := rfl
      unfold readCursor
      rw [text, Buffer.ofBase64url_toBase64url _ (by decide), Buffer.toUtf8_ofUtf8
        fun letter member => decide_eq_true_eq.mp (List.all_eq_true.mp plain letter member), parsed]
      have field : (JsonText.Value.record [(jsUnits "i", .number 5 0)]).field "i" =
          some (.number 5 0) := rfl
      have decoded : cursorOf runtime (.record [(jsUnits "i", .number 5 0)]) =
          some ⟨none, ⟨5, by decide⟩⟩ := by
        unfold cursorOf
        rw [field, Option.bind_some, number]
        rfl
      exact congrArg Except.ok decoded
    unfold decodeKeysetCursor
    dsimp only
    rw [if_neg (by decide), read]
  have unencoded : ∀ key id, encodeKeysetCursor key id ≠ "eyJpIjo1fQ" := by
    intro key id same
    have back := decodeKeysetCursor_encode ⟨fun _ => [], fun _ => none⟩ key id
    rw [same, decoded] at back
    obtain ⟨rfl, rfl⟩ := KeysetCursor.mk.inj (Option.some.inj back)
    revert same
    decide +kernel
  have listed := restarts ⟨fun _ => [], fun _ => none⟩ "eyJpIjo1fQ" unencoded
    ⟨[⟨⟨7, by decide⟩, 1, false, .open_, none, .directMessage, none⟩], by decide⟩
    ["conversations.view"] 1 ⟨none, none, none, none⟩
  unfold listInbox at listed
  rw [decoded] at listed
  revert listed
  decide +kernel

end Reading

end UnifiedService.Listing
