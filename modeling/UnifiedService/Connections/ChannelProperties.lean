import Mathlib.Data.List.Nodup
import UnifiedService.Connections.Service

/-! One channel per business and Page, whatever the order of callbacks and disconnects, and
what a disconnect leaves behind: a channel that acts for nobody and still bars every other
login from its Page. -/

set_option autoImplicit false

namespace UnifiedService.Connections

open UnifiedService.Library

/-! ### Identities -/

def ConnectionDb.identities (db : ConnectionDb) : List ChannelIdentity :=
  db.channels.rows.map (·.identity)

/-- What `channels_enterprise_platform_uniq` compares. -/
def ChannelIdentity.entry (identity : ChannelIdentity) : Nat × ChannelId :=
  (identity.enterpriseId, identity.channel)

def withIdentity (identities : List ChannelIdentity) (identity : ChannelIdentity) :
    List ChannelIdentity :=
  if identity ∈ identities then identities else identities ++ [identity]

theorem mem_withIdentity {identities : List ChannelIdentity} {identity other : ChannelIdentity} :
    other ∈ withIdentity identities identity ↔ other ∈ identities ∨ other = identity := by
  unfold withIdentity
  split
  · next present =>
      constructor
      · exact .inl
      · rintro (old | rfl)
        · exact old
        · exact present
  · simp

def HeldBy (identities : List ChannelIdentity) (enterpriseId connectionId : Nat)
    (channel : ChannelId) : Prop :=
  ∀ identity ∈ identities, identity.enterpriseId = enterpriseId → identity.channel = channel →
    identity.providerConnectionId = connectionId

theorem HeldBy.withIdentity {identities : List ChannelIdentity} {enterpriseId connectionId : Nat}
    {channel : ChannelId} (held : HeldBy identities enterpriseId connectionId channel)
    {identity : ChannelIdentity} (own : identity.providerConnectionId = connectionId) :
    HeldBy (withIdentity identities identity) enterpriseId connectionId channel := by
  intro other member same there
  rcases mem_withIdentity.mp member with old | rfl
  · exact held other old same there
  · exact own

theorem nodup_withIdentity {identities : List ChannelIdentity} {identity : ChannelIdentity}
    (unique : (identities.map (·.entry)).Nodup)
    (held : HeldBy identities identity.enterpriseId identity.providerConnectionId
      identity.channel) :
    ((withIdentity identities identity).map (·.entry)).Nodup := by
  unfold withIdentity
  split
  · exact unique
  · next absent =>
      rw [List.map_append, List.nodup_append]
      refine ⟨unique, List.pairwise_singleton _ _, fun entry there new last => ?_⟩
      rw [List.map_singleton, List.mem_singleton] at last
      rintro rfl
      obtain ⟨other, member, same⟩ := List.mem_map.mp there
      obtain ⟨enterprise, channel⟩ := Prod.mk.inj (same.trans last)
      have equal := ChannelIdentity.ext enterprise (held other member enterprise channel) channel
      exact absent (equal ▸ member)

theorem mem_foldl_withIdentity {more identities : List ChannelIdentity}
    {other : ChannelIdentity} :
    other ∈ more.foldl withIdentity identities ↔ other ∈ identities ∨ other ∈ more := by
  induction more generalizing identities with
  | nil => simp
  | cons identity more ih => rw [List.foldl_cons, ih, mem_withIdentity, List.mem_cons, or_assoc]

theorem nodup_foldl_withIdentity {more identities : List ChannelIdentity} {connectionId : Nat}
    (unique : (identities.map (·.entry)).Nodup)
    (own : ∀ identity ∈ more, identity.providerConnectionId = connectionId)
    (held : ∀ identity ∈ more,
      HeldBy identities identity.enterpriseId connectionId identity.channel) :
    ((more.foldl withIdentity identities).map (·.entry)).Nodup := by
  induction more generalizing identities with
  | nil => exact unique
  | cons identity more ih =>
      have first := own identity List.mem_cons_self
      refine ih ?_ ?_ ?_
      · refine nodup_withIdentity unique ?_
        rw [first]
        exact held identity List.mem_cons_self
      · exact fun other member => own other (List.mem_cons_of_mem _ member)
      · exact fun other member =>
          (held other (List.mem_cons_of_mem _ member)).withIdentity first

/-! ### What an upsert writes -/

def ConnectionDb.TokensCleared (db : ConnectionDb) : Prop :=
  ∀ row ∈ db.channels.rows, row.status = .disconnected → row.accessToken = none

def ConnectionDb.OwnedBy (db : ConnectionDb) (connectionId enterpriseId : Nat) : Prop :=
  ∀ identity ∈ db.identities, identity.providerConnectionId = connectionId →
    identity.enterpriseId = enterpriseId

structure Adds (db next : ConnectionDb) (added : List ChannelIdentity) : Prop where
  connections : next.connections = db.connections
  identities : next.identities = added.foldl withIdentity db.identities
  tokens : db.TokensCleared → next.TokensCleared

theorem Adds.nil (db : ConnectionDb) : Adds db db [] := ⟨rfl, rfl, id⟩

theorem Adds.append {db middle next : ConnectionDb} {first second : List ChannelIdentity}
    (before : Adds db middle first) (after : Adds middle next second) :
    Adds db next (first ++ second) := by
  constructor
  · rw [after.connections, before.connections]
  · rw [after.identities, before.identities, List.foldl_append]
  · exact fun cleared => after.tokens (before.tokens cleared)

theorem Adds.ownedBy {db next : ConnectionDb} {added : List ChannelIdentity}
    {connectionId enterpriseId : Nat} (adds : Adds db next added)
    (owned : db.OwnedBy connectionId enterpriseId)
    (own : ∀ identity ∈ added, identity.enterpriseId = enterpriseId) :
    next.OwnedBy connectionId enterpriseId := by
  intro identity member same
  rw [adds.identities] at member
  rcases mem_foldl_withIdentity.mp member with old | new
  · exact owned identity old same
  · exact own identity new

theorem findChannel_some {db : ConnectionDb} {connectionId : Nat} {channel : ChannelId}
    {found : Stored ChannelRow} (there : db.findChannel connectionId channel = some found) :
    db.channels.get? found.id = some found.row ∧
      found.row.identity.providerConnectionId = connectionId ∧
      found.row.identity.channel = channel := by
  obtain ⟨stored, wanted⟩ := Table.find?_some there
  rw [Bool.and_eq_true, beq_iff_eq, beq_iff_eq] at wanted
  exact ⟨stored, wanted⟩

theorem findChannel_none {db : ConnectionDb} {connectionId : Nat} {channel : ChannelId}
    (absent : db.findChannel connectionId channel = none) {row : ChannelRow}
    (member : row ∈ db.channels.rows) (same : row.identity.providerConnectionId = connectionId) :
    row.identity.channel ≠ channel := by
  intro there
  obtain ⟨id, found⟩ := Table.mem_rows_iff.mp member
  have missing := Table.find?_eq_none.mp absent id row found
  simp [same, there] at missing

theorem upsertChannel_adds {db : ConnectionDb} {input : UpsertChannelInput}
    (owned : db.OwnedBy input.identity.providerConnectionId input.identity.enterpriseId)
    (connects : input.status ≠ .disconnected) :
    Adds db (db.upsertChannel input).2 [input.identity] := by
  unfold ConnectionDb.upsertChannel
  cases found : db.findChannel input.identity.providerConnectionId input.identity.channel with
  | none =>
      refine ⟨rfl, ?_, fun cleared row member disconnected => ?_⟩
      · have absent : input.identity ∉ db.identities := by
          intro member
          obtain ⟨row, there, same⟩ := List.mem_map.mp member
          exact findChannel_none found there (by rw [same]) (by rw [same])
        show List.map _ (db.channels.rows ++ [_]) = _
        rw [List.map_append, List.foldl_cons, List.foldl_nil, withIdentity, if_neg absent]
        rfl
      · rcases List.mem_append.mp member with old | new
        · exact cleared row old disconnected
        · rw [List.mem_singleton.mp new] at disconnected
          exact absurd disconnected connects
  | some stored =>
      obtain ⟨there, connection, channel⟩ := findChannel_some found
      have listed : stored.row.identity ∈ db.identities :=
        List.mem_map.mpr ⟨stored.row, Table.mem_rows_iff.mpr ⟨stored.id, there⟩, rfl⟩
      have same : stored.row.identity = input.identity :=
        ChannelIdentity.ext (owned _ listed connection) connection channel
      refine ⟨rfl, ?_, fun cleared row member disconnected => ?_⟩
      · rw [List.foldl_cons, List.foldl_nil, withIdentity, if_pos (same ▸ listed)]
        refine Table.map_update db.channels ?_ stored.id
        intro row
        rfl
      · obtain ⟨id, at_⟩ := Table.mem_rows_iff.mp member
        rw [Table.get?_update] at at_
        split at at_
        · obtain ⟨old, -, rfl⟩ := Option.map_eq_some_iff.mp at_
          exact absurd disconnected connects
        · exact cleared row (Table.mem_rows_iff.mpr ⟨id, at_⟩) disconnected

theorem page_connects (page : DiscoveredPage) : page.status ≠ .disconnected := by
  unfold DiscoveredPage.status
  split <;> simp

def DiscoveredPage.identities (page : DiscoveredPage) (enterpriseId connectionId : Nat) :
    List ChannelIdentity :=
  page.channels.map fun channel => ⟨enterpriseId, connectionId, channel⟩

theorem page_identity_own {page : DiscoveredPage} {enterpriseId connectionId : Nat}
    {identity : ChannelIdentity} (member : identity ∈ page.identities enterpriseId connectionId) :
    identity.enterpriseId = enterpriseId ∧ identity.providerConnectionId = connectionId := by
  obtain ⟨channel, -, rfl⟩ := List.mem_map.mp member
  exact ⟨rfl, rfl⟩

section Pages

variable {encrypt : Encrypt} {enterpriseId connectionId : Nat} {db : ConnectionDb}

theorem upsertPage_adds (page : DiscoveredPage) (owned : db.OwnedBy connectionId enterpriseId) :
    Adds db (MetaConnectionService.upsertPage encrypt enterpriseId connectionId db page)
      (page.identities enterpriseId connectionId) := by
  unfold MetaConnectionService.upsertPage DiscoveredPage.identities DiscoveredPage.channels
  have first : Adds db (db.upsertChannel
      (MetaConnectionService.pageInput encrypt enterpriseId connectionId page)).2 _ :=
    upsertChannel_adds owned (page_connects page)
  cases truthy page.instagramAccountId with
  | none => exact first
  | some accountId =>
      refine first.append (upsertChannel_adds ?_ (page_connects page))
      exact first.ownedBy owned fun identity member => by rw [List.mem_singleton.mp member]; rfl

theorem upsertPages_adds (pages : List DiscoveredPage)
    (owned : db.OwnedBy connectionId enterpriseId) :
    Adds db (pages.foldl (MetaConnectionService.upsertPage encrypt enterpriseId connectionId) db)
      (pages.flatMap fun page => page.identities enterpriseId connectionId) := by
  induction pages generalizing db with
  | nil => exact .nil db
  | cons page pages ih =>
      have first := @upsertPage_adds encrypt _ _ _ page owned
      refine first.append (ih (first.ownedBy owned ?_))
      exact fun identity member => (page_identity_own member).1

end Pages

/-! ### What is committed -/

structure ConnectionDb.Sound (db : ConnectionDb) : Prop where
  logins : ∀ first second key, db.keyOf first = some key → db.keyOf second = some key →
    first = second
  owned : ∀ identity ∈ db.identities, ∃ key, db.keyOf identity.providerConnectionId = some key ∧
    key.enterpriseId = identity.enterpriseId
  unique : (db.identities.map (·.entry)).Nodup
  tokens : db.TokensCleared

namespace ConnectionDb

variable {db next : ConnectionDb}

theorem findConnection_some {key : ConnectionKey} {found : Stored ConnectionRow}
    (there : db.findConnection key = some found) : db.keyOf found.id = some key := by
  obtain ⟨stored, wanted⟩ := Table.find?_some there
  rw [keyOf, stored, Option.map_some, beq_iff_eq.mp wanted]

theorem findConnection_none {key : ConnectionKey} (absent : db.findConnection key = none)
    (id : Nat) : db.keyOf id ≠ some key := by
  intro same
  obtain ⟨row, there, own⟩ := Option.map_eq_some_iff.mp same
  have missing := Table.find?_eq_none.mp absent id row there
  simp [own] at missing

/-- The row of a login is its own, and no other login changes hands. -/
theorem upsertConnection_spec (input : UpsertConnectionInput) :
    (db.upsertConnection input).2.channels = db.channels ∧
      ∀ id key, (db.upsertConnection input).2.keyOf id = some key ↔
        db.keyOf id = some key ∨ id = (db.upsertConnection input).1 ∧ key = input.key := by
  unfold upsertConnection
  cases found : db.findConnection input.key with
  | none =>
      refine ⟨rfl, fun id key => ?_⟩
      show ((db.connections.insert _).get? id).map (·.key) = some key ↔ _
      rw [Table.get?_insert]
      split
      · next same =>
          subst same
          rw [keyOf, Table.get?_nextId]
          simp [eq_comm]
      · next other => simp [keyOf, other]
  | some stored =>
      have own := findConnection_some found
      refine ⟨rfl, fun id key => ?_⟩
      show ((db.connections.update stored.id _).get? id).map (·.key) = some key ↔ _
      rw [Table.get?_update]
      split
      · next same =>
          subst same
          obtain ⟨row, there, mine⟩ := Option.map_eq_some_iff.mp own
          rw [keyOf, there]
          simp [mine, eq_comm]
      · next other => simp [keyOf, Ne.symm other]

theorem upsertConnection_own (input : UpsertConnectionInput) :
    (db.upsertConnection input).2.keyOf (db.upsertConnection input).1 = some input.key :=
  ((upsertConnection_spec input).2 _ _).mpr (.inr ⟨rfl, rfl⟩)

/-- A login has one row: the one its upsert finds or makes. -/
theorem upsertConnection_logins (sound : db.Sound) (input : UpsertConnectionInput) :
    ∀ first second key, (db.upsertConnection input).2.keyOf first = some key →
      (db.upsertConnection input).2.keyOf second = some key → first = second := by
  -- Whoever had the key of the input before is the row the upsert found.
  have stable : ∀ id, db.keyOf id = some input.key → id = (db.upsertConnection input).1 := by
    intro id same
    unfold upsertConnection
    cases found : db.findConnection input.key with
    | none => exact absurd same (findConnection_none found id)
    | some stored => exact sound.logins _ _ _ same (findConnection_some found)
  intro first second key left right
  rcases ((upsertConnection_spec input).2 _ _).mp left with old | ⟨rfl, rfl⟩
  · rcases ((upsertConnection_spec input).2 _ _).mp right with oldToo | ⟨rfl, rfl⟩
    · exact sound.logins _ _ _ old oldToo
    · exact stable first old
  · rcases ((upsertConnection_spec input).2 _ _).mp right with oldToo | ⟨rfl, -⟩
    · exact (stable second oldToo).symm
    · rfl

end ConnectionDb

def HeldByLogin (db : ConnectionDb) (key : ConnectionKey) (channel : ChannelId) : Prop :=
  ∀ identity ∈ db.identities, identity.enterpriseId = key.enterpriseId →
    identity.channel = channel → db.keyOf identity.providerConnectionId = some key

def Holds (db : ConnectionDb) (enterpriseId : Nat) (channel : ChannelId) : Prop :=
  ∃ identity ∈ db.identities, identity.enterpriseId = enterpriseId ∧ identity.channel = channel

structure Connects (db next : ConnectionDb) (input : CallbackInput) : Prop where
  keys : ∀ id key, db.keyOf id = some key → next.keyOf id = some key
  logins : ∀ first second key, next.keyOf first = some key → next.keyOf second = some key →
    first = second
  identities : ∃ connectionId, next.keyOf connectionId = some input.key ∧
    next.identities = (input.channels.map fun channel =>
      ⟨input.key.enterpriseId, connectionId, channel⟩).foldl withIdentity db.identities
  tokens : next.TokensCleared

theorem flatMap_identities (pages : List DiscoveredPage) (enterpriseId connectionId : Nat) :
    pages.flatMap (fun page => page.identities enterpriseId connectionId) =
      (pages.flatMap (·.channels)).map fun channel => ⟨enterpriseId, connectionId, channel⟩ := by
  rw [List.map_flatMap]
  rfl

theorem commitCallback_connects {encrypt : Encrypt} {db : ConnectionDb} (sound : db.Sound)
    (input : CallbackInput) :
    Connects db (MetaConnectionService.commitCallback encrypt db input) input := by
  unfold MetaConnectionService.commitCallback
  let connection := MetaConnectionService.connectionInput encrypt input
  obtain ⟨channels, keys⟩ := @ConnectionDb.upsertConnection_spec db connection
  have own := @ConnectionDb.upsertConnection_own db connection
  have logins := ConnectionDb.upsertConnection_logins sound connection
  have identities : (db.upsertConnection connection).2.identities = db.identities := by
    unfold ConnectionDb.identities
    rw [channels]
  have owned : (db.upsertConnection connection).2.OwnedBy (db.upsertConnection connection).1
      input.key.enterpriseId := by
    intro identity member same
    rw [identities] at member
    obtain ⟨key, known, enterprise⟩ := sound.owned identity member
    have now := (keys _ _).mpr (.inl known)
    rw [same, own] at now
    rw [← enterprise, ← Option.some.inj now]
    rfl
  have adds := @upsertPages_adds encrypt _ _ _ input.usablePages owned
  have keyOf : ∀ id, ConnectionDb.keyOf (input.usablePages.foldl
      (MetaConnectionService.upsertPage encrypt input.key.enterpriseId
        (db.upsertConnection connection).1) (db.upsertConnection connection).2) id =
      (db.upsertConnection connection).2.keyOf id := by
    intro id
    unfold ConnectionDb.keyOf
    rw [adds.connections]
  constructor
  · intro id key known
    rw [keyOf, keys]
    exact .inl known
  · intro first second key left right
    rw [keyOf] at left right
    exact logins first second key left right
  · refine ⟨(db.upsertConnection connection).1, by rw [keyOf]; exact own, ?_⟩
    rw [adds.identities, identities, flatMap_identities]
    rfl
  · refine adds.tokens fun row member => ?_
    rw [channels] at member
    exact sound.tokens row member

structure Disconnects (db next : ConnectionDb) : Prop where
  keys : ∀ id, next.keyOf id = db.keyOf id
  identities : next.identities = db.identities
  tokens : db.TokensCleared → next.TokensCleared

theorem commitDisconnect_disconnects (db : ConnectionDb) (enterpriseId connectionId : Nat)
    (ids : List Nat) :
    Disconnects db ((db.disconnectChannels ids).revokeConnection enterpriseId connectionId) := by
  constructor
  · intro id
    show ((db.connections.update connectionId _).get? id).map (·.key) = (db.connections.get? id).map _
    rw [Table.get?_update]
    split
    · rw [Option.map_map]
      congr 1
      funext connection
      rw [Function.comp_apply]
      split <;> rfl
    · rfl
  · refine Table.map_updateWhere db.channels ?_
    intro id row _
    rfl
  · intro cleared row member disconnected
    obtain ⟨id, there⟩ := Table.mem_rows_iff.mp member
    rw [show ((db.disconnectChannels ids).revokeConnection enterpriseId connectionId).channels =
      (db.disconnectChannels ids).channels from rfl, ConnectionDb.disconnectChannels,
      Table.get?_updateWhere] at there
    obtain ⟨old, found, rfl⟩ := Option.map_eq_some_iff.mp there
    split
    · rfl
    · next untouched =>
        rw [if_neg untouched] at disconnected
        exact cleared old (Table.mem_rows_iff.mpr ⟨id, found⟩) disconnected

/-! ### Transactions under way -/

/-- What a callback may rely on about every channel it has written: nobody but its login
holds it, and nobody can come to hold it before its commit. -/
def Ready : ConnectionDb → ConnectionState → List LockedRow → Prop
  | db, .upserts input written left, locks =>
      (∀ channel ∈ input.channels, channel ∈ written ∨ channel ∈ left) ∧
        ∀ channel ∈ written, HeldByLogin db input.key channel ∧
          (Holds db input.key.enterpriseId channel ∨
            .entry input.key.enterpriseId channel ∈ locks)
  | _, _, _ => True

theorem Disconnects.sound {db next : ConnectionDb} (disconnects : Disconnects db next)
    (sound : db.Sound) : next.Sound := by
  constructor
  · intro first second key left right
    rw [disconnects.keys] at left right
    exact sound.logins first second key left right
  · intro identity member
    rw [disconnects.identities] at member
    rw [disconnects.keys]
    exact sound.owned identity member
  · rw [disconnects.identities]
    exact sound.unique
  · exact disconnects.tokens sound.tokens

theorem Disconnects.ready {db next : ConnectionDb} (disconnects : Disconnects db next)
    {state : ConnectionState} {locks : List LockedRow} (ready : Ready db state locks) :
    Ready next state locks := by
  cases state with
  | upserts input written left =>
      obtain ⟨covered, kept⟩ := ready
      refine ⟨covered, fun channel member => ?_⟩
      obtain ⟨held, safe⟩ := kept channel member
      constructor
      · intro identity there
        rw [disconnects.identities] at there
        rw [disconnects.keys]
        exact held identity there
      · unfold Holds
        rw [disconnects.identities]
        exact safe
  | _ => exact trivial

section Connecting

variable {db next : ConnectionDb} {input : CallbackInput} {locks : List LockedRow}
  {written : List ChannelId}

theorem Connects.mem_identities (connects : Connects db next input) {identity : ChannelIdentity}
    (member : identity ∈ next.identities) :
    identity ∈ db.identities ∨ identity.channel ∈ input.channels ∧
      identity.enterpriseId = input.key.enterpriseId ∧
      next.keyOf identity.providerConnectionId = some input.key := by
  obtain ⟨connectionId, own, identities⟩ := connects.identities
  rw [identities] at member
  rcases mem_foldl_withIdentity.mp member with old | new
  · exact .inl old
  · obtain ⟨channel, listed, rfl⟩ := List.mem_map.mp new
    exact .inr ⟨listed, rfl, own⟩

theorem Connects.sound (connects : Connects db next input) (sound : db.Sound)
    (ready : Ready db (.upserts input written []) locks) : next.Sound := by
  obtain ⟨covered, kept⟩ := ready
  constructor
  · exact connects.logins
  · intro identity member
    rcases connects.mem_identities member with old | ⟨-, enterprise, own⟩
    · obtain ⟨key, known, enterprise⟩ := sound.owned identity old
      exact ⟨key, connects.keys _ _ known, enterprise⟩
    · exact ⟨input.key, own, enterprise.symm⟩
  · obtain ⟨connectionId, own, identities⟩ := connects.identities
    rw [identities]
    refine @nodup_foldl_withIdentity _ _ connectionId sound.unique ?_ ?_
    · intro identity member
      obtain ⟨channel, -, rfl⟩ := List.mem_map.mp member
      rfl
    · intro identity member other there enterprise same
      obtain ⟨channel, listed, rfl⟩ := List.mem_map.mp member
      have wrote : channel ∈ written :=
        (covered channel listed).resolve_right List.not_mem_nil
      have known := (kept channel wrote).1 other there enterprise same
      exact connects.logins _ _ _ (connects.keys _ _ known) own
  · exact connects.tokens

/-- A callback that waits finds its channels still its own: whoever committed a new one for
the same business would have held the same entry. -/
theorem Connects.spares (connects : Connects db next input)
    (ready : Ready db (.upserts input written []) locks) {state : ConnectionState}
    {otherLocks : List LockedRow} (apart : locks.Disjoint otherLocks)
    (waiting : Ready db state otherLocks) : Ready next state otherLocks := by
  obtain ⟨covered, kept⟩ := ready
  cases state with
  | upserts other theirs left =>
      obtain ⟨coveredToo, keptToo⟩ := waiting
      refine ⟨coveredToo, fun channel member => ?_⟩
      obtain ⟨held, safe⟩ := keptToo channel member
      constructor
      · intro identity there enterprise same
        rcases connects.mem_identities there with old | ⟨listed, mine, own⟩
        · exact connects.keys _ _ (held identity old enterprise same)
        · have wrote : channel ∈ written := by
            rw [← same]
            exact (covered _ listed).resolve_right List.not_mem_nil
          obtain ⟨heldHere, safeHere⟩ := kept channel wrote
          have equal : input.key.enterpriseId = other.key.enterpriseId := mine.symm.trans enterprise
          -- Somebody holds it already: then both logins are the one that does.
          have holder : Holds db other.key.enterpriseId channel → input.key = other.key := by
            rintro ⟨found, present, ours, channelToo⟩
            have left := heldHere found present (ours.trans equal.symm) channelToo
            have right := held found present ours channelToo
            exact Option.some.inj (left.symm.trans right)
          rw [own]
          congr 1
          rcases safe with holds | locked
          · exact holder holds
          · rcases safeHere with holds | lockedHere
            · exact holder (equal ▸ holds)
            · exact absurd locked (apart (equal ▸ lockedHere))
      · refine safe.imp_left ?_
        rintro ⟨found, present, rest⟩
        obtain ⟨connectionId, -, identities⟩ := connects.identities
        refine ⟨found, ?_, rest⟩
        rw [identities]
        exact mem_foldl_withIdentity.mpr (.inl present)
  | _ => exact trivial

end Connecting

theorem hasOwn_some {db : ConnectionDb} {key : ConnectionKey} {channel : ChannelId}
    (own : db.hasOwn key channel = true) :
    ∃ identity ∈ db.identities, identity.channel = channel ∧
      db.keyOf identity.providerConnectionId = some key := by
  obtain ⟨connection, found, present⟩ := (Option.any_eq_true _ _).mp own
  obtain ⟨stored, there⟩ := Option.isSome_iff_exists.mp present
  obtain ⟨row, connectionId, same⟩ := findChannel_some there
  refine ⟨stored.row.identity, ?_, same, ?_⟩
  · exact List.mem_map.mpr ⟨stored.row, Table.mem_rows_iff.mpr ⟨stored.id, row⟩, rfl⟩
  · rw [connectionId]
    exact ConnectionDb.findConnection_some found

theorem holdsChannel_false {db : ConnectionDb} {enterpriseId : Nat} {channel : ChannelId}
    (free : db.holdsChannel enterpriseId channel = false) : ¬Holds db enterpriseId channel := by
  rintro ⟨identity, member, enterprise, same⟩
  obtain ⟨row, there, rfl⟩ := List.mem_map.mp member
  have missing := List.any_eq_false.mp free row there
  simp [enterprise, same] at missing

theorem heldByLogin_of_hasOwn {db : ConnectionDb} (sound : db.Sound) {key : ConnectionKey}
    {channel : ChannelId} (own : db.hasOwn key channel = true) :
    HeldByLogin db key channel ∧ Holds db key.enterpriseId channel := by
  obtain ⟨identity, member, same, known⟩ := hasOwn_some own
  have enterprise : identity.enterpriseId = key.enterpriseId := by
    obtain ⟨other, knownToo, enterprise⟩ := sound.owned identity member
    rw [known] at knownToo
    rw [← enterprise, Option.some.inj knownToo]
  refine ⟨fun other there theirs channelToo => ?_, identity, member, enterprise, same⟩
  have entry : other.entry = identity.entry :=
    Prod.ext (theirs.trans enterprise.symm) (channelToo.trans same.symm)
  rw [List.inj_on_of_nodup_map sound.unique there member entry]
  exact known

section Run

variable {encrypt : Encrypt} {db next : ConnectionDb} {state after : ConnectionState}
  {locks : List LockedRow}

theorem statement_continues (sound : db.Sound) (ready : Ready db state locks)
    (continues : state.statement encrypt db = .continues after) :
    Ready db after (locks ++ state.takes db) := by
  cases state with
  | connect input =>
      obtain rfl := Outcome.continues.inj continues
      exact trivial
  | claim input =>
      simp only [ConnectionState.statement] at continues
      split at continues
      · obtain rfl := Outcome.continues.inj continues
        exact ⟨fun channel member => .inr member, fun channel member =>
          absurd member List.not_mem_nil⟩
      · contradiction
  | upserts input written left =>
      cases left with
      | nil => contradiction
      | cons channel left =>
          obtain ⟨covered, kept⟩ := ready
          have covers : ∀ other ∈ input.channels, other ∈ channel :: written ∨ other ∈ left := by
            intro other member
            rcases covered other member with before | ahead
            · exact .inl (List.mem_cons_of_mem _ before)
            · rcases List.mem_cons.mp ahead with rfl | behind
              · exact .inl List.mem_cons_self
              · exact .inr behind
          have older : ∀ other ∈ written, HeldByLogin db input.key other ∧
              (Holds db input.key.enterpriseId other ∨
                .entry input.key.enterpriseId other ∈
                  locks ++ (ConnectionState.upserts input written (channel :: left)).takes db) :=
            fun other member =>
              ⟨(kept other member).1, (kept other member).2.imp_right (List.mem_append_left _)⟩
          simp only [ConnectionState.statement] at continues
          split at continues
          · next own =>
              obtain rfl := Outcome.continues.inj continues
              refine ⟨covers, fun other member => ?_⟩
              rcases List.mem_cons.mp member with rfl | before
              · obtain ⟨held, holds⟩ := heldByLogin_of_hasOwn sound own
                exact ⟨held, .inl holds⟩
              · exact older other before
          · next foreign =>
              split at continues
              · contradiction
              · next free =>
                  obtain rfl := Outcome.continues.inj continues
                  refine ⟨covers, fun other member => ?_⟩
                  rcases List.mem_cons.mp member with rfl | before
                  · have nobody := holdsChannel_false (Bool.eq_false_iff.mpr free)
                    refine ⟨fun identity there enterprise same => ?_, .inr ?_⟩
                    · exact absurd ⟨identity, there, enterprise, same⟩ nobody
                    · refine List.mem_append_right _ (List.mem_cons_of_mem _ ?_)
                      rw [if_neg foreign]
                      exact List.mem_cons_self
                  · exact older other before
  | disconnect enterpriseId connectionId =>
      obtain rfl := Outcome.continues.inj continues
      exact trivial
  | revoke enterpriseId connectionId ids =>
      obtain rfl := Outcome.continues.inj continues
      exact trivial
  | disconnected enterpriseId connectionId ids => contradiction

theorem statement_commits (sound : db.Sound) (ready : Ready db state locks)
    (commits : state.statement encrypt db = .commits next) :
    next.Sound ∧ ∀ other otherLocks, locks.Disjoint otherLocks → Ready db other otherLocks →
      Ready next other otherLocks := by
  cases state with
  | connect input => contradiction
  | claim input =>
      simp only [ConnectionState.statement] at commits
      split at commits <;> contradiction
  | upserts input written left =>
      cases left with
      | nil =>
          obtain rfl := Outcome.commits.inj commits
          have connects := @commitCallback_connects encrypt _ sound input
          exact ⟨connects.sound sound ready, fun other otherLocks apart waiting =>
            connects.spares ready apart waiting⟩
      | cons channel left =>
          simp only [ConnectionState.statement] at commits
          split at commits
          · contradiction
          · split at commits <;> contradiction
  | disconnect enterpriseId connectionId => contradiction
  | revoke enterpriseId connectionId ids => contradiction
  | disconnected enterpriseId connectionId ids =>
      obtain rfl := Outcome.commits.inj commits
      have disconnects := commitDisconnect_disconnects db enterpriseId connectionId ids
      exact ⟨disconnects.sound sound, fun other otherLocks _ waiting => disconnects.ready waiting⟩

theorem turn_keeps {server : ConnectionServer}
    {turn : Server.Turn ConnectionState ConnectionChoice}
    (keeps : Server.Keeps ConnectionDb.Sound Ready server)
    (allowed : mayBegin server turn = true) :
    Server.Keeps ConnectionDb.Sound Ready (server.turn (channelTransactions encrypt) turn) := by
  cases turn with
  | begins state =>
      refine keeps.begin ?_
      cases state with
      | upserts input written left => contradiction
      | _ => exact trivial
  | advances id choice =>
      refine keeps.advance ?_ ?_
      · intro db state locks choice after sound ready continues
        simp only [channelTransactions] at continues
        split at continues
        · contradiction
        · exact statement_continues sound ready continues
      · intro db state locks choice next sound ready commits
        simp only [channelTransactions] at commits
        split at commits
        · contradiction
        · exact statement_commits sound ready commits

end Run

/-! ### A callback by itself -/

def CallbackCommits (encrypt : Encrypt) (db : ConnectionDb) (input : CallbackInput) : Prop :=
  ∃ fuel next, (channelTransactions encrypt).alone ⟨false⟩ fuel db (.connect input) = some next

/-- The business has a channel for something the callback lists, under another login. Whether
it is disconnected is not asked. -/
def HeldElsewhere (db : ConnectionDb) (input : CallbackInput) : Prop :=
  ∃ id row, db.channels.get? id = some row ∧
    row.identity.enterpriseId = input.key.enterpriseId ∧
    row.identity.channel.platformChannelId ∈ input.platformChannelIds ∧
    db.keyOf row.identity.providerConnectionId ≠ some input.key

section Callback

variable {encrypt : Encrypt} {db : ConnectionDb} {input : CallbackInput}

theorem isOwn_iff (sound : db.Sound) {connectionId : Nat} {key : ConnectionKey} :
    some connectionId = (db.findConnection key).map (·.id) ↔ db.keyOf connectionId = some key := by
  cases found : db.findConnection key with
  | none => simpa using ConnectionDb.findConnection_none found connectionId
  | some stored =>
      have own := ConnectionDb.findConnection_some found
      rw [Option.map_some, Option.some.injEq]
      constructor
      · rintro rfl
        exact own
      · exact fun known => sound.logins _ _ _ known own

theorem claimed_iff (sound : db.Sound) :
    MetaConnectionService.claimedChannels db input ≠ [] ↔ HeldElsewhere db input := by
  unfold MetaConnectionService.claimedChannels ConnectionDb.findClaimedByAnotherConnection
  rw [ne_eq, List.map_eq_nil_iff]
  constructor
  · intro claimed
    obtain ⟨found, member⟩ := List.exists_mem_of_ne_nil _ claimed
    obtain ⟨there, wanted⟩ := Table.mem_select.mp member
    simp only [Bool.and_eq_true, beq_iff_eq, bne_iff_ne, List.contains_iff_mem] at wanted
    exact ⟨found.id, found.row, there, wanted.1.1, wanted.2, fun own =>
      wanted.1.2 ((isOwn_iff sound).mpr own)⟩
  · rintro ⟨id, row, there, enterprise, listed, foreign⟩
    have wanted : (row.identity.enterpriseId == input.key.enterpriseId &&
        some row.identity.providerConnectionId != (db.findConnection input.key).map (·.id) &&
        input.platformChannelIds.contains row.identity.channel.platformChannelId) = true := by
      simp only [Bool.and_eq_true, beq_iff_eq, bne_iff_ne, List.contains_iff_mem]
      exact ⟨⟨enterprise, fun own => foreign ((isOwn_iff sound).mp own)⟩, listed⟩
    exact List.ne_nil_of_mem ((@Table.mem_select _ db.channels _ ⟨id, row⟩).mpr ⟨there, wanted⟩)

/-- A claimed channel stops the callback at its second statement. -/
theorem not_commits_of_claimed (claimed : MetaConnectionService.claimedChannels db input ≠ []) :
    ¬CallbackCommits encrypt db input := by
  rintro ⟨fuel, next, result⟩
  have refused : (channelTransactions encrypt).statement db (.claim input) ⟨false⟩ = .throws := by
    simp [channelTransactions, ConnectionState.statement, MetaConnectionService.assertUnclaimed,
      claimed]
  cases fuel with
  | zero => contradiction
  | succ fuel =>
      rw [TransactionProgram.alone_continues rfl] at result
      cases fuel with
      | zero => contradiction
      | succ fuel =>
          rw [TransactionProgram.alone_throws refused] at result
          contradiction

theorem upserts_commit (free : ∀ channel ∈ input.channels,
      db.hasOwn input.key channel = true ∨
        db.holdsChannel input.key.enterpriseId channel = false)
    (written left : List ChannelId) (listed : left ⊆ input.channels) :
    (channelTransactions encrypt).alone ⟨false⟩ (left.length + 1) db
      (.upserts input written left) =
        some (MetaConnectionService.commitCallback encrypt db input) := by
  induction left generalizing written with
  | nil => exact TransactionProgram.alone_commits rfl 0
  | cons channel left ih =>
      have passes : (channelTransactions encrypt).statement db
          (.upserts input written (channel :: left)) ⟨false⟩ =
            .continues (.upserts input (channel :: written) left) := by
        simp only [channelTransactions, ConnectionState.statement, Bool.false_eq_true, if_false]
        rcases free channel (listed List.mem_cons_self) with own | nobody
        · rw [if_pos own]
        · rw [nobody]
          split <;> rfl
      rw [List.length_cons, TransactionProgram.alone_continues passes]
      exact ih _ fun other member => listed (List.mem_cons_of_mem _ member)

/-- A callback commits exactly when no channel of the business under another login has the id
of something it lists. -/
theorem callback_commits_iff (sound : db.Sound) :
    CallbackCommits encrypt db input ↔ ¬HeldElsewhere db input := by
  rw [← claimed_iff sound, ne_eq, not_not]
  constructor
  · intro commits
    by_contra claimed
    exact not_commits_of_claimed claimed commits
  · intro unclaimed
    have free : ∀ channel ∈ input.channels, db.hasOwn input.key channel = true ∨
        db.holdsChannel input.key.enterpriseId channel = false := by
      intro channel listed
      rw [or_iff_not_imp_right, Bool.not_eq_false]
      intro holds
      obtain ⟨row, member, wanted⟩ := List.any_eq_true.mp holds
      rw [Bool.and_eq_true, beq_iff_eq, beq_iff_eq] at wanted
      obtain ⟨id, there⟩ := Table.mem_rows_iff.mp member
      have own : db.keyOf row.identity.providerConnectionId = some input.key := by
        by_contra foreign
        refine (claimed_iff sound).mpr ⟨id, row, there, wanted.1, ?_, foreign⟩ unclaimed
        exact List.mem_map.mpr ⟨channel, listed, by rw [wanted.2]⟩
      obtain ⟨connection, found, same⟩ :=
        Option.map_eq_some_iff.mp ((isOwn_iff sound).mpr own).symm
      refine (Option.any_eq_true _ _).mpr ⟨connection, found, ?_⟩
      refine (Table.find?_isSome_iff _).mpr ⟨id, row, there, ?_⟩
      rw [Bool.and_eq_true, beq_iff_eq, beq_iff_eq]
      exact ⟨same.symm, wanted.2⟩
    have unclaimed_ : (channelTransactions encrypt).statement db (.claim input) ⟨false⟩ =
        .continues (.upserts input [] input.channels) := by
      simp [channelTransactions, ConnectionState.statement, MetaConnectionService.assertUnclaimed,
        unclaimed]
    refine ⟨input.channels.length + 3, MetaConnectionService.commitCallback encrypt db input, ?_⟩
    rw [TransactionProgram.alone_continues rfl, TransactionProgram.alone_continues unclaimed_]
    exact upserts_commit free [] input.channels (List.Subset.refl _)

end Callback

/-! ### What a disconnect releases -/

/-- At most one channel of a business that is not disconnected stands for an id. -/
def OneLiveChannel (db : ConnectionDb) : Prop :=
  ∀ first second one other, db.channels.get? first = some one →
    db.channels.get? second = some other → one.status ≠ .disconnected →
    other.status ≠ .disconnected → one.identity.enterpriseId = other.identity.enterpriseId →
    one.identity.channel = other.identity.channel → first = second

/-- A disconnected channel holds no token, and neither query returns it. -/
def DisconnectedInert (db : ConnectionDb) : Prop :=
  ∀ id row, db.channels.get? id = some row → row.status = .disconnected →
    row.accessToken = none ∧
      (∀ channel, ∀ found ∈ db.findAllByPlatformId channel, found.1 ≠ id) ∧
      ∀ enterpriseId, db.findSendContext enterpriseId id = none

/-- A callback of the same business through any other login, listing the Page of a
disconnected channel, commits. -/
def ReleasesPages (encrypt : Encrypt) (db : ConnectionDb) : Prop :=
  ∀ id row, db.channels.get? id = some row → row.status = .disconnected →
    row.identity.channel.platform = .facebook →
    ∀ request input, handleCallback request = .ok input →
      request.enterpriseId = row.identity.enterpriseId →
      db.keyOf row.identity.providerConnectionId ≠ some input.key →
      row.identity.channel.platformChannelId ∈ input.usablePages.map (·.pageId) →
      CallbackCommits encrypt db input

section Release

variable {encrypt : Encrypt} {db : ConnectionDb}

theorem oneLiveChannel_of_sound (sound : db.Sound) : OneLiveChannel db := by
  intro first second one other found there _ _ enterprise channel
  have position : ∀ {id row}, db.channels.get? id = some row →
      (db.identities.map (·.entry))[id]? = some row.identity.entry := by
    intro id row found
    rw [ConnectionDb.identities, List.map_map, List.getElem?_map]
    exact Option.map_eq_some_iff.mpr ⟨row, found, rfl⟩
  have left := position found
  have right := position there
  have entry : one.identity.entry = other.identity.entry := Prod.ext enterprise channel
  obtain ⟨within, atFirst⟩ := List.getElem?_eq_some_iff.mp left
  obtain ⟨withinToo, atSecond⟩ := List.getElem?_eq_some_iff.mp right
  exact (sound.unique.getElem_inj_iff).mp (atFirst.trans (entry.trans atSecond.symm))

theorem disconnectedInert_of_sound (sound : db.Sound) : DisconnectedInert db := by
  intro id row found disconnected
  refine ⟨sound.tokens row (Table.mem_rows_iff.mpr ⟨id, found⟩) disconnected, ?_, ?_⟩
  · rintro channel entry listed rfl
    obtain ⟨stored, member, rfl⟩ := List.mem_map.mp listed
    obtain ⟨there, wanted⟩ := Table.mem_select.mp member
    obtain rfl := Option.some.inj (found.symm.trans there)
    rw [Bool.and_eq_true, bne_iff_ne] at wanted
    exact wanted.2 disconnected
  · intro enterpriseId
    rw [ConnectionDb.findSendContext, found]
    simp [Option.filter, disconnected]

theorem page_listed {input : CallbackInput} {pageId : String}
    (listed : pageId ∈ input.usablePages.map (·.pageId)) : pageId ∈ input.platformChannelIds := by
  obtain ⟨page, member, rfl⟩ := List.mem_map.mp listed
  refine List.mem_map.mpr ⟨⟨.facebook, page.pageId⟩, ?_, rfl⟩
  exact List.mem_flatMap.mpr ⟨page, member, List.mem_cons_self⟩

def signInElsewhere (enterpriseId : Nat) (pageId providerUserId : String) : CallbackRequest where
  enterpriseId := enterpriseId
  enterpriseStatus := some .active
  providerUserId := providerUserId
  providerUserName := none
  accessToken := "token"
  pages :=
    [{ pageId := pageId
       pageName := none
       pageAccessToken := some "page token"
       instagramAccountId := none
       instagramUsername := none
       error := none }]

theorem signInElsewhere_accepted (enterpriseId : Nat) (pageId : String) {providerUserId : String}
    (named : providerUserId ≠ "") :
    handleCallback (signInElsewhere enterpriseId pageId providerUserId) =
      .ok
        { key := ⟨enterpriseId, providerUserId⟩
          providerUserName := none
          accessToken := "token"
          usablePages := (signInElsewhere enterpriseId pageId providerUserId).pages } := by
  rw [handleCallback, if_neg (by simp [signInElsewhere])]
  exact if_neg named

theorem releasesPages_iff (sound : db.Sound) :
    ReleasesPages encrypt db ↔ ∀ id row, db.channels.get? id = some row →
      row.identity.channel.platform = .facebook → row.status ≠ .disconnected := by
  constructor
  · intro releases id row found facebook disconnected
    have member : row.identity ∈ db.identities :=
      List.mem_map.mpr ⟨row, Table.mem_rows_iff.mpr ⟨id, found⟩, rfl⟩
    obtain ⟨key, known, enterprise⟩ := sound.owned row.identity member
    -- Any other login will do: here the user id with a letter put behind it.
    have named : key.providerUserId ++ "x" ≠ "" := by simp
    have accepted := signInElsewhere_accepted row.identity.enterpriseId
      row.identity.channel.platformChannelId named
    have foreign : db.keyOf row.identity.providerConnectionId ≠
        some ⟨row.identity.enterpriseId, key.providerUserId ++ "x"⟩ := by
      rw [known]
      intro same
      have users := congrArg (·.providerUserId.length) (Option.some.inj same)
      simp at users
    have listed : row.identity.channel.platformChannelId ∈
        (signInElsewhere row.identity.enterpriseId row.identity.channel.platformChannelId
          (key.providerUserId ++ "x")).pages.map (·.pageId) := List.mem_cons_self
    have commits := releases id row found disconnected facebook _ _ accepted rfl foreign listed
    exact (callback_commits_iff sound).mp commits
      ⟨id, row, found, rfl, page_listed listed, foreign⟩
  · intro none id row found disconnected facebook
    exact absurd disconnected (none id row found facebook)

end Release

/-! ### Runs -/

/-- A run of callbacks and disconnects, their statements in any order, up to any commit. -/
def ChannelRun (encrypt : Encrypt) (script : List (Server.Turn ConnectionState ConnectionChoice)) :
    Prop :=
  Server.Permits (channelTransactions encrypt) (fun server turn => mayBegin server turn = true)
    (.idle .empty) script

def committed (encrypt : Encrypt) (script : List (Server.Turn ConnectionState ConnectionChoice)) :
    ConnectionDb :=
  (Server.turns (channelTransactions encrypt) (.idle .empty) script).store

theorem empty_sound : ConnectionDb.empty.Sound := by
  constructor
  · intro first second key known
    contradiction
  · exact fun identity member => absurd member List.not_mem_nil
  · exact List.nodup_nil
  · exact fun row member => absurd member List.not_mem_nil

theorem committed_sound {encrypt : Encrypt}
    {script : List (Server.Turn ConnectionState ConnectionChoice)}
    (run : ChannelRun encrypt script) : (committed encrypt script).Sound :=
  (run.keeps (Server.Keeps ConnectionDb.Sound Ready)
    (fun _ _ keeps allowed => turn_keeps keeps allowed) (.idle empty_sound)).store

/-- After every commit of every run each business has one live channel for a platform id, and
no disconnected channel holds a token or is found. But a channel keeps its id for its login
whatever its status: a callback commits exactly when no other login of the business has one
for what it lists, and so Pages are released just as long as none is disconnected. -/
theorem pages_stay_with_their_login (encrypt : Encrypt)
    (script : List (Server.Turn ConnectionState ConnectionChoice))
    (run : ChannelRun encrypt script) :
    OneLiveChannel (committed encrypt script) ∧ DisconnectedInert (committed encrypt script) ∧
      (∀ input, CallbackCommits encrypt (committed encrypt script) input ↔
        ¬HeldElsewhere (committed encrypt script) input) ∧
      (ReleasesPages encrypt (committed encrypt script) ↔
        ∀ id row, (committed encrypt script).channels.get? id = some row →
          row.identity.channel.platform = .facebook → row.status ≠ .disconnected) := by
  have sound := committed_sound run
  exact ⟨oneLiveChannel_of_sound sound, disconnectedInert_of_sound sound,
    fun _ => callback_commits_iff sound, releasesPages_iff sound⟩

def connectAndDisconnect : List (Server.Turn ConnectionState ConnectionChoice) :=
  .begins (.connect ⟨⟨1, "owner"⟩, none, "token",
    (signInElsewhere 1 "page" "owner").pages⟩) :: List.replicate 4 (.advances 0 ⟨false⟩) ++
  .begins (.disconnect 1 0) :: List.replicate 3 (.advances 1 ⟨false⟩)

theorem connectAndDisconnect_run : ChannelRun id connectAndDisconnect := by
  unfold ChannelRun
  decide

/-- The page is disconnected and its token is gone. -/
theorem pages_after_disconnect :
    OneLiveChannel (committed id connectAndDisconnect) ∧
      DisconnectedInert (committed id connectAndDisconnect) :=
  have outcome := pages_stay_with_their_login id connectAndDisconnect connectAndDisconnect_run
  ⟨outcome.1, outcome.2.1⟩

/-- A colleague's login still finds the Page claimed after the disconnect. -/
theorem disconnect_keeps_page :
    ∃ script, ChannelRun id script ∧ ¬ReleasesPages id (committed id script) := by
  refine ⟨connectAndDisconnect, connectAndDisconnect_run, fun releases => ?_⟩
  have gone : ((committed id connectAndDisconnect).channels.get? 0).any (fun row =>
      row.status == .disconnected && row.identity == ⟨1, 0, ⟨.facebook, "page"⟩⟩) = true := by
    decide
  obtain ⟨row, found, there⟩ := (Option.any_eq_true _ _).mp gone
  rw [Bool.and_eq_true, beq_iff_eq, beq_iff_eq] at there
  obtain ⟨disconnected, identity⟩ := there
  have accepted := signInElsewhere_accepted 1 "page" (by decide : "colleague" ≠ "")
  have commits := releases 0 row found disconnected (by rw [identity]) _ _ accepted
    (by rw [identity]; rfl) (by rw [identity]; decide) (by rw [identity]; decide)
  exact not_commits_of_claimed (by decide) commits

end UnifiedService.Connections
