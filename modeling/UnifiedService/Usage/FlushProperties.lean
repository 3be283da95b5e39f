import UnifiedService.Usage.Figures

/-! Whether the statement of a flush is accepted, for any headers that were observed. -/

set_option autoImplicit false

namespace UnifiedService.Usage

open UnifiedService.Library

/-- A response as a process sees it. One that did not arrive has no headers. -/
structure Seen where
  nowMs : Nat
  headers : UsageHeaderSource
  throttled : Bool
  failed : Bool

def Seen.observation (seen : Seen) : MetaUsageObservation :=
  ⟨parseUsageReadings seen.headers, seen.throttled, seen.failed⟩

def countingsOf (responses : List Seen) : List Counting :=
  responses.flatMap fun seen => seen.observation.countings seen.nowMs

inductive FlushStep where
  | observed (seen : Seen)
  | flushed

def MetaUsageCollector.perform (collector : MetaUsageCollector) : FlushStep → MetaUsageCollector
  | .observed seen => collector.observe seen.nowMs seen.observation
  | .flushed => collector.taken

def pendingAfter (steps : List FlushStep) : List PendingBucket :=
  (steps.foldl MetaUsageCollector.perform .empty).pending

def sinceFlush (steps : List FlushStep) : List Seen :=
  steps.foldl
    (fun responses step =>
      match step with
      | .observed seen => responses ++ [seen]
      | .flushed => [])
    []

/-- What a flush meets: the time, the channels the database finds, and the owners known. -/
structure FlushEnvironment where
  nowMs : Nat
  answer : List (List Nat) → List ProviderScopeOwner
  owners : List Nat → Option CachedOwner

/-- A statement that is accepted: each row fits its columns, no two are of one pool and minute,
and there are not too many. -/
structure Sound (rows : List ProviderUsageBucket) : Prop where
  fits : ∀ row ∈ rows, ∃ stored, row.columns? = some stored
  apart : (rows.map (·.storedKey)).Nodup
  few : rows.length * usageColumns ≤ maxParameters

def GoesThrough (environment : FlushEnvironment) (buckets : List PendingBucket) : Prop :=
  match flushRows environment.nowMs environment.answer environment.owners buckets with
  | some (rows, _) => Sound rows
  | none => False

def Counting.storedKey (counting : Counting) : List Nat × Nat :=
  (codePoints counting.identity.scopeKey, bucketStart counting.nowMs)

/-- What a flush can take: no text with a null (of the products named for a pool, the first
counts), no two pools that are stored as one, no more calls of a pool than an `int` holds, and
no more pools than a statement has parameters for. -/
structure Digestible (countings : List Counting) : Prop where
  readable : ∀ counting ∈ countings, 0 ∉ counting.identity.scopeKey ∧
    ∀ product ∈ firstProduct counting.key countings, 0 ∉ product.units
  apart : ∀ counting ∈ countings, ∀ other ∈ countings,
    counting.storedKey = other.storedKey → counting.key = other.key
  countable : ∀ counting ∈ countings,
    (countings.filter fun other => other.key = counting.key).length ≤ 2147483647
  few : (countings.map (·.key)).dedup.length * usageColumns ≤ maxParameters

/-! ### What the database accepts -/

theorem mapM_columns?_isSome {rows : List ProviderUsageBucket}
    (fits : ∀ row ∈ rows, ∃ stored, row.columns? = some stored) :
    ∃ columns, rows.mapM (·.columns?) = some columns := by
  induction rows with
  | nil => exact ⟨[], rfl⟩
  | cons row rows ih =>
      obtain ⟨stored, first⟩ := fits row List.mem_cons_self
      obtain ⟨columns, rest⟩ := ih fun other member => fits other (List.mem_cons_of_mem _ member)
      exact ⟨stored :: columns, by rw [List.mapM_cons, first, rest]; rfl⟩

theorem of_mapM_columns? {rows : List ProviderUsageBucket} {columns : List UsageColumns}
    (short : ∀ row ∈ rows, row.scopeKey.length ≤ maxScopeKeyLength)
    (fitted : rows.mapM (·.columns?) = some columns) :
    (∀ row ∈ rows, ∃ stored, row.columns? = some stored) ∧
      columns.map (·.key) = rows.map (·.storedKey) := by
  induction rows generalizing columns with
  | nil =>
      cases fitted
      exact ⟨fun _ member => absurd member List.not_mem_nil, rfl⟩
  | cons row rows ih =>
      rw [List.mapM_cons] at fitted
      obtain ⟨stored, first, fitted⟩ := Option.bind_eq_some_iff.mp fitted
      obtain ⟨others, rest, fitted⟩ := Option.bind_eq_some_iff.mp fitted
      cases fitted
      obtain ⟨fits, keys⟩ := ih (fun other member => short other (List.mem_cons_of_mem _ member)) rest
      refine ⟨List.forall_mem_cons.mpr ⟨⟨stored, first⟩, fits⟩, ?_⟩
      rw [List.map_cons, List.map_cons, keys, (ProviderUsageBucket.columns?_eq_some first).key_eq
        (short row List.mem_cons_self)]

/-! ### What a flush takes -/

theorem pendingAfter_eq (steps : List FlushStep) :
    pendingAfter steps = pendingOf (countingsOf (sinceFlush steps)) := by
  induction steps using List.reverseRecOn with
  | nil => rfl
  | append_singleton steps step ih =>
      unfold pendingAfter sinceFlush
      rw [List.foldl_concat, List.foldl_concat]
      cases step with
      | flushed => rfl
      | observed seen =>
          unfold countingsOf
          rw [List.flatMap_append, List.flatMap_singleton]
          exact pending_observe ih seen.nowMs seen.observation

theorem sinceFlush_flushed (earlier later : List FlushStep) :
    sinceFlush (earlier ++ .flushed :: later) = sinceFlush later := by
  unfold sinceFlush
  rw [List.foldl_append, List.foldl_cons]

theorem calls_figuresOf (key : List Nat × Nat) (countings : List Counting) :
    (figuresOf id key countings).1 = (countings.filter fun other => other.key = key).length := by
  induction countings with
  | nil => rfl
  | cons counting countings ih =>
      rw [figuresOf, Accumulation.total_cons, ← figuresOf, Prod.fst_add, ih, id_eq]
      by_cases same : counting.key = key
      · rw [if_pos same, List.filter_cons, if_pos (decide_eq_true same), List.length_cons]
        exact Nat.add_comm ..
      · rw [if_neg same, List.filter_cons, if_neg (by simpa using same)]
        exact Nat.zero_add _

/-! ### Texts without a null -/

theorem MetaUsageReading.scopeKey_eq {reading : MetaUsageReading} (business : reading.meter ≠ .app) :
    reading.scopeKey = provider ++ jsUnits ":" ++
      ((reading.providerScopeId.map (·.units)).getD (jsUnits "unattributed")) ++ jsUnits ":" ++
        ((reading.product.map (·.units)).getD (jsUnits "unknown")) := by
  have clipped {limit : Nat} (text : Option (Clipped limit)) (default : List Nat)
      (short : default.length ≤ limit) : ((text.map (·.units)).getD default).length ≤ limit := by
    cases text with
    | none => exact short
    | some text => exact text.short
  have scope := clipped reading.providerScopeId (jsUnits "unattributed") (by decide)
  have product := clipped reading.product (jsUnits "unknown") (by decide)
  have own : provider.length = 4 := by decide
  have colon : (jsUnits ":").length = 1 := by decide
  rw [scopeKey, if_neg business, List.take_of_length_le]
  simp only [List.length_append, own, colon]
  exact Nat.le_trans (Nat.add_le_add (Nat.add_le_add_right (Nat.add_le_add_left scope _) _) product)
    (by decide)

theorem Seen.mem_scopeKey {seen : Seen} {counting : Counting}
    (counted : counting ∈ seen.observation.countings seen.nowMs)
    {id : Clipped maxBusinessIdLength} (named : counting.identity.providerScopeId = some id)
    {unit : Nat} (member : unit ∈ id.units) : unit ∈ counting.identity.scopeKey := by
  unfold MetaUsageObservation.countings at counted
  split at counted
  · rw [List.mem_singleton] at counted
    subst counted
    cases named
  · obtain ⟨reading, read, rfl⟩ := List.mem_map.mp counted
    rcases mem_parseUsageReadings read with ⟨-, nobody⟩ | ⟨business, -⟩
    · exact absurd (nobody.symm.trans named) nofun
    · change reading.providerScopeId = some id at named
      change unit ∈ reading.scopeKey
      rw [MetaUsageReading.scopeKey_eq (by rw [business]; decide), named]
      exact List.mem_append_left _ (List.mem_append_left _ (List.mem_append_right _ member))

theorem mem_addSiblings {own : Option (Clipped maxBusinessIdLength)}
    {siblingIds held : List (Clipped maxBusinessIdLength)} {id : Clipped maxBusinessIdLength}
    (member : id ∈ addSiblings own siblingIds held) : id ∈ held ∨ id ∈ siblingIds := by
  unfold addSiblings at member
  induction siblingIds generalizing held with
  | nil => exact .inl member
  | cons sibling siblingIds ih =>
      rcases ih member with there | later
      · dsimp only at there
        split at there
        · exact .inl there
        · rcases List.mem_append.mp there with there | new
          · exact .inl there
          · exact .inr (List.mem_singleton.mp new ▸ List.mem_cons_self)
      · exact .inr (List.mem_cons_of_mem _ later)

theorem siblings_pendingOf (countings : List Counting) :
    ∀ bucket ∈ pendingOf countings, ∀ id ∈ bucket.siblingIds,
      ∃ counting ∈ countings, id ∈ counting.observation.siblingIds := by
  induction countings using List.reverseRecOn with
  | nil => exact fun _ member => absurd member List.not_mem_nil
  | append_singleton countings counting ih =>
      have earlier {bucket : PendingBucket} (there : bucket ∈ pendingOf countings)
          {id : Clipped maxBusinessIdLength} (sibling : id ∈ bucket.siblingIds) :
          ∃ other ∈ countings ++ [counting], id ∈ other.observation.siblingIds := by
        obtain ⟨other, member, named⟩ := ih bucket there id sibling
        exact ⟨other, List.mem_append_left _ member, named⟩
      have here {id : Clipped maxBusinessIdLength} (named : id ∈ counting.observation.siblingIds) :
          ∃ other ∈ countings ++ [counting], id ∈ other.observation.siblingIds :=
        ⟨counting, List.mem_append_right _ (List.mem_singleton.mpr rfl), named⟩
      intro bucket member id sibling
      rw [pendingOf, List.foldl_concat] at member
      rcases MetaUsageCollector.fold_cases _ counting with ⟨-, -, same⟩ | gathered
      · rw [same] at member
        exact earlier member sibling
      · rw [gathered] at member
        rcases Accumulation.mem_gather member with ⟨there, -⟩ | ⟨before, there, -, rfl⟩ | ⟨-, rfl⟩
        · exact earlier there sibling
        · rcases mem_addSiblings sibling with held | named
          · exact earlier there held
          · exact here named
        · rcases mem_addSiblings sibling with none_ | named
          · exact absurd none_ List.not_mem_nil
          · exact here named

theorem sibling_counted {responses : List Seen} {counting : Counting}
    (counted : counting ∈ countingsOf responses) {id : Clipped maxBusinessIdLength}
    (sibling : id ∈ counting.observation.siblingIds) {unit : Nat} (member : unit ∈ id.units) :
    ∃ other ∈ countingsOf responses, unit ∈ other.identity.scopeKey := by
  obtain ⟨seen, there, counted⟩ := List.mem_flatMap.mp counted
  have ofSeen : counting.observation = seen.observation := by
    unfold MetaUsageObservation.countings at counted
    split at counted
    · rw [List.mem_singleton.mp counted]
    · obtain ⟨reading, -, rfl⟩ := List.mem_map.mp counted
      rfl
  rw [ofSeen] at sibling
  obtain ⟨reading, read, named⟩ := List.mem_filterMap.mp sibling
  split at named
  · obtain ⟨named, -⟩ := Option.filter_eq_some_iff.mp named
    have other : (⟨seen.observation, some reading, seen.nowMs⟩ : Counting) ∈
        seen.observation.countings seen.nowMs := by
      unfold MetaUsageObservation.countings
      rw [if_neg (List.ne_nil_of_mem read)]
      exact List.mem_map_of_mem read
    exact ⟨_, List.mem_flatMap.mpr ⟨seen, there, other⟩, seen.mem_scopeKey other named member⟩
  · cases named

/-! ### The statement -/

theorem fitting_toRow {bucket : PendingBucket} (owners : List Nat → Option CachedOwner)
    (readable : 0 ∉ bucket.scopeKey) (short : bucket.scopeKey.length ≤ maxScopeKeyLength)
    (sold : ∀ product ∈ bucket.product, 0 ∉ product.units)
    (known : ∀ id ∈ bucket.providerScopeId, 0 ∉ id.units) (calls : bucket.calls ≤ 2147483647)
    (outcomes : bucket.throttledCalls ≤ bucket.calls ∧ bucket.failedCalls ≤ bucket.calls) :
    (toRow owners bucket).Fitting where
  provider := by
    change 0 ∉ provider ∧ provider.length ≤ 30
    decide
  scopeKey := ⟨readable, short⟩
  meter := by
    have each : ∀ meter : MetaUsageMeter,
        0 ∉ jsUnits meter.text ∧ (jsUnits meter.text).length ≤ 30 := by
      intro meter
      cases meter <;> decide
    exact each bucket.meter
  product := by
    intro units there
    obtain ⟨product, held, rfl⟩ := Option.map_eq_some_iff.mp there
    exact ⟨sold product held, product.short⟩
  providerScopeId := by
    intro units there
    obtain ⟨id, held, rfl⟩ := Option.map_eq_some_iff.mp there
    exact ⟨known id held, id.short⟩
  enterpriseId := by
    intro id there
    obtain ⟨owner, -, rfl⟩ := Option.map_eq_some_iff.mp there
    exact ⟨le_trans (by decide) owner.least, owner.most.trans (by decide)⟩
  channelId := by
    intro id there
    obtain ⟨owner, -, rfl⟩ := Option.map_eq_some_iff.mp there
    exact ⟨le_trans (by decide) owner.least, owner.most.trans (by decide)⟩
  calls := calls
  throttledCalls := outcomes.1.trans calls
  failedCalls := outcomes.2.trans calls
  callPct := by
    intro pct there
    obtain ⟨figure, -, rfl⟩ := Option.map_eq_some_iff.mp there
    exact ⟨figure.least, figure.most⟩
  cpuPct := by
    intro pct there
    obtain ⟨figure, -, rfl⟩ := Option.map_eq_some_iff.mp there
    exact ⟨figure.least, figure.most⟩
  timePct := by
    intro pct there
    obtain ⟨figure, -, rfl⟩ := Option.map_eq_some_iff.mp there
    exact ⟨figure.least, figure.most⟩
  regainMinutes := by
    intro minutes there
    obtain ⟨figure, -, rfl⟩ := Option.map_eq_some_iff.mp there
    exact ⟨le_trans (by decide) figure.least, figure.most.trans (by decide)⟩

section Buffer

variable {countings : List Counting} {pending : List PendingBucket} (held : Held countings pending)

include held

theorem Held.keys_subset : pending.map (·.key) ⊆ (countings.map (·.key)).dedup := by
  intro key member
  obtain ⟨bucket, there, rfl⟩ := List.mem_map.mp member
  obtain ⟨counting, counted, same, -⟩ := held.within bucket there
  exact List.mem_dedup.mpr (List.mem_map.mpr ⟨counting, counted, same⟩)

theorem Held.length_le : pending.length ≤ (countings.map (·.key)).dedup.length := by
  have fewer := (held.distinct.subperm held.keys_subset).length_le
  rwa [List.length_map] at fewer

theorem Held.length_eq (room : pending.length < metaUsageMaxPendingBuckets) :
    (countings.map (·.key)).dedup.length = pending.length := by
  have all : (countings.map (·.key)).dedup ⊆ pending.map (·.key) := by
    intro key member
    obtain ⟨counting, counted, rfl⟩ := List.mem_map.mp (List.mem_dedup.mp member)
    exact held.named room counting counted
  refine le_antisymm ?_ held.length_le
  have fewer := ((List.nodup_dedup _).subperm all).length_le
  rwa [List.length_map] at fewer

theorem Held.bucket_of (room : pending.length < metaUsageMaxPendingBuckets) {counting : Counting}
    (counted : counting ∈ countings) :
    ∃ bucket ∈ pending, bucket.key = counting.key ∧
      bucket.calls = (countings.filter fun other => other.key = counting.key).length ∧
      bucket.product = firstProduct counting.key countings := by
  obtain ⟨bucket, there, same⟩ := List.mem_map.mp (held.named room counting counted)
  have summed := held.figures room id bucket.key
  have own : heldOf id bucket.key pending = bucket.figures :=
    Accumulation.total_eq_of_mem held.distinct there
  refine ⟨bucket, there, same, ?_, ?_⟩
  · rw [← same, ← calls_figuresOf, ← summed, own]
    rfl
  · rw [← same, held.products room bucket there]

end Buffer

theorem resolveOwners_accepted {responses : List Seen}
    (readable : ∀ counting ∈ countingsOf responses, 0 ∉ counting.identity.scopeKey)
    (environment : FlushEnvironment) :
    ∃ owners, resolveOwners environment.nowMs environment.answer environment.owners
      (pendingOf (countingsOf responses)) = some owners := by
  unfold resolveOwners
  dsimp only
  split
  · exact ⟨_, rfl⟩
  · rw [if_neg]
    · exact ⟨_, rfl⟩
    intro asked
    obtain ⟨units, stale, null⟩ := List.any_eq_true.mp asked
    have wanted := List.mem_dedup.mp (List.mem_filter.mp stale).1
    obtain ⟨id, named, rfl⟩ := List.mem_map.mp wanted
    obtain ⟨bucket, there, named⟩ := List.mem_flatMap.mp named
    rcases List.mem_append.mp named with own | sibling
    · have own := Option.mem_toList.mp (List.mem_filter.mp own).1
      obtain ⟨counting, counted, -, alike⟩ := (held_pendingOf _).within bucket there
      obtain ⟨seen, -, fromSeen⟩ := List.mem_flatMap.mp counted
      refine readable counting counted (seen.mem_scopeKey fromSeen ?_ (List.elem_iff.mp null))
      rw [alike]
      exact own
    · obtain ⟨counting, counted, named⟩ := siblings_pendingOf _ bucket there id sibling
      obtain ⟨other, member, inside⟩ := sibling_counted counted named (List.elem_iff.mp null)
      exact readable other member inside

theorem goesThrough_iff (environment : FlushEnvironment) (responses : List Seen) :
    GoesThrough environment (pendingOf (countingsOf responses)) ↔
      Digestible (countingsOf responses) := by
  have held := held_pendingOf (countingsOf responses)
  have roomy : (pendingOf (countingsOf responses)).length * usageColumns ≤ maxParameters →
      (pendingOf (countingsOf responses)).length < metaUsageMaxPendingBuckets := by
    unfold usageColumns maxParameters metaUsageMaxPendingBuckets
    omega
  constructor
  · intro through
    unfold GoesThrough flushRows at through
    cases looked : resolveOwners environment.nowMs environment.answer environment.owners
        (pendingOf (countingsOf responses)) with
    | none =>
        rw [looked] at through
        exact through.elim
    | some owners =>
        rw [looked] at through
        obtain ⟨fits, apart, few⟩ := through
        rw [List.length_map] at few
        have room := roomy few
        rw [List.map_map] at apart
        refine ⟨fun counting counted => ?_, fun counting counted other too same => ?_,
          fun counting counted => ?_, by rwa [held.length_eq room]⟩
        · obtain ⟨bucket, there, same, -, sold⟩ := held.bucket_of room counted
          obtain ⟨stored, fitted⟩ := fits _ (List.mem_map_of_mem there)
          have parts := ProviderUsageBucket.columns?_eq_some fitted
          refine ⟨fun null => ?_, fun product first null => ?_⟩
          · change 0 ∈ counting.key.1 at null
            rw [← same] at null
            exact absurd ((Varchar.store_null null).symm.trans parts.scopeKey) nofun
          · have kept := parts.product
            change storeNullable _ (bucket.product.map (·.units)) = _ at kept
            rw [sold, show firstProduct counting.key _ = some product from first] at kept
            change (Varchar.store 40 product.units).map some = _ at kept
            rw [Varchar.store_null null] at kept
            cases kept
        · obtain ⟨bucket, there, own, -⟩ := held.bucket_of room counted
          obtain ⟨next, also, its, -⟩ := held.bucket_of room too
          have one : bucket = next := by
            refine List.inj_on_of_nodup_map apart there also ?_
            change (codePoints bucket.key.1, bucket.key.2) = (codePoints next.key.1, next.key.2)
            rw [own, its]
            exact same
          rw [← own, ← its, one]
        · obtain ⟨bucket, there, -, calls, -⟩ := held.bucket_of room counted
          obtain ⟨stored, fitted⟩ := fits _ (List.mem_map_of_mem there)
          have most := stored.calls.most
          rw [(ProviderUsageBucket.columns?_eq_some fitted).calls] at most
          change (bucket.calls : Int) ≤ _ at most
          rw [← calls]
          exact Int.ofNat_le.mp most
  · intro digestible
    have few : (pendingOf (countingsOf responses)).length * usageColumns ≤ maxParameters :=
      (Nat.mul_le_mul_right _ held.length_le).trans digestible.few
    have room := roomy few
    obtain ⟨owners, looked⟩ := resolveOwners_accepted
      (fun counting counted => (digestible.readable counting counted).1) environment
    unfold GoesThrough flushRows
    rw [looked]
    refine ⟨fun row member => ?_, ?_, by rwa [List.length_map]⟩
    · obtain ⟨bucket, there, rfl⟩ := List.mem_map.mp member
      obtain ⟨counting, counted, same, alike⟩ := held.within bucket there
      have scopeKey : bucket.scopeKey = counting.identity.scopeKey := (congrArg Prod.fst same).symm
      have readable := digestible.readable counting counted
      obtain ⟨found, also, its, calls, sold⟩ := held.bucket_of room counted
      have one : found = bucket :=
        List.inj_on_of_nodup_map held.distinct also there (its.trans same)
      subst one
      refine (fitting_toRow owners (scopeKey ▸ readable.1)
        (scopeKey ▸ counting.length_scopeKey_le) (fun product first => ?_) (fun id known null => ?_)
        (calls ▸ digestible.countable counting counted) (held.outcomes found there)).columns?_eq
      · rw [sold] at first
        exact readable.2 product first
      · obtain ⟨seen, -, fromSeen⟩ := List.mem_flatMap.mp counted
        refine readable.1 (seen.mem_scopeKey fromSeen ?_ null)
        rw [alike]
        exact known
    · rw [List.map_map]
      refine List.Nodup.map_on (fun bucket there next also same => ?_) (List.Nodup.of_map _ held.distinct)
      obtain ⟨counting, counted, own, -⟩ := held.within bucket there
      obtain ⟨other, too, its, -⟩ := held.within next also
      refine List.inj_on_of_nodup_map held.distinct there also ?_
      rw [← own, ← its]
      refine digestible.apart counting counted other too ?_
      change (codePoints counting.key.1, counting.key.2) = (codePoints other.key.1, other.key.2)
      rw [own, its]
      exact same

/-- Every flush of a run goes through if and only if what was observed before each is
digestible. What was observed before one flush is no matter to those that come after it. -/
theorem flushes_go_through (environment : List FlushStep → FlushEnvironment)
    (steps : List FlushStep) :
    ((∀ earlier later, steps = earlier ++ .flushed :: later →
        GoesThrough (environment earlier) (pendingAfter earlier)) ↔
      ∀ earlier later, steps = earlier ++ .flushed :: later →
        Digestible (countingsOf (sinceFlush earlier))) ∧
    ∀ earlier later,
      pendingAfter (earlier ++ .flushed :: later) = pendingAfter later := by
  constructor
  · refine forall_congr' fun earlier => forall_congr' fun later => forall_congr' fun _ => ?_
    rw [pendingAfter_eq]
    exact goesThrough_iff (environment earlier) (sinceFlush earlier)
  · intro earlier later
    rw [pendingAfter_eq, pendingAfter_eq, sinceFlush_flushed]

theorem digestible_single {environment : FlushEnvironment} {seen : Seen}
    (through : ∀ earlier later, [.observed seen, .flushed] = earlier ++ .flushed :: later →
      GoesThrough environment (pendingAfter earlier)) :
    Digestible (countingsOf [seen]) := by
  have here := through [.observed seen] [] rfl
  rw [pendingAfter_eq, goesThrough_iff] at here
  exact here

/-- A response whose business header names a type that ends in a null. -/
private def nullNamed : Seen where
  nowMs := 0
  headers name :=
    if name = businessHeader then some "\x7b\"1\":[\x7b\"type\":\"a\\u0000\"\x7d]\x7d" else none
  throttled := false
  failed := false

/-- The flush that comes after it does not go through. -/
theorem null_breaks_flush :
    ¬∀ earlier later, [.observed nullNamed, .flushed] = earlier ++ .flushed :: later →
      GoesThrough ⟨0, fun _ => [], fun _ => none⟩ (pendingAfter earlier) := by
  intro through
  have null : (countingsOf [nullNamed]).any fun counting =>
      counting.identity.scopeKey.contains 0 := by
    decide +kernel
  obtain ⟨counting, counted, inside⟩ := List.any_eq_true.mp null
  exact ((digestible_single through).readable counting counted).1 (List.elem_iff.mp inside)

end UnifiedService.Usage
