import UnifiedService.Library.Accumulation
import UnifiedService.Usage.Readings

/-! The running account of the calls that were made: what is held of each pool and minute until
it is written. -/

set_option autoImplicit false

namespace UnifiedService.Usage

open UnifiedService.Library

structure MetaUsageObservation where
  readings : List MetaUsageReading
  throttled : Bool
  failed : Bool
  deriving DecidableEq, Repr

def metaUsageBucketMs : Nat := 60 * 1000

def metaUsageMaxPendingBuckets : Nat := 10000

def metaUsageScopeCacheMs : Nat := 5 * 60 * 1000

def provider : List Nat := jsUnits "meta"

def appScopeKey : List Nat := jsUnits "meta:app"

def unknownScopeKey : List Nat := jsUnits "meta:unknown"

def maxScopeKeyLength : Nat := 120

structure Identity where
  scopeKey : List Nat
  meter : MetaUsageMeter
  product : Option (Clipped maxProductLength)
  providerScopeId : Option (Clipped maxBusinessIdLength)
  deriving DecidableEq, Repr

/-- A minute of one pool. It is held under the text of its key and its start, which has no
second reading, as there are but digits after the last bar. -/
structure PendingBucket extends Identity where
  bucketStartMs : Nat
  calls : Nat
  throttledCalls : Nat
  failedCalls : Nat
  callPct : Option Percentage
  cpuPct : Option Percentage
  timePct : Option Percentage
  regainMinutes : Option RegainMinutes
  lastSeenMs : Nat
  siblingIds : List (Clipped maxBusinessIdLength)
  deriving DecidableEq, Repr

def PendingBucket.key (bucket : PendingBucket) : List Nat × Nat :=
  (bucket.scopeKey, bucket.bucketStartMs)

def PendingBucket.opened (identity : Identity) (bucketStartMs nowMs : Nat) : PendingBucket where
  toIdentity := identity
  bucketStartMs
  calls := 0
  throttledCalls := 0
  failedCalls := 0
  callPct := none
  cpuPct := none
  timePct := none
  regainMinutes := none
  lastSeenMs := nowMs
  siblingIds := []

/-- The larger of two figures, where null is not observed. -/
def highest {low high : Int} (existing incoming : Option (Ranged low high)) :
    Option (Ranged low high) :=
  match existing, incoming with
  | existing, none => existing
  | none, some incoming => some incoming
  | some existing, some incoming =>
      some (if existing.value ≤ incoming.value then incoming else existing)

def addSiblings (own : Option (Clipped maxBusinessIdLength))
    (siblingIds : List (Clipped maxBusinessIdLength)) (held : List (Clipped maxBusinessIdLength)) :
    List (Clipped maxBusinessIdLength) :=
  siblingIds.foldl
    (fun held sibling =>
      if some sibling = own ∨ sibling ∈ held then held else held ++ [sibling])
    held

structure CachedOwner where
  channelId : Option Int4
  enterpriseId : Option Int4
  cachedAtMs : Nat
  deriving DecidableEq, Repr

/-- A process: the buckets it holds, the owners it knows, and how many observations it dropped
since it last said so. -/
structure MetaUsageCollector where
  pending : List PendingBucket
  owners : List Nat → Option CachedOwner
  dropped : Nat

def MetaUsageCollector.empty : MetaUsageCollector := ⟨[], fun _ => none, 0⟩

def bucketStart (nowMs : Nat) : Nat := nowMs / metaUsageBucketMs * metaUsageBucketMs

def MetaUsageObservation.siblingIds (observation : MetaUsageObservation) :
    List (Clipped maxBusinessIdLength) :=
  observation.readings.filterMap fun reading =>
    if reading.meter = .businessUseCase then
      reading.providerScopeId.filter fun id => !id.units.isEmpty
    else none

def MetaUsageReading.scopeKey (reading : MetaUsageReading) : List Nat :=
  if reading.meter = .app then appScopeKey
  else
    (provider ++ jsUnits ":" ++
      ((reading.providerScopeId.map (·.units)).getD (jsUnits "unattributed")) ++ jsUnits ":" ++
        ((reading.product.map (·.units)).getD (jsUnits "unknown"))).take maxScopeKeyLength

def MetaUsageReading.identity (reading : MetaUsageReading) : Identity where
  scopeKey := reading.scopeKey
  meter := reading.meter
  product := reading.product
  providerScopeId := reading.providerScopeId

def unknownIdentity : Identity := ⟨unknownScopeKey, .unknown, none, none⟩

structure Counting where
  observation : MetaUsageObservation
  reading : Option MetaUsageReading
  nowMs : Nat
  deriving DecidableEq, Repr

def Counting.identity (counting : Counting) : Identity :=
  match counting.reading with
  | some reading => reading.identity
  | none => unknownIdentity

def Counting.key (counting : Counting) : List Nat × Nat :=
  (counting.identity.scopeKey, bucketStart counting.nowMs)

/-- A response counts for the pool of each reading, or for the calls nothing is known of. -/
def MetaUsageObservation.countings (nowMs : Nat) (observation : MetaUsageObservation) :
    List Counting :=
  if observation.readings = [] then [⟨observation, none, nowMs⟩]
  else observation.readings.map fun reading => ⟨observation, some reading, nowMs⟩

def Counting.countIn (counting : Counting) (bucket : PendingBucket) : PendingBucket :=
  { bucket with
    calls := bucket.calls + 1
    throttledCalls := bucket.throttledCalls + counting.observation.throttled.toNat
    failedCalls := bucket.failedCalls + counting.observation.failed.toNat
    lastSeenMs := max bucket.lastSeenMs counting.nowMs
    callPct := highest bucket.callPct (counting.reading.bind (·.callPct))
    cpuPct := highest bucket.cpuPct (counting.reading.bind (·.cpuPct))
    timePct := highest bucket.timePct (counting.reading.bind (·.timePct))
    regainMinutes := highest bucket.regainMinutes (counting.reading.bind (·.regainMinutes))
    product := bucket.product.or (counting.reading.bind (·.product))
    siblingIds := addSiblings counting.identity.providerScopeId counting.observation.siblingIds
      bucket.siblingIds }

def Counting.fresh (counting : Counting) : PendingBucket :=
  counting.countIn
    (PendingBucket.opened counting.identity (bucketStart counting.nowMs) counting.nowMs)

instance lawfulBEq_key : LawfulBEq (List Nat × Nat) := inferInstance

namespace MetaUsageCollector

def fold (collector : MetaUsageCollector) (counting : Counting) : MetaUsageCollector :=
  if counting.key ∉ collector.pending.map (·.key) ∧
      metaUsageMaxPendingBuckets ≤ collector.pending.length then
    { collector with dropped := collector.dropped + 1 }
  else
    { collector with
      pending := Accumulation.gather PendingBucket.key counting.key counting.countIn
        counting.fresh collector.pending }

def observe (nowMs : Nat) (observation : MetaUsageObservation) (collector : MetaUsageCollector) :
    MetaUsageCollector :=
  (observation.countings nowMs).foldl fold collector

def taken (collector : MetaUsageCollector) : MetaUsageCollector :=
  { collector with pending := [] }

end MetaUsageCollector

/-! ### Owners -/

structure ProviderScopeOwner where
  platformChannelId : List Nat
  channelId : Int4
  enterpriseId : Int4
  deriving DecidableEq, Repr

def staleIds (nowMs : Nat) (owners : List Nat → Option CachedOwner)
    (buckets : List PendingBucket) : List (List Nat) :=
  ((buckets.flatMap fun bucket =>
      (bucket.providerScopeId.toList.filter fun id => !id.units.isEmpty) ++ bucket.siblingIds).map
        (·.units)).dedup.filter fun id =>
    match owners id with
    | some cached => decide (metaUsageScopeCacheMs < nowMs - cached.cachedAtMs)
    | none => true

/-- Whose an id is. A pool of several businesses is nobody's. -/
def ownerOf (nowMs : Nat) (rows : List ProviderScopeOwner) (id : List Nat) : CachedOwner :=
  let found := rows.filter (·.platformChannelId == id)
  let only := if 1 < (found.map (·.enterpriseId)).dedup.length then none else found.head?
  ⟨only.map (·.channelId), only.map (·.enterpriseId), nowMs⟩

/-- The owners after the rows that were found are known. A text with a null cannot be asked
for. -/
def resolveOwners (nowMs : Nat) (answer : List (List Nat) → List ProviderScopeOwner)
    (owners : List Nat → Option CachedOwner) (buckets : List PendingBucket) :
    Option (List Nat → Option CachedOwner) :=
  let stale := staleIds nowMs owners buckets
  if stale = [] then some owners
  else if stale.any (·.contains 0) then none
  else
    let rows := answer stale
    some fun id => if id ∈ stale then some (ownerOf nowMs rows id) else owners id

def inferEnterprise (bucket : PendingBucket) (owners : List Nat → Option CachedOwner) :
    Option Int4 :=
  match (bucket.siblingIds.filterMap fun sibling =>
      (owners sibling.units).bind (·.enterpriseId)).dedup with
  | [candidate] => some candidate
  | _ => none

structure ProviderUsageBucket where
  provider : List Nat
  scopeKey : List Nat
  meter : List Nat
  product : Option (List Nat)
  providerScopeId : Option (List Nat)
  enterpriseId : Option Int
  channelId : Option Int
  bucketStart : Nat
  calls : Nat
  throttledCalls : Nat
  failedCalls : Nat
  callPct : Option Int
  cpuPct : Option Int
  timePct : Option Int
  regainMinutes : Option Int
  lastSeenAt : Nat
  deriving DecidableEq, Repr

def toRow (owners : List Nat → Option CachedOwner) (bucket : PendingBucket) :
    ProviderUsageBucket :=
  let direct := (bucket.providerScopeId.filter fun id => !id.units.isEmpty).bind fun id =>
    owners id.units
  { provider
    scopeKey := bucket.scopeKey
    meter := jsUnits bucket.meter.text
    product := bucket.product.map (·.units)
    providerScopeId := bucket.providerScopeId.map (·.units)
    enterpriseId :=
      ((direct.bind (·.enterpriseId)).or (inferEnterprise bucket owners)).map (·.value)
    channelId := (direct.bind (·.channelId)).map (·.value)
    bucketStart := bucket.bucketStartMs
    calls := bucket.calls
    throttledCalls := bucket.throttledCalls
    failedCalls := bucket.failedCalls
    callPct := bucket.callPct.map (·.value)
    cpuPct := bucket.cpuPct.map (·.value)
    timePct := bucket.timePct.map (·.value)
    regainMinutes := bucket.regainMinutes.map (·.value)
    lastSeenAt := bucket.lastSeenMs }

/-- The rows a flush hands over, with the owners it then knows, unless the lookup fails. -/
def flushRows (nowMs : Nat) (answer : List (List Nat) → List ProviderScopeOwner)
    (owners : List Nat → Option CachedOwner) (buckets : List PendingBucket) :
    Option (List ProviderUsageBucket × (List Nat → Option CachedOwner)) :=
  (resolveOwners nowMs answer owners buckets).map fun owners =>
    (buckets.map (toRow owners), owners)

end UnifiedService.Usage
