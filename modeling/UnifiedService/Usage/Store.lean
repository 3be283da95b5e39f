import UnifiedService.Usage.Collector

/-! The table of usage, a row for each pool and minute, and the statement that folds a flush
into it. -/

set_option autoImplicit false

namespace UnifiedService.Usage

open UnifiedService.Library

/-- A count that is an `int` and passes its check. -/
abbrev CountColumn := Ranged 0 2147483647

/-- A `smallint` that passes its check. -/
abbrev PercentageColumn := Ranged 0 1000

/-- A row of `provider_api_usage`. Every date is a `timestamptz`. -/
structure UsageColumns where
  provider : Varchar 30
  scopeKey : Varchar 120
  meter : Varchar 30
  product : Option (Varchar 40)
  providerScopeId : Option (Varchar 64)
  enterpriseId : Option (Ranged (-9223372036854775808) 9223372036854775807)
  channelId : Option (Ranged (-9223372036854775808) 9223372036854775807)
  bucketStart : Nat
  calls : CountColumn
  throttledCalls : CountColumn
  failedCalls : CountColumn
  callPct : Option PercentageColumn
  cpuPct : Option PercentageColumn
  timePct : Option PercentageColumn
  regainMinutes : Option Int4
  lastSeenAt : Nat
  deriving DecidableEq, Repr

def UsageColumns.key (row : UsageColumns) : List Nat × Nat :=
  (row.scopeKey.points, row.bucketStart)

def ProviderUsageBucket.columns? (row : ProviderUsageBucket) : Option UsageColumns := do
  let provider ← Varchar.store 30 row.provider
  let scopeKey ← Varchar.store 120 row.scopeKey
  let meter ← Varchar.store 30 row.meter
  let product ← storeNullable (Varchar.store 40) row.product
  let providerScopeId ← storeNullable (Varchar.store 64) row.providerScopeId
  let enterpriseId ← storeNullable (Ranged.store _ _) row.enterpriseId
  let channelId ← storeNullable (Ranged.store _ _) row.channelId
  let calls ← Ranged.store _ _ row.calls
  let throttledCalls ← Ranged.store _ _ row.throttledCalls
  let failedCalls ← Ranged.store _ _ row.failedCalls
  let callPct ← storeNullable (Ranged.store _ _) row.callPct
  let cpuPct ← storeNullable (Ranged.store _ _) row.cpuPct
  let timePct ← storeNullable (Ranged.store _ _) row.timePct
  let regainMinutes ← storeNullable (Ranged.store _ _) row.regainMinutes
  return {
    provider
    scopeKey
    meter
    product
    providerScopeId
    enterpriseId
    channelId
    bucketStart := row.bucketStart
    calls
    throttledCalls
    failedCalls
    callPct
    cpuPct
    timePct
    regainMinutes
    lastSeenAt := row.lastSeenAt }

def ProviderUsageBucket.storedKey (row : ProviderUsageBucket) : List Nat × Nat :=
  (codePoints row.scopeKey, row.bucketStart)

structure ProviderUsageBucket.StoredAs (row : ProviderUsageBucket) (stored : UsageColumns) :
    Prop where
  scopeKey : Varchar.store 120 row.scopeKey = some stored.scopeKey
  product : storeNullable (Varchar.store 40) row.product = some stored.product
  bucketStart : stored.bucketStart = row.bucketStart
  calls : stored.calls.value = row.calls
  throttledCalls : stored.throttledCalls.value = row.throttledCalls
  failedCalls : stored.failedCalls.value = row.failedCalls
  callPct : stored.callPct.map (·.value) = row.callPct
  cpuPct : stored.cpuPct.map (·.value) = row.cpuPct
  timePct : stored.timePct.map (·.value) = row.timePct
  regainMinutes : stored.regainMinutes.map (·.value) = row.regainMinutes

theorem storeNullable_ranged {low high : Int} {value : Option Int}
    {stored : Option (Ranged low high)}
    (held : storeNullable (Ranged.store low high) value = some stored) :
    stored.map (·.value) = value := by
  cases value with
  | none =>
      cases held
      rfl
  | some value =>
      obtain ⟨column, fits, rfl⟩ := Option.map_eq_some_iff.mp held
      exact congrArg some (Ranged.store_eq_some fits)

theorem ProviderUsageBucket.columns?_eq_some {row : ProviderUsageBucket} {stored : UsageColumns}
    (fits : row.columns? = some stored) : row.StoredAs stored := by
  rw [columns?] at fits
  obtain ⟨provider, -, fits⟩ := Option.bind_eq_some_iff.mp fits
  obtain ⟨scopeKey, named, fits⟩ := Option.bind_eq_some_iff.mp fits
  obtain ⟨meter, -, fits⟩ := Option.bind_eq_some_iff.mp fits
  obtain ⟨product, sold, fits⟩ := Option.bind_eq_some_iff.mp fits
  obtain ⟨scopeId, -, fits⟩ := Option.bind_eq_some_iff.mp fits
  obtain ⟨enterprise, -, fits⟩ := Option.bind_eq_some_iff.mp fits
  obtain ⟨channel, -, fits⟩ := Option.bind_eq_some_iff.mp fits
  obtain ⟨callColumn, calls, fits⟩ := Option.bind_eq_some_iff.mp fits
  obtain ⟨throttledColumn, throttled, fits⟩ := Option.bind_eq_some_iff.mp fits
  obtain ⟨failedColumn, failed, fits⟩ := Option.bind_eq_some_iff.mp fits
  obtain ⟨callPctColumn, callPct, fits⟩ := Option.bind_eq_some_iff.mp fits
  obtain ⟨cpuPctColumn, cpuPct, fits⟩ := Option.bind_eq_some_iff.mp fits
  obtain ⟨timePctColumn, timePct, fits⟩ := Option.bind_eq_some_iff.mp fits
  obtain ⟨regainColumn, regain, fits⟩ := Option.bind_eq_some_iff.mp fits
  cases fits
  exact ⟨named, sold, rfl, Ranged.store_eq_some calls, Ranged.store_eq_some throttled, Ranged.store_eq_some failed,
    storeNullable_ranged callPct, storeNullable_ranged cpuPct, storeNullable_ranged timePct,
    storeNullable_ranged regain⟩

theorem ProviderUsageBucket.StoredAs.key_eq {row : ProviderUsageBucket} {stored : UsageColumns}
    (same : row.StoredAs stored) (short : row.scopeKey.length ≤ maxScopeKeyLength) :
    stored.key = row.storedKey := by
  have readable : 0 ∉ row.scopeKey := fun null =>
    absurd ((Varchar.store_null null).symm.trans same.scopeKey) nofun
  obtain ⟨text, held, points⟩ := Varchar.store_eq readable short
  have one : text = stored.scopeKey := Option.some.inj (held.symm.trans same.scopeKey)
  unfold UsageColumns.key ProviderUsageBucket.storedKey
  rw [← one, points, same.bucketStart]

structure ProviderUsageBucket.Fitting (row : ProviderUsageBucket) : Prop where
  provider : 0 ∉ row.provider ∧ row.provider.length ≤ 30
  scopeKey : 0 ∉ row.scopeKey ∧ row.scopeKey.length ≤ 120
  meter : 0 ∉ row.meter ∧ row.meter.length ≤ 30
  product : ∀ units ∈ row.product, 0 ∉ units ∧ units.length ≤ 40
  providerScopeId : ∀ units ∈ row.providerScopeId, 0 ∉ units ∧ units.length ≤ 64
  enterpriseId : ∀ id ∈ row.enterpriseId, -9223372036854775808 ≤ id ∧ id ≤ 9223372036854775807
  channelId : ∀ id ∈ row.channelId, -9223372036854775808 ≤ id ∧ id ≤ 9223372036854775807
  calls : row.calls ≤ 2147483647
  throttledCalls : row.throttledCalls ≤ 2147483647
  failedCalls : row.failedCalls ≤ 2147483647
  callPct : ∀ pct ∈ row.callPct, 0 ≤ pct ∧ pct ≤ 1000
  cpuPct : ∀ pct ∈ row.cpuPct, 0 ≤ pct ∧ pct ≤ 1000
  timePct : ∀ pct ∈ row.timePct, 0 ≤ pct ∧ pct ≤ 1000
  regainMinutes : ∀ minutes ∈ row.regainMinutes, -2147483648 ≤ minutes ∧ minutes ≤ 2147483647

theorem storeNullable_eq {Value Column : Type} {store : Value → Option Column}
    {value : Option Value} (fits : ∀ present ∈ value, ∃ column, store present = some column) :
    ∃ column, storeNullable store value = some column := by
  cases value with
  | none => exact ⟨none, rfl⟩
  | some present =>
      obtain ⟨column, stored⟩ := fits present rfl
      exact ⟨some column, by rw [storeNullable, stored]; rfl⟩

theorem ProviderUsageBucket.Fitting.columns?_eq {row : ProviderUsageBucket}
    (fitting : row.Fitting) : ∃ stored, row.columns? = some stored := by
  have text {limit : Nat} (units : List Nat) (fits : 0 ∉ units ∧ units.length ≤ limit) :
      ∃ column, Varchar.store limit units = some column := by
    obtain ⟨column, stored, -⟩ := Varchar.store_eq fits.1 fits.2
    exact ⟨column, stored⟩
  have number {low high : Int} (value : Int) (fits : low ≤ value ∧ value ≤ high) :
      ∃ column, Ranged.store low high value = some column := ⟨_, Ranged.store_eq fits⟩
  have count (value : Nat) (fits : value ≤ 2147483647) :
      ∃ column, Ranged.store 0 2147483647 value = some column :=
    number value ⟨Int.natCast_nonneg value, by omega⟩
  obtain ⟨_, provider⟩ := text _ fitting.provider
  obtain ⟨_, scopeKey⟩ := text _ fitting.scopeKey
  obtain ⟨_, meter⟩ := text _ fitting.meter
  obtain ⟨_, product⟩ := storeNullable_eq fun units there => text _ (fitting.product units there)
  obtain ⟨_, scopeId⟩ :=
    storeNullable_eq fun units there => text _ (fitting.providerScopeId units there)
  obtain ⟨_, enterprise⟩ :=
    storeNullable_eq fun id there => number _ (fitting.enterpriseId id there)
  obtain ⟨_, channel⟩ := storeNullable_eq fun id there => number _ (fitting.channelId id there)
  obtain ⟨_, calls⟩ := count _ fitting.calls
  obtain ⟨_, throttled⟩ := count _ fitting.throttledCalls
  obtain ⟨_, failed⟩ := count _ fitting.failedCalls
  obtain ⟨_, callPct⟩ := storeNullable_eq fun pct there => number _ (fitting.callPct pct there)
  obtain ⟨_, cpuPct⟩ := storeNullable_eq fun pct there => number _ (fitting.cpuPct pct there)
  obtain ⟨_, timePct⟩ := storeNullable_eq fun pct there => number _ (fitting.timePct pct there)
  obtain ⟨_, regain⟩ :=
    storeNullable_eq fun minutes there => number _ (fitting.regainMinutes minutes there)
  rw [columns?, provider, scopeKey, meter, product, scopeId, enterprise, channel, calls, throttled,
    failed, callPct, cpuPct, timePct, regain]
  exact ⟨_, rfl⟩

def usageColumns : Nat := 16

def maxParameters : Nat := 65535

/-- A row folded into the one of its pool and minute, unless a count is too great for it. -/
def UsageColumns.folded (stored excluded : UsageColumns) : Option UsageColumns := do
  let calls ← Ranged.store _ _ (stored.calls.value + excluded.calls.value)
  let throttledCalls ← Ranged.store _ _ (stored.throttledCalls.value + excluded.throttledCalls.value)
  let failedCalls ← Ranged.store _ _ (stored.failedCalls.value + excluded.failedCalls.value)
  return { stored with
    calls
    throttledCalls
    failedCalls
    callPct := highest stored.callPct excluded.callPct
    cpuPct := highest stored.cpuPct excluded.cpuPct
    timePct := highest stored.timePct excluded.timePct
    regainMinutes := highest stored.regainMinutes excluded.regainMinutes
    lastSeenAt := max stored.lastSeenAt excluded.lastSeenAt
    enterpriseId := stored.enterpriseId.or excluded.enterpriseId
    channelId := stored.channelId.or excluded.channelId
    product := excluded.product.or stored.product }

def upsert (table : List UsageColumns) (row : UsageColumns) : Option (List UsageColumns) :=
  (match table.find? fun (stored : UsageColumns) => stored.key = row.key with
    | some stored => stored.folded row
    | none => some row).map fun written =>
      Accumulation.gather UsageColumns.key row.key (fun _ => written) written table

/-- The statement of a flush: it writes every row or none. No row is written twice. -/
def record (buckets : List ProviderUsageBucket) (table : List UsageColumns) :
    Option (List UsageColumns) :=
  if buckets = [] then some table
  else if maxParameters < buckets.length * usageColumns then none
  else do
    let rows ← buckets.mapM (·.columns?)
    if (rows.map (·.key)).Nodup then rows.foldlM upsert table else none

end UnifiedService.Usage
