import HybridDataSvc.Seed.SafeUnion
import HybridDataSvc.Serving.ProviderPrecedence

namespace HybridDataSvc

open Relational

namespace Seed

/-!
# Rebuilding the summary

`_refresh_cache_meta` deletes the rows of `cache_meta` and inserts those it
computes from `bars`.  It groups by symbol and timeframe, and the key of both
tables has the provider as well: the summary of all providers together is
stored for the default one.
-/

variable {F : Type}

/-- The row of `cache_meta` that the bars of a bucket call for. -/
def bucketSummary (store : Store F) (bucket : Bucket) : Option MetaRow :=
  if store.bucketRows bucket = [] then none
  else
    some { bucket := bucket
           lastBarTs := maxOrZero ((store.bucketRows bucket).map BarRow.ts)
           barCount := (store.bucketRows bucket).length
           lastFetchedAt := maxOrZero ((store.bucketRows bucket).map BarRow.fetchedAt) }

/-- The answer of the health check that the bars of a bucket call for. -/
def healthOfBars (store : Store F) (bucket : Bucket) (minBars : Int) : HealthResponse :=
  { ready := decide (BarServiceServicer.orDefault minBars 200 ≤ (store.bucketRows bucket).length)
    barsAvailable := (store.bucketRows bucket).length
    lastBarTs := maxOrZero ((store.bucketRows bucket).map BarRow.ts) }

/-- The summary is that of the bars: one row for each bucket with bars, and no
other; and what is served by it is what the bars call for. -/
structure MetadataRestored (before after : Store F) : Prop where
  bars : after.bars = before.bars
  summaries : forall bucket, getMeta after bucket = bucketSummary before bucket
  resolves : forall symbol timeframe, exists provider,
    BarServiceServicer.resolve after symbol timeframe "" = .ok provider ∧
      (FirstWithBars before symbol timeframe provider ∨
        (provider = defaultProvider ∧
          forall other, other ∈ providerPrecedence -> ¬ HasBars before symbol timeframe other))
  health : forall symbol timeframe requested provider,
    BarServiceServicer.resolve after symbol timeframe requested = .ok provider ->
    forall minBars, BarServiceServicer.healthCheck after ⟨symbol, timeframe, minBars, requested⟩ =
      .ok (healthOfBars before ⟨symbol, timeframe, provider⟩ minBars)

/-- A rebuild on a connection that is not lost. -/
def refresh (store : Store F) : Except PyError Unit × Session (Store F) :=
  refreshCacheMeta (Session.open_ store none false)

/-! ## What is rebuilt -/

theorem insertRows_eq {Row Key : Type} {key : Row -> Key} [DecidableEq Key] {table after : Table key}
    {rows : List Row} (inserted : table.insertRows rows = some after) :
    after = table.insertNewAll rows := by
  induction rows generalizing table with
  | nil =>
      cases inserted
      rfl
  | cons row rest ih =>
      rw [Table.insertRows, List.foldlM_cons] at inserted
      cases first : table.insertRow row with
      | none =>
          rw [first] at inserted
          cases inserted
      | some next =>
          rw [first] at inserted
          rw [Table.insertRow] at first
          split at first
          · cases first
          · cases first
            exact ih inserted

/-- The table the rebuild starts from. -/
def emptied (store : Store F) : Store F :=
  { store with cacheMeta := store.cacheMeta.deleteWhere (fun _ => true) }

theorem lookup_emptied (store : Store F) (bucket : Bucket) :
    (emptied store).cacheMeta.lookup bucket = none := by
  rw [Table.lookup_eq_none_iff]
  intro row member
  simp [emptied] at member

/-- The two statements and the commit. -/
theorem refresh_of_inserted {store : Store F} {cacheMeta : Table MetaRow.bucket}
    (inserted : (emptied store).cacheMeta.insertRows (metaRows (emptied store)) = some cacheMeta) :
    (refresh store).1 = .ok () ∧
      (refresh store).2.committed = { emptied store with cacheMeta := cacheMeta } := by
  have deleted : Db.call PyError.databaseError (fun store : Store F =>
      .ok ((), { store with cacheMeta := store.cacheMeta.deleteWhere (fun _ => true) }))
      (Session.open_ store none false) = (.ok (), (Session.open_ store none false).write
        (emptied store)) := rfl
  have whole : refresh store = Db.commit PyError.databaseError
      (((Session.open_ store none false).write (emptied store)).write
        { emptied store with cacheMeta := cacheMeta }) := by
    refine (Db.bind_of_ok _ deleted).trans (Db.bind_of_ok _ (?_ : _ = (Except.ok (), _)))
    unfold Db.call
    dsimp only [Session.write]
    rw [inserted]
    rfl
  rw [whole]
  exact ⟨rfl, rfl⟩

/-- The rebuild returns, and leaves the rows it computes. -/
theorem refresh_eq (store : Store F) :
    (refresh store).1 = .ok () ∧ (refresh store).2.committed.bars = store.bars ∧
      forall bucket, getMeta (refresh store).2.committed bucket =
        Table.firstUnder MetaRow.bucket (metaRows store) bucket := by
  rcases Table.insertRows_of_fresh (nodup_metaRows (emptied store))
    (fun row _ => lookup_emptied store row.bucket) with ⟨cacheMeta, inserted⟩
  have result := refresh_of_inserted inserted
  rw [result.2]
  refine ⟨result.1, rfl, ?_⟩
  intro bucket
  change cacheMeta.lookup bucket = _
  rw [insertRows_eq inserted, Table.lookup_insertNewAll, lookup_emptied, Option.none_or]
  rfl

/-- The rows of a symbol and a timeframe, of every provider. -/
def seriesBars (store : Store F) (symbol timeframe : String) : List (BarRow F) :=
  store.bars.rows.filter (fun row =>
    decide ((row.bucket.symbol, row.bucket.timeframe) = (symbol, timeframe)))

/-- The summary of a series is stored for the default provider. -/
theorem firstUnder_metaRows (store : Store F) (bucket : Bucket) :
    Table.firstUnder MetaRow.bucket (metaRows store) bucket =
      if bucket.provider = defaultProvider ∧
          seriesBars store bucket.symbol bucket.timeframe ≠ [] then
        some { bucket := bucket
               lastBarTs := maxOrZero
                 ((seriesBars store bucket.symbol bucket.timeframe).map BarRow.ts)
               barCount := (seriesBars store bucket.symbol bucket.timeframe).length
               lastFetchedAt := maxOrZero
                 ((seriesBars store bucket.symbol bucket.timeframe).map BarRow.fetchedAt) }
      else none := by
  by_cases listed : bucket.provider = defaultProvider ∧
      seriesBars store bucket.symbol bucket.timeframe ≠ []
  · rw [if_pos listed]
    rcases List.exists_mem_of_ne_nil _ listed.2 with ⟨row, member⟩
    have named : (row.bucket.symbol, row.bucket.timeframe) = (bucket.symbol, bucket.timeframe) :=
      of_decide_eq_true (List.mem_filter.mp member).2
    have grouped : ((bucket.symbol, bucket.timeframe),
        seriesBars store bucket.symbol bucket.timeframe) ∈
          groupBy (fun row : BarRow F => (row.bucket.symbol, row.bucket.timeframe))
            store.bars.rows :=
      mem_groupBy.mpr ⟨List.mem_map.mpr ⟨row, (List.mem_filter.mp member).1, named⟩, rfl⟩
    have own : defaultBucket bucket.symbol bucket.timeframe = bucket := by
      rw [defaultBucket, ← listed.1]
    rw [Table.firstUnder_eq_of_mem (nodup_metaRows store) (List.mem_map_of_mem grouped) own]
    rw [own]
  · rw [if_neg listed, ← Option.not_isSome_iff_eq_none, Table.firstUnder_isSome_iff]
    rintro ⟨summary, member, named⟩
    rw [metaRows, List.mem_map] at member
    rcases member with ⟨group, grouped, rfl⟩
    apply listed
    rw [← named]
    rcases List.mem_map.mp (mem_groupBy.mp grouped).1 with ⟨row, stored, same⟩
    refine ⟨rfl, List.ne_nil_of_mem (List.mem_filter.mpr ⟨stored, ?_⟩)⟩
    exact decide_eq_true same

/-- Every stored bar is from the default provider. -/
def OnlyDefault (store : Store F) : Prop :=
  forall row, row ∈ store.bars.rows -> row.bucket.provider = defaultProvider

/-- Then the bars of a series are those of a bucket. -/
theorem bucketRows_eq_seriesBars {store : Store F} (only : OnlyDefault store) {bucket : Bucket}
    (own : bucket.provider = defaultProvider) :
    store.bucketRows bucket = seriesBars store bucket.symbol bucket.timeframe := by
  apply List.filter_congr
  intro row member
  have provider := only row member
  rcases bucket with ⟨symbol, timeframe, listed⟩
  rw [decide_eq_decide, Prod.mk.injEq]
  constructor
  · intro same
    rw [same]
    exact ⟨rfl, rfl⟩
  · rintro ⟨rfl, rfl⟩
    rw [show listed = row.bucket.provider from own.trans provider.symm]

/-- And another bucket has none. -/
theorem bucketRows_eq_nil {store : Store F} (only : OnlyDefault store) {bucket : Bucket}
    (other : bucket.provider ≠ defaultProvider) : store.bucketRows bucket = [] := by
  apply List.eq_nil_iff_forall_not_mem.mpr
  intro row member
  have parts := (store.mem_bucketRows bucket row).mp member
  apply other
  rw [← parts.2]
  exact only row parts.1

theorem summaries_of_onlyDefault {store : Store F} (only : OnlyDefault store) (bucket : Bucket) :
    getMeta (refresh store).2.committed bucket = bucketSummary store bucket := by
  rw [(refresh_eq store).2.2, firstUnder_metaRows, bucketSummary]
  by_cases own : bucket.provider = defaultProvider
  · rw [bucketRows_eq_seriesBars only own]
    by_cases empty : seriesBars store bucket.symbol bucket.timeframe = []
    · rw [if_pos empty, if_neg (fun listed => listed.2 empty)]
    · rw [if_neg empty, if_pos ⟨own, empty⟩]
  · rw [if_pos (bucketRows_eq_nil only own), if_neg (fun listed => own listed.1)]

/-! ## What a right summary serves -/

section Serves

variable {before after : Store F}
  (summaries : forall bucket, getMeta after bucket = bucketSummary before bucket)

theorem bucketSummary_isSome_iff (store : Store F) (symbol timeframe provider : String) :
    (bucketSummary store ⟨symbol, timeframe, provider⟩).isSome = true ↔
      HasBars store symbol timeframe provider := by
  rw [bucketSummary]
  by_cases empty : store.bucketRows ⟨symbol, timeframe, provider⟩ = []
  · rw [if_pos empty]
    refine ⟨fun impossible => Bool.noConfusion impossible, ?_⟩
    rintro ⟨row, member, own⟩
    have listed := (store.mem_bucketRows _ row).mpr ⟨member, own⟩
    rw [empty] at listed
    cases listed
  · rw [if_neg empty]
    refine ⟨fun _ => ?_, fun _ => rfl⟩
    rcases List.exists_mem_of_ne_nil _ empty with ⟨row, listed⟩
    exact ⟨row, (store.mem_bucketRows _ row).mp listed⟩

include summaries

theorem mem_presentProviders_of_summaries (symbol timeframe provider : String) :
    provider ∈ presentProviders after symbol timeframe ↔
      HasBars before symbol timeframe provider := by
  rw [mem_presentProviders, summaries, bucketSummary_isSome_iff]

theorem health_of_summaries {symbol timeframe requested provider : String}
    (resolved : BarServiceServicer.resolve after symbol timeframe requested = .ok provider)
    (minBars : Int) :
    BarServiceServicer.healthCheck after ⟨symbol, timeframe, minBars, requested⟩ =
      .ok (healthOfBars before ⟨symbol, timeframe, provider⟩ minBars) := by
  simp only [BarServiceServicer.healthCheck, resolved, barCount, latestBarTs, summaries]
  rw [bucketSummary, healthOfBars]
  by_cases empty : before.bucketRows ⟨symbol, timeframe, provider⟩ = []
  · rw [if_pos empty, empty]
    rfl
  · rw [if_neg empty]
    rfl

end Serves

/-- The rebuild restores the summary if and only if every stored bar is from
the default provider. -/
theorem refresh_restores_iff (store : Store F) :
    (refresh store).1 = .ok () ∧
      (MetadataRestored store (refresh store).2.committed ↔
        forall row, row ∈ store.bars.rows -> row.bucket.provider = defaultProvider) := by
  have rebuilt := refresh_eq store
  refine ⟨rebuilt.1, ?_⟩
  constructor
  · intro restored row member
    by_contra other
    have listed : row ∈ store.bucketRows row.bucket :=
      (store.mem_bucketRows row.bucket row).mpr ⟨member, rfl⟩
    have summary := restored.summaries row.bucket
    rw [rebuilt.2.2, firstUnder_metaRows, if_neg (fun here => other here.1), bucketSummary,
      if_neg (List.ne_nil_of_mem listed)] at summary
    cases summary
  · intro only
    have summaries := summaries_of_onlyDefault only
    exact
      { bars := rebuilt.2.1
        summaries := summaries
        resolves := fun symbol timeframe =>
          resolve_of_present (mem_presentProviders_of_summaries summaries symbol timeframe)
        health := fun _ _ _ _ resolved minBars => health_of_summaries summaries resolved minBars }

/-- A bar from the second provider. -/
def yahooStore : Store Rat where
  bars :=
    { rows := [(seedBar 0 10).toRow 9000 ⟨"ADA", "1h", "yahoo"⟩]
      unique := by decide }
  cacheMeta := Table.empty

/-- After the rebuild its bucket has no summary, and the default one, which has
no bar, has one. -/
theorem refresh_loses_yahoo :
    (refresh yahooStore).1 = .ok () ∧
      getMeta (refresh yahooStore).2.committed ⟨"ADA", "1h", "yahoo"⟩ = none ∧
      (getMeta (refresh yahooStore).2.committed ⟨"ADA", "1h", "tradingview"⟩).isSome = true ∧
      ¬ MetadataRestored yahooStore (refresh yahooStore).2.committed := by
  refine ⟨by decide +kernel, by decide +kernel, by decide +kernel, ?_⟩
  intro restored
  have summary := restored.summaries ⟨"ADA", "1h", "yahoo"⟩
  have missing : getMeta (refresh yahooStore).2.committed ⟨"ADA", "1h", "yahoo"⟩ = none := by
    decide +kernel
  have wanted : (bucketSummary yahooStore ⟨"ADA", "1h", "yahoo"⟩).isSome = true := by
    decide +kernel
  rw [← summary, missing] at wanted
  cases wanted

end Seed

end HybridDataSvc
