import HybridDataSvc.Cache.Metadata
import HybridDataSvc.Cache.StoredBars
import HybridDataSvc.Cache.Finality
import HybridDataSvc.Fetcher.ChartRuns

namespace HybridDataSvc

open Relational Transition

/-!
# The writers as runs of the cache

The polling process and the backfill command reach the database only through
`get_bars` and `_insert_bars`.  So what one of their steps does to the store
is a run of at most one cache write, and a whole history of fetches, restarts
and backfills, one after the other, is a run of the cache.  Every invariant of
the cache is thereby one of the service.
-/

variable {F : Type} [PyFloat F]

/-- One step of the service. -/
inductive WriterAction (F : Type)
  | poller (action : FetcherAction F)
  | backfill (env : KlinesEnv F) (insert : InsertEnv) (symbol dbSymbol timeframe : String)
      (total : Int)

def WriterAction.step (cfg : FetcherConfig F) (system : System F) : WriterAction F -> System F
  | .poller action => FetcherAction.step cfg system action
  | .backfill env insert symbol dbSymbol timeframe total =>
      { system with
        store := (HybridDataSvc.backfill env insert symbol dbSymbol timeframe total
          system.store).store }

/-- The store after some writes of the cache. -/
def Writes (before after : Store F) : Prop :=
  exists writes, after = run CacheAction.step before writes

theorem Writes.none (store : Store F) : Writes store store := ⟨[], rfl⟩

theorem Writes.one (store : Store F) (action : CacheAction F) :
    Writes store (CacheAction.step store action) := ⟨[action], rfl⟩

theorem Writes.trans {first second third : Store F} (earlier : Writes first second)
    (later : Writes second third) : Writes first third := by
  rcases earlier with ⟨writes, rfl⟩
  rcases later with ⟨more, rfl⟩
  exact ⟨writes ++ more, (run_append CacheAction.step first writes more).symm⟩

/-- A fetch reaches the bar tables through one call of `get_bars`, if at all. -/
theorem fetch_store_cases (cfg : FetcherConfig F) (env : FetchEnv F) (feed : Feed)
    (system : System F) :
    (DataFetcher.fetch cfg env feed system).system.store = system.store ∨
      (DataFetcher.fetch cfg env feed system).system.store =
        (getBars (env.cache cfg feed.symbol) feed.symbol feed.timeframe cfg.barsToFetch
          system.store).store := by
  have path := fetch_path cfg env feed system
  generalize DataFetcher.fetch cfg env feed system = result at path ⊢
  cases path with
  | early stays => exact Or.inl rfl
  | failedSwitch reaches needs switched => exact Or.inl rfl
  | switched reaches needs switched => exact Or.inr rfl
  | remembered reaches same => exact Or.inr rfl

/-- A frame that a fetch returns was read from the store it leaves. -/
theorem fetch_reads {cfg : FetcherConfig F} {env : FetchEnv F} {feed : Feed} {system : System F}
    {df : DataFrame F} (returned : (DataFetcher.fetch cfg env feed system).outcome = .ok df) :
    readBars (DataFetcher.fetch cfg env feed system).system.store
      (defaultBucket feed.symbol feed.timeframe) cfg.barsToFetch = .ok df := by
  unfold DataFetcher.fetch at returned ⊢
  cases known : tfSeconds feed.timeframe with
  | error raised => simp only [known, reduceCtorEq] at returned
  | ok secs =>
      simp only [known] at returned ⊢
      by_cases fresh : cacheFresh env.clock secs
          (latestBarTs system.store (defaultBucket feed.symbol feed.timeframe)) = true
      · simp only [if_pos fresh] at returned ⊢
        exact returned
      · simp only [if_neg fresh] at returned ⊢
        cases pin : env.tabPinError with
        | some message => simp only [pin, reduceCtorEq] at returned
        | none =>
            simp only [pin] at returned ⊢
            by_cases needs : system.fetcher.NeedsSwitch feed
            · simp only [if_pos needs] at returned ⊢
              rcases switched : tvSwitch cfg.tvCli feed env.symbolOutcome env.timeframeOutcome
                system.chart with ⟨_ | _, chart⟩
              · simp only [switched, reduceCtorEq] at returned
              · simp only [switched] at returned ⊢
                exact getBars_reads returned
            · simp only [if_neg needs] at returned ⊢
              exact getBars_reads returned

theorem fetch_writes (cfg : FetcherConfig F) (env : FetchEnv F) (feed : Feed) (system : System F) :
    Writes system.store (DataFetcher.fetch cfg env feed system).system.store := by
  rcases fetch_store_cases cfg env feed system with unchanged | called
  · rw [unchanged]
    exact Writes.none system.store
  · rw [called]
    exact Writes.one system.store
      (.getBars feed.symbol feed.timeframe cfg.barsToFetch (env.cache cfg feed.symbol))

theorem writeBars_writes (env : InsertEnv) (dbSymbol timeframe : String) (bars : List (Bar F))
    (store : Store F) : Writes store (writeBars env dbSymbol timeframe bars store).store := by
  cases bars with
  | nil => exact Writes.none store
  | cons bar rest =>
      exact Writes.one store (.insertBars (defaultBucket dbSymbol timeframe)
        (backfillFrame dbSymbol (bar :: rest)) env)

theorem step_writes (cfg : FetcherConfig F) (system : System F) (action : WriterAction F) :
    Writes system.store (WriterAction.step cfg system action).store := by
  cases action with
  | poller action =>
      cases action with
      | fetch feed env => exact fetch_writes cfg env feed system
      | restart primary => exact Writes.none system.store
  | backfill env insert symbol dbSymbol timeframe total =>
      change Writes system.store
        (HybridDataSvc.backfill env insert symbol dbSymbol timeframe total system.store).store
      unfold HybridDataSvc.backfill
      cases fetched : fetchHistory env symbol timeframe total with
      | error raised => exact Writes.none system.store
      | ok bars => exact writeBars_writes insert dbSymbol timeframe bars system.store

/-- In every state of the service the stored rows have passed the guards and
the summaries agree with them. -/
theorem service_sound (cfg : FetcherConfig F) (primary : Feed) (actions : List (WriterAction F)) :
    SoundBars (run (WriterAction.step cfg) (boot primary Store.empty) actions).store ∧
      MetadataAgrees (run (WriterAction.step cfg) (boot primary Store.empty) actions).store := by
  rcases run_refines (WriterAction.step cfg) (step_writes cfg) (boot primary Store.empty) actions with
    ⟨writes, result⟩
  rw [result]
  constructor
  · exact invariant_run_always CacheAction.step step_soundBars soundBars_empty writes
  · exact invariant_run_always CacheAction.step step_metadataAgrees metadataAgrees_empty writes

end HybridDataSvc
