import HybridDataSvc.Cache.GetBars
import HybridDataSvc.Transition.Runs

namespace HybridDataSvc

open Relational Transition

/-!
# Runs of the bar cache

The writes of one process, in any order: `get_bars` from the polling loop,
`_insert_bars` from the backfill command and `invalidate`.  Everything a call
is answered (clocks, frames, failures) is part of the action, so a statement
about every run covers every fetcher and every clock.  `step_cases` says once
what a step can do to the store: nothing, commit one accepted batch, or empty
one bucket.
-/

/-- One write to the cache. -/
inductive CacheAction (F : Type)
  | getBars (symbol timeframe : String) (count : Int) (env : GetBarsEnv F)
  | insertBars (bucket : Bucket) (df : DataFrame F) (env : InsertEnv)
  | invalidate (symbol timeframe : String) (commits : Bool)

namespace CacheAction

variable {F : Type} [PyFloat F]

/-- The store after one write. -/
def step (store : Store F) : CacheAction F -> Store F
  | .getBars symbol timeframe count env =>
      (HybridDataSvc.getBars env symbol timeframe count store).store
  | .insertBars bucket df env => (HybridDataSvc.insertBars env df bucket store).store
  | .invalidate symbol timeframe commits =>
      if commits then HybridDataSvc.invalidate (defaultBucket symbol timeframe) store else store

/-- The frame an action hands to `_insert_bars`, with the bucket it is for and
the surroundings of that insert. -/
inductive Submits (store : Store F) : CacheAction F -> Bucket -> DataFrame F -> InsertEnv -> Prop
  | getBars {symbol timeframe : String} {count : Int} {env : GetBarsEnv F} {path : WritePath}
      {df : DataFrame F} (handed : HandsOver env symbol timeframe count store path df) :
      Submits store (.getBars symbol timeframe count env) (defaultBucket symbol timeframe) df
        env.insert
  | insertBars {bucket : Bucket} {df : DataFrame F} {env : InsertEnv} :
      Submits store (.insertBars bucket df env) bucket df env

/-- The inversion of a step. -/
theorem step_cases (store : Store F) (action : CacheAction F) :
    step store action = store ∨
      (exists bucket df env barSecs closed, Submits store action bucket df env ∧
        AcceptedBatch env.now df bucket store barSecs closed ∧ env.commits = true ∧
        step store action = commitRows env.now bucket closed store) ∨
      exists symbol timeframe, action = .invalidate symbol timeframe true ∧
        step store action = HybridDataSvc.invalidate (defaultBucket symbol timeframe) store := by
  cases action with
  | getBars symbol timeframe count env =>
      rcases getBars_store_cases env symbol timeframe count store with
        unchanged | ⟨path, df, barSecs, closed, handed, accepted, commits, result, _⟩
      · exact Or.inl unchanged.1
      · exact Or.inr (Or.inl ⟨_, df, env.insert, barSecs, closed, .getBars handed, accepted,
          commits, result⟩)
  | insertBars bucket df env =>
      rcases insertBars_cases env df bucket store with
        unchanged | ⟨barSecs, closed, accepted, commits, result⟩
      · exact Or.inl unchanged.1
      · refine Or.inr (Or.inl ⟨bucket, df, env, barSecs, closed, .insertBars, accepted, commits, ?_⟩)
        simp only [step, result]
  | invalidate symbol timeframe commits =>
      cases commits with
      | false => exact Or.inl rfl
      | true => exact Or.inr (Or.inr ⟨symbol, timeframe, rfl, rfl⟩)

/-- An accepted batch that commits is what the step does. -/
theorem step_of_submits {store : Store F} {action : CacheAction F} {bucket : Bucket}
    {df : DataFrame F} {env : InsertEnv} {barSecs : Int} {closed : List (Bar F)}
    (submitted : Submits store action bucket df env)
    (accepted : AcceptedBatch env.now df bucket store barSecs closed)
    (commits : env.commits = true) :
    step store action = commitRows env.now bucket closed store := by
  cases submitted with
  | getBars handed =>
      rcases getBars_of_handsOver handed with ⟨fetches, result⟩
      simp only [step, result, insertAndRead, insertBars_of_accepted accepted commits]
  | insertBars => simp only [step, insertBars_of_accepted accepted commits]

end CacheAction

/-! ## What `invalidate` leaves -/

section Invalidate

variable {F : Type}

theorem mem_bars_invalidate (bucket : Bucket) (store : Store F) (row : BarRow F) :
    row ∈ (invalidate bucket store).bars.rows ↔ row ∈ store.bars.rows ∧ row.bucket ≠ bucket := by
  simp [invalidate]

theorem getMeta_invalidate (bucket other : Bucket) (store : Store F) :
    getMeta (invalidate bucket store) other =
      if other = bucket then none else getMeta store other := by
  apply Option.ext
  intro summary
  rw [getMeta, Table.lookup_eq_some_iff]
  simp only [invalidate, Table.mem_deleteWhere, decide_eq_false_iff_not]
  by_cases same : other = bucket
  · rw [if_pos same]
    constructor
    · rintro ⟨⟨_, different⟩, equal⟩
      exact absurd (equal.trans same) different
    · intro impossible
      cases impossible
  · rw [if_neg same, getMeta, Table.lookup_eq_some_iff]
    constructor
    · rintro ⟨⟨member, _⟩, equal⟩
      exact ⟨member, equal⟩
    · rintro ⟨member, equal⟩
      exact ⟨⟨member, fun clash => same (equal.symm.trans clash)⟩, equal⟩

theorem bucketRows_invalidate_of_ne {bucket other : Bucket} (different : other ≠ bucket)
    (store : Store F) : (invalidate bucket store).bucketRows other = store.bucketRows other := by
  apply Table.select_deleteWhere_of_disjoint store.bars _ _
  intro row inOther
  rw [of_decide_eq_true inOther]
  exact decide_eq_false different

theorem mem_storedTimes_invalidate (bucket other : Bucket) (store : Store F) (ts : Int) :
    ts ∈ (invalidate bucket store).storedTimes other ↔
      other ≠ bucket ∧ ts ∈ store.storedTimes other := by
  constructor
  · rintro ⟨row, member, rfl, equal⟩
    have parts := (mem_bars_invalidate bucket store row).mp member
    exact ⟨parts.2, row, parts.1, rfl, equal⟩
  · rintro ⟨different, row, member, rfl, equal⟩
    exact ⟨row, (mem_bars_invalidate bucket store row).mpr ⟨member, different⟩, rfl, equal⟩

end Invalidate

/-- A store with some hourly bars of one symbol without a price band, written
through the guards at a time when all of them have closed; the concrete runs
below start from it. -/
def seededStore (bars : List (Bar Rat)) : Store Rat :=
  run CacheAction.step Store.empty
    [.insertBars (defaultBucket "ADA" "1h") (.ohlcv bars) ⟨100000, true⟩]

end HybridDataSvc
