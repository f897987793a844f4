import HybridDataSvc.Cache.GapFree
import HybridDataSvc.Cache.SteadySource
import HybridDataSvc.Fetcher.DataFetcher
import Mathlib.Data.Rat.Floor

namespace HybridDataSvc

open Relational Accumulation

/-!
# The fast path

`DataFetcher.fetch` serves from the database while the clock is less than two
bars past `last_bar_ts`.  The bar after that one has not closed then, so that
`get_bars` would find nothing to write.  The fetcher compares the float that
`time.time()` returns, and the cache cuts it down to a whole number.
-/

/-- `int(clock)`. -/
def pyInt (clock : Rat) : Int := clock.num.tdiv clock.den

/-- From the epoch on the whole second is not later than the clock. -/
theorem pyInt_le {clock : Rat} (sinceEpoch : 0 ≤ clock) : (pyInt clock : Rat) ≤ clock := by
  have floor : pyInt clock = ⌊clock⌋ := by
    rw [pyInt, Int.tdiv_eq_ediv_of_nonneg (Rat.num_nonneg.mpr sinceEpoch),
      Rat.floor_def']
  rw [floor]
  exact Int.floor_le clock

section Source

variable {F : Type}

/-- A source of bars whose values no longer change. -/
structure FixedSource (F : Type) where
  times : Set Int
  value : Int -> Ohlcv F

/-- The fetcher returns the most recent bars that have opened by an instant, as
many as it is asked for.  Those up to `upTo` have their fixed values; later ones,
such as the bar that is forming, may have any. -/
def ReturnsRecent (source : FixedSource F) (upTo opened : Int)
    (fetch : Int -> Except PyError (DataFrame F)) : Prop :=
  forall n, exists rows, fetch n = .ok (.ohlcv rows) ∧
    MostRecent source.times opened n.toNat (rows.map Bar.time) ∧
    forall bar, bar ∈ rows -> bar.time ≤ upTo -> bar.toOhlcv = source.value bar.time

/-- The stored bars of a bucket are bars of the source, with its values, and
`last_bar_ts` is the newest of them. -/
structure AgreesUpTo (source : FixedSource F) (store : Store F) (bucket : Bucket)
    (summary : MetaRow) : Prop where
  warm : getMeta store bucket = some summary
  newest : IsGreatest (store.storedTimes bucket) summary.lastBarTs
  stored : forall ts row, store.barAt bucket ts = some row ->
    ts ∈ source.times ∧ row.toOhlcv = source.value ts

theorem AgreesUpTo.last_mem {source : FixedSource F} {store : Store F} {bucket : Bucket}
    {summary : MetaRow} (agrees : AgreesUpTo source store bucket summary) :
    summary.lastBarTs ∈ source.times := by
  have listed := (Store.mem_storedTimes_iff_barAt _ _ _).mp agrees.newest.1
  rcases Option.isSome_iff_exists.mp listed with ⟨row, found⟩
  exact (agrees.stored _ row found).1

/-- The bucket is served from the database. -/
theorem cacheFresh_of_lastBarTs {store : Store F} {bucket : Bucket} {summary : MetaRow}
    (warm : getMeta store bucket = some summary) (clock : Rat) (secs : Int) :
    cacheFresh clock secs (latestBarTs store bucket) = true ↔
      clock - summary.lastBarTs < 2 * secs := by
  rw [latestBarTs, warm]
  simp [cacheFresh]

/-- No bar newer than `last_bar_ts` has closed while the bucket is served from the
database. -/
theorem nothing_closed_of_fresh {source : FixedSource F} {timeframe : String} {secs lastBarTs : Int}
    (known : tfSeconds timeframe = .ok secs)
    (grid : forall x, x ∈ source.times -> tsAligned x timeframe = .ok true)
    (lastMem : lastBarTs ∈ source.times) {clock : Rat}
    (fresh : clock - lastBarTs < 2 * secs) {x : Int} (member : x ∈ source.times)
    (later : lastBarTs < x) : clock < ((x + secs : Int) : Rat) := by
  have next := grid_spaced known grid lastBarTs lastMem x member later
  have bound : ((lastBarTs + 2 * secs : Int) : Rat) ≤ ((x + secs : Int) : Rat) := by
    exact_mod_cast (by omega : lastBarTs + 2 * secs ≤ x + secs)
  push_cast at bound ⊢
  linarith

end Source

section FastPath

variable {F : Type} [PyFloat F] [SelfWithin F]

/-- The slow path at the same instant: `get_bars` with both clock readings cut from
the one of the fetcher. -/
def slowEnv (clock : Rat) (fetch refetch : Int -> Except PyError (DataFrame F)) (commits : Bool) :
    GetBarsEnv F :=
  { now := pyInt clock, fetch := fetch, refetch := refetch, insert := ⟨pyInt clock, commits⟩ }

/-- While the bucket is fresh the slow path writes nothing and reads the same frame. -/
theorem slow_path_of_fresh {source : FixedSource F} {symbol timeframe : String} {secs : Int}
    (known : tfSeconds timeframe = .ok secs)
    (grid : forall x, x ∈ source.times -> tsAligned x timeframe = .ok true)
    {store : Store F} {summary : MetaRow}
    (agrees : AgreesUpTo source store (defaultBucket symbol timeframe) summary)
    {clock : Rat} (sinceEpoch : 0 ≤ clock) (fresh : clock - summary.lastBarTs < 2 * secs)
    {opened : Int} {fetch : Int -> Except PyError (DataFrame F)}
    (returns : ReturnsRecent source summary.lastBarTs opened fetch)
    (refetch : Int -> Except PyError (DataFrame F)) (commits : Bool) (count : Int) :
    (getBars (slowEnv clock fetch refetch commits) symbol timeframe count store).store = store ∧
      (getBars (slowEnv clock fetch refetch commits) symbol timeframe count store).outcome =
        readBars store (defaultBucket symbol timeframe) count := by
  rcases returns (fetchCount (pyInt clock) summary.lastBarTs secs count) with
    ⟨rows, fetched, recent, fixed⟩
  apply getBars_of_nothing_newer agrees.warm known fetched
  · -- the overlap bar has the value that is stored
    apply validateOverlap_of_same
    intro bar member atLast cached stored
    have value := fixed bar member (le_of_eq atLast)
    rw [atLast, ← (agrees.stored _ cached stored).2] at value
    exact congrArg Ohlcv.close value
  · rw [closedBars, List.filter_eq_nil_iff]
    intro bar member closed
    rw [List.mem_filter, decide_eq_true_iff] at member
    have inSource := (recent.elements bar.time (List.mem_map_of_mem member.1)).1
    have forming := nothing_closed_of_fresh known grid agrees.last_mem fresh inSource member.2
    have whole : ((bar.time + secs : Int) : Rat) ≤ (pyInt clock : Rat) := by
      exact_mod_cast of_decide_eq_true closed
    exact absurd (le_trans whole (pyInt_le sinceEpoch)) (not_le_of_gt forming)

/-- Where `fetch` takes the fast path, the slow path at the same instant would leave
every row of `bars` and return the same frame; and where the source has a closed
bar newer than the stored ones, the fast path is not taken. -/
theorem fast_path_is_slow_path (cfg : FetcherConfig F) (env : FetchEnv F) (feed : Feed)
    (system : System F) {source : FixedSource F} {secs : Int}
    (known : tfSeconds feed.timeframe = .ok secs)
    (grid : forall x, x ∈ source.times -> tsAligned x feed.timeframe = .ok true)
    {summary : MetaRow}
    (agrees : AgreesUpTo source system.store (defaultBucket feed.symbol feed.timeframe) summary)
    (sinceEpoch : 0 ≤ env.clock) :
    (cacheFresh env.clock secs
        (latestBarTs system.store (defaultBucket feed.symbol feed.timeframe)) = true ->
      forall opened fetch refetch commits, ReturnsRecent source summary.lastBarTs opened fetch ->
        (getBars (slowEnv env.clock fetch refetch commits) feed.symbol feed.timeframe
          cfg.barsToFetch system.store).store.bars = system.store.bars ∧
        (getBars (slowEnv env.clock fetch refetch commits) feed.symbol feed.timeframe
          cfg.barsToFetch system.store).outcome =
            (DataFetcher.fetch cfg env feed system).outcome) ∧
      ((exists x, x ∈ source.times ∧ summary.lastBarTs < x ∧
          ((x + secs : Int) : Rat) ≤ env.clock) ->
        cacheFresh env.clock secs
          (latestBarTs system.store (defaultBucket feed.symbol feed.timeframe)) = false) := by
  constructor
  · intro taken opened fetch refetch commits returns
    have fresh := (cacheFresh_of_lastBarTs agrees.warm env.clock secs).mp taken
    have slow := slow_path_of_fresh known grid agrees sinceEpoch fresh returns refetch commits
      cfg.barsToFetch
    have fast : (DataFetcher.fetch cfg env feed system).outcome =
        readBars system.store (defaultBucket feed.symbol feed.timeframe) cfg.barsToFetch := by
      simp only [DataFetcher.fetch, known, taken, if_true]
    rw [fast]
    exact ⟨congrArg Store.bars slow.1, slow.2⟩
  · rintro ⟨x, member, later, closed⟩
    rw [← Bool.not_eq_true, cacheFresh_of_lastBarTs agrees.warm]
    intro fresh
    exact absurd closed
      (not_le_of_gt (nothing_closed_of_fresh known grid agrees.last_mem fresh member later))

end FastPath

section Example

/-- Two closed bars and one that is forming. -/
def formingAfterTwo : FixedSource Rat where
  times := { ts | ts ∈ [0, 3600, 7200] }
  value := fun ts => (seedBar ts (if ts = 0 then 10 else 11)).toOhlcv

def lastOfThree (n : Int) : Except PyError (DataFrame Rat) :=
  .ok (.ohlcv ([seedBar 0 10, seedBar 3600 11, seedBar 7200 99].drop (3 - n.toNat)))

/-- Half a second past 10000 the bar at 7200 is forming, and both paths return the
two stored bars. -/
theorem fast_path_is_slow_path_forming :
    let store := seededStore [seedBar 0 10, seedBar 3600 11]
    let feed : Feed := ⟨"ADA", "1h", "BINANCE:ADAUSDT"⟩
    let cfg : FetcherConfig Rat := ⟨"tv", 300, fun _ => ""⟩
    let env : FetchEnv Rat :=
      { clock := 20001 / 2, tabPinError := none, symbolOutcome := .succeeded,
        timeframeOutcome := .succeeded, now := 10000, ohlcv := lastOfThree,
        ohlcvAgain := lastOfThree, insert := ⟨10000, true⟩ }
    let system : System Rat := ⟨store, .init feed, feed.chart⟩
    cacheFresh env.clock 3600 (latestBarTs store (defaultBucket "ADA" "1h")) = true ∧
      (getBars (slowEnv env.clock lastOfThree lastOfThree true) "ADA" "1h" 300 store).outcome =
        (DataFetcher.fetch cfg env feed system).outcome := by
  intro store feed cfg env system
  have taken : cacheFresh env.clock 3600 (latestBarTs store (defaultBucket "ADA" "1h")) = true := by
    decide +kernel
  have rows : forall row, row ∈ store.bars.rows ->
      row.ts ∈ [0, 3600, 7200] ∧ row.toOhlcv = formingAfterTwo.value row.ts ∧ row.ts ≤ 3600 := by
    decide +kernel
  have agrees : AgreesUpTo formingAfterTwo store (defaultBucket "ADA" "1h")
      { bucket := defaultBucket "ADA" "1h", lastBarTs := 3600, barCount := 2,
        lastFetchedAt := 100000 } := by
    refine ⟨by decide +kernel, ⟨?_, ?_⟩, ?_⟩
    · exact ⟨(seedBar 3600 11).toRow 100000 (defaultBucket "ADA" "1h"), by decide +kernel, rfl, rfl⟩
    · rintro ts ⟨row, member, _, rfl⟩
      exact (rows row member).2.2
    · intro ts row found
      rcases (Store.barAt_eq_some_iff _ _ _ _).mp found with ⟨member, _, rfl⟩
      exact ⟨(rows row member).1, (rows row member).2.1⟩
  have returns : ReturnsRecent formingAfterTwo 3600 10000 lastOfThree := by
    intro n
    refine ⟨_, rfl, ?_, ?_⟩
    · rw [List.map_drop]
      exact mostRecent_drop (by decide) (by decide) n.toNat
    · intro bar member old
      have fixed : forall bar, bar ∈ [seedBar 0 10, seedBar 3600 11, seedBar 7200 99] ->
          bar.time ≤ 3600 -> bar.toOhlcv = formingAfterTwo.value bar.time := by decide +kernel
      exact fixed bar (List.mem_of_mem_drop member) old
  have same := fast_path_is_slow_path cfg env feed system (by decide : tfSeconds "1h" = .ok 3600)
    (by decide : forall x : Int, x ∈ [0, 3600, 7200] -> tsAligned x "1h" = .ok true) agrees
    (by decide +kernel)
  exact ⟨taken, (same.1 taken 10000 lastOfThree lastOfThree true returns).2⟩

end Example

end HybridDataSvc
