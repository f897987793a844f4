import HybridDataSvc.Cache.ManySeries
import HybridDataSvc.Rest.Answers
import HybridDataSvc.Rest.QuoteAge

namespace HybridDataSvc

open Relational Transition Accumulation Series AssetServiceServicer

/-!
# A chart has no gap

From the polling loop to the client.  One series is polled while other series
and other providers are written as they like, and a client asks `/v1/historical`
for a range of it.  The bars that it gets are an interval of what the source has,
they have all closed, and where the polling began before the range they are what
the source itself would answer with.
-/

variable {F : Type}

/-! ## Reading a range -/

/-- The end of the stored bars of a range. -/
theorem storedBars_mostRecent (store : Store F) (bucket : Bucket) (fromTs toTs : Int) (n : Nat) :
    MostRecent { ts | ts ∈ store.storedTimes bucket ∧ fromTs ≤ ts } toTs n
      (((storedBars store bucket fromTs toTs).rtake n).map Bar.time) := by
  have members := mem_storedBars store bucket fromTs toTs
  have ascending := List.pairwise_map.mpr (ascending_storedBars store bucket fromTs toTs)
  have bounded : forall ts, ts ∈ (storedBars store bucket fromTs toTs).map Bar.time -> ts ≤ toTs := by
    intro ts member
    rcases List.mem_map.mp member with ⟨bar, barMem, rfl⟩
    rcases (members bar).mp barMem with ⟨row, -, -, -, high, rfl⟩
    exact high
  have answer := mostRecent_drop ascending bounded n
  rw [List.length_map, ← List.map_drop] at answer
  apply answer.congr
  intro ts high
  constructor
  · intro member
    rcases List.mem_map.mp member with ⟨bar, barMem, rfl⟩
    rcases (members bar).mp barMem with ⟨row, stored, own, low, -, rfl⟩
    exact ⟨⟨row, stored, own, rfl⟩, low⟩
  · rintro ⟨⟨row, stored, own, rfl⟩, low⟩
    exact List.mem_map.mpr ⟨row.toBar, (members _).mpr ⟨row, stored, own, low, high, rfl⟩, rfl⟩

/-- A limit leaves a bar of the range out exactly when there are more. -/
theorem storedBars_left_out_iff (store : Store F) (bucket : Bucket) (fromTs toTs : Int) (n : Nat) :
    n < (storedBars store bucket fromTs toTs).length ↔
      exists ts, ts ∈ store.storedTimes bucket ∧ fromTs ≤ ts ∧ ts ≤ toTs ∧
        ts ∉ ((storedBars store bucket fromTs toTs).rtake n).map Bar.time := by
  have members := mem_storedBars store bucket fromTs toTs
  have ascending := ascending_storedBars store bucket fromTs toTs
  constructor
  · intro more
    have older : exists bar, bar ∈ (storedBars store bucket fromTs toTs).rdrop n := by
      apply List.exists_mem_of_ne_nil
      apply List.ne_nil_of_length_pos
      rw [length_rdrop]
      omega
    rcases older with ⟨bar, member⟩
    rw [← rdrop_append_rtake (storedBars store bucket fromTs toTs) n] at ascending
    have before := (List.pairwise_append.mp ascending).2.2 bar member
    rcases (members bar).mp (List.mem_of_mem_take member) with ⟨row, stored, own, low, high, rfl⟩
    refine ⟨row.ts, ⟨row, stored, own, rfl⟩, low, high, ?_⟩
    intro shown
    rcases List.mem_map.mp shown with ⟨other, otherMem, same⟩
    exact absurd same (ne_of_gt (before other otherMem))
  · rintro ⟨ts, ⟨row, stored, own, rfl⟩, low, high, absent⟩
    by_contra few
    apply absent
    rw [rtake_of_length_le (not_lt.mp few)]
    exact List.mem_map.mpr ⟨row.toBar, (members _).mpr ⟨row, stored, own, low, high, rfl⟩, rfl⟩

/-! ## The writer -/

/-- A call of `get_bars` for the series, or a write for another bucket. -/
inductive CacheEvent (F : Type)
  | series (call : PollCall F)
  | elsewhere (action : CacheAction F)

namespace CacheEvent

variable [PyFloat F]

def step (symbol timeframe : String) (state : Polling F) : CacheEvent F -> Polling F
  | .series call => poll symbol timeframe state call
  | .elsewhere action => { state with store := CacheAction.step state.store action }

/-- The calls for the series are timely; the rest is written elsewhere. -/
def Proper (S : Set Int) (barSecs : Int) (bucket : Bucket) (state : Polling F) :
    CacheEvent F -> Prop
  | .series call => Timely S barSecs bucket state call
  | .elsewhere action => bucket ≠ action.bucket

section Runs

variable {symbol timeframe : String} {barSecs : Int} {S : Set Int}

theorem step_accumulated (known : tfSeconds timeframe = .ok barSecs)
    (grid : forall x, x ∈ S -> tsAligned x timeframe = .ok true) (state : Polling F)
    (event : CacheEvent F)
    (invariant : Accumulated S barSecs (defaultBucket symbol timeframe) state)
    (proper : event.Proper S barSecs (defaultBucket symbol timeframe) state) :
    Accumulated S barSecs (defaultBucket symbol timeframe) (event.step symbol timeframe state) := by
  cases event with
  | series call => exact poll_accumulated known grid state call invariant proper
  | elsewhere action =>
      exact invariant.of_sameBucket (CacheAction.step_sameBucket proper state.store) le_rfl

theorem run_accumulated (known : tfSeconds timeframe = .ok barSecs)
    (grid : forall x, x ∈ S -> tsAligned x timeframe = .ok true) {clock : Int}
    {events : List (CacheEvent F)}
    (proper : Along (step symbol timeframe) (Proper S barSecs (defaultBucket symbol timeframe))
      ⟨Store.empty, clock⟩ events) :
    Accumulated S barSecs (defaultBucket symbol timeframe)
      (run (step symbol timeframe) ⟨Store.empty, clock⟩ events) :=
  invariant_run (step symbol timeframe) (step_accumulated known grid) (accumulated_empty _ clock)
    proper

/-- Both kinds of events are writes of the cache. -/
theorem run_agrees (clock : Int) (events : List (CacheEvent F)) :
    MetadataAgrees (run (step symbol timeframe) ⟨Store.empty, clock⟩ events).store := by
  have kept : forall (state : Polling F) (event : CacheEvent F), MetadataAgrees state.store ->
      MetadataAgrees (step symbol timeframe state event).store := by
    intro state event agrees
    cases event with
    | series call =>
        exact step_metadataAgrees state.store (.getBars symbol timeframe call.count call.env) agrees
    | elsewhere action => exact step_metadataAgrees state.store action agrees
  have initially : MetadataAgrees (⟨Store.empty, clock⟩ : Polling F).store := metadataAgrees_empty
  have rule := invariant_run_always (step symbol timeframe) kept initially events
  exact rule

end Runs

end CacheEvent

/-! ## The chart -/

/-- A chart of at most `most` bars of a range, of the bars of `S` of which those at
`T` are stored. -/
structure GapFreeChart (S T : Set Int) (barSecs clock fromTs toTs : Int) (most : Nat)
    (chart : HistoricalModel F) : Prop where
  newest : MostRecent { ts | ts ∈ T ∧ fromTs ≤ ts } toTs most (chart.bars.map Bar.time)
  gapFree : Filled S { ts | ts ∈ chart.bars.map Bar.time }
  closed : forall bar, bar ∈ chart.bars -> bar.time + barSecs ≤ clock
  truncated : chart.truncated = some true ↔
    exists ts, ts ∈ T ∧ fromTs ≤ ts ∧ ts ≤ toTs ∧ ts ∉ chart.bars.map Bar.time
  ofSource : forall first, first ∈ T -> first ≤ fromTs -> forall last, IsGreatest T last ->
    MostRecent { ts | ts ∈ S ∧ fromTs ≤ ts } (min toTs last) most (chart.bars.map Bar.time)

/-- What the route answers with for some bars and a limit. -/
def chartOf (symbol : String) (interval : Timeframe) (most : Nat) (bars : List (Bar F)) :
    HistoricalModel F :=
  ⟨symbol, interval, bars.rtake most, if decide (most < bars.length) then some true else none⟩

/-- Of the stored bars of a range it is such a chart. -/
theorem gapFreeChart_of_accumulated {S : Set Int} {barSecs : Int} {bucket : Bucket}
    {state : Polling F} (accumulated : Accumulated S barSecs bucket state) (fromTs toTs : Int)
    (symbol : String) (interval : Timeframe) (most : Nat) :
    GapFreeChart S (state.store.storedTimes bucket) barSecs state.clock fromTs toTs most
      (chartOf symbol interval most (storedBars state.store bucket fromTs toTs)) := by
  have newest := storedBars_mostRecent state.store bucket fromTs toTs most
  refine ⟨newest, accumulated.filled.of_answer newest, ?_, ?_, ?_⟩
  · intro bar member
    have held := (newest.elements bar.time (List.mem_map_of_mem member)).1.1
    exact accumulated.closed held
  · dsimp only [chartOf]
    rw [← storedBars_left_out_iff]
    by_cases more : most < (storedBars state.store bucket fromTs toTs).length
    · rw [decide_eq_true more]
      exact iff_of_true rfl more
    · rw [decide_eq_false more]
      exact iff_of_false (fun impossible => by cases impossible) more
  · intro first firstMem early last greatest
    exact accumulated.filled.answer_of_set firstMem early greatest newest

theorem effectiveLimit_maxHistoricalBars :
    effectiveLimit Rest.maxHistoricalBars = Rest.maxHistoricalBars := by decide

/-- A range of a catalogued symbol is answered with the end of the stored bars of
the provider that serves it. -/
theorem getHistorical_resolved {db : Database F} {tvSymbol : String}
    (valid : Rest.validPathSymbol tvSymbol = true) {asset : AssetRecord}
    (found : db.assets.lookup tvSymbol = some asset) (interval : Timeframe) {provider : String}
    (resolved : BarServiceServicer.resolve db.store asset.storageSymbol
      (restToStorage interval.value) "" = .ok provider) {fromTs toTs : Int}
    (order : fromTs < toTs) (fits : fitsInt64 fromTs = true ∧ fitsInt64 toTs = true) :
    Rest.getHistorical (stubsOf db) tvSymbol fromTs toTs interval =
      .ok (chartOf asset.symbol interval Rest.maxHistoricalBars.toNat
        (storedBars db.store ⟨asset.storageSymbol, restToStorage interval.value, provider⟩
          fromTs toTs)) := by
  have named : tvSymbol ≠ "" := by
    rintro rfl
    revert valid
    decide
  have profile : (stubsOf db).getProfile tvSymbol = .ok (rowToAssetMessage asset.toAssetRow) := by
    simp only [stubsOf, AssetServiceServicer.getProfile, if_neg named, found]
  have answer := getBarsInRange_resolved resolved fromTs toTs Rest.maxHistoricalBars
  rw [effectiveLimit_maxHistoricalBars] at answer
  rw [Rest.getHistorical_of_known (stubsOf db) interval (not_le.mpr order) fits profile]
  dsimp only [Rest.rangeBars, stubsOf, rowToAssetMessage, AssetRecord.toAssetRow, chartOf] at answer ⊢
  rw [answer]

/-- After every run in which the calls for the series are timely and whatever else
is written goes to other buckets, a range of the series is answered, and if any
bar of it is stored the answer is a chart without a gap. -/
theorem chart_gap_free [PyFloat F] {tvSymbol : String} (valid : Rest.validPathSymbol tvSymbol = true)
    {asset : AssetRecord} (interval : Timeframe) {barSecs : Int}
    (known : tfSeconds (restToStorage interval.value) = .ok barSecs) {S : Set Int}
    (grid : forall x, x ∈ S -> tsAligned x (restToStorage interval.value) = .ok true) (clock : Int)
    (events : List (CacheEvent F))
    (proper : Along (CacheEvent.step asset.storageSymbol (restToStorage interval.value))
      (CacheEvent.Proper S barSecs
        (defaultBucket asset.storageSymbol (restToStorage interval.value)))
      ⟨Store.empty, clock⟩ events)
    {db : Database F} (found : db.assets.lookup tvSymbol = some asset)
    (written : db.store = (run
      (CacheEvent.step asset.storageSymbol (restToStorage interval.value))
      ⟨Store.empty, clock⟩ events).store)
    {fromTs toTs : Int} (order : fromTs < toTs)
    (fits : fitsInt64 fromTs = true ∧ fitsInt64 toTs = true) :
    let last := run (CacheEvent.step asset.storageSymbol (restToStorage interval.value))
      ⟨Store.empty, clock⟩ events
    let times := db.store.storedTimes
      (defaultBucket asset.storageSymbol (restToStorage interval.value))
    exists chart, Rest.getHistorical (stubsOf db) tvSymbol fromTs toTs interval = .ok chart ∧
      (times.Nonempty -> GapFreeChart S times barSecs last.clock fromTs toTs
        Rest.maxHistoricalBars.toNat chart) := by
  intro last times
  have agrees : MetadataAgrees db.store := written ▸ CacheEvent.run_agrees clock events
  rcases resolve_of_present (mem_presentProviders_iff_hasBars agrees asset.storageSymbol
    (restToStorage interval.value)) with ⟨provider, resolved, _⟩
  refine ⟨_, getHistorical_resolved valid found interval resolved order fits, ?_⟩
  rintro ⟨ts, row, member, own, -⟩
  have chosen := resolve_of_defaultBars agrees ⟨row, member, own⟩
  cases resolved.symm.trans chosen
  have accumulated := CacheEvent.run_accumulated known grid proper
  have chart := gapFreeChart_of_accumulated accumulated fromTs toTs asset.symbol interval
    Rest.maxHistoricalBars.toNat
  rw [← written] at chart
  exact chart

section Example

/-- Another provider has the bar at 7200, which is stored in between. -/
def otherProvider : CacheAction Rat :=
  .insertBars ⟨"ADA", "1h", "yahoo"⟩ (.ohlcv [seedBar 7200 9]) ⟨12000, true⟩

def chartEvents : List (CacheEvent Rat) :=
  [.series firstPoll, .elsewhere otherProvider, .series secondPoll]

/-- The series of `cardano`. -/
def chartRun : Polling Rat :=
  run (CacheEvent.step cardano.storageSymbol (restToStorage Timeframe.h1.value))
    ⟨Store.empty, 4000⟩ chartEvents

def chartDatabase : Database Rat where
  store := chartRun.store
  feeds := Table.empty
  assets := Table.empty.insertNewAll [cardano]

theorem chart_gap_free_two_providers :
    exists chart, Rest.getHistorical (stubsOf chartDatabase) "BINANCE:ADAUSDT" 0 20000 .h1 =
        .ok chart ∧
      GapFreeChart { ts | ts ∈ [0, 3600, 10800] }
        (chartDatabase.store.storedTimes (defaultBucket "ADA" "1h")) 3600 chartRun.clock 0 20000
        Rest.maxHistoricalBars.toNat chart := by
  have answered : MostRecent { ts : Int | ts ∈ [0, 3600, 10800] } 4000 10 [0, 3600] := by decide
  have again : MostRecent { ts : Int | ts ∈ [0, 3600, 10800] } 14000 4 [0, 3600, 10800] := by decide
  have refetched : MostRecent { ts : Int | ts ∈ [0, 3600, 10800] } 14000 10 [0, 3600, 10800] := by
    decide
  have grid : forall x : Int, x ∈ [0, 3600, 10800] -> tsAligned x "1h" = .ok true := by decide
  have cached : getMeta (run (CacheEvent.step "ADA" "1h") ⟨Store.empty, 4000⟩
      [.series firstPoll, .elsewhere otherProvider]).store (defaultBucket "ADA" "1h") =
        some { bucket := defaultBucket "ADA" "1h", lastBarTs := 0, barCount := 1,
               lastFetchedAt := 4000 } := by
    decide +kernel
  have elsewhere : defaultBucket "ADA" "1h" ≠ otherProvider.bucket := by decide
  have proper : Along (CacheEvent.step cardano.storageSymbol (restToStorage Timeframe.h1.value))
      (CacheEvent.Proper { ts | ts ∈ [0, 3600, 10800] } 3600
        (defaultBucket cardano.storageSymbol (restToStorage Timeframe.h1.value)))
      ⟨Store.empty, 4000⟩ chartEvents :=
    ⟨.cold rfl (by decide) (by decide) (answers_answerOnly answered), elsewhere,
      .warm cached (by decide) (by decide) (by decide) (by decide) (by decide) (by decide)
        (answers_answerOnly again) (answers_answerOnly refetched), trivial⟩
  have found : chartDatabase.assets.lookup "BINANCE:ADAUSDT" = some cardano := by decide +kernel
  rcases chart_gap_free (by decide) .h1 (by decide : tfSeconds "1h" = .ok 3600) grid 4000
    chartEvents proper found rfl (by decide : (0 : Int) < 20000) ⟨by decide, by decide⟩ with
    ⟨chart, answer, gapFree⟩
  have stored : 0 ∈ chartDatabase.store.storedTimes (defaultBucket "ADA" "1h") :=
    ⟨(seedBar 0 10).toRow 4000 (defaultBucket "ADA" "1h"), by decide +kernel, rfl, rfl⟩
  exact ⟨chart, answer, gapFree ⟨0, stored⟩⟩

end Example

end HybridDataSvc
