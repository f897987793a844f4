import HybridDataSvc.Cache.GapFree
import HybridDataSvc.Cache.StoredBars

namespace HybridDataSvc

open Relational Transition Accumulation

/-!
# Many series in one store

The store keeps the bars of all series, and the polling loop goes from one to the
next.  A write leaves the buckets it is not for, so that every series accumulates
as if it were alone.
-/

variable {F : Type}

/-! ## What a bucket keeps -/

theorem SameBucket.storedTimes {before after : Store F} {bucket : Bucket}
    (same : SameBucket before after bucket) :
    after.storedTimes bucket = before.storedTimes bucket := by
  ext ts
  have rows := fun row => Iff.of_eq (congrArg (row ∈ ·) same.1)
  simp only [Store.mem_bucketRows] at rows
  constructor
  · rintro ⟨row, member, own, time⟩
    have held := (rows row).mp ⟨member, own⟩
    exact ⟨row, held.1, held.2, time⟩
  · rintro ⟨row, member, own, time⟩
    have held := (rows row).mpr ⟨member, own⟩
    exact ⟨row, held.1, held.2, time⟩

section Accumulated

variable {S : Set Int} {barSecs : Int} {bucket : Bucket}

/-- Nothing is stored yet. -/
theorem accumulated_empty (bucket : Bucket) (clock : Int) :
    Accumulated S barSecs bucket ⟨(Store.empty : Store F), clock⟩ := by
  have noTimes : (Store.empty : Store F).storedTimes bucket = ∅ := by
    ext ts
    constructor
    · rintro ⟨row, impossible, _⟩
      cases impossible
    · intro impossible
      cases impossible
  refine ⟨?_, fun _ => noTimes, ?_⟩
  · dsimp only
    rw [noTimes]
    exact filled_empty S
  · intro summary impossible
    cases impossible

/-- A series goes on as it is while the clock does. -/
theorem Accumulated.of_sameBucket {state later : Polling F}
    (invariant : Accumulated S barSecs bucket state)
    (same : SameBucket state.store later.store bucket) (clock : state.clock ≤ later.clock) :
    Accumulated S barSecs bucket later := by
  have times := same.storedTimes
  refine ⟨?_, ?_, ?_⟩
  · rw [times]
    exact invariant.filled
  · intro absent
    rw [times]
    exact invariant.cold (same.2.symm.trans absent)
  · intro summary found
    rw [times]
    have before := invariant.warm summary (same.2.symm.trans found)
    have closed := before.2
    exact ⟨before.1, by omega⟩

/-- What is stored has closed by the last clock reading. -/
theorem Accumulated.closed {state : Polling F} (invariant : Accumulated S barSecs bucket state)
    {ts : Int} (stored : ts ∈ state.store.storedTimes bucket) : ts + barSecs ≤ state.clock := by
  cases found : getMeta state.store bucket with
  | none =>
      rw [invariant.cold found] at stored
      cases stored
  | some summary =>
      have newest := invariant.warm summary found
      have earlier := newest.1.2 stored
      have closed := newest.2
      omega

/-- The clock does not go back in a timely call. -/
theorem Timely.clock_le {state : Polling F} {call : PollCall F}
    (timely : Timely S barSecs bucket state call) : state.clock ≤ call.env.insert.now := by
  cases timely with
  | cold absent started inserted answers => omega
  | warm cached started fetched refetched prompt inserted wide answers reanswers => omega

end Accumulated

variable [PyFloat F]

/-- The bucket a write is for. -/
def CacheAction.bucket : CacheAction F -> Bucket
  | .getBars symbol timeframe _ _ => defaultBucket symbol timeframe
  | .insertBars bucket _ _ => bucket
  | .invalidate symbol timeframe _ => defaultBucket symbol timeframe

/-- A write leaves the other buckets. -/
theorem CacheAction.step_sameBucket {action : CacheAction F} {bucket : Bucket}
    (elsewhere : bucket ≠ action.bucket) (store : Store F) :
    SameBucket store (CacheAction.step store action) bucket := by
  cases action with
  | getBars symbol timeframe count env =>
      exact getBars_sameBucket_of_ne elsewhere env count store
  | insertBars own df env =>
      rcases insertBars_cases env df own store with unchanged | ⟨_, closed, _, _, result⟩
      · rw [CacheAction.step, unchanged.1]
        exact ⟨rfl, rfl⟩
      · rw [CacheAction.step, result]
        refine ⟨bucketRows_commitRows_of_ne elsewhere _ closed store, ?_⟩
        exact (getMeta_commitRows _ own bucket closed store).trans (if_neg elsewhere)
  | invalidate symbol timeframe commits =>
      cases commits with
      | false => exact ⟨rfl, rfl⟩
      | true =>
          refine ⟨bucketRows_invalidate_of_ne elsewhere store, ?_⟩
          exact (getMeta_invalidate _ bucket store).trans (if_neg elsewhere)

/-! ## The polling loop -/

/-- A call of `get_bars` for one of the series. -/
structure SeriesPoll (F : Type) where
  symbol : String
  timeframe : String
  call : PollCall F

namespace SeriesPoll

def step (state : Polling F) (poll : SeriesPoll F) : Polling F :=
  HybridDataSvc.poll poll.symbol poll.timeframe state poll.call

/-- The call is timely for the source of its series. -/
def Proper (sources : String -> String -> Set Int) (state : Polling F) (poll : SeriesPoll F) : Prop :=
  exists barSecs, tfSeconds poll.timeframe = .ok barSecs ∧
    Timely (sources poll.symbol poll.timeframe) barSecs (defaultBucket poll.symbol poll.timeframe)
      state poll.call

/-- Every series is an interval of its source, and there are no other bars. -/
structure AllAccumulated (sources : String -> String -> Set Int) (state : Polling F) : Prop where
  series : forall symbol timeframe barSecs, tfSeconds timeframe = .ok barSecs ->
    Accumulated (sources symbol timeframe) barSecs (defaultBucket symbol timeframe) state
  provider : forall row, row ∈ state.store.bars.rows -> row.bucket.provider = defaultProvider

variable {sources : String -> String -> Set Int}

theorem step_allAccumulated
    (grid : forall symbol timeframe ts, ts ∈ sources symbol timeframe ->
      tsAligned ts timeframe = .ok true) (state : Polling F) (poll : SeriesPoll F)
    (invariant : AllAccumulated sources state) (proper : poll.Proper sources state) :
    AllAccumulated sources (step state poll) := by
  rcases proper with ⟨ownSecs, ownKnown, timely⟩
  constructor
  · intro symbol timeframe barSecs known
    by_cases own : defaultBucket symbol timeframe = defaultBucket poll.symbol poll.timeframe
    · cases own
      cases known.symm.trans ownKnown
      exact poll_accumulated ownKnown (grid poll.symbol poll.timeframe) state poll.call
        (invariant.series poll.symbol poll.timeframe ownSecs ownKnown) timely
    · apply (invariant.series symbol timeframe barSecs known).of_sameBucket
      · exact getBars_sameBucket_of_ne own poll.call.env poll.call.count state.store
      · exact timely.clock_le
  · intro row member
    rcases getBars_store_cases poll.call.env poll.symbol poll.timeframe poll.call.count
      state.store with unchanged | ⟨_, _, _, closed, _, _, _, result, _⟩
    · rw [step, HybridDataSvc.poll, unchanged.1] at member
      exact invariant.provider row member
    · rw [step, HybridDataSvc.poll, result] at member
      rcases mem_bars_commitRows member with ⟨bar, _, rfl⟩ | old
      · rfl
      · exact invariant.provider row old

theorem run_allAccumulated
    (grid : forall symbol timeframe ts, ts ∈ sources symbol timeframe ->
      tsAligned ts timeframe = .ok true) {clock : Int} {polls : List (SeriesPoll F)}
    (proper : Along step (Proper sources) ⟨Store.empty, clock⟩ polls) :
    AllAccumulated sources (run step ⟨Store.empty, clock⟩ polls) := by
  refine invariant_run step (step_allAccumulated grid) ⟨?_, ?_⟩ proper
  · intro symbol timeframe barSecs _
    exact accumulated_empty _ clock
  · intro row impossible
    cases impossible

end SeriesPoll

section Example

/-- A source without a bar at 7200, polled twice. -/
def firstPoll : PollCall Rat where
  count := 10
  env := { now := 4000, fetch := answerOnly 10 [seedBar 0 10, seedBar 3600 11],
           refetch := answerOnly 10 [], insert := ⟨4000, true⟩ }

def secondPoll : PollCall Rat where
  count := 10
  env := { now := 14000, fetch := answerOnly 4 [seedBar 0 10, seedBar 3600 11, seedBar 10800 12],
           refetch := answerOnly 10 [seedBar 0 10, seedBar 3600 11, seedBar 10800 12],
           insert := ⟨15000, true⟩ }

/-- A source that has nothing to skip. -/
def dotPoll : PollCall Rat where
  count := 10
  env := { now := 8000, fetch := answerOnly 10 [seedBar 0 6, seedBar 3600 7],
           refetch := answerOnly 10 [], insert := ⟨8000, true⟩ }

end Example

end HybridDataSvc
