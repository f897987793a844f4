import HybridDataSvc.Cache.Metadata
import HybridDataSvc.Cache.SteadySource
import HybridDataSvc.Order.Accumulation

namespace HybridDataSvc

open Relational Accumulation

/-!
# The rewrite after a mismatch

When the overlap bar has changed, `get_bars` fetches again and rewrites what it
is given in place.  The rest of the bucket stays, and if the overlap bar was
among the closed rows of the second fetch, the next call finds it as it is.
A row that is stored although its bar has not closed is not rewritten, and the
summary may fall behind it.
-/

section Store

variable {F : Type}

/-- In a batch without repeated times every row is the one that is stored. -/
theorem lastAt_of_mem {closed : List (Bar F)} (distinct : (closed.map Bar.time).Nodup)
    {bar : Bar F} (member : bar ∈ closed) : lastAt closed bar.time = some bar :=
  (Table.lastUnder_eq_some_iff distinct bar.time bar).mpr ⟨member, rfl⟩

/-- What a rewrite does to a store: the rows of the batch are stored with its
values, every other row stays, and no bucket loses a row. -/
structure Repaired (now : Int) (bucket : Bucket) (closed : List (Bar F)) (before after : Store F) :
    Prop where
  stored : forall bar, bar ∈ closed ->
    after.barAt bucket bar.time = some (bar.toRow now bucket)
  others : forall other ts, ¬ (other = bucket ∧ ts ∈ batchTimes closed) ->
    after.barAt other ts = before.barAt other ts
  count : forall other, (before.bucketRows other).length ≤ (after.bucketRows other).length

theorem repaired_of_nothing (now : Int) (bucket : Bucket) (store : Store F) :
    Repaired now bucket [] store store where
  stored := by
    intro bar member
    cases member
  others := fun _ _ _ => rfl
  count := fun _ => Nat.le_refl _

/-- A committed batch without repeated times is such a rewrite. -/
theorem repaired_commitRows {closed : List (Bar F)} (distinct : (closed.map Bar.time).Nodup)
    (now : Int) (bucket : Bucket) (store : Store F) :
    Repaired now bucket closed store (commitRows now bucket closed store) where
  stored := by
    intro bar member
    rw [barAt_commitRows_self, lastAt_of_mem distinct member, Option.map_some, Option.some_or]
  others := fun _ _ outside => barAt_commitRows_of_outside outside now store
  count := by
    intro other
    apply Store.length_bucketRows_le
    intro ts member
    by_cases same : other = bucket
    · subst same
      exact (mem_storedTimes_commitRows_self now other closed store ts).mpr (Or.inl member)
    · exact (mem_storedTimes_commitRows_of_ne same now closed store ts).mpr member

end Store

variable {F : Type} [PyFloat F]

/-- The call finds the overlap bar changed. -/
def TakesMismatchPath (env : GetBarsEnv F) (symbol timeframe : String) (count : Int)
    (store : Store F) : Prop :=
  exists summary barSecs fresh,
    getMeta store (defaultBucket symbol timeframe) = some summary ∧
    tfSeconds timeframe = .ok barSecs ∧
    env.fetch (fetchCount env.now summary.lastBarTs barSecs count) = .ok fresh ∧
    validateOverlap store (defaultBucket symbol timeframe) summary.lastBarTs fresh = .ok false

/-- The leak guards have no objection to the closed rows of a frame. -/
structure PassesGuards (bucket : Bucket) (store : Store F) (closed : List (Bar F)) : Prop where
  inBand : forall bar, bar ∈ closed -> isPlausible bucket.symbol bar.close = true
  driftPassed : driftExceeded (lastClose store bucket) closed = false
  aligned : forall bar, bar ∈ closed -> tsAligned bar.time bucket.timeframe = .ok true

/-- A call on the mismatch path whose refetched frame `rows` passes the guards and
is committed, for a bucket whose `last_bar_ts` is its newest stored time. -/
structure RepairCall (env : GetBarsEnv F) (symbol timeframe : String) (count : Int)
    (store : Store F) (summary : MetaRow) (barSecs : Int) (rows : List (Bar F)) : Prop where
  warm : getMeta store (defaultBucket symbol timeframe) = some summary
  newest : IsGreatest (store.storedTimes (defaultBucket symbol timeframe)) summary.lastBarTs
  known : tfSeconds timeframe = .ok barSecs
  mismatch : TakesMismatchPath env symbol timeframe count store
  refetched : env.refetch count = .ok (.ohlcv rows)
  distinct : (rows.map Bar.time).Nodup
  passes : PassesGuards (defaultBucket symbol timeframe) store
    (closedBars barSecs env.insert.now rows)
  commits : env.insert.commits = true

/-- The source returns for the times of the batch the values it had there. -/
def KeepsValues (closed : List (Bar F)) (fetch : Int -> Except PyError (DataFrame F)) : Prop :=
  forall n rows, fetch n = .ok (.ohlcv rows) -> forall bar, bar ∈ rows ->
    forall old, old ∈ closed -> old.time = bar.time -> bar.toOhlcv = old.toOhlcv

/-- A call does not take the mismatch path and leaves the prices of every stored
bar. -/
structure Settled (env : GetBarsEnv F) (symbol timeframe : String) (count : Int)
    (store : Store F) : Prop where
  noMismatch : ¬ TakesMismatchPath env symbol timeframe count store
  prices : forall bucket ts row, store.barAt bucket ts = some row ->
    exists kept, (getBars env symbol timeframe count store).store.barAt bucket ts = some kept ∧
      kept.toOhlcv = row.toOhlcv

section Call

variable {env : GetBarsEnv F} {symbol timeframe : String} {count : Int} {store : Store F}
  {summary : MetaRow} {barSecs : Int} {rows : List (Bar F)}

/-- The call commits the closed rows of the second fetch, if there are any. -/
theorem RepairCall.store_eq (call : RepairCall env symbol timeframe count store summary barSecs rows) :
    (getBars env symbol timeframe count store).store =
      if closedBars barSecs env.insert.now rows = [] then store
      else commitRows env.insert.now (defaultBucket symbol timeframe)
        (closedBars barSecs env.insert.now rows) store := by
  rcases call.mismatch with ⟨other, otherSecs, fresh, warm, known, fetched, invalid⟩
  rcases getBars_of_handsOver (.mismatch warm known fetched invalid call.refetched) with
    ⟨fetches, result⟩
  rw [result]
  by_cases nothing : closedBars barSecs env.insert.now rows = []
  · have inserted := insertBars_of_nothing_closed (defaultBucket symbol timeframe) store
      call.known nothing
    rw [if_pos nothing, insertAndRead, inserted]
  · have accepted : AcceptedBatch env.insert.now (.ohlcv rows) (defaultBucket symbol timeframe)
        store barSecs (closedBars barSecs env.insert.now rows) :=
      ⟨call.known, ⟨rows, rfl, rfl⟩, nothing, call.passes.inBand, call.passes.driftPassed,
        call.passes.aligned⟩
    rw [if_neg nothing, insertAndRead, insertBars_of_accepted accepted call.commits]

theorem RepairCall.distinct_closed
    (call : RepairCall env symbol timeframe count store summary barSecs rows) :
    ((closedBars barSecs env.insert.now rows).map Bar.time).Nodup :=
  (List.filter_sublist.map Bar.time).nodup call.distinct

theorem RepairCall.repaired
    (call : RepairCall env symbol timeframe count store summary barSecs rows) :
    Repaired env.insert.now (defaultBucket symbol timeframe)
      (closedBars barSecs env.insert.now rows) store
      (getBars env symbol timeframe count store).store := by
  rw [call.store_eq]
  by_cases nothing : closedBars barSecs env.insert.now rows = []
  · rw [if_pos nothing, nothing]
    exact repaired_of_nothing _ _ _
  · rw [if_neg nothing]
    exact repaired_commitRows call.distinct_closed _ _ _

/-- With the overlap bar among the closed rows, `last_bar_ts` is again the newest
stored time, and the row there is one of the batch. -/
theorem RepairCall.last_rewritten
    (call : RepairCall env symbol timeframe count store summary barSecs rows)
    (covers : exists bar, bar ∈ closedBars barSecs env.insert.now rows ∧
      bar.time = summary.lastBarTs) :
    exists after last,
      getMeta (getBars env symbol timeframe count store).store
        (defaultBucket symbol timeframe) = some after ∧
      IsGreatest ((getBars env symbol timeframe count store).store.storedTimes
        (defaultBucket symbol timeframe)) after.lastBarTs ∧
      last ∈ closedBars barSecs env.insert.now rows ∧ last.time = after.lastBarTs := by
  rcases covers with ⟨overlap, member, atLast⟩
  have someClosed : closedBars barSecs env.insert.now rows ≠ [] := List.ne_nil_of_mem member
  have latest := isGreatest_newestTime someClosed
  rcases latest.1 with ⟨last, lastMem, lastTime⟩
  have notOlder : summary.lastBarTs ≤ newestTime (closedBars barSecs env.insert.now rows) :=
    latest.2 ⟨overlap, member, atLast⟩
  rw [call.store_eq, if_neg someClosed]
  have summarised := getMeta_commitRows env.insert.now (defaultBucket symbol timeframe)
    (defaultBucket symbol timeframe) (closedBars barSecs env.insert.now rows) store
  rw [if_pos rfl] at summarised
  refine ⟨_, last, summarised, ?_, lastMem, lastTime⟩
  rw [storedTimes_commitRows_self]
  exact isGreatest_union_of_reaches call.newest latest notOlder

/-- A warm call that finds the overlap bar as it is writes newer bars only. -/
theorem newer_of_handsOver {path : WritePath} {df : DataFrame F} {closed : List (Bar F)}
    (warm : getMeta store (defaultBucket symbol timeframe) = some summary)
    (noMismatch : ¬ TakesMismatchPath env symbol timeframe count store)
    (handed : HandsOver env symbol timeframe count store path df)
    (accepted : AcceptedBatch env.insert.now df (defaultBucket symbol timeframe) store barSecs
      closed) :
    forall bar, bar ∈ closed -> summary.lastBarTs < bar.time := by
  cases handed with
  | cold absent _ =>
      rw [warm] at absent
      cases absent
  | append otherWarm _ _ _ _ =>
      rw [warm] at otherWarm
      cases otherWarm
      rcases accepted.rows with ⟨written, frame, rfl⟩
      cases frame
      intro bar member
      have inNew := ((mem_closedBars _ _ _ bar).mp member).1
      exact of_decide_eq_true (List.mem_filter.mp inNew).2
  | mismatch otherWarm known fetched invalid _ =>
      exact absurd ⟨_, _, _, otherWarm, known, fetched, invalid⟩ noMismatch

/-- A bucket whose newest row is what the source returns settles. -/
theorem settled_of_same [SelfWithin F]
    (warm : getMeta store (defaultBucket symbol timeframe) = some summary)
    (newest : IsGreatest (store.storedTimes (defaultBucket symbol timeframe)) summary.lastBarTs)
    (same : forall n rows, env.fetch n = .ok (.ohlcv rows) -> forall bar, bar ∈ rows ->
      bar.time = summary.lastBarTs -> forall cached,
        store.barAt (defaultBucket symbol timeframe) summary.lastBarTs = some cached ->
          bar.close = cached.close) :
    Settled env symbol timeframe count store := by
  have noMismatch : ¬ TakesMismatchPath env symbol timeframe count store := by
    rintro ⟨other, otherSecs, fresh, otherWarm, known, fetched, invalid⟩
    rw [warm] at otherWarm
    cases otherWarm
    cases fresh with
    | noColumns => cases invalid
    | ohlcv rows =>
        rw [validateOverlap_of_same (same _ rows fetched)] at invalid
        cases invalid
  refine ⟨noMismatch, ?_⟩
  intro bucket ts row stored
  rcases getBars_store_cases env symbol timeframe count store with
    unchanged | ⟨path, df, otherSecs, closed, handed, accepted, _, result, _⟩
  · rw [unchanged.1]
    exact ⟨row, stored, rfl⟩
  · have newer := newer_of_handsOver warm noMismatch handed accepted
    -- a stored time is not after the newest one, so no newer bar is written there
    have outside : ¬ (bucket = defaultBucket symbol timeframe ∧ ts ∈ batchTimes closed) := by
      rintro ⟨rfl, bar, member, rfl⟩
      have listed : bar.time ∈ store.storedTimes (defaultBucket symbol timeframe) := by
        rw [Store.mem_storedTimes_iff_barAt, stored]
        rfl
      exact absurd (newest.2 listed) (not_le_of_gt (newer bar member))
    refine ⟨row, ?_, rfl⟩
    rw [result, barAt_commitRows_of_outside outside]
    exact stored

/-- A call on the mismatch path rewrites exactly the closed rows of the second
fetch; and if the overlap bar is among them and the source keeps their values, no
later call takes that path again or changes a stored price. -/
theorem mismatch_repair [SelfWithin F]
    (call : RepairCall env symbol timeframe count store summary barSecs rows) :
    Repaired env.insert.now (defaultBucket symbol timeframe)
        (closedBars barSecs env.insert.now rows) store
        (getBars env symbol timeframe count store).store ∧
      ((exists bar, bar ∈ closedBars barSecs env.insert.now rows ∧
          bar.time = summary.lastBarTs) ->
        forall (next : GetBarsEnv F) nextCount,
          KeepsValues (closedBars barSecs env.insert.now rows) next.fetch ->
          Settled next symbol timeframe nextCount
            (getBars env symbol timeframe count store).store) := by
  refine ⟨call.repaired, ?_⟩
  intro covers next nextCount keeps
  rcases call.last_rewritten covers with ⟨after, last, warm, newest, lastMem, lastTime⟩
  apply settled_of_same warm newest
  intro n fetchedRows fetched bar member atLast cached stored
  rw [← lastTime, call.repaired.stored last lastMem] at stored
  cases stored
  have value := keeps n fetchedRows fetched bar member last lastMem (lastTime.trans atLast.symm)
  exact congrArg Ohlcv.close value

end Call

section Example

/-- Two bars at one price, written by a clock at which both have closed. -/
def flatStore : Store Rat :=
  (insertBars ⟨7200, true⟩ (.ohlcv [seedBar 0 10, seedBar 3600 10]) (defaultBucket "ADA" "1h")
    Store.empty).store

/-- The source has since changed the newer of them. -/
def changedBars : List (Bar Rat) := [seedBar 0 10, seedBar 3600 11]

/-- A call at one reading of the clock. -/
def changedEnv (now : Int) : GetBarsEnv Rat :=
  { now := now, fetch := fun _ => .ok (.ohlcv changedBars),
    refetch := fun _ => .ok (.ohlcv changedBars), insert := ⟨now, true⟩ }

def flatSummary : MetaRow :=
  { bucket := defaultBucket "ADA" "1h", lastBarTs := 3600, barCount := 2, lastFetchedAt := 7200 }

theorem repairCall_flatStore (now : Int)
    (passes : PassesGuards (defaultBucket "ADA" "1h") flatStore (closedBars 3600 now changedBars)) :
    RepairCall (changedEnv now) "ADA" "1h" 300 flatStore flatSummary 3600 changedBars where
  warm := by decide +kernel
  newest := by
    have rows : forall row, row ∈ flatStore.bars.rows -> row.ts ≤ 3600 := by decide +kernel
    constructor
    · exact ⟨(seedBar 3600 10).toRow 7200 (defaultBucket "ADA" "1h"), by decide +kernel, rfl, rfl⟩
    · rintro ts ⟨row, member, _, rfl⟩
      exact rows row member
  known := by decide
  mismatch :=
    ⟨flatSummary, 3600, .ohlcv changedBars, by decide +kernel, by decide, rfl, by decide +kernel⟩
  refetched := rfl
  distinct := by decide
  passes := passes
  commits := rfl

theorem keepsValues_changedEnv (now later : Int) :
    KeepsValues (closedBars 3600 now changedBars) (changedEnv later).fetch := by
  intro n rows fetched bar inRows old inClosed same
  cases fetched
  have values : forall bar, bar ∈ changedBars -> forall old, old ∈ changedBars ->
      old.time = bar.time -> bar.toOhlcv = old.toOhlcv := by decide +kernel
  exact values bar inRows old (List.mem_of_mem_filter inClosed) same

/-- At a clock at which the changed bar has closed, it is repaired and the next call
leaves the prices. -/
theorem mismatch_repair_changed_bar :
    (getBars (changedEnv 7200) "ADA" "1h" 300 flatStore).store.barAt
        (defaultBucket "ADA" "1h") 3600 =
          some ((seedBar 3600 11).toRow 7200 (defaultBucket "ADA" "1h")) ∧
      Settled (changedEnv 7300) "ADA" "1h" 300
        (getBars (changedEnv 7200) "ADA" "1h" 300 flatStore).store := by
  have call := repairCall_flatStore 7200
    ⟨by decide +kernel, by decide +kernel, by decide +kernel⟩
  have member : seedBar 3600 11 ∈ closedBars 3600 7200 changedBars := by decide +kernel
  rcases mismatch_repair call with ⟨repaired, settles⟩
  refine ⟨repaired.stored _ member, ?_⟩
  apply settles ⟨_, member, rfl⟩
  exact keepsValues_changedEnv 7200 7300

/-- At a clock a second earlier the changed bar has not closed.  The rewrite leaves it
and sets `last_bar_ts` back before it, so that a later call rewrites its price as
that of a new bar. -/
theorem unclosed_overlap_is_rewritten_later :
    ¬ (forall (env next : GetBarsEnv Rat) (symbol timeframe : String) (count nextCount : Int)
      (store : Store Rat) (summary : MetaRow) (barSecs : Int) (rows : List (Bar Rat)),
      RepairCall env symbol timeframe count store summary barSecs rows ->
      (exists bar, bar ∈ rows ∧ bar.time = summary.lastBarTs) ->
      env.now ≤ next.now -> env.insert.now ≤ next.insert.now ->
      KeepsValues (closedBars barSecs env.insert.now rows) next.fetch ->
      Settled next symbol timeframe nextCount
        (getBars env symbol timeframe count store).store) := by
  intro settles
  have call := repairCall_flatStore 7199
    ⟨by decide +kernel, by decide +kernel, by decide +kernel⟩
  have settled := settles (changedEnv 7199) (changedEnv 7300) "ADA" "1h" 300 300 flatStore
    flatSummary 3600 changedBars call ⟨seedBar 3600 11, by decide, rfl⟩ (by decide) (by decide)
    (keepsValues_changedEnv 7199 7300)
  have before : (getBars (changedEnv 7199) "ADA" "1h" 300 flatStore).store.barAt
      (defaultBucket "ADA" "1h") 3600 =
        some ((seedBar 3600 10).toRow 7200 (defaultBucket "ADA" "1h")) := by decide +kernel
  rcases settled.prices _ _ _ before with ⟨kept, stored, same⟩
  have after : (getBars (changedEnv 7300) "ADA" "1h" 300
      (getBars (changedEnv 7199) "ADA" "1h" 300 flatStore).store).store.barAt
        (defaultBucket "ADA" "1h") 3600 =
          some ((seedBar 3600 11).toRow 7300 (defaultBucket "ADA" "1h")) := by decide +kernel
  rw [after] at stored
  cases stored
  exact absurd same (by decide +kernel)

end Example

end HybridDataSvc
