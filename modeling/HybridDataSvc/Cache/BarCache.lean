import HybridDataSvc.Cache.Schema
import Mathlib.Data.Int.Order.Basic

namespace HybridDataSvc

open Relational

/-!
# The bar cache

The functions of `db/cache.py` that write the two tables, with what they read
to decide.  A call is given the answers of its surroundings (clock readings,
fetched frames, whether the write transaction commits) and returns what it
did: its result or exception, the store it leaves, and the rows whose insert
was committed.  The store after an exception is part of the answer, so a
raise that follows a commit would be visible.
-/

section Guards

variable {F : Type} [PyFloat F]

/-- `OVERLAP_TOLERANCE`, 0.001 %. -/
def overlapTolerance : F := 0.00001

/-- `INSERT_DRIFT_REJECT`. -/
def insertDriftReject : F := 0.5

/-- `PLAUSIBLE_RANGES`. -/
def plausibleRanges : List (String × F × F) :=
  [("BTC/USDT:USDT", 1000.0, 1000000.0),
   ("ETH/USDT:USDT", 100.0, 50000.0),
   ("BNB/USDT:USDT", 20.0, 10000.0),
   ("SOL/USDT:USDT", 5.0, 10000.0),
   ("XRP/USDT:USDT", 0.05, 100.0)]

/-- `_is_plausible`: the close lies in the band of its symbol, if it has one. -/
def isPlausible (symbol : String) (close : F) : Bool :=
  match plausibleRanges.lookup symbol with
  | none => true
  | some (lo, hi) => decide (lo ≤ close) && decide (close ≤ hi)

end Guards

/-- `_TF_SECONDS`, repeated entry for entry in `fetcher.py` and `backfill.py`. -/
def tfSecondsTable : List (String × Int) :=
  [("1", 60), ("3", 180), ("5", 300), ("15", 900), ("30", 1800),
   ("60", 3600), ("1h", 3600), ("2h", 7200), ("4h", 14400),
   ("D", 86400), ("1D", 86400), ("W", 604800), ("1W", 604800)]

/-- `_TF_EPOCH_OFFSET`: weekly bars open on Monday, the epoch was a Thursday. -/
def tfEpochOffset : List (String × Int) := [("W", 345600), ("1W", 345600)]

/-- `_tf_seconds`. -/
def tfSeconds (timeframe : String) : Except PyError Int :=
  match tfSecondsTable.lookup timeframe with
  | none => .error (.valueError ("Unknown timeframe: " ++ pyRepr timeframe))
  | some secs => .ok secs

/-- The offset of the grid of a timeframe from the epoch. -/
def gridOffset (timeframe : String) : Int := (tfEpochOffset.lookup timeframe).getD 0

/-- `_ts_aligned`: the timestamp falls on the grid of the timeframe. -/
def tsAligned (ts : Int) (timeframe : String) : Except PyError Bool :=
  match tfSeconds timeframe with
  | .error raised => .error raised
  | .ok secs => .ok ((ts - gridOffset timeframe) % secs == 0)

theorem tfSeconds_pos {timeframe : String} {secs : Int}
    (known : tfSeconds timeframe = .ok secs) : 0 < secs := by
  have entries : forall entry, entry ∈ tfSecondsTable -> 0 < entry.2 := by decide
  unfold tfSeconds at known
  cases found : tfSecondsTable.lookup timeframe with
  | none => rw [found] at known; cases known
  | some value =>
      rw [found] at known
      cases known
      rcases List.lookup_eq_some_iff.mp found with ⟨before, after, split, _⟩
      exact entries (timeframe, secs) (split ▸ List.mem_append.mpr (Or.inr List.mem_cons_self))

theorem tsAligned_iff_dvd {timeframe : String} {secs : Int}
    (known : tfSeconds timeframe = .ok secs) (ts : Int) :
    tsAligned ts timeframe = .ok true ↔ secs ∣ ts - gridOffset timeframe := by
  unfold tsAligned
  rw [known, Int.dvd_iff_emod_eq_zero]
  constructor
  · intro aligned
    exact beq_iff_eq.mp (Except.ok.inj aligned)
  · intro onGrid
    exact congrArg Except.ok (beq_iff_eq.mpr onGrid)

/-! ## Reads -/

variable {F : Type}

/-- `DEFAULT_PROVIDER`. -/
def defaultProvider : String := "tradingview"

/-- The bucket `get_bars` and `invalidate` work on. -/
def defaultBucket (symbol timeframe : String) : Bucket := ⟨symbol, timeframe, defaultProvider⟩

/-- `_get_meta`. -/
def getMeta (store : Store F) (bucket : Bucket) : Option MetaRow :=
  store.cacheMeta.lookup bucket

/-- `latest_bar_ts`. -/
def latestBarTs (store : Store F) (bucket : Bucket) : Option Int :=
  (getMeta store bucket).map MetaRow.lastBarTs

/-- `bar_count`. -/
def barCount (store : Store F) (bucket : Bucket) : Nat :=
  ((getMeta store bucket).map MetaRow.barCount).getD 0

/-- `_last_close`: the close of the newest stored bar. -/
def lastClose (store : Store F) (bucket : Bucket) : Option F :=
  (orderByDesc BarRow.ts (store.bucketRows bucket)).head?.map (fun row => row.close)

/-- The six columns of a stored row, as a frame shows them. -/
def BarRow.toBar (row : BarRow F) : Bar F := { row.toOhlcv with time := row.ts }

/-- `_read_bars`: the newest `count` bars, oldest first.  Postgres refuses a
negative `LIMIT`. -/
def readBars (store : Store F) (bucket : Bucket) (count : Int) :
    Except PyError (DataFrame F) :=
  if count < 0 then .error .databaseError
  else
    let newest := (orderByDesc BarRow.ts (store.bucketRows bucket)).take count.toNat
    .ok (.ohlcv (newest.reverse.map BarRow.toBar))

/-! ## `_insert_bars` -/

/-- What one call of a writing function did. -/
structure CallResult (F : Type) (Value : Type) where
  outcome : Except PyError Value
  store : Store F
  written : List (BarRow F)

/-- The surroundings of `_insert_bars`: its reading of `int(time.time())`, and
whether its transaction commits or is rolled back with an exception. -/
structure InsertEnv where
  now : Int
  commits : Bool

/-- The tuple `_insert_bars` builds from a row of the frame. -/
def Bar.toRow (now : Int) (bucket : Bucket) (bar : Bar F) : BarRow F :=
  { bar.toOhlcv with bucket := bucket, ts := bar.time, fetchedAt := now }

/-- `closed_df`: the rows of the frame whose bar has closed by `now`. -/
def closedBars (barSecs now : Int) (rows : List (Bar F)) : List (Bar F) :=
  rows.filter (fun bar => decide (bar.time + barSecs ≤ now))

/-- The write transaction: upsert every row, then write the summary row with
the newest time of the batch and the count the table now has. -/
def commitRows (now : Int) (bucket : Bucket) (closed : List (Bar F)) (store : Store F) :
    Store F :=
  let bars := store.bars.upsertAll (closed.map (Bar.toRow now bucket))
  let lastTs := ((closed.map Bar.time).max?).getD 0
  { bars := bars
    cacheMeta := store.cacheMeta.upsert
      { bucket := bucket
        lastBarTs := lastTs
        barCount := (bars.select (fun row => decide (row.bucket = bucket))).length
        lastFetchedAt := now } }

section Insert

variable [PyFloat F]

/-- The relative distance of a close from the last cached one. -/
def drift (fresh last : F) : F := PyFloat.abs (fresh - last) / last

/-- Leak guard layer 2: the last row of the batch is compared with the close
of the newest stored bar. -/
def driftExceeded (lastClose : Option F) (closed : List (Bar F)) : Bool :=
  match lastClose, closed.getLast? with
  | some last, some fresh =>
      decide (0 < last) && decide (insertDriftReject < drift fresh.close last)
  | _, _ => false

/-- `_insert_bars`.  Each guard that fires returns without a write.  By the
time the grid is checked the timeframe is known, so `_ts_aligned` cannot
raise there. -/
def insertBars (env : InsertEnv) (df : DataFrame F) (bucket : Bucket) (store : Store F) :
    CallResult F Unit :=
  match tfSeconds bucket.timeframe with
  | .error raised => { outcome := .error raised, store := store, written := [] }
  | .ok barSecs =>
    match df.rows with
    | .error raised => { outcome := .error raised, store := store, written := [] }
    | .ok rows =>
      let closed := closedBars barSecs env.now rows
      if closed.isEmpty then
        { outcome := .ok (), store := store, written := [] }
      else if closed.any (fun bar => !isPlausible bucket.symbol bar.close) then
        { outcome := .ok (), store := store, written := [] }
      else if driftExceeded (lastClose store bucket) closed then
        { outcome := .ok (), store := store, written := [] }
      else if closed.any (fun bar => decide (tsAligned bar.time bucket.timeframe ≠ .ok true)) then
        { outcome := .ok (), store := store, written := [] }
      else if env.commits then
        { outcome := .ok (), store := commitRows env.now bucket closed store,
          written := closed.map (Bar.toRow env.now bucket) }
      else
        { outcome := .error .databaseError, store := store, written := [] }

/-! ## `get_bars` -/

/-- `_validate_overlap`: a missing overlap bar, a missing cached row and a
cached close of zero all count as valid. -/
def validateOverlap (store : Store F) (bucket : Bucket) (lastBarTs : Int)
    (fresh : DataFrame F) : Except PyError Bool :=
  match fresh.rows with
  | .error raised => .error raised
  | .ok rows =>
    match rows.find? (fun bar => decide (bar.time = lastBarTs)) with
    | none => .ok true
    | some overlap =>
      match store.barAt bucket lastBarTs with
      | none => .ok true
      | some cached =>
        if cached.close == 0 then .ok true
        else if overlapTolerance <
            PyFloat.abs (overlap.close - cached.close) / PyFloat.abs cached.close then
          .ok false
        else .ok true

/-- The surroundings of `get_bars`: its reading of `int(time.time())`, the
answers of the first and the second call of `tv_fetcher` to any number of
bars, and the surroundings of the insert. -/
structure GetBarsEnv (F : Type) where
  now : Int
  fetch : Int -> Except PyError (DataFrame F)
  refetch : Int -> Except PyError (DataFrame F)
  insert : InsertEnv

/-- What one call of `get_bars` did; `fetches` are the numbers of bars it
asked `tv_fetcher` for, in order. -/
structure GetBarsResult (F : Type) extends CallResult F (DataFrame F) where
  fetches : List Int

/-- A call that ends without a write. -/
def GetBarsResult.unwritten (outcome : Except PyError (DataFrame F)) (store : Store F)
    (fetches : List Int) : GetBarsResult F :=
  { outcome := outcome, store := store, written := [], fetches := fetches }

/-- The tail `self._insert_bars(df, ...)`, `return self._read_bars(...)`. -/
def insertAndRead (env : InsertEnv) (df : DataFrame F) (bucket : Bucket) (count : Int)
    (store : Store F) (fetches : List Int) : GetBarsResult F :=
  let inserted := insertBars env df bucket store
  { outcome :=
      match inserted.outcome with
      | .error raised => .error raised
      | .ok () => readBars inserted.store bucket count
    store := inserted.store
    written := inserted.written
    fetches := fetches }

/-- The number of bars a warm call asks for: the bars that fit into the gap
and one more for the overlap, capped by `count`. -/
def fetchCount (now lastBarTs barSecs count : Int) : Int :=
  min (max 1 ((now - lastBarTs) / barSecs) + 1) count

/-- `get_bars`. -/
def getBars (env : GetBarsEnv F) (symbol timeframe : String) (count : Int) (store : Store F) :
    GetBarsResult F :=
  let bucket := defaultBucket symbol timeframe
  match getMeta store bucket with
  | none =>
    match env.fetch count with
    | .error raised => .unwritten (.error raised) store [count]
    | .ok df => insertAndRead env.insert df bucket count store [count]
  | some summary =>
    match tfSeconds timeframe with
    | .error raised => .unwritten (.error raised) store []
    | .ok barSecs =>
      let wanted := fetchCount env.now summary.lastBarTs barSecs count
      match env.fetch wanted with
      | .error raised => .unwritten (.error raised) store [wanted]
      | .ok fresh =>
        match validateOverlap store bucket summary.lastBarTs fresh with
        | .error raised => .unwritten (.error raised) store [wanted]
        | .ok false =>
          -- the refetch comes before any write: a failing fetch leaves the bucket alone
          match env.refetch count with
          | .error raised => .unwritten (.error raised) store [wanted, count]
          | .ok full => insertAndRead env.insert full bucket count store [wanted, count]
        | .ok true =>
          match fresh.rows with
          | .error raised => .unwritten (.error raised) store [wanted]
          | .ok rows =>
            let newBars := rows.filter (fun bar => decide (summary.lastBarTs < bar.time))
            if newBars.isEmpty then .unwritten (readBars store bucket count) store [wanted]
            else insertAndRead env.insert (.ohlcv newBars) bucket count store [wanted]

end Insert

/-- `_invalidate`: both tables lose the bucket in one transaction. -/
def invalidate (bucket : Bucket) (store : Store F) : Store F where
  bars := store.bars.deleteWhere (fun row => decide (row.bucket = bucket))
  cacheMeta := store.cacheMeta.deleteWhere (fun row => decide (row.bucket = bucket))

end HybridDataSvc
