import HybridDataSvc.Cache.GetBars
import Mathlib.Algebra.Order.Ring.Rat

namespace HybridDataSvc

open Relational

/-!
# A source that does not change what is stored

The overlap check divides the difference of two closes.  When the fetched
close is the stored one, the difference of doubles is zero or no number, and
neither exceeds the tolerance; `SelfWithin` names that fact, which is all that
is needed of prices here.
-/

/-- A close is within the overlap tolerance of itself. -/
class SelfWithin (F : Type) [PyFloat F] : Prop where
  selfWithin : forall close : F,
    ¬ overlapTolerance < PyFloat.abs (close - close) / PyFloat.abs close

instance : SelfWithin Rat where
  selfWithin := by
    intro close
    have zero : PyFloat.abs (close - close) = (0 : Rat) := by
      rw [sub_self]
      rfl
    rw [zero, zero_div]
    decide +kernel

variable {F : Type} [PyFloat F]

/-- A frame that has the stored close at the overlap bar is valid. -/
theorem validateOverlap_of_same [SelfWithin F] {store : Store F} {bucket : Bucket}
    {lastBarTs : Int} {rows : List (Bar F)}
    (same : forall bar, bar ∈ rows -> bar.time = lastBarTs -> forall cached,
      store.barAt bucket lastBarTs = some cached -> bar.close = cached.close) :
    validateOverlap store bucket lastBarTs (.ohlcv rows) = .ok true := by
  unfold validateOverlap
  simp only [DataFrame.rows]
  cases found : rows.find? (fun bar => decide (bar.time = lastBarTs)) with
  | none => rfl
  | some overlap =>
      cases stored : store.barAt bucket lastBarTs with
      | none => rfl
      | some cached =>
          have atLast := List.find?_some found
          have closes := same overlap (List.mem_of_find?_eq_some found)
            (of_decide_eq_true atLast) cached stored
          simp only [closes]
          by_cases zero : (cached.close == 0) = true
          · rw [if_pos zero]
          · rw [if_neg zero, if_neg (SelfWithin.selfWithin cached.close)]

/-- A frame in which no bar has closed is not written. -/
theorem insertBars_of_nothing_closed {env : InsertEnv} (bucket : Bucket) (store : Store F)
    {barSecs : Int} {rows : List (Bar F)} (known : tfSeconds bucket.timeframe = .ok barSecs)
    (nothing : closedBars barSecs env.now rows = []) :
    insertBars env (.ohlcv rows) bucket store =
      { outcome := .ok (), store := store, written := [] } := by
  simp only [insertBars, known, DataFrame.rows, nothing, List.isEmpty_nil, if_true]

/-- A warm call on a valid frame in which no newer bar has closed only reads. -/
theorem getBars_of_nothing_newer {env : GetBarsEnv F} {symbol timeframe : String} {count : Int}
    {store : Store F} {summary : MetaRow} {barSecs : Int} {rows : List (Bar F)}
    (warm : getMeta store (defaultBucket symbol timeframe) = some summary)
    (known : tfSeconds timeframe = .ok barSecs)
    (fetched : env.fetch (fetchCount env.now summary.lastBarTs barSecs count) = .ok (.ohlcv rows))
    (valid : validateOverlap store (defaultBucket symbol timeframe) summary.lastBarTs
      (.ohlcv rows) = .ok true)
    (nothing : closedBars barSecs env.insert.now
      (rows.filter (fun bar => decide (summary.lastBarTs < bar.time))) = []) :
    (getBars env symbol timeframe count store).store = store ∧
      (getBars env symbol timeframe count store).outcome =
        readBars store (defaultBucket symbol timeframe) count := by
  by_cases someNew : rows.filter (fun bar => decide (summary.lastBarTs < bar.time)) = []
  · simp only [getBars, warm, known, fetched, valid, DataFrame.rows, someNew, List.isEmpty_nil,
      if_true, GetBarsResult.unwritten, and_self]
  · rcases getBars_of_handsOver (.append warm known fetched valid someNew) with ⟨fetches, result⟩
    have inserted := insertBars_of_nothing_closed (defaultBucket symbol timeframe) store known
      nothing
    rw [result]
    simp only [insertAndRead, inserted, and_self]

end HybridDataSvc
