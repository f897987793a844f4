import HybridDataSvc.Backfill.FetchHistory

namespace HybridDataSvc

open Relational

/-!
# What `write_bars` keeps

`write_bars` drops the implausible bars so that the guards of the cache do not
refuse the others with them.  The frame it builds of the rest has its columns
from its rows: where nothing is left there are none, and the insert raises.
In all other cases the bars that the batch guards let through are stored.
-/

variable {F : Type} [PyFloat F]

/-- The bars that pass the filter. -/
def plausibleBars (dbSymbol : String) (bars : List (Bar F)) : List (Bar F) :=
  bars.filter (fun bar => isPlausible dbSymbol bar.close)

/-- The drift guard or the alignment guard refuses a batch as a whole. -/
def GuardRejects (store : Store F) (bucket : Bucket) (closed : List (Bar F)) : Prop :=
  driftExceeded (lastClose store bucket) closed = true ∨
    exists bar, bar ∈ closed ∧ tsAligned bar.time bucket.timeframe ≠ .ok true

/-- What a call is meant to do.  Of plausible bars at one timestamp the last
one counts, as in the table. -/
structure KeepsGoodBars (now barSecs : Int) (bucket : Bucket) (bars : List (Bar F))
    (store : Store F) (result : CallResult F Nat) : Prop where
  returned : result.outcome = .ok (result.store.bucketRows bucket).length
  rejected : GuardRejects store bucket (closedBars barSecs now (plausibleBars bucket.symbol bars)) ->
    result.store = store
  stored : ¬ GuardRejects store bucket
      (closedBars barSecs now (plausibleBars bucket.symbol bars)) ->
    forall bar, lastAt (plausibleBars bucket.symbol bars) bar.time = some bar ->
      bar.time + barSecs ≤ now -> tsAligned bar.time bucket.timeframe = .ok true ->
      exists row, result.store.barAt bucket bar.time = some row ∧ row.toOhlcv = bar.toOhlcv
  inBand : forall row, row ∈ result.store.bars.rows ->
    row ∈ store.bars.rows ∨ isPlausible row.bucket.symbol row.close = true

/-- The batch of a call is written. -/
def WritesBatch (now barSecs : Int) (bucket : Bucket) (bars : List (Bar F)) (store : Store F) :
    Prop :=
  closedBars barSecs now (plausibleBars bucket.symbol bars) ≠ [] ∧
    ¬ GuardRejects store bucket (closedBars barSecs now (plausibleBars bucket.symbol bars))

section Call

variable {timeframe : String} {barSecs : Int} (known : tfSeconds timeframe = .ok barSecs)
  (now : Int) (dbSymbol : String) {bars : List (Bar F)} (store : Store F)

include known

/-- Without a plausible bar the frame has no column to select by. -/
theorem writeBars_of_none_kept (nonempty : bars ≠ [])
    (nothing : plausibleBars dbSymbol bars = []) :
    writeBars ⟨now, true⟩ dbSymbol timeframe bars store =
      { outcome := .error (.keyError "time"), store := store, written := [] } := by
  have given : bars.isEmpty = false := by
    simpa [List.isEmpty_eq_false_iff] using nonempty
  have frame : backfillFrame dbSymbol bars = .noColumns := by
    unfold backfillFrame
    rw [plausibleBars] at nothing
    rw [nothing]
    rfl
  simp only [writeBars, given, frame, insertBars, defaultBucket, known, DataFrame.rows,
    Bool.false_eq_true, if_false]

omit known in
variable {dbSymbol} in
theorem backfillFrame_of_kept (someKept : plausibleBars dbSymbol bars ≠ []) :
    backfillFrame dbSymbol bars = .ohlcv (plausibleBars dbSymbol bars) := by
  have kept : (plausibleBars dbSymbol bars).isEmpty = false := by
    simpa [List.isEmpty_eq_false_iff] using someKept
  rw [plausibleBars] at kept
  rw [backfillFrame, kept]
  rfl

omit known in
theorem closed_inBand {bar : Bar F}
    (member : bar ∈ closedBars barSecs now (plausibleBars dbSymbol bars)) :
    isPlausible dbSymbol bar.close = true :=
  (List.mem_filter.mp ((mem_closedBars _ _ _ _).mp member).1).2

omit known [PyFloat F] in
/-- Whether a bar is closed is a matter of its time. -/
theorem lastAt_closedBars {now ts : Int} (rows : List (Bar F)) (closed : ts + barSecs ≤ now) :
    lastAt (closedBars barSecs now rows) ts = lastAt rows ts := by
  have same : (fun bar : Bar F => decide (decide (bar.time + barSecs ≤ now) = true ∧
      decide (bar.time = ts) = true)) = fun bar => decide (bar.time = ts) := by
    funext bar
    rw [Bool.eq_iff_iff]
    simp only [decide_eq_true_eq]
    omega
  rw [lastAt, lastAt, closedBars, ← List.filter_reverse, List.find?_filter, same]

/-- The guards accept exactly the batches that are written. -/
theorem acceptedBatch_iff :
    AcceptedBatch now (.ohlcv (plausibleBars dbSymbol bars)) (defaultBucket dbSymbol timeframe) store
        barSecs (closedBars barSecs now (plausibleBars dbSymbol bars)) ↔
      WritesBatch now barSecs (defaultBucket dbSymbol timeframe) bars store := by
  constructor
  · intro accepted
    refine ⟨accepted.nonempty, ?_⟩
    rintro (drifts | ⟨bar, member, misaligned⟩)
    · have passed := accepted.driftPassed
      exact Bool.noConfusion (passed.symm.trans drifts)
    · exact misaligned (accepted.aligned bar member)
  · rintro ⟨nonempty, passes⟩
    exact
      { known := known
        rows := ⟨_, rfl, rfl⟩
        nonempty := nonempty
        inBand := fun bar member => closed_inBand now dbSymbol member
        driftPassed := eq_false_of_ne_true (fun drifts => passes (Or.inl drifts))
        aligned := by
          intro bar member
          by_contra misaligned
          exact passes (Or.inr ⟨bar, member, misaligned⟩) }

/-- On a frame with columns the insert does not raise. -/
theorem insertBars_outcome (rows : List (Bar F)) :
    (insertBars ⟨now, true⟩ (.ohlcv rows) (defaultBucket dbSymbol timeframe) store).outcome =
      .ok () := by
  simp only [insertBars, defaultBucket, known, DataFrame.rows, if_true]
  split_ifs <;> rfl

section Plausible

variable (someKept : plausibleBars dbSymbol bars ≠ [])

include someKept

/-- With a plausible bar a call returns the count recorded after the insert. -/
theorem writeBars_of_kept :
    let inserted := insertBars ⟨now, true⟩ (.ohlcv (plausibleBars dbSymbol bars))
      (defaultBucket dbSymbol timeframe) store
    writeBars ⟨now, true⟩ dbSymbol timeframe bars store =
      { outcome := .ok (barCount inserted.store (defaultBucket dbSymbol timeframe)),
        store := inserted.store, written := inserted.written } := by
  intro inserted
  have given : bars.isEmpty = false := by
    rw [List.isEmpty_eq_false_iff]
    rintro rfl
    exact someKept rfl
  have outcome := insertBars_outcome known now dbSymbol store (plausibleBars dbSymbol bars)
  simp only [writeBars, given, backfillFrame_of_kept someKept, outcome,
    Bool.false_eq_true, if_false]
  rfl

/-- A call whose batch is not written leaves the store. -/
theorem writeBars_of_not_written
    (unwritten : ¬ WritesBatch now barSecs (defaultBucket dbSymbol timeframe) bars store) :
    writeBars ⟨now, true⟩ dbSymbol timeframe bars store =
      { outcome := .ok (barCount store (defaultBucket dbSymbol timeframe)), store := store,
        written := [] } := by
  rw [writeBars_of_kept known now dbSymbol store someKept]
  rcases insertBars_cases ⟨now, true⟩ (.ohlcv (plausibleBars dbSymbol bars))
    (defaultBucket dbSymbol timeframe) store with unchanged | ⟨secs, closed, accepted, -, -⟩
  · simp only [unchanged.1, unchanged.2]
  · have secsEq := Except.ok.inj (accepted.known.symm.trans known)
    rcases accepted.rows with ⟨rows, rowsEq, closedEq⟩
    cases rowsEq
    subst secsEq closedEq
    exact absurd ((acceptedBatch_iff known now dbSymbol store).mp accepted) unwritten

/-- A call whose batch is written returns the number of rows. -/
theorem writeBars_of_written
    (written : WritesBatch now barSecs (defaultBucket dbSymbol timeframe) bars store) :
    let closed := closedBars barSecs now (plausibleBars dbSymbol bars)
    let after := commitRows now (defaultBucket dbSymbol timeframe) closed store
    writeBars ⟨now, true⟩ dbSymbol timeframe bars store =
      { outcome := .ok (after.bucketRows (defaultBucket dbSymbol timeframe)).length, store := after,
        written := closed.map (Bar.toRow now (defaultBucket dbSymbol timeframe)) } := by
  intro closed after
  have accepted := (acceptedBatch_iff known now dbSymbol store).mpr written
  have inserted : insertBars ⟨now, true⟩ (.ohlcv (plausibleBars dbSymbol bars))
      (defaultBucket dbSymbol timeframe) store = _ := insertBars_of_accepted accepted rfl
  rw [writeBars_of_kept known now dbSymbol store someKept]
  simp only [inserted, barCount, getMeta_commitRows, if_true, Option.map_some, Option.getD_some]
  rfl

end Plausible

/-- A written batch keeps the good bars. -/
theorem keepsGoodBars_of_written
    (written : WritesBatch now barSecs (defaultBucket dbSymbol timeframe) bars store) :
    KeepsGoodBars now barSecs (defaultBucket dbSymbol timeframe) bars store
      (writeBars ⟨now, true⟩ dbSymbol timeframe bars store) := by
  have someKept : plausibleBars dbSymbol bars ≠ [] := by
    intro nothing
    apply written.1
    change closedBars barSecs now (plausibleBars dbSymbol bars) = []
    rw [nothing]
    rfl
  rw [writeBars_of_written known now dbSymbol store someKept written]
  exact
    { returned := rfl
      rejected := fun rejects => absurd rejects written.2
      stored := by
        intro _ bar last closed _
        have kept : lastAt (closedBars barSecs now (plausibleBars dbSymbol bars)) bar.time =
            some bar := by
          rw [lastAt_closedBars _ closed]
          exact last
        refine ⟨bar.toRow now (defaultBucket dbSymbol timeframe), ?_, rfl⟩
        rw [barAt_commitRows_self, kept]
        rfl
      inBand := by
        intro row member
        rcases mem_bars_commitRows member with ⟨bar, inBatch, rfl⟩ | old
        · exact Or.inr (closed_inBand now dbSymbol inBatch)
        · exact Or.inl old }

/-- A call without a batch keeps them too, if it returns the right count. -/
theorem keepsGoodBars_of_not_written (someKept : plausibleBars dbSymbol bars ≠ [])
    (unwritten : ¬ WritesBatch now barSecs (defaultBucket dbSymbol timeframe) bars store)
    (agrees : barCount store (defaultBucket dbSymbol timeframe) =
      (store.bucketRows (defaultBucket dbSymbol timeframe)).length) :
    KeepsGoodBars now barSecs (defaultBucket dbSymbol timeframe) bars store
      (writeBars ⟨now, true⟩ dbSymbol timeframe bars store) := by
  rw [writeBars_of_not_written known now dbSymbol store someKept unwritten]
  exact
    { returned := congrArg Except.ok agrees
      rejected := fun _ => rfl
      stored := by
        intro passes bar last closed _
        have inBatch : bar ∈ closedBars barSecs now (plausibleBars dbSymbol bars) :=
          (mem_closedBars _ _ _ _).mpr ⟨(mem_of_lastAt last).1, closed⟩
        exact absurd ⟨List.ne_nil_of_mem inBatch, passes⟩ unwritten
      inBand := fun row member => Or.inl member }

end Call

end HybridDataSvc
