import HybridDataSvc.Cache.BarCache
import Mathlib.Order.Bounds.Basic

namespace HybridDataSvc

open Relational

/-!
# What `_insert_bars` can do

A call either leaves the store as it is or commits the closed rows of its
frame as one batch.  `AcceptedBatch` is the exact condition for the second
outcome, with everything the guards have established about the batch, and
`insertBars_cases` is the only place where the branches of `insertBars` are
taken apart.  The rest of the module says what a committed batch does to each
observation of the store.
-/

variable {F : Type}

/-! ## A committed batch, observation by observation -/

@[simp] theorem mem_closedBars (barSecs now : Int) (rows : List (Bar F)) (bar : Bar F) :
    bar ∈ closedBars barSecs now rows ↔ bar ∈ rows ∧ bar.time + barSecs ≤ now := by
  simp [closedBars]

@[simp] theorem Bar.toRow_key (now : Int) (bucket : Bucket) (bar : Bar F) :
    (bar.toRow now bucket).key = (bucket, bar.time) := rfl

@[simp] theorem Bar.toRow_bucket (now : Int) (bucket : Bucket) (bar : Bar F) :
    (bar.toRow now bucket).bucket = bucket := rfl

@[simp] theorem Bar.toRow_ts (now : Int) (bucket : Bucket) (bar : Bar F) :
    (bar.toRow now bucket).ts = bar.time := rfl

/-- The row of a batch that is stored at a timestamp: the last one, as a
duplicate rewrites the row before it. -/
def lastAt (closed : List (Bar F)) (ts : Int) : Option (Bar F) :=
  closed.reverse.find? (fun bar => decide (bar.time = ts))

theorem mem_of_lastAt {closed : List (Bar F)} {ts : Int} {bar : Bar F}
    (found : lastAt closed ts = some bar) : bar ∈ closed ∧ bar.time = ts :=
  Table.mem_of_lastUnder found

theorem lastAt_isSome_iff (closed : List (Bar F)) (ts : Int) :
    (lastAt closed ts).isSome = true ↔ exists bar, bar ∈ closed ∧ bar.time = ts :=
  Table.lastUnder_isSome_iff closed ts

theorem lastUnder_toRow (now : Int) (bucket : Bucket) (closed : List (Bar F)) (ts : Int) :
    Table.lastUnder BarRow.key (closed.map (Bar.toRow now bucket)) (bucket, ts) =
      (lastAt closed ts).map (Bar.toRow now bucket) := by
  unfold Table.lastUnder lastAt
  rw [← List.map_reverse, List.find?_map]
  congr 2
  funext bar
  simp

theorem lastAt_append_singleton (before : List (Bar F)) (fresh : Bar F) :
    lastAt (before ++ [fresh]) fresh.time = some fresh := by
  simp [lastAt]

/-- The prices a committed batch leaves at a timestamp of its bucket. -/
theorem barAt_commitRows_self (now : Int) (bucket : Bucket) (closed : List (Bar F))
    (store : Store F) (ts : Int) :
    (commitRows now bucket closed store).barAt bucket ts =
      ((lastAt closed ts).map (Bar.toRow now bucket)).or (store.barAt bucket ts) := by
  rw [← lastUnder_toRow]
  exact Table.lookup_upsertAll store.bars _ (bucket, ts)

/-- The times of a batch. -/
def batchTimes (closed : List (Bar F)) : Set Int :=
  { ts | exists bar, bar ∈ closed ∧ bar.time = ts }

/-- A committed batch leaves what is stored elsewhere. -/
theorem barAt_commitRows_of_outside {bucket other : Bucket} {closed : List (Bar F)} {ts : Int}
    (outside : ¬ (other = bucket ∧ ts ∈ batchTimes closed)) (now : Int) (store : Store F) :
    (commitRows now bucket closed store).barAt other ts = store.barAt other ts := by
  apply Table.lookup_upsertAll_of_not_mem store.bars _ (other, ts)
  intro row member same
  rcases List.mem_map.mp member with ⟨bar, barMem, rfl⟩
  exact outside ⟨(congrArg Prod.fst same).symm, bar, barMem, congrArg Prod.snd same⟩

theorem barAt_commitRows_of_ne {bucket other : Bucket} (different : other ≠ bucket) (now : Int)
    (closed : List (Bar F)) (store : Store F) (ts : Int) :
    (commitRows now bucket closed store).barAt other ts = store.barAt other ts :=
  barAt_commitRows_of_outside (fun inside => different inside.1) now store

theorem mem_bars_commitRows {now : Int} {bucket : Bucket} {closed : List (Bar F)}
    {store : Store F} {row : BarRow F}
    (member : row ∈ (commitRows now bucket closed store).bars.rows) :
    (exists bar, bar ∈ closed ∧ row = bar.toRow now bucket) ∨ row ∈ store.bars.rows := by
  rcases (Table.mem_upsertAll store.bars _ row).mp member with last | ⟨old, _⟩
  · rcases List.mem_map.mp (Table.mem_of_lastUnder last).1 with ⟨bar, barMem, equal⟩
    exact Or.inl ⟨bar, barMem, equal.symm⟩
  · exact Or.inr old

theorem mem_storedTimes_commitRows_self (now : Int) (bucket : Bucket) (closed : List (Bar F))
    (store : Store F) (ts : Int) :
    ts ∈ (commitRows now bucket closed store).storedTimes bucket ↔
      ts ∈ store.storedTimes bucket ∨ exists bar, bar ∈ closed ∧ bar.time = ts := by
  rw [Store.mem_storedTimes_iff_barAt, Store.mem_storedTimes_iff_barAt, barAt_commitRows_self,
    Option.isSome_or, Bool.or_eq_true, Option.isSome_map, lastAt_isSome_iff]
  exact Or.comm

theorem storedTimes_commitRows_self (now : Int) (bucket : Bucket) (closed : List (Bar F))
    (store : Store F) :
    (commitRows now bucket closed store).storedTimes bucket =
      store.storedTimes bucket ∪ batchTimes closed :=
  Set.ext (mem_storedTimes_commitRows_self now bucket closed store)

theorem batchTimes_closedBars (barSecs now : Int) (rows : List (Bar F)) :
    batchTimes (closedBars barSecs now rows) =
      { ts | ts ∈ rows.map Bar.time ∧ ts + barSecs ≤ now } := by
  ext ts
  constructor
  · rintro ⟨bar, member, rfl⟩
    have parts := (mem_closedBars barSecs now rows bar).mp member
    exact ⟨List.mem_map.mpr ⟨bar, parts.1, rfl⟩, parts.2⟩
  · rintro ⟨member, closed⟩
    rcases List.mem_map.mp member with ⟨bar, barMem, rfl⟩
    exact ⟨bar, (mem_closedBars barSecs now rows bar).mpr ⟨barMem, closed⟩, rfl⟩

theorem mem_storedTimes_commitRows_of_ne {bucket other : Bucket} (different : other ≠ bucket)
    (now : Int) (closed : List (Bar F)) (store : Store F) (ts : Int) :
    ts ∈ (commitRows now bucket closed store).storedTimes other ↔ ts ∈ store.storedTimes other := by
  rw [Store.mem_storedTimes_iff_barAt, Store.mem_storedTimes_iff_barAt,
    barAt_commitRows_of_ne different]

theorem storedTimes_commitRows_of_ne {bucket other : Bucket} (different : other ≠ bucket)
    (now : Int) (closed : List (Bar F)) (store : Store F) :
    (commitRows now bucket closed store).storedTimes other = store.storedTimes other :=
  Set.ext (mem_storedTimes_commitRows_of_ne different now closed store)

theorem bucketRows_commitRows_of_ne {bucket other : Bucket} (different : other ≠ bucket)
    (now : Int) (closed : List (Bar F)) (store : Store F) :
    (commitRows now bucket closed store).bucketRows other = store.bucketRows other := by
  apply Table.select_upsertAll_of_disjoint store.bars _ _
  intro row member clashing same
  rcases List.mem_map.mp member with ⟨bar, _, rfl⟩
  have bucketSame : clashing.bucket = bucket := congrArg Prod.fst same
  simp [bucketSame, Ne.symm different]

/-- `closed_df["time"].max()`. -/
def newestTime (closed : List (Bar F)) : Int := ((closed.map Bar.time).max?).getD 0

theorem newestTime_spec {closed : List (Bar F)} (nonempty : closed ≠ []) :
    (exists bar, bar ∈ closed ∧ bar.time = newestTime closed) ∧
      forall bar, bar ∈ closed -> bar.time ≤ newestTime closed := by
  unfold newestTime
  cases largest : (closed.map Bar.time).max? with
  | none =>
      rw [List.max?_eq_none_iff, List.map_eq_nil_iff] at largest
      exact absurd largest nonempty
  | some newest =>
      have spec := List.max?_eq_some_iff.mp largest
      rcases List.mem_map.mp spec.1 with ⟨bar, member, equal⟩
      exact ⟨⟨bar, member, equal⟩, fun other otherMem =>
        spec.2 other.time (List.mem_map.mpr ⟨other, otherMem, rfl⟩)⟩

theorem isGreatest_newestTime {closed : List (Bar F)} (nonempty : closed ≠ []) :
    IsGreatest (batchTimes closed) (newestTime closed) := by
  have spec := newestTime_spec nonempty
  refine ⟨spec.1, ?_⟩
  rintro ts ⟨bar, member, rfl⟩
  exact spec.2 bar member

theorem getMeta_commitRows (now : Int) (bucket other : Bucket) (closed : List (Bar F))
    (store : Store F) :
    getMeta (commitRows now bucket closed store) other =
      if other = bucket then
        some { bucket := bucket, lastBarTs := newestTime closed,
               barCount := ((commitRows now bucket closed store).bucketRows bucket).length,
               lastFetchedAt := now }
      else getMeta store other :=
  Table.lookup_upsert store.cacheMeta _ other

/-! ## The two outcomes of a call -/

variable [PyFloat F]

/-- The guards of `_insert_bars` let the closed rows of a frame through. -/
structure AcceptedBatch (now : Int) (df : DataFrame F) (bucket : Bucket) (store : Store F)
    (barSecs : Int) (closed : List (Bar F)) : Prop where
  known : tfSeconds bucket.timeframe = .ok barSecs
  rows : exists rows, df = .ohlcv rows ∧ closed = closedBars barSecs now rows
  nonempty : closed ≠ []
  inBand : forall bar, bar ∈ closed -> isPlausible bucket.symbol bar.close = true
  driftPassed : driftExceeded (lastClose store bucket) closed = false
  aligned : forall bar, bar ∈ closed -> tsAligned bar.time bucket.timeframe = .ok true

theorem AcceptedBatch.isClosed {now : Int} {df : DataFrame F} {bucket : Bucket} {store : Store F}
    {barSecs : Int} {closed : List (Bar F)}
    (accepted : AcceptedBatch now df bucket store barSecs closed) {bar : Bar F}
    (member : bar ∈ closed) : bar.time + barSecs ≤ now := by
  rcases accepted.rows with ⟨rows, _, rfl⟩
  exact ((mem_closedBars barSecs now rows bar).mp member).2

/-- An accepted batch is written when the transaction commits. -/
theorem insertBars_of_accepted {env : InsertEnv} {df : DataFrame F} {bucket : Bucket}
    {store : Store F} {barSecs : Int} {closed : List (Bar F)}
    (accepted : AcceptedBatch env.now df bucket store barSecs closed)
    (commits : env.commits = true) :
    insertBars env df bucket store =
      { outcome := .ok (), store := commitRows env.now bucket closed store,
        written := closed.map (Bar.toRow env.now bucket) } := by
  rcases accepted.rows with ⟨rows, rfl, closedEq⟩
  have notEmpty : closed.isEmpty = false := by
    simpa [List.isEmpty_eq_false_iff] using accepted.nonempty
  have allPlausible : closed.any (fun bar => !isPlausible bucket.symbol bar.close) = false := by
    simpa [List.any_eq_false] using accepted.inBand
  have allAligned : closed.any
      (fun bar => decide (tsAligned bar.time bucket.timeframe ≠ .ok true)) = false := by
    simpa [List.any_eq_false] using accepted.aligned
  simp only [insertBars, accepted.known, DataFrame.rows, ← closedEq, notEmpty, allPlausible,
    accepted.driftPassed, allAligned, commits, Bool.false_eq_true, if_false, if_true]

/-- The inversion of `_insert_bars`: no write and the same store, or the
commit of an accepted batch. -/
theorem insertBars_cases (env : InsertEnv) (df : DataFrame F) (bucket : Bucket) (store : Store F) :
    ((insertBars env df bucket store).store = store ∧
        (insertBars env df bucket store).written = []) ∨
      exists barSecs closed, AcceptedBatch env.now df bucket store barSecs closed ∧
        env.commits = true ∧
        insertBars env df bucket store =
          { outcome := .ok (), store := commitRows env.now bucket closed store,
            written := closed.map (Bar.toRow env.now bucket) } := by
  cases known : tfSeconds bucket.timeframe with
  | error raised =>
      left
      simp only [insertBars, known, and_self]
  | ok barSecs =>
      cases df with
      | noColumns =>
          left
          simp only [insertBars, known, DataFrame.rows, and_self]
      | ohlcv rows =>
          by_cases empty : (closedBars barSecs env.now rows).isEmpty = true
          · left
            simp only [insertBars, known, DataFrame.rows, empty, if_true, and_self]
          by_cases outOfBand : (closedBars barSecs env.now rows).any
              (fun bar => !isPlausible bucket.symbol bar.close) = true
          · left
            simp only [insertBars, known, DataFrame.rows, empty, outOfBand, if_true, if_false,
              Bool.false_eq_true, and_self]
          by_cases drift : driftExceeded (lastClose store bucket)
              (closedBars barSecs env.now rows) = true
          · left
            simp only [insertBars, known, DataFrame.rows, empty, outOfBand, drift, if_true,
              if_false, Bool.false_eq_true, and_self]
          by_cases misaligned : (closedBars barSecs env.now rows).any
              (fun bar => decide (tsAligned bar.time bucket.timeframe ≠ .ok true)) = true
          · left
            simp only [insertBars, known, DataFrame.rows, empty, outOfBand, drift, misaligned,
              if_true, if_false, Bool.false_eq_true, and_self]
          have accepted : AcceptedBatch env.now (.ohlcv rows) bucket store barSecs
              (closedBars barSecs env.now rows) := by
            refine ⟨known, ⟨rows, rfl, rfl⟩, ?_, ?_, by simpa using drift, ?_⟩
            · simpa [List.isEmpty_iff] using empty
            · simpa [List.any_eq_true] using outOfBand
            · simpa [List.any_eq_true] using misaligned
          cases commits : env.commits with
          | true => exact Or.inr ⟨barSecs, _, accepted, rfl, insertBars_of_accepted accepted commits⟩
          | false =>
              left
              simp only [insertBars, known, DataFrame.rows, empty, outOfBand, drift, misaligned,
                commits, if_false, Bool.false_eq_true, and_self]

end HybridDataSvc
