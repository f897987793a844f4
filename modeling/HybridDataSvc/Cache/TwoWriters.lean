import HybridDataSvc.Cache.InsertBars
import HybridDataSvc.Transaction.ReadCommitted

namespace HybridDataSvc

open Relational Transition ReadCommitted

/-!
# Two writers on one bucket

The polling loop and the backfill command may be inside the write transaction
of `_insert_bars` at the same time.  The transaction is an instance of
`ReadCommitted`: its batch are the closed rows of a frame, its summary the
row of `cache_meta`, whose `bar_count` is a subquery on `bars`.  A
transaction that runs alone is `commitRows`.  When two overlap, `bar_count`
is what the later one counted, and `barCount_exact_iff` says when that is the
number of rows.
-/

variable {F : Type}

/-- What one `_insert_bars` call brings to its transaction. -/
structure Batch (F : Type) where
  now : Int
  closed : List (Bar F)

def Batch.rows (bucket : Bucket) (batch : Batch F) : List (BarRow F) :=
  batch.closed.map (Bar.toRow batch.now bucket)

/-- The row of `cache_meta` as the transaction computes it from the bars it sees. -/
def Batch.summary (bucket : Bucket) (batch : Batch F) (bars : Table (BarRow.key (F := F))) :
    MetaRow :=
  { bucket := bucket
    lastBarTs := newestTime batch.closed
    barCount := (bars.select (fun row => decide (row.bucket = bucket))).length
    lastFetchedAt := batch.now }

/-- Two transactions on one bucket. -/
def twoWriters (store : Store F) (bucket : Bucket) (batches : Party -> Batch F) :
    Setup (BarRow.key (F := F)) MetaRow where
  summarise := fun party => (batches party).summary bucket
  table := store.bars
  summary := getMeta store bucket
  batches := fun party => (batches party).rows bucket

/-- The committed tables in a state of the two transactions. -/
def storeAt (store : Store F) (state : State (BarRow.key (F := F)) MetaRow) : Store F where
  bars := state.table
  cacheMeta :=
    match state.summary with
    | none => store.cacheMeta
    | some summary => store.cacheMeta.upsert summary

theorem commitRows_eq_summary (bucket : Bucket) (batch : Batch F) (store : Store F) :
    commitRows batch.now bucket batch.closed store =
      { bars := store.bars.upsertAll (batch.rows bucket)
        cacheMeta := store.cacheMeta.upsert
          (batch.summary bucket (store.bars.upsertAll (batch.rows bucket))) } := rfl

/-- One transaction after the other is one `commitRows` after the other. -/
theorem storeAt_serial (store : Store F) (bucket : Bucket) (batches : Party -> Batch F)
    (party : Party) :
    storeAt store ((twoWriters store bucket batches).reached
        ((twoWriters store bucket batches).serial party)) =
      commitRows (batches party.other).now bucket (batches party.other).closed
        (commitRows (batches party).now bucket (batches party).closed store) := by
  rcases (twoWriters store bucket batches).reached_serial party with ⟨tableEq, summaryEq⟩
  have rewritten := store.cacheMeta.upsert_upsert
    ((batches party).summary bucket (store.bars.upsertAll ((batches party).rows bucket)))
    ((batches party.other).summary bucket
      ((twoWriters store bucket batches).tableAfter party.other)) rfl
  rw [commitRows_eq_summary, commitRows_eq_summary, storeAt, tableEq, summaryEq]
  simp only [Setup.tableAfter, twoWriters, Party.other_other] at rewritten ⊢
  rw [rewritten]

/-- `bar_count` is the number of the bucket's rows in `bars`. -/
def CountExact (store : Store F) (bucket : Bucket) : Prop :=
  barCount store bucket = (store.bucketRows bucket).length

/-- The tables after the rival's batch and then the own one, with the summary
computed at the end. -/
def inOrder (store : Store F) (bucket : Bucket) (rival own : Batch F) : Store F :=
  commitRows own.now bucket own.closed (commitRows rival.now bucket rival.closed store)

/-- The count on a snapshot with only the party's own batch is the count of
both exactly when the other batch brings no further time. -/
theorem count_own_eq_iff (store : Store F) (bucket : Bucket) (rival own : Batch F) :
    ((commitRows own.now bucket own.closed store).bucketRows bucket).length =
        ((inOrder store bucket rival own).bucketRows bucket).length ↔
      forall bar, bar ∈ rival.closed ->
        bar.time ∈ store.storedTimes bucket ∨ bar.time ∈ batchTimes own.closed := by
  have ownTimes := storedTimes_commitRows_self own.now bucket own.closed store
  have bothTimes : (inOrder store bucket rival own).storedTimes bucket =
      store.storedTimes bucket ∪ batchTimes rival.closed ∪ batchTimes own.closed := by
    rw [inOrder, storedTimes_commitRows_self, storedTimes_commitRows_self]
  rw [Store.length_bucketRows_eq_iff, ownTimes, bothTimes]
  · constructor
    · intro covered bar member
      exact covered (Or.inl (Or.inr ⟨bar, member, rfl⟩))
    · rintro brings ts ((stored | ⟨bar, member, rfl⟩) | own)
      · exact Or.inl stored
      · exact brings bar member
      · exact Or.inr own
  · rw [ownTimes, bothTimes]
    rintro ts (stored | own)
    · exact Or.inl (Or.inl stored)
    · exact Or.inr own

/-- Once both transactions have committed, one of them was the later one, and
`bar_count` is the number of rows exactly when that one counted after the
other's commit, or the other brought no time that was not stored before or in
the later batch. -/
theorem barCount_exact_iff (store : Store F) (bucket : Bucket) (batches : Party -> Batch F)
    (schedule : List Party)
    (finished : forall party,
      (twoWriters store bucket batches).phaseAt schedule party = .committed) :
    (exists party, (twoWriters store bucket batches).CommitsLast schedule party) ∧
      forall party, (twoWriters store bucket batches).CommitsLast schedule party ->
        (CountExact (storeAt store ((twoWriters store bucket batches).reached schedule)) bucket ↔
          (twoWriters store bucket batches).SawCommit schedule party ∨
            forall bar, bar ∈ (batches party.other).closed ->
              bar.time ∈ store.storedTimes bucket ∨
                bar.time ∈ batchTimes (batches party).closed) := by
  refine ⟨Setup.exists_commitsLast finished, ?_⟩
  intro party last
  rcases ((twoWriters store bucket batches).traced schedule).bothCommitted party last with
    ⟨tableEq, value, recorded, summarises⟩
  have rows :
      (storeAt store ((twoWriters store bucket batches).reached schedule)).bucketRows bucket =
      (inOrder store bucket (batches party.other) (batches party)).bucketRows bucket := by
    rw [Store.bucketRows, storeAt, tableEq]
    rfl
  have count : forall bars, value = (batches party).summary bucket bars ->
      barCount (storeAt store ((twoWriters store bucket batches).reached schedule)) bucket =
        (bars.select (fun row => decide (row.bucket = bucket))).length := by
    rintro bars rfl
    simp only [barCount, getMeta, storeAt, recorded, Table.lookup_upsert, Batch.summary, if_true,
      Option.map_some, Option.getD_some]
  rw [CountExact, rows]
  by_cases saw : (twoWriters store bucket batches).SawCommit schedule party
  · rw [count _ (summarises.saw saw)]
    exact ⟨fun _ => Or.inl saw, fun _ => rfl⟩
  · rw [count _ (summarises.missed saw), or_iff_right saw]
    exact count_own_eq_iff store bucket (batches party.other) (batches party)

/-- The poller brings the newest hour, the backfill the one before. -/
def pollerAndBackfill : Party -> Batch Rat
  | .first => { now := 10000, closed := [seedBar 3600 10] }
  | .second => { now := 10000, closed := [seedBar 0 10] }

/-- The backfill begins when the poller has committed. -/
theorem barCount_exact_iff_serial :
    let setup := twoWriters Store.empty (defaultBucket "ADA" "1h") pollerAndBackfill
    let schedule := setup.serial .first
    setup.CommitsLast schedule .second ∧
      (CountExact (storeAt Store.empty (setup.reached schedule)) (defaultBucket "ADA" "1h") ↔
        setup.SawCommit schedule .second ∨
          forall bar, bar ∈ (pollerAndBackfill .first).closed ->
            bar.time ∈ (Store.empty : Store Rat).storedTimes (defaultBucket "ADA" "1h") ∨
              bar.time ∈ batchTimes (pollerAndBackfill .second).closed) := by
  intro setup schedule
  have finished : forall party, setup.phaseAt schedule party = .committed := by
    intro party
    cases party <;> decide +kernel
  have last : setup.CommitsLast schedule .second :=
    ⟨finished .second, List.replicate 4 .first, by decide, by decide +kernel, by decide +kernel⟩
  exact ⟨last, (barCount_exact_iff Store.empty (defaultBucket "ADA" "1h") pollerAndBackfill schedule
    finished).2 .second last⟩

/-- Both count before either commits: the guards accept both frames, both
transactions commit, two bars are stored and `bar_count` is one. -/
theorem barCount_misses_concurrent_batch :
    let bucket := defaultBucket "ADA" "1h"
    let setup := twoWriters Store.empty bucket pollerAndBackfill
    let schedule : List Party :=
      [.first, .second, .first, .second, .first, .first, .second, .second]
    (forall party, AcceptedBatch 10000 (.ohlcv (pollerAndBackfill party).closed) bucket Store.empty
        3600 (pollerAndBackfill party).closed) ∧
      (forall party, setup.phaseAt schedule party = .committed) ∧
      ¬ CountExact (storeAt Store.empty (setup.reached schedule)) bucket := by
  intro bucket setup schedule
  refine ⟨?_, ?_, by unfold CountExact; decide +kernel⟩
  · intro party
    cases party with
    | first =>
        exact ⟨by decide, ⟨_, rfl, by decide +kernel⟩, by decide, by decide +kernel, by decide +kernel,
          by decide +kernel⟩
    | second =>
        exact ⟨by decide, ⟨_, rfl, by decide +kernel⟩, by decide, by decide +kernel, by decide +kernel,
          by decide +kernel⟩
  · intro party
    cases party <;> decide +kernel

end HybridDataSvc
