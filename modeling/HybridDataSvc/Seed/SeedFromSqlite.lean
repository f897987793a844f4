import HybridDataSvc.Cache.BarCache
import HybridDataSvc.Relational.Grouping
import HybridDataSvc.Relational.Session
import HybridDataSvc.Seed.Migrations
import HybridDataSvc.Series.Anchored

namespace HybridDataSvc

open Relational

/-!
# The migration from SQLite

`scripts/seed_from_sqlite.py`: the bars of a legacy SQLite file are inserted
in batches, one transaction for all of them; `cache_meta` is rebuilt in a
second one; and the counts of both sides are compared.  The database is the
one the migrations leave, so its `bars` has the primary key of `Store`.
-/

/-- A row of `bars` in the legacy file. -/
structure SourceRow (F : Type) extends Ohlcv F where
  symbol : String
  timeframe : String
  ts : Int
  fetchedAt : Int
  deriving DecidableEq, Repr

/-- The primary key of the legacy table. -/
def SourceRow.key {F : Type} (row : SourceRow F) : String × String × Int :=
  (row.symbol, row.timeframe, row.ts)

namespace Seed

open Migrations

variable {F : Type}

/-- The row an insert without a provider makes; the column has a default. -/
def toRow (row : SourceRow F) : BarRow F :=
  { row.toOhlcv with
    bucket := defaultBucket row.symbol row.timeframe
    ts := row.ts
    fetchedAt := row.fetchedAt }

/-- `_BATCH_SIZE`. -/
def batchSize : Nat := 5000

/-- `ON CONFLICT (symbol, timeframe, ts)`. -/
def conflictTarget : List KeyColumn := [.symbol, .timeframe, .ts]

def sameColumn (first second : BarRow F) : KeyColumn -> Bool
  | .symbol => decide (first.bucket.symbol = second.bucket.symbol)
  | .timeframe => decide (first.bucket.timeframe = second.bucket.timeframe)
  | .provider => decide (first.bucket.provider = second.bucket.provider)
  | .ts => decide (first.ts = second.ts)

def sameColumns (columns : List KeyColumn) (first second : BarRow F) : Bool :=
  columns.all (sameColumn first second)

/-- `executemany` of the insert, which the database refuses as a whole where it
infers no constraint from the target. -/
def insertBatch (schema : Schema) (batch : List (BarRow F)) : Db (Store F) PyError Unit :=
  Db.call .databaseError (fun store =>
    if infersArbiter (schema.uniques .bars) conflictTarget then
      match store.bars.insertUnlessAll (sameColumns conflictTarget) batch with
      | none => .error .databaseError
      | some bars => .ok ((), { store with bars := bars })
    else .error .databaseError)

/-- `symbol, timeframe, ts` of one row before those of another. -/
def sourceOrder (first second : SourceRow F) : Prop :=
  first.symbol < second.symbol ∨ (first.symbol = second.symbol ∧
    (first.timeframe < second.timeframe ∨ (first.timeframe = second.timeframe ∧
      first.ts ≤ second.ts)))

instance : DecidableRel (sourceOrder (F := F)) := fun _ _ => by
  unfold sourceOrder
  infer_instance

/-- `SELECT ... FROM bars ORDER BY symbol, timeframe, ts` of the legacy file. -/
def sourceRows (source : Table (SourceRow.key (F := F))) : List (SourceRow F) :=
  source.rows.insertionSort sourceOrder

/-- The loop of `_seed_bars`: the rows that are left for the last batch and the
rows that have been sent. -/
def seedLoop (schema : Schema) (size : Nat) :
    List (SourceRow F) -> List (BarRow F) -> Nat -> Db (Store F) PyError (List (BarRow F) × Nat)
  | [], batch, total => pure (batch, total)
  | row :: rest, batch, total =>
    if size ≤ (batch ++ [toRow row]).length then do
      insertBatch schema (batch ++ [toRow row])
      seedLoop schema size rest [] (total + (batch ++ [toRow row]).length)
    else seedLoop schema size rest (batch ++ [toRow row]) total

/-- The last batch of `_seed_bars`. -/
def seedRest (schema : Schema) (left : List (BarRow F) × Nat) : Db (Store F) PyError Nat :=
  if left.1.isEmpty then pure left.2
  else do
    insertBatch schema left.1
    pure (left.2 + left.1.length)

/-- `_seed_bars`. -/
def seedBars (schema : Schema) (rows : List (SourceRow F)) : Db (Store F) PyError Nat := do
  let left <- seedLoop schema batchSize rows [] 0
  let total <- seedRest schema left
  Db.commit .databaseError
  pure total

/-- The rows of the summary, whose provider is the default of the column. -/
def metaRows (store : Store F) : List MetaRow :=
  (groupBy (fun row : BarRow F => (row.bucket.symbol, row.bucket.timeframe)) store.bars.rows).map
    (fun group =>
      { bucket := defaultBucket group.1.1 group.1.2
        lastBarTs := maxOrZero (group.2.map BarRow.ts)
        barCount := group.2.length
        lastFetchedAt := maxOrZero (group.2.map BarRow.fetchedAt) })

/-- `_refresh_cache_meta`. -/
def refreshCacheMeta : Db (Store F) PyError Unit := do
  Db.call .databaseError (fun store =>
    .ok ((), { store with cacheMeta := store.cacheMeta.deleteWhere (fun _ => true) }))
  Db.call .databaseError (fun store =>
    match store.cacheMeta.insertRows (metaRows store) with
    | none => .error .databaseError
    | some cacheMeta => .ok ((), { store with cacheMeta := cacheMeta }))
  Db.commit .databaseError

/-- The rows of each symbol and timeframe, counted. -/
def countsBy {Row : Type} (name : Row -> String × String) (rows : List Row) :
    List ((String × String) × Nat) :=
  (groupBy name rows).map (fun group => (group.1, group.2.length))

/-- `_read_sqlite_counts`. -/
def readSqliteCounts (source : Table (SourceRow.key (F := F))) : List ((String × String) × Nat) :=
  countsBy (fun row => (row.symbol, row.timeframe)) source.rows

/-- `_read_pg_counts`. -/
def readPgCounts : Db (Store F) PyError (List ((String × String) × Nat)) :=
  Db.call .databaseError (fun store =>
    .ok (countsBy (fun row => (row.bucket.symbol, row.bucket.timeframe)) store.bars.rows, store))

/-- Whether both sides have as many bars of every symbol and timeframe of the source. -/
def validated (srcCounts pgCounts : List ((String × String) × Nat)) : Bool :=
  srcCounts.all (fun entry => decide ((pgCounts.lookup entry.1).getD 0 = entry.2))

/-- The block of `main` that works on the database. -/
def seedBlock (schema : Schema) (source : Table (SourceRow.key (F := F))) :
    Db (Store F) PyError (List ((String × String) × Nat)) := do
  let _before <- readPgCounts
  let _inserted <- seedBars schema (sourceRows source)
  refreshCacheMeta
  let _after <- readPgCounts
  readPgCounts

/-- `main`, with the file at `--src` if there is one. -/
def main (schema : Schema) (source : Option (Table (SourceRow.key (F := F)))) :
    Db (Store F) PyError Int :=
  match source with
  | none => pure 1
  | some source => do
      let pgCounts <- Db.connection .databaseError (seedBlock schema source)
      pure (if validated (readSqliteCounts source) pgCounts then 0 else 2)

end Seed

end HybridDataSvc
