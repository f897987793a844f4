import HybridDataSvc.Relational.Table
import Mathlib.Data.Rat.Defs

namespace HybridDataSvc

open Relational

/-!
# Prices, frames and the two bar tables

The cache stores bars of a series in `bars` and one summary row for each
series in `cache_meta`.  A series, here a `Bucket`, is named by symbol,
timeframe and provider.  Both tables are `Relational.Table`s over the primary
keys of the migrated schema, so a duplicate key is not a state of the model.

Prices are Python floats.  The code compares, subtracts and divides them and
takes absolute values; `PyFloat` names these operations and assumes no law
about them.  Every result that is stated over `PyFloat` therefore holds with
rounding, infinities and NaN.  Times are whole seconds, as the readings
`int(time.time())` and the `time` column are.
-/

/-- The operations of the Python `float` type that the code applies to prices. -/
class PyFloat (F : Type) extends Zero F, Sub F, Div F, LE F, LT F, BEq F, OfScientific F where
  abs : F -> F
  decidableLE : DecidableLE F
  decidableLT : DecidableLT F

instance instDecidableLEPyFloat {F : Type} [PyFloat F] : DecidableLE F := PyFloat.decidableLE

instance instDecidableLTPyFloat {F : Type} [PyFloat F] : DecidableLT F := PyFloat.decidableLT

/-- Machine doubles are the prices the code runs on. -/
instance : PyFloat Float where
  zero := 0.0
  abs := Float.abs
  decidableLE := inferInstance
  decidableLT := inferInstance

/-- Exact prices, on which the definitions can be evaluated in proofs. -/
instance : PyFloat Rat where
  zero := 0
  abs := fun price => if price < 0 then -price else price
  decidableLE := inferInstance
  decidableLT := inferInstance

/-- The exceptions that leave the functions of the writer. -/
inductive PyError
  | keyError (column : String)
  | valueError (message : String)
  | attributeError (message : String)
  | dataFetchError (message : String)
  | backfillError (message : String)
  | fileNotFoundError (path : String)
  | databaseError
  | other (typeName : String)
  deriving DecidableEq, Repr

/-- `repr` of a string without quotes or characters that need an escape. -/
def pyRepr (text : String) : String := "'" ++ text ++ "'"

/-- The five price columns of a bar. -/
structure Ohlcv (F : Type) where
  open_ : F
  high : F
  low : F
  close : F
  volume : F
  deriving DecidableEq, Repr

/-- A row of a frame a fetcher returns; `time` is the open of the bar. -/
structure Bar (F : Type) extends Ohlcv F where
  time : Int
  deriving DecidableEq, Repr

/-- A bar with one price throughout, as the test fixture `seed_bar` makes it. -/
def seedBar (time : Int) (close : Rat) : Bar Rat :=
  { open_ := close, high := close, low := close, close := close, volume := 1, time := time }

/-- A pandas frame: either one without any column, as `pd.DataFrame([])` is,
or one with the six columns of a bar. -/
inductive DataFrame (F : Type)
  | noColumns
  | ohlcv (rows : List (Bar F))
  deriving DecidableEq, Repr

/-- Selecting rows by `df["time"]`, which a frame without columns refuses. -/
def DataFrame.rows {F : Type} : DataFrame F -> Except PyError (List (Bar F))
  | .noColumns => .error (.keyError "time")
  | .ohlcv rows => .ok rows

/-- The columns `symbol`, `timeframe` and `provider` shared by both tables. -/
structure Bucket where
  symbol : String
  timeframe : String
  provider : String
  deriving DecidableEq, Repr

/-- A row of `bars`. -/
structure BarRow (F : Type) extends Ohlcv F where
  bucket : Bucket
  ts : Int
  fetchedAt : Int
  deriving DecidableEq, Repr

/-- The primary key of `bars` after migration 004. -/
def BarRow.key {F : Type} (row : BarRow F) : Bucket × Int := (row.bucket, row.ts)

/-- A row of `cache_meta`; its primary key is the bucket. -/
structure MetaRow where
  bucket : Bucket
  lastBarTs : Int
  barCount : Nat
  lastFetchedAt : Int
  deriving DecidableEq, Repr

/-- The two tables of the bar cache. -/
structure Store (F : Type) where
  bars : Table (BarRow.key (F := F))
  cacheMeta : Table MetaRow.bucket

namespace Store

variable {F : Type}

/-- The store right after the migrations. -/
def empty : Store F := ⟨Table.empty, Table.empty⟩

/-- `SELECT ... FROM bars WHERE symbol=%s AND timeframe=%s AND provider=%s`. -/
def bucketRows (store : Store F) (bucket : Bucket) : List (BarRow F) :=
  store.bars.select (fun row => decide (row.bucket = bucket))

theorem mem_bucketRows (store : Store F) (bucket : Bucket) (row : BarRow F) :
    row ∈ store.bucketRows bucket ↔ row ∈ store.bars.rows ∧ row.bucket = bucket := by
  simp [bucketRows]

/-- The primary key keeps a bucket from having two bars at one timestamp. -/
theorem nodup_bucketRows_ts (store : Store F) (bucket : Bucket) :
    ((store.bucketRows bucket).map BarRow.ts).Nodup := by
  have keys : ((store.bucketRows bucket).map BarRow.key).Nodup :=
    store.bars.nodup_keys_select _
  have same : forall row, row ∈ store.bucketRows bucket -> row.key = (bucket, row.ts) := by
    intro row member
    rw [BarRow.key, ((store.mem_bucketRows bucket row).mp member).2]
  rw [List.map_congr_left same, ← Function.comp_def (Prod.mk bucket) BarRow.ts, ← List.map_map] at keys
  exact keys.of_map

/-- The stored row of a bucket at one timestamp. -/
def barAt (store : Store F) (bucket : Bucket) (ts : Int) : Option (BarRow F) :=
  store.bars.lookup (bucket, ts)

theorem barAt_eq_some_iff (store : Store F) (bucket : Bucket) (ts : Int) (row : BarRow F) :
    store.barAt bucket ts = some row ↔
      row ∈ store.bars.rows ∧ row.bucket = bucket ∧ row.ts = ts := by
  rw [barAt, Table.lookup_eq_some_iff, BarRow.key, Prod.mk.injEq]

/-- The timestamps of a bucket, the abstract content that accumulation and
metadata speak about. -/
def storedTimes (store : Store F) (bucket : Bucket) : Set Int :=
  { ts | exists row, row ∈ store.bars.rows ∧ row.bucket = bucket ∧ row.ts = ts }

theorem mem_storedTimes_iff_barAt (store : Store F) (bucket : Bucket) (ts : Int) :
    ts ∈ store.storedTimes bucket ↔ (store.barAt bucket ts).isSome = true := by
  rw [Option.isSome_iff_exists]
  simp only [barAt_eq_some_iff]
  rfl

/-- The bucket of a row is read off its key. -/
theorem inBucket_of_key (bucket : Bucket) (row other : BarRow F) (same : row.key = other.key) :
    decide (row.bucket = bucket) = decide (other.bucket = bucket) := by
  have sameBucket : row.bucket = other.bucket := congrArg Prod.fst same
  rw [sameBucket]

/-- A store that has the times of another one in a bucket has its keys there. -/
theorem exists_key_of_subset {small large : Store F} {bucket : Bucket}
    (below : small.storedTimes bucket ⊆ large.storedTimes bucket) (row : BarRow F)
    (member : row ∈ small.bars.rows) (own : decide (row.bucket = bucket) = true) :
    exists other, other ∈ large.bars.rows ∧ other.key = row.key := by
  have ownBucket := of_decide_eq_true own
  rcases below ⟨row, member, ownBucket, rfl⟩ with ⟨other, otherMem, otherOwn, same⟩
  exact ⟨other, otherMem, Prod.ext (otherOwn.trans ownBucket.symm) same⟩

/-- A store that has the times of another one has at least as many rows. -/
theorem length_bucketRows_le {small large : Store F} {bucket : Bucket}
    (below : small.storedTimes bucket ⊆ large.storedTimes bucket) :
    (small.bucketRows bucket).length ≤ (large.bucketRows bucket).length :=
  Table.length_select_le (inBucket_of_key bucket) (exists_key_of_subset below)

/-- Of two stores, one with all times of the other, both have the same number
of rows in a bucket exactly when they have the same times. -/
theorem length_bucketRows_eq_iff {small large : Store F} {bucket : Bucket}
    (below : small.storedTimes bucket ⊆ large.storedTimes bucket) :
    (small.bucketRows bucket).length = (large.bucketRows bucket).length ↔
      large.storedTimes bucket ⊆ small.storedTimes bucket := by
  rw [bucketRows, bucketRows,
    Table.length_select_eq_iff (inBucket_of_key bucket) (exists_key_of_subset below)]
  constructor
  · rintro covered ts ⟨row, member, own, rfl⟩
    rcases covered row member (decide_eq_true own) with ⟨other, otherMem, same⟩
    exact ⟨other, otherMem, (congrArg Prod.fst same).trans own, congrArg Prod.snd same⟩
  · intro above
    exact exists_key_of_subset above

end Store

end HybridDataSvc
