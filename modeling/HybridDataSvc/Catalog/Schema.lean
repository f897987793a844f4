import HybridDataSvc.Cache.Schema
import HybridDataSvc.Relational.Statements

namespace HybridDataSvc

open Relational

/-!
# Assets and feeds

The catalog has an asset for each external symbol and the writer polls the
rows of `feeds`.  The two meet in the storage symbol, the name under which
bars are stored: an asset has no feed of its own, it has the feeds of its
storage symbol, and two assets may share one.
-/

/-- `feeds.status`. -/
inductive FeedStatus
  | active
  | pending
  | inactive
  deriving DecidableEq, Repr

/-- The text of a status in the database and in a response. -/
def FeedStatus.text : FeedStatus -> String
  | .active => "active"
  | .pending => "pending"
  | .inactive => "inactive"

/-- `FeedRow`, a polling target. -/
structure FeedRow where
  storageSymbol : String
  timeframe : String
  tvSymbol : String
  status : FeedStatus
  deriving DecidableEq, Repr

/-- A row of `feeds`. -/
structure FeedRecord extends FeedRow where
  updatedAt : Int
  deriving DecidableEq, Repr

/-- The primary key of `feeds`. -/
def FeedRecord.key (row : FeedRecord) : String × String := (row.storageSymbol, row.timeframe)

/-- `AssetRow`. -/
structure AssetRow where
  symbol : String
  storageSymbol : String
  name : String
  exchange : String
  currency : String
  assetClass : String
  assetSubclass : Option String
  isin : Option String
  country : Option String
  addedAt : Int
  deriving DecidableEq, Repr

/-- A row of `assets`; its primary key is the symbol. -/
structure AssetRecord extends AssetRow where
  updatedAt : Int
  deriving DecidableEq, Repr

def AssetRecord.key (row : AssetRecord) : String := row.symbol

/-- The database after migration 004. -/
structure Database (F : Type) where
  store : Store F
  feeds : Table FeedRecord.key
  assets : Table AssetRecord.key

namespace Database

variable {F : Type}

/-- The database right after the migrations. -/
def empty : Database F := ⟨Store.empty, Table.empty, Table.empty⟩

/-- The row of `feeds` for a storage symbol and a timeframe. -/
def feedAt (db : Database F) (storageSymbol timeframe : String) : Option FeedRecord :=
  db.feeds.lookup (storageSymbol, timeframe)

theorem feedAt_eq_some_iff (db : Database F) (storageSymbol timeframe : String)
    (row : FeedRecord) :
    db.feedAt storageSymbol timeframe = some row ↔
      row ∈ db.feeds.rows ∧ row.storageSymbol = storageSymbol ∧ row.timeframe = timeframe := by
  rw [feedAt, Table.lookup_eq_some_iff, FeedRecord.key, Prod.mk.injEq]

end Database

end HybridDataSvc
