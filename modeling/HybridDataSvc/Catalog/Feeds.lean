import HybridDataSvc.Catalog.Schema
import HybridDataSvc.Fetcher.DataFetcher

namespace HybridDataSvc

open Relational

/-!
# The feeds repository

The functions of `db/feeds.py`.  Four of them write, each with a conflict
clause of its own: the seeding of the configured feeds and the onboarding of
an asset leave a row that is there alone, `upsert` rewrites its chart, and
`mark_active` changes a status from pending to active and no other.
-/

variable {F : Type}

namespace FeedsRepo

/-- A status the writer polls. -/
def polled (row : FeedRecord) : Bool :=
  decide (row.status = .active) || decide (row.status = .pending)

/-- `ORDER BY storage_symbol, timeframe`. -/
def orderBySeries (rows : List FeedRecord) : List FeedRecord :=
  rows.insertionSort (fun first second =>
    first.storageSymbol < second.storageSymbol ∨
      (first.storageSymbol = second.storageSymbol ∧ first.timeframe ≤ second.timeframe))

/-- `polling_targets`. -/
def pollingTargets (feeds : Table FeedRecord.key) : List FeedRow :=
  (orderBySeries (feeds.select polled)).map FeedRecord.toFeedRow

/-- `EXISTS (SELECT 1 FROM cache_meta WHERE symbol = %s AND timeframe = %s)`. -/
def hasBars (store : Store F) (symbol timeframe : String) : Bool :=
  !(store.cacheMeta.select (fun row =>
    decide (row.bucket.symbol = symbol) && decide (row.bucket.timeframe = timeframe))).isEmpty

/-- The row `seed_from_env` inserts for a configured feed. -/
def seedRow (now : Int) (store : Store F) (feed : Feed) : FeedRecord where
  storageSymbol := feed.symbol
  timeframe := feed.timeframe
  tvSymbol := feed.tvSymbol
  status := if hasBars store feed.symbol feed.timeframe then .active else .pending
  updatedAt := now

/-- `seed_from_env`, with the number of rows it wrote. -/
def seedFromEnv (now : Int) (envFeeds : List Feed) (db : Database F) : Nat × Database F :=
  let feeds := db.feeds.insertNewAll (envFeeds.map (seedRow now db.store))
  (feeds.rows.length - db.feeds.rows.length, { db with feeds := feeds })

/-- The `DO UPDATE` of `upsert`. -/
def rechart (old new : FeedRecord) : FeedRecord :=
  { old with tvSymbol := new.tvSymbol, updatedAt := new.updatedAt }

theorem rechart_key (old new : FeedRecord) : (rechart old new).key = old.key := rfl

/-- `upsert`: the status of a row that is there stays. -/
def upsert (now : Int) (storageSymbol timeframe tvSymbol : String) (status : FeedStatus)
    (feeds : Table FeedRecord.key) : Table FeedRecord.key :=
  feeds.merge rechart
    { storageSymbol := storageSymbol, timeframe := timeframe, tvSymbol := tvSymbol,
      status := status, updatedAt := now }

/-- The condition of the `UPDATE` in `mark_active`. -/
def promotable (storageSymbol timeframe : String) (row : FeedRecord) : Bool :=
  decide (row.storageSymbol = storageSymbol) && decide (row.timeframe = timeframe) &&
    decide (row.status = .pending)

/-- `mark_active`. -/
def markActive (now : Int) (storageSymbol timeframe : String) (feeds : Table FeedRecord.key) :
    Table FeedRecord.key :=
  feeds.updateWhere (promotable storageSymbol timeframe)
    (fun row => { row with status := .active, updatedAt := now }) (fun _ => rfl)

/-! ## The rows each function leaves -/

theorem mem_pollingTargets (feeds : Table FeedRecord.key) (target : FeedRow) :
    target ∈ pollingTargets feeds ↔
      exists row, row ∈ feeds.rows ∧ row.toFeedRow = target ∧ target.status ≠ .inactive := by
  have members : forall row, row ∈ orderBySeries (feeds.select polled) ↔
      row ∈ feeds.select polled := fun row => (List.perm_insertionSort _ _).mem_iff
  have polled_iff : forall row, polled row = true ↔ row.status ≠ .inactive := by
    intro row
    cases status : row.status <;> simp [polled, status]
  simp only [pollingTargets, List.mem_map, members, Table.mem_select, polled_iff]
  constructor
  · rintro ⟨row, ⟨member, status⟩, rfl⟩
    exact ⟨row, member, rfl, status⟩
  · rintro ⟨row, member, rfl, status⟩
    exact ⟨row, ⟨member, status⟩, rfl⟩

theorem hasBars_iff (store : Store F) (symbol timeframe : String) :
    hasBars store symbol timeframe = true ↔
      exists provider, (getMeta store ⟨symbol, timeframe, provider⟩).isSome = true := by
  simp only [hasBars, Bool.not_eq_true', List.isEmpty_eq_false_iff_exists_mem, Table.mem_select,
    Bool.and_eq_true, decide_eq_true_eq, Option.isSome_iff_exists, getMeta,
    Table.lookup_eq_some_iff]
  constructor
  · rintro ⟨row, member, sameSymbol, sameTimeframe⟩
    exact ⟨row.bucket.provider, row, member, by rw [← sameSymbol, ← sameTimeframe]⟩
  · rintro ⟨provider, row, member, same⟩
    exact ⟨row, member, by rw [same], by rw [same]⟩

theorem seedRow_polled (now : Int) (store : Store F) (feed : Feed) :
    (seedRow now store feed).status ≠ .inactive := by
  unfold seedRow
  cases hasBars store feed.symbol feed.timeframe <;> simp

theorem lookup_upsert (now : Int) (storageSymbol timeframe tvSymbol : String)
    (status : FeedStatus) (feeds : Table FeedRecord.key) (k : String × String) :
    (upsert now storageSymbol timeframe tvSymbol status feeds).lookup k =
      if k = (storageSymbol, timeframe) then
        some (match feeds.lookup k with
          | none => { storageSymbol := storageSymbol, timeframe := timeframe,
                      tvSymbol := tvSymbol, status := status, updatedAt := now }
          | some old => { old with tvSymbol := tvSymbol, updatedAt := now })
      else feeds.lookup k := by
  rw [upsert, Table.lookup_merge feeds rechart_key]
  cases feeds.lookup k <;> rfl

theorem lookup_markActive (now : Int) (storageSymbol timeframe : String)
    (feeds : Table FeedRecord.key) (k : String × String) :
    (markActive now storageSymbol timeframe feeds).lookup k =
      (feeds.lookup k).map (fun row =>
        if promotable storageSymbol timeframe row then
          { row with status := .active, updatedAt := now }
        else row) :=
  Table.lookup_updateWhere feeds _ _ _ k

end FeedsRepo

end HybridDataSvc
