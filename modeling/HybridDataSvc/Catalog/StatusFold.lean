import HybridDataSvc.Catalog.Onboarding
import HybridDataSvc.Catalog.Pagination
import Mathlib.Order.Bounds.Basic

namespace HybridDataSvc

open Relational Series Transition AssetsRepo

/-!
# The status of an asset

What the two status queries are for: the status of an asset is a fold over the
feeds of its storage symbol, and its last bar the newest one recorded for
their timeframes.  The joins repeat a feed for every provider of its series
and an asset for every feed; neither shows in the result, and both queries
give the same row.
-/

variable {F : Type}

/-! ## The fold -/

/-- The feeds of the storage symbol of an asset. -/
def ownFeeds (db : Database F) (asset : AssetRecord) : List FeedRecord :=
  db.feeds.rows.filter (fun feed => decide (feed.storageSymbol = asset.storageSymbol))

/-- Active where a feed is, else pending where a feed is or there is none,
else inactive. -/
def foldedStatus (feeds : List FeedRecord) : FeedStatus :=
  if exists feed, feed ∈ feeds ∧ feed.status = .active then .active
  else if (exists feed, feed ∈ feeds ∧ feed.status = .pending) ∨ feeds = [] then .pending
  else .inactive

/-- The newest bars of the summaries of some feeds, of any provider. -/
def recordedTs (db : Database F) (asset : AssetRecord) : Set Int :=
  {ts | exists summary, summary ∈ db.store.cacheMeta.rows ∧
    summary.bucket.symbol = asset.storageSymbol ∧
    (exists feed, feed ∈ ownFeeds db asset ∧ feed.timeframe = summary.bucket.timeframe) ∧
    summary.lastBarTs = ts}

/-- The largest of some timestamps, 0 if there are none. -/
def IsMaxOrZero (values : Set Int) (ts : Int) : Prop :=
  IsGreatest values ts ∨ (values = ∅ ∧ ts = 0)

/-- A row has the columns, the status and the last bar of an asset. -/
structure Reports (db : Database F) (asset : AssetRecord) (row : AssetWithStatusRow) : Prop where
  columns : row.asset = asset.toAssetRow
  status : row.status = foldedStatus (ownFeeds db asset)
  lastBarTs : IsMaxOrZero (recordedTs db asset) row.lastBarTs

section Fold

variable (db : Database F) (asset : AssetRecord)

theorem mem_ownFeeds (feed : FeedRecord) :
    feed ∈ ownFeeds db asset ↔
      feed ∈ db.feeds.rows ∧ feed.storageSymbol = asset.storageSymbol := by
  rw [ownFeeds, List.mem_filter, decide_eq_true_eq]

theorem anyStatus_statusRows (status : FeedStatus) :
    anyStatus status (statusRows db asset) = true ↔
      exists feed, feed ∈ ownFeeds db asset ∧ feed.status = status := by
  rw [anyStatus_iff]
  simp only [mem_ownFeeds, and_assoc]

/-- Every feed has one of the three statuses. -/
theorem exists_status {feeds : List FeedRecord} (nonempty : feeds ≠ []) :
    (exists feed, feed ∈ feeds ∧ feed.status = .active) ∨
      (exists feed, feed ∈ feeds ∧ feed.status = .pending) ∨
      exists feed, feed ∈ feeds ∧ feed.status = .inactive := by
  rcases List.exists_mem_of_ne_nil feeds nonempty with ⟨feed, member⟩
  cases status : feed.status with
  | active => exact Or.inl ⟨feed, member, status⟩
  | pending => exact Or.inr (Or.inl ⟨feed, member, status⟩)
  | inactive => exact Or.inr (Or.inr ⟨feed, member, status⟩)

/-- The `CASE` over the joined rows is the fold over the feeds. -/
theorem aggStatus_statusRows :
    aggStatus (statusRows db asset) = foldedStatus (ownFeeds db asset) := by
  have any := anyStatus_statusRows db asset
  unfold aggStatus foldedStatus
  simp only [any]
  by_cases active : exists feed, feed ∈ ownFeeds db asset ∧ feed.status = .active
  · rw [if_pos active, if_pos active]
  · rw [if_neg active, if_neg active]
    by_cases pending : exists feed, feed ∈ ownFeeds db asset ∧ feed.status = .pending
    · rw [if_pos pending, if_pos (Or.inl pending)]
    · rw [if_neg pending]
      by_cases empty : ownFeeds db asset = []
      · have none_inactive : ¬ exists feed, feed ∈ ownFeeds db asset ∧ feed.status = .inactive := by
          rintro ⟨feed, member, -⟩
          rw [empty] at member
          cases member
        rw [if_neg none_inactive, if_pos (Or.inr empty)]
      · have inactive : exists feed, feed ∈ ownFeeds db asset ∧ feed.status = .inactive := by
          rcases exists_status empty with here | here | here
          · exact absurd here active
          · exact absurd here pending
          · exact here
        rw [if_pos inactive, if_neg]
        rintro (here | here)
        · exact pending here
        · exact empty here

/-- The values `MAX` runs over. -/
theorem mem_recordedTs (ts : Int) :
    ts ∈ recordedTs db asset ↔
      ts ∈ (statusRows db asset).filterMap (fun row => row.2.map MetaRow.lastBarTs) := by
  rw [mem_lastBarTs_iff, recordedTs, Set.mem_ofPred_eq]
  simp only [mem_ownFeeds, and_assoc]

theorem isMaxOrZero_maxOrZero {values : List Int} {timestamps : Set Int}
    (same : forall ts, ts ∈ timestamps ↔ ts ∈ values) :
    IsMaxOrZero timestamps (maxOrZero values) := by
  unfold maxOrZero
  cases largest : values.max? with
  | none =>
      right
      refine ⟨?_, rfl⟩
      apply Set.eq_empty_iff_forall_notMem.mpr
      intro ts member
      have value := (same ts).mp member
      rw [List.max?_eq_none_iff.mp largest] at value
      cases value
  | some ts =>
      left
      have spec := List.max?_eq_some_iff.mp largest
      exact ⟨(same ts).mpr spec.1, fun other member => spec.2 other ((same other).mp member)⟩

/-- The row of an asset reports it. -/
theorem reports_withStatus : Reports db asset (withStatus db asset) where
  columns := rfl
  status := aggStatus_statusRows db asset
  lastBarTs := isMaxOrZero_maxOrZero (mem_recordedTs db asset)

variable {db asset} in
/-- There is one row to report. -/
theorem Reports.eq {row other : AssetWithStatusRow} (first : Reports db asset row)
    (second : Reports db asset other) : row = other := by
  have lastBarTs : row.lastBarTs = other.lastBarTs := by
    rcases first.lastBarTs with greatest | ⟨empty, zero⟩
    · rcases second.lastBarTs with otherGreatest | ⟨empty, -⟩
      · exact greatest.unique otherGreatest
      · have member := greatest.1
        rw [empty] at member
        cases member
    · rcases second.lastBarTs with otherGreatest | ⟨-, otherZero⟩
      · have member := otherGreatest.1
        rw [empty] at member
        cases member
      · rw [zero, otherZero]
  cases row
  cases other
  simp only [AssetWithStatusRow.mk.injEq]
  exact ⟨first.columns.trans second.columns.symm, first.status.trans second.status.symm, lastBarTs⟩

end Fold

/-! ## The rows of a listing -/

section Pages

variable {Position : Type} [LinearOrder Position] (collation : Collation Position)
  (lower : Lowercase) (filter : ListFilter)

/-- The asset meets the filter, comes after the cursor and not after the next
one. -/
def OnPage (cursor next : Option String) (asset : AssetRecord) : Prop :=
  meetsFilter lower filter asset.toAssetRow = true ∧
    afterCursor collation cursor asset.toAssetRow = true ∧
    forall last, next = some last -> collation.position asset.symbol ≤ collation.position last

theorem truthy_truthy (argument : Option String) : truthy (truthy argument) = truthy argument := by
  rw [truthy, truthy, Option.filter_filter]
  simp only [Bool.and_self]

theorem isCursor_truthy (cursor : Option String) : IsCursor (truthy cursor) := by
  intro empty
  exact of_decide_eq_true (Option.filter_eq_some_iff.mp empty).2 rfl

theorem afterCursor_truthy (cursor : Option String) :
    afterCursor collation (truthy cursor) = afterCursor collation cursor := by
  funext asset
  unfold afterCursor
  rw [truthy_truthy]

/-- The empty cursor is no cursor. -/
theorem listWithStatus_truthy (cursor : Option String) (limit : Int) (db : Database F) :
    listWithStatus collation lower filter (truthy cursor) limit db =
      listWithStatus collation lower filter cursor limit db := by
  have same : listedGroups collation lower filter (truthy cursor) db =
      listedGroups collation lower filter cursor db := by
    rw [listedGroups, afterCursor_truthy]
    rfl
  rw [listWithStatus, same]
  rfl

/-- Of the rows that may be listed, one has the symbol of an asset. -/
theorem mem_matchingAssets (db : Database F) (row : AssetWithStatusRow) :
    row ∈ matchingAssets lower filter db ↔
      exists asset, asset ∈ db.assets.rows ∧ meetsFilter lower filter asset.toAssetRow = true ∧
        withStatus db asset = row := by
  rw [matchingAssets, List.mem_map]
  simp only [List.mem_filter, and_assoc]

theorem eq_withStatus_of_mem_matchingAssets {db : Database F} {asset : AssetRecord}
    (stored : asset ∈ db.assets.rows) {row : AssetWithStatusRow}
    (member : row ∈ matchingAssets lower filter db) (same : row.asset.symbol = asset.symbol) :
    meetsFilter lower filter asset.toAssetRow = true ∧ row = withStatus db asset := by
  rcases (mem_matchingAssets lower filter db row).mp member with ⟨other, otherStored, meets, rfl⟩
  have equal : other = asset := db.assets.eq_of_key_eq otherStored stored same
  subst equal
  exact ⟨meets, rfl⟩

/-- What a page holds of an asset. -/
theorem withStatus_mem_listWithStatus (cursor : Option String) (limit : Int) {db : Database F}
    {asset : AssetRecord} (stored : asset ∈ db.assets.rows) :
    let answer := listWithStatus collation lower filter cursor limit db
    withStatus db asset ∈ answer.1 ↔ OnPage collation lower filter cursor answer.2 asset := by
  intro answer
  have isPage := isPage_listWithStatus collation lower filter limit (isCursor_truthy cursor) db
  have beyond := afterCursor_eq collation (isCursor_truthy cursor) asset.toAssetRow
  rw [afterCursor_truthy] at beyond
  rw [listWithStatus_truthy] at isPage
  change Keyset.IsPage _ _ _ _ answer.1 (answer.2.map collation.position) at isPage
  constructor
  · intro member
    have listed := isPage.stored _ member
    refine ⟨?_, beyond.trans listed.2, ?_⟩
    · exact (eq_withStatus_of_mem_matchingAssets lower filter stored listed.1 rfl).1
    · intro last next
      exact (isPage.bounded _ (congrArg (Option.map collation.position) next)).1 _ member
  · rintro ⟨meets, after, before⟩
    have matching := (mem_matchingAssets lower filter db _).mpr ⟨asset, stored, meets, rfl⟩
    have ahead := beyond.symm.trans after
    cases next : answer.2 with
    | none =>
        rw [next] at isPage
        exact isPage.complete rfl _ matching ahead
    | some last =>
        rw [next] at isPage
        exact isPage.passed _ rfl _ matching ahead (before last next)

/-- The rows of an asset among rows with different symbols. -/
theorem filter_symbol_eq {db : Database F} {asset : AssetRecord} (stored : asset ∈ db.assets.rows)
    {rows : List AssetWithStatusRow} (unique : (rows.map (fun row => row.asset.symbol)).Nodup)
    (matching : forall row, row ∈ rows -> row ∈ matchingAssets lower filter db) :
    rows.filter (fun row => decide (row.asset.symbol = asset.symbol)) =
      if withStatus db asset ∈ rows then [withStatus db asset] else [] := by
  by_cases listed : withStatus db asset ∈ rows
  · rw [if_pos listed]
    exact filter_name_of_mem unique listed
  · rw [if_neg listed, List.filter_eq_nil_iff]
    intro row member same
    have equal := (eq_withStatus_of_mem_matchingAssets lower filter stored (matching row member)
      (of_decide_eq_true same)).2
    rw [equal] at member
    exact listed member

theorem nodup_symbols_of_ascending {rows : List AssetWithStatusRow}
    (ascending : Ascending (symbolPosition collation) rows) :
    (rows.map (fun row => row.asset.symbol)).Nodup := by
  refine List.pairwise_map.mpr (ascending.imp ?_)
  intro first second before same
  exact absurd (congrArg collation.position same) (ne_of_lt before)

/-! ## The rows of all pages -/

/-- The client reads so many pages, and nobody writes. -/
def ListWalk.read (limit : Int) (db : Database F) (count : Nat) : ListWalk F :=
  run (ListWalk.step collation lower filter limit) (ListWalk.start db)
    (List.replicate count .page)

/-- While pages are read the database stays, what is returned matches, and
what matches is not missed. -/
structure ReadInv (limit : Int) (db : Database F) (walk : ListWalk F) : Prop where
  db_eq : walk.db = db
  walkInv : WalkInv collation limit walk
  matching : forall row, row ∈ walk.returned -> row ∈ matchingAssets lower filter db
  notMissed : forall symbol, Matches lower filter symbol db -> NotMissed collation symbol walk

theorem readInv_start (limit : Int) {db : Database F} (named : Named db) :
    ReadInv collation lower filter limit db (ListWalk.start db) where
  db_eq := rfl
  walkInv := walkInv_start collation limit named
  matching := by
    intro row member
    cases member
  notMissed := by
    intro symbol _
    exact ⟨fun _ => Keyset.covered_start _ _, fun impossible => Bool.noConfusion impossible⟩

theorem readInv_page {limit : Int} {db : Database F} {walk : ListWalk F}
    (inv : ReadInv collation lower filter limit db walk) :
    ReadInv collation lower filter limit db (walk.step collation lower filter limit .page) := by
  have named : (WalkAction.page : WalkAction F).Named := trivial
  have notMissed : forall symbol, Matches lower filter symbol db ->
      NotMissed collation symbol (walk.step collation lower filter limit .page) := by
    intro symbol present
    refine notMissed_step collation lower filter inv.walkInv (inv.notMissed symbol present) ?_
    intro _ _
    rw [inv.db_eq]
    exact present
  cases finished : walk.finished with
  | true =>
      rw [step_page_of_finished collation lower filter finished]
      exact inv
  | false =>
      have isPage := isPage_listWithStatus collation lower filter limit inv.walkInv.isCursor walk.db
      have walkInv := walkInv_step collation lower filter inv.walkInv named
      rw [step_page collation lower filter finished] at walkInv notMissed ⊢
      refine ⟨inv.db_eq, walkInv, ?_, notMissed⟩
      intro row member
      rw [ListWalk.returned, ListWalk.turned, List.flatten_append, List.flatten_singleton] at member
      rcases List.mem_append.mp member with before | new
      · exact inv.matching row before
      · rw [← inv.db_eq]
        exact (isPage.stored row new).1

theorem readInv_read (limit : Int) {db : Database F} (named : Named db) (count : Nat) :
    ReadInv collation lower filter limit db (ListWalk.read collation lower filter limit db count) := by
  induction count with
  | zero => exact readInv_start collation lower filter limit named
  | succ count ih =>
      rw [ListWalk.read, List.replicate_succ', run_append]
      exact readInv_page collation lower filter ih

/-- The rows of an asset among all pages. -/
theorem filter_read (limit : Int) {db : Database F} (named : Named db) {count : Nat}
    (finished : (ListWalk.read collation lower filter limit db count).finished = true)
    {asset : AssetRecord} (stored : asset ∈ db.assets.rows)
    (meets : meetsFilter lower filter asset.toAssetRow = true) :
    (ListWalk.read collation lower filter limit db count).returned.filter (fun row =>
      decide (row.asset.symbol = asset.symbol)) = [withStatus db asset] := by
  have inv := readInv_read collation lower filter limit named count
  generalize ListWalk.read collation lower filter limit db count = walk at inv finished
  have present : Matches lower filter asset.symbol db :=
    ⟨asset, (db.assets.mem_rows_iff_lookup asset).mp stored, meets⟩
  rcases (inv.notMissed _ present).finished finished with ⟨row, returned, same⟩
  have own := (eq_withStatus_of_mem_matchingAssets lower filter stored (inv.matching row returned)
    same).2
  rw [own] at returned
  rw [filter_symbol_eq lower filter stored (nodup_returned collation inv.walkInv) inv.matching,
    if_pos returned]

/-- The rows of an asset on one page. -/
theorem filter_listWithStatus (cursor : Option String) (limit : Int) {db : Database F}
    {asset : AssetRecord} (stored : asset ∈ db.assets.rows) :
    let answer := listWithStatus collation lower filter cursor limit db
    answer.1.filter (fun row => decide (row.asset.symbol = asset.symbol)) =
      if withStatus db asset ∈ answer.1 then [withStatus db asset] else [] := by
  intro answer
  have isPage := isPage_listWithStatus collation lower filter limit (isCursor_truthy cursor) db
  rw [listWithStatus_truthy] at isPage
  exact filter_symbol_eq lower filter stored (nodup_symbols_of_ascending collation isPage.ascending)
    (fun row member => (isPage.stored row member).1)

/-- The two status queries report the fold.  On every page, under any filter,
cursor and limit, the rows of an asset are the one row that `get_with_status`
gives, if the asset meets the filter and lies between the cursors, and none
otherwise; over all pages every asset that meets the filter has one row. -/
theorem status_is_fold (db : Database F) :
    (forall asset, asset ∈ db.assets.rows -> exists row,
      getWithStatus db asset.symbol = some row ∧ Reports db asset row ∧
        forall (filter : ListFilter) (limit : Int),
          (forall cursor, let answer := listWithStatus collation lower filter cursor limit db
            (OnPage collation lower filter cursor answer.2 asset ->
              answer.1.filter (fun listed => decide (listed.asset.symbol = asset.symbol)) = [row]) ∧
            (¬ OnPage collation lower filter cursor answer.2 asset ->
              forall listed, listed ∈ answer.1 -> listed.asset.symbol ≠ asset.symbol)) ∧
          (Named db -> meetsFilter lower filter asset.toAssetRow = true -> forall count,
            let walk := ListWalk.read collation lower filter limit db count
            walk.finished = true ->
              walk.returned.filter (fun listed => decide (listed.asset.symbol = asset.symbol)) =
                [row])) ∧
    forall (filter : ListFilter) (cursor : Option String) (limit : Int) (listed : AssetWithStatusRow),
      listed ∈ (listWithStatus collation lower filter cursor limit db).1 ->
      exists asset, asset ∈ db.assets.rows ∧ Reports db asset listed := by
  constructor
  · intro asset stored
    have found : getWithStatus db asset.symbol = some (withStatus db asset) := by
      have lookup : db.assets.lookup asset.symbol = some asset :=
        (db.assets.mem_rows_iff_lookup asset).mp stored
      rw [getWithStatus, lookup]
      rfl
    refine ⟨withStatus db asset, found, reports_withStatus db asset, ?_⟩
    intro filter limit
    constructor
    · intro cursor answer
      have rows := filter_listWithStatus collation lower filter cursor limit stored
      have onPage := withStatus_mem_listWithStatus collation lower filter cursor limit stored
      change answer.1.filter _ = _ at rows
      constructor
      · intro here
        rw [rows, if_pos (onPage.mpr here)]
      · intro elsewhere listed member same
        rw [if_neg (fun here => elsewhere (onPage.mp here)), List.filter_eq_nil_iff] at rows
        exact rows listed member (decide_eq_true same)
    · intro named meets count walk finished
      exact filter_read collation lower filter limit named finished stored meets
  · intro filter cursor limit listed member
    have isPage := isPage_listWithStatus collation lower filter limit (isCursor_truthy cursor) db
    rw [listWithStatus_truthy] at isPage
    rcases (mem_matchingAssets lower filter db listed).mp (isPage.stored listed member).1 with
      ⟨asset, stored, -, rfl⟩
    exact ⟨asset, stored, reports_withStatus db asset⟩

end Pages

end HybridDataSvc
