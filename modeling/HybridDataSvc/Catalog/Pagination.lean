import HybridDataSvc.Catalog.Listing
import HybridDataSvc.Catalog.Sync
import Mathlib.Data.String.Basic

namespace HybridDataSvc

open Relational Series Transition AssetsRepo

/-!
# Walking the catalog page by page

A page of the listing is a page by key over the assets that meet the filter,
each of them once.  A client follows the next cursor while others insert and
rewrite assets and the writer changes feeds and bars.  As no asset is ever
removed, the walk misses nothing that was there all the time, returns nothing
twice, and ends unless the catalog grows for ever.
-/

variable {F : Type} {Position : Type} [LinearOrder Position]

/-! ## The query as a page by key -/

/-- The assets that meet a filter, with the columns of the query. -/
def matchingAssets (lower : Lowercase) (filter : ListFilter) (db : Database F) :
    List AssetWithStatusRow :=
  (db.assets.rows.filter (fun asset => meetsFilter lower filter asset.toAssetRow)).map
    (withStatus db)

theorem nodup_symbols (assets : Table AssetRecord.key) :
    (assets.rows.map (fun asset => asset.symbol)).Nodup := assets.unique

theorem nodup_assetRows (assets : Table AssetRecord.key) :
    (assets.rows.map AssetRecord.toAssetRow).Nodup := by
  have symbols : (assets.rows.map AssetRecord.toAssetRow).map (fun row => row.symbol) =
      assets.rows.map (fun asset => asset.symbol) := by
    rw [List.map_map]
    rfl
  apply List.Nodup.of_map (fun row => row.symbol)
  rw [symbols]
  exact nodup_symbols assets

theorem origin_of_joined {db : Database F} {asset : AssetRecord} {row : JoinedRow}
    (joined : row ∈ joinedRows db [asset]) : row.1.1 = asset := by
  have outer := ((mem_leftJoin _ _ row.1 row.2).mp joined).1
  have inner := ((mem_leftJoin _ _ row.1.1 row.1.2).mp outer).1
  exact List.mem_singleton.mp inner

theorem joinedRows_ne_nil (db : Database F) (asset : AssetRecord) : joinedRows db [asset] ≠ [] :=
  leftJoin_ne_nil (leftJoin_ne_nil (List.cons_ne_nil _ _) _) _

/-- The rows joined to one asset are those its status is computed from. -/
theorem joinedRows_eq_statusRows (db : Database F) (asset : AssetRecord) :
    (joinedRows db [asset]).map (fun row => (row.1.2, row.2)) = statusRows db asset := by
  have same : forall pair, pair ∈ leftJoin [asset] (matchingFeeds db) ->
      matchingMeta db pair = matchingMeta db (asset, pair.2) := by
    intro pair joined
    have inner := ((mem_leftJoin _ _ pair.1 pair.2).mp joined).1
    rw [← List.mem_singleton.mp inner]
  rw [joinedRows, leftJoin_congr same, statusRows, feedsOf, leftJoin_map]
  rfl

theorem groupColumns_joinedRows (db : Database F) (asset : AssetRecord) :
    groupColumns (asset.toAssetRow, joinedRows db [asset]) = withStatus db asset := by
  simp only [groupColumns, joinedRows_eq_statusRows, withStatus]

variable (collation : Collation Position) (lower : Lowercase) (filter : ListFilter)

/-- The groups of the query are the assets that meet the filter beyond the
cursor, each once. -/
theorem listedGroups_eq (cursor : Option String) (db : Database F) :
    listedGroups collation lower filter cursor db =
      sortBy (symbolPosition collation) ((db.assets.rows.filter (fun asset =>
        meetsFilter lower filter asset.toAssetRow &&
          afterCursor collation cursor asset.toAssetRow)).map (withStatus db)) := by
  have own : forall (asset : AssetRecord) (row : JoinedRow), row ∈ joinedRows db [asset] ->
      row.1.1 = asset := fun asset row => origin_of_joined
  have expands : joinedRows db db.assets.rows =
      db.assets.rows.flatMap (fun asset => joinedRows db [asset]) :=
    leftJoin_leftJoin db.assets.rows (matchingFeeds db) (matchingMeta db)
  have selected := filter_flatMap_origin own (fun asset => meetsFilter lower filter asset.toAssetRow &&
    afterCursor collation cursor asset.toAssetRow) db.assets.rows
  have unique : ((db.assets.rows.filter (fun asset => meetsFilter lower filter asset.toAssetRow &&
      afterCursor collation cursor asset.toAssetRow)).map AssetRecord.toAssetRow).Nodup :=
    (nodup_assetRows db.assets).sublist (List.filter_sublist.map AssetRecord.toAssetRow)
  have groups := groupBy_flatMap own (joinedRows_ne_nil db) AssetRecord.toAssetRow unique
  have columns : forall assets : List AssetRecord,
      (assets.map (fun asset => (asset.toAssetRow, joinedRows db [asset]))).map groupColumns =
        assets.map (withStatus db) := by
    intro assets
    rw [List.map_map]
    exact List.map_congr_left (fun asset _ => groupColumns_joinedRows db asset)
  rw [← columns, ← groups, ← selected, ← expands]
  rfl

omit [LinearOrder Position] in
theorem nodup_withStatus (db : Database F) (condition : AssetRecord -> Bool) :
    (((db.assets.rows.filter condition).map (withStatus db)).map
      (symbolPosition collation)).Nodup := by
  have symbols : ((db.assets.rows.filter condition).map (withStatus db)).map
      (symbolPosition collation) =
        ((db.assets.rows.filter condition).map (fun asset => asset.symbol)).map
          collation.position := by
    rw [List.map_map, List.map_map]
    rfl
  rw [symbols]
  apply List.Nodup.map collation.injective
  exact (nodup_symbols db.assets).sublist (List.filter_sublist.map _)

omit [LinearOrder Position] in
theorem nodup_matchingAssets (db : Database F) :
    ((matchingAssets lower filter db).map (symbolPosition collation)).Nodup :=
  nodup_withStatus collation db _

/-- A cursor that the query takes as given. -/
def IsCursor (cursor : Option String) : Prop := cursor ≠ some ""

theorem afterCursor_eq {cursor : Option String} (isCursor : IsCursor cursor) (asset : AssetRow) :
    afterCursor collation cursor asset =
      Keyset.isBeyond (cursor.map collation.position) (collation.position asset.symbol) := by
  cases cursor with
  | none => rfl
  | some last =>
      have given : truthy (some last) = some last := by
        apply Option.filter_eq_some_iff.mpr
        exact ⟨rfl, decide_eq_true (fun empty => isCursor (congrArg some empty))⟩
      rw [afterCursor, given]
      rfl

theorem listedGroups_eq_remaining {cursor : Option String} (isCursor : IsCursor cursor)
    (db : Database F) :
    listedGroups collation lower filter cursor db =
      Keyset.remaining (symbolPosition collation) (cursor.map collation.position)
        (matchingAssets lower filter db) := by
  rw [listedGroups_eq, Keyset.remaining, matchingAssets, List.filter_map, List.filter_filter]
  congr 2
  apply List.filter_congr
  intro asset _
  rw [afterCursor_eq collation isCursor, Bool.and_comm]
  rfl

/-- A page of the listing is a page by key over the assets that meet the
filter. -/
theorem listWithStatus_eq_page {cursor : Option String} (isCursor : IsCursor cursor) (limit : Int)
    (db : Database F) :
    let answer := listWithStatus collation lower filter cursor limit db
    (answer.1, answer.2.map collation.position) =
      Keyset.page (symbolPosition collation) (clampedLimit limit)
        (cursor.map collation.position) (matchingAssets lower filter db) := by
  intro answer
  have unfolded : answer = listWithStatus collation lower filter cursor limit db := rfl
  simp only [listWithStatus, listedGroups_eq_remaining collation lower filter isCursor] at unfolded
  rw [unfolded, Keyset.page]
  split
  · rw [Option.map_map]
    rfl
  · rfl

theorem clampedLimit_pos (limit : Int) : 0 < clampedLimit limit := by
  unfold clampedLimit
  omega

/-! ## The walk -/

/-- A walk through the pages, and the database it reads from. -/
structure ListWalk (F : Type) where
  db : Database F
  cursor : Option String
  pages : List (List AssetWithStatusRow)
  finished : Bool

/-- Before the first page. -/
def ListWalk.start (db : Database F) : ListWalk F := ⟨db, none, [], false⟩

/-- The next page is taken, or somebody else writes: assets are inserted and
rewritten, feeds and bars change in any way. -/
inductive WalkAction (F : Type)
  | page
  | write (action : CatalogAction)
  | poll (feeds : Table FeedRecord.key) (store : Store F)

/-- A step of the walk or of the others. -/
def ListWalk.step (limit : Int) (walk : ListWalk F) : WalkAction F -> ListWalk F
  | .page =>
    if walk.finished then walk
    else
      let answer := listWithStatus collation lower filter walk.cursor limit walk.db
      { walk with cursor := answer.2, pages := walk.pages ++ [answer.1], finished := answer.2.isNone }
  | .write action => { walk with db := catalogStep walk.db action }
  | .poll feeds store => { walk with db := { walk.db with feeds := feeds, store := store } }

/-- Every asset has a symbol that is not empty. -/
def Named (db : Database F) : Prop := forall symbol, db.assets.lookup symbol ≠ none -> symbol ≠ ""

/-- The assets that others write have symbols that are not empty. -/
def WalkAction.Named : WalkAction F -> Prop
  | .write action => forall row, row ∈ action.rows -> row.symbol ≠ ""
  | _ => True

/-- The symbol has an asset that meets the filter. -/
def Matches (symbol : String) (db : Database F) : Prop :=
  exists asset, db.assets.lookup symbol = some asset ∧
    meetsFilter lower filter asset.toAssetRow = true

/-- An asset that meets the filter whenever a page of the walk is taken. -/
def MatchesAtPages (symbol : String) (walk : ListWalk F) (action : WalkAction F) : Prop :=
  walk.finished = false -> action = .page -> Matches lower filter symbol walk.db

theorem named_catalogStep {db : Database F} (named : Named db) {action : CatalogAction}
    (actionNamed : forall row, row ∈ action.rows -> row.symbol ≠ "") :
    Named (catalogStep db action) := by
  intro symbol present
  rcases catalogStep_lookup db action symbol with same | ⟨row, member, here, -⟩
  · rw [same] at present
    exact named symbol present
  · rw [← here]
    exact actionNamed row member

/-- No asset is lost. -/
theorem lookup_step_ne_none (limit : Int) (walk : ListWalk F) (action : WalkAction F)
    {symbol : String} (present : walk.db.assets.lookup symbol ≠ none) :
    (walk.step collation lower filter limit action).db.assets.lookup symbol ≠ none := by
  cases action with
  | page =>
      unfold ListWalk.step
      by_cases finished : walk.finished = true
      · rw [if_pos finished]
        exact present
      · rw [if_neg finished]
        exact present
  | write action =>
      rcases Option.ne_none_iff_exists'.mp present with ⟨row, found⟩
      rcases addedAt_catalogStep walk.db action ⟨row, found, rfl⟩ with ⟨kept, keptFound, -⟩
      exact Option.ne_none_iff_exists'.mpr ⟨kept, keptFound⟩
  | poll feeds store => exact present

theorem named_step (limit : Int) {walk : ListWalk F} (named : Named walk.db)
    {action : WalkAction F} (actionNamed : action.Named) :
    Named (walk.step collation lower filter limit action).db := by
  cases action with
  | page =>
      unfold ListWalk.step
      by_cases finished : walk.finished = true
      · rw [if_pos finished]
        exact named
      · rw [if_neg finished]
        exact named
  | write action => exact named_catalogStep named actionNamed
  | poll feeds store => exact named

/-! ## What every step keeps -/

/-- The rows a walk has returned. -/
def ListWalk.returned (walk : ListWalk F) : List AssetWithStatusRow := walk.pages.flatten

/-- What holds between the steps of a walk. -/
structure WalkInv (limit : Int) (walk : ListWalk F) : Prop where
  named : Named walk.db
  isCursor : IsCursor walk.cursor
  running : walk.finished = false ->
    Keyset.Progress (symbolPosition collation) (clampedLimit limit)
      (walk.cursor.map collation.position) walk.pages
  ascending : Ascending (symbolPosition collation) walk.returned
  full : forall rows, rows ∈ walk.pages.dropLast -> rows.length = clampedLimit limit
  stored : forall row, row ∈ walk.returned -> walk.db.assets.lookup row.asset.symbol ≠ none

theorem walkInv_start (limit : Int) {db : Database F} (named : Named db) :
    WalkInv collation limit (ListWalk.start db) where
  named := named
  isCursor := by
    intro equal
    cases equal
  running := fun _ => Keyset.progress_start _ (clampedLimit limit)
  ascending := List.Pairwise.nil
  full := by
    intro rows member
    cases member
  stored := by
    intro row member
    cases member

/-- The page that a walk takes next. -/
theorem isPage_listWithStatus (limit : Int) {cursor : Option String} (isCursor : IsCursor cursor)
    (db : Database F) :
    Keyset.IsPage (symbolPosition collation) (clampedLimit limit)
      (cursor.map collation.position) (matchingAssets lower filter db)
      (listWithStatus collation lower filter cursor limit db).1
      ((listWithStatus collation lower filter cursor limit db).2.map collation.position) := by
  have equal := listWithStatus_eq_page collation lower filter isCursor limit db
  have isPage := Keyset.isPage_page (symbolPosition collation) (clampedLimit_pos limit)
    (nodup_matchingAssets collation lower filter db) (cursor.map collation.position)
  rw [← equal] at isPage
  exact isPage

omit [LinearOrder Position] in
/-- What meets the filter is stored. -/
theorem lookup_of_mem_matchingAssets {db : Database F} {row : AssetWithStatusRow}
    (member : row ∈ matchingAssets lower filter db) :
    db.assets.lookup row.asset.symbol ≠ none := by
  rcases List.mem_map.mp member with ⟨asset, filtered, rfl⟩
  have stored := List.mem_of_mem_filter filtered
  have found := (db.assets.mem_rows_iff_lookup asset).mp stored
  exact Option.ne_none_iff_exists'.mpr ⟨asset, found⟩

/-- The walk after a page. -/
def ListWalk.turned (walk : ListWalk F) (answer : List AssetWithStatusRow × Option String) :
    ListWalk F :=
  { walk with cursor := answer.2, pages := walk.pages ++ [answer.1], finished := answer.2.isNone }

theorem step_page_of_finished {limit : Int} {walk : ListWalk F} (finished : walk.finished = true) :
    walk.step collation lower filter limit .page = walk := if_pos finished

theorem step_page {limit : Int} {walk : ListWalk F} (unfinished : walk.finished = false) :
    walk.step collation lower filter limit .page =
      walk.turned (listWithStatus collation lower filter walk.cursor limit walk.db) := by
  unfold ListWalk.step
  rw [if_neg (by simp [unfinished])]
  rfl

theorem WalkInv.turned {limit : Int} {walk : ListWalk F} (inv : WalkInv collation limit walk)
    (unfinished : walk.finished = false) :
    WalkInv collation limit
      (walk.turned (listWithStatus collation lower filter walk.cursor limit walk.db)) := by
  have isPage := isPage_listWithStatus collation lower filter limit inv.isCursor walk.db
  have progress := inv.running unfinished
  generalize listWithStatus collation lower filter walk.cursor limit walk.db = answer at isPage
  have stored : forall row, row ∈ answer.1 -> walk.db.assets.lookup row.asset.symbol ≠ none := by
    intro row member
    exact lookup_of_mem_matchingAssets lower filter (isPage.stored row member).1
  exact
    { named := inv.named
      isCursor := by
        intro empty
        have cursor : answer.2 = some "" := empty
        rw [cursor] at isPage
        rcases (isPage.bounded _ rfl).2 with ⟨row, member, here⟩
        have symbol : row.asset.symbol = "" := collation.injective here
        exact inv.named _ (stored row member) symbol
      running := by
        intro more
        cases next : answer.2 with
        | none =>
            have finished : answer.2.isNone = false := more
            rw [next] at finished
            cases finished
        | some last =>
            rw [next] at isPage
            have moved := progress.step isPage
            simp only [ListWalk.turned, next]
            exact moved
      ascending := progress.ascending_append isPage
      full := by
        intro rows member
        simp only [ListWalk.turned, List.dropLast_concat] at member
        exact progress.full rows member
      stored := by
        intro row member
        simp only [ListWalk.returned, ListWalk.turned, List.flatten_append,
          List.flatten_singleton] at member
        rcases List.mem_append.mp member with before | new
        · exact inv.stored row before
        · exact stored row new }

theorem walkInv_step {limit : Int} {walk : ListWalk F} (inv : WalkInv collation limit walk)
    {action : WalkAction F} (actionNamed : action.Named) :
    WalkInv collation limit (walk.step collation lower filter limit action) := by
  have named := named_step collation lower filter limit inv.named actionNamed
  have kept : forall symbol, walk.db.assets.lookup symbol ≠ none ->
      (walk.step collation lower filter limit action).db.assets.lookup symbol ≠ none :=
    fun symbol => lookup_step_ne_none collation lower filter limit walk action
  cases action with
  | page =>
      cases finished : walk.finished with
      | true =>
          rw [step_page_of_finished collation lower filter finished]
          exact inv
      | false =>
          rw [step_page collation lower filter finished]
          exact inv.turned collation lower filter finished
  | write action =>
      exact
        { named := named
          isCursor := inv.isCursor
          running := inv.running
          ascending := inv.ascending
          full := inv.full
          stored := fun row member => kept _ (inv.stored row member) }
  | poll feeds store =>
      exact
        { named := named
          isCursor := inv.isCursor
          running := inv.running
          ascending := inv.ascending
          full := inv.full
          stored := fun row member => kept _ (inv.stored row member) }

/-! ## What is there all the time is returned -/

/-- The walk has not missed a symbol. -/
structure NotMissed (symbol : String) (walk : ListWalk F) : Prop where
  running : walk.finished = false ->
    Keyset.Covered (symbolPosition collation) (walk.cursor.map collation.position) walk.pages
      (collation.position symbol)
  finished : walk.finished = true -> exists row, row ∈ walk.returned ∧ row.asset.symbol = symbol

omit [LinearOrder Position] in
theorem mem_matchingAssets_of_matches {symbol : String} {db : Database F}
    (present : Matches lower filter symbol db) :
    exists row, row ∈ matchingAssets lower filter db ∧
      symbolPosition collation row = collation.position symbol := by
  rcases present with ⟨asset, found, meets⟩
  have stored := (db.assets.lookup_eq_some_iff symbol asset).mp found
  refine ⟨withStatus db asset, List.mem_map.mpr ⟨asset, ?_, rfl⟩, ?_⟩
  · exact List.mem_filter.mpr ⟨stored.1, meets⟩
  · exact congrArg collation.position stored.2

theorem notMissed_step {limit : Int} {symbol : String} {walk : ListWalk F}
    (inv : WalkInv collation limit walk) (notMissed : NotMissed collation symbol walk)
    {action : WalkAction F} (present : MatchesAtPages lower filter symbol walk action) :
    NotMissed collation symbol (walk.step collation lower filter limit action) := by
  cases action with
  | write action => exact ⟨notMissed.running, notMissed.finished⟩
  | poll feeds store => exact ⟨notMissed.running, notMissed.finished⟩
  | page =>
      cases finished : walk.finished with
      | true =>
          rw [step_page_of_finished collation lower filter finished]
          exact notMissed
      | false =>
          rw [step_page collation lower filter finished]
          have isPage := isPage_listWithStatus collation lower filter limit inv.isCursor walk.db
          have stored := mem_matchingAssets_of_matches collation lower filter (present finished rfl)
          have covered := notMissed.running finished
          generalize listWithStatus collation lower filter walk.cursor limit walk.db = answer at isPage
          constructor
          · intro more
            cases next : answer.2 with
            | none =>
                have done : answer.2.isNone = false := more
                rw [next] at done
                cases done
            | some last =>
                rw [next] at isPage
                simp only [ListWalk.turned, next]
                exact covered.step isPage stored
          · intro done
            have last : answer.2 = none := Option.isNone_iff_eq_none.mp done
            rw [last] at isPage
            rcases covered.finish isPage stored with ⟨row, member, here⟩
            exact ⟨row, member, collation.injective here⟩

/-! ## The walk ends -/

theorem nodup_returned {limit : Int} {walk : ListWalk F} (inv : WalkInv collation limit walk) :
    (walk.returned.map (fun row => row.asset.symbol)).Nodup := by
  have positions : (walk.returned.map (symbolPosition collation)).Nodup :=
    List.pairwise_map.mpr (inv.ascending.imp ne_of_lt)
  have symbols : walk.returned.map (symbolPosition collation) =
      (walk.returned.map (fun row => row.asset.symbol)).map collation.position := by
    rw [List.map_map]
    rfl
  rw [symbols] at positions
  exact positions.of_map

/-- A walk that has not ended has not returned more pages than there are
assets. -/
theorem pages_le_assets {limit : Int} {walk : ListWalk F} (inv : WalkInv collation limit walk)
    (unfinished : walk.finished = false) : walk.pages.length ≤ walk.db.assets.rows.length := by
  have stored : walk.returned.map (fun row => row.asset.symbol) ⊆
      walk.db.assets.rows.map (fun asset => asset.symbol) := by
    intro symbol member
    rcases List.mem_map.mp member with ⟨row, returned, rfl⟩
    rcases Option.ne_none_iff_exists'.mp (inv.stored row returned) with ⟨asset, found⟩
    exact List.mem_map.mpr ⟨asset, (walk.db.assets.lookup_eq_some_iff _ asset).mp found⟩
  have fewer := (List.subperm_of_subset (nodup_returned collation inv) stored).length_le
  rw [List.length_map, List.length_map] at fewer
  have filled : walk.returned.length = walk.pages.length * clampedLimit limit :=
    (inv.running unfinished).length
  calc walk.pages.length ≤ walk.pages.length * clampedLimit limit :=
        Nat.le_mul_of_pos_right _ (clampedLimit_pos limit)
    _ = walk.returned.length := filled.symm
    _ ≤ walk.db.assets.rows.length := fewer

/-- The walk has ended or returned so many pages. -/
def HasTaken (count : Nat) (walk : ListWalk F) : Prop :=
  walk.finished = true ∨ count ≤ walk.pages.length

theorem hasTaken_step {limit : Int} {count : Nat} {walk : ListWalk F} (taken : HasTaken count walk)
    (action : WalkAction F) : HasTaken count (walk.step collation lower filter limit action) := by
  cases action with
  | write action => exact taken
  | poll feeds store => exact taken
  | page =>
      cases finished : walk.finished with
      | true =>
          rw [step_page_of_finished collation lower filter finished]
          exact Or.inl finished
      | false =>
          rw [step_page collation lower filter finished]
          rcases taken with done | pages
          · rw [finished] at done
            cases done
          · right
            simp only [ListWalk.turned, List.length_append, List.length_singleton]
            omega

theorem hasTaken_page {limit : Int} {count : Nat} {walk : ListWalk F} (taken : HasTaken count walk) :
    HasTaken (count + 1) (walk.step collation lower filter limit .page) := by
  cases finished : walk.finished with
  | true =>
      rw [step_page_of_finished collation lower filter finished]
      exact Or.inl finished
  | false =>
      rw [step_page collation lower filter finished]
      rcases taken with done | pages
      · rw [finished] at done
        cases done
      · right
        simp only [ListWalk.turned, List.length_append, List.length_singleton]
        omega

/-- The first actions of a schedule. -/
def scheduled (schedule : Nat -> WalkAction F) (count : Nat) : List (WalkAction F) :=
  (List.range count).map schedule

/-- The walk after the first actions of a schedule. -/
def ListWalk.after (limit : Int) (db : Database F) (schedule : Nat -> WalkAction F) (count : Nat) :
    ListWalk F :=
  run (ListWalk.step collation lower filter limit) (ListWalk.start db) (scheduled schedule count)

theorem after_succ (limit : Int) (db : Database F) (schedule : Nat -> WalkAction F) (count : Nat) :
    ListWalk.after collation lower filter limit db schedule (count + 1) =
      (ListWalk.after collation lower filter limit db schedule count).step collation lower filter
        limit (schedule count) := by
  rw [ListWalk.after, scheduled, List.range_succ, List.map_append, run_append]
  rfl

theorem hasTaken_of_le {limit : Int} {db : Database F} {schedule : Nat -> WalkAction F}
    {pages count later : Nat} (order : count ≤ later)
    (taken : HasTaken pages (ListWalk.after collation lower filter limit db schedule count)) :
    HasTaken pages (ListWalk.after collation lower filter limit db schedule later) := by
  induction order with
  | refl => exact taken
  | step _ ih =>
      rw [after_succ]
      exact hasTaken_step collation lower filter ih _

/-- A client that goes on takes as many pages as there are. -/
theorem exists_hasTaken (limit : Int) (db : Database F) {schedule : Nat -> WalkAction F}
    (goesOn : forall count, exists later, count ≤ later ∧ schedule later = .page) (pages : Nat) :
    exists count, HasTaken pages (ListWalk.after collation lower filter limit db schedule count) := by
  induction pages with
  | zero => exact ⟨0, Or.inr (Nat.zero_le _)⟩
  | succ pages ih =>
      rcases ih with ⟨count, taken⟩
      rcases goesOn count with ⟨later, order, isPage⟩
      refine ⟨later + 1, ?_⟩
      rw [after_succ, isPage]
      exact hasTaken_page collation lower filter
        (hasTaken_of_le collation lower filter order taken)

theorem along_scheduled {limit : Int} {db : Database F} {schedule : Nat -> WalkAction F}
    (named : forall count, (schedule count).Named) (count : Nat) :
    Along (ListWalk.step collation lower filter limit) (fun _ action => action.Named)
      (ListWalk.start db) (scheduled schedule count) := by
  have each : forall action, action ∈ scheduled schedule count -> action.Named := by
    intro action member
    rcases List.mem_map.mp member with ⟨index, _, rfl⟩
    exact named index
  generalize scheduled schedule count = actions at each
  generalize ListWalk.start db = walk
  induction actions generalizing walk with
  | nil => trivial
  | cons action rest ih =>
      refine ⟨each action List.mem_cons_self, ?_⟩
      exact ih (fun other member => each other (List.mem_cons_of_mem _ member)) _

theorem walkInv_run (limit : Int) {db : Database F} (named : Named db)
    {actions : List (WalkAction F)}
    (along : Along (ListWalk.step collation lower filter limit) (fun _ action => action.Named)
      (ListWalk.start db) actions) :
    WalkInv collation limit
      (run (ListWalk.step collation lower filter limit) (ListWalk.start db) actions) := by
  have kept : forall (walk : ListWalk F) action, WalkInv collation limit walk -> action.Named ->
      WalkInv collation limit (walk.step collation lower filter limit action) :=
    fun _ _ inv actionNamed => walkInv_step collation lower filter inv actionNamed
  exact invariant_run _ kept (walkInv_start collation limit named) along

theorem exists_finished {limit : Int} {db : Database F} (named : Named db)
    {schedule : Nat -> WalkAction F} (actionsNamed : forall count, (schedule count).Named)
    (goesOn : forall count, exists later, count ≤ later ∧ schedule later = .page) {bound : Nat}
    (bounded : forall count, (ListWalk.after collation lower filter limit db schedule
      count).db.assets.rows.length ≤ bound) :
    exists count,
      (ListWalk.after collation lower filter limit db schedule count).finished = true := by
  rcases exists_hasTaken collation lower filter limit db goesOn (bound + 1) with
    ⟨count, finished | pages⟩
  · exact ⟨count, finished⟩
  · refine ⟨count, ?_⟩
    by_contra unfinished
    have inv := walkInv_run collation lower filter limit named
      (along_scheduled collation lower filter actionsNamed count)
    have fewer := pages_le_assets collation inv (eq_false_of_ne_true unfinished)
    have few := bounded count
    unfold ListWalk.after at few pages
    omega

/-! ## The walk is exact -/

/-- What a walk has returned is in strictly ascending order, so that nothing
is returned twice; every page but the last is full; and once the walk has
ended, every asset that met the filter at all pages is returned once. -/
structure WalkExact (limit : Int) (walk : ListWalk F) : Prop where
  ascending : walk.returned.Pairwise (fun first second =>
    collation.position first.asset.symbol < collation.position second.asset.symbol)
  nodup : (walk.returned.map (fun row => row.asset.symbol)).Nodup
  full : forall rows, rows ∈ walk.pages.dropLast -> rows.length = clampedLimit limit
  running : walk.finished = false -> forall rows, rows ∈ walk.pages ->
    rows.length = clampedLimit limit

/-- Pagination is exact over a growing catalog, and ends unless the catalog
grows for ever. -/
theorem pagination_exact (limit : Int) {db : Database F} (named : Named db) :
    (forall actions,
      Along (ListWalk.step collation lower filter limit) (fun _ action => action.Named)
        (ListWalk.start db) actions ->
      let walk := run (ListWalk.step collation lower filter limit) (ListWalk.start db) actions
      WalkExact collation limit walk ∧
        (walk.finished = true -> forall symbol,
          Along (ListWalk.step collation lower filter limit) (MatchesAtPages lower filter symbol)
            (ListWalk.start db) actions ->
          (walk.returned.map (fun row => row.asset.symbol)).count symbol = 1)) ∧
    forall schedule : Nat -> WalkAction F, (forall count, (schedule count).Named) ->
      (forall count, exists later, count ≤ later ∧ schedule later = .page) ->
      (exists bound, forall count, (ListWalk.after collation lower filter limit db schedule
        count).db.assets.rows.length ≤ bound) ->
      exists count,
        (ListWalk.after collation lower filter limit db schedule count).finished = true := by
  constructor
  · intro actions along walk
    have inv := walkInv_run collation lower filter limit named along
    have nodup := nodup_returned collation inv
    constructor
    · exact
        { ascending := inv.ascending
          nodup := nodup
          full := inv.full
          running := fun unfinished => (inv.running unfinished).full }
    · intro finished symbol present
      have start : NotMissed collation symbol (ListWalk.start db) :=
        ⟨fun _ => Keyset.covered_start _ _, fun impossible => Bool.noConfusion impossible⟩
      have kept : forall (walk : ListWalk F) action,
          WalkInv collation limit walk ∧ NotMissed collation symbol walk ->
          action.Named ∧ MatchesAtPages lower filter symbol walk action ->
          WalkInv collation limit (walk.step collation lower filter limit action) ∧
            NotMissed collation symbol (walk.step collation lower filter limit action) :=
        fun _ _ both condition =>
          ⟨walkInv_step collation lower filter both.1 condition.1,
            notMissed_step collation lower filter both.1 both.2 condition.2⟩
      have both := invariant_run _ kept ⟨walkInv_start collation limit named, start⟩
        (along.and _ present)
      rcases both.2.finished finished with ⟨row, returned, rfl⟩
      exact List.count_eq_one_of_mem nodup (List.mem_map_of_mem returned)
  · intro schedule actionsNamed goesOn bounded
    rcases bounded with ⟨bound, bounded⟩
    exact exists_finished collation lower filter named actionsNamed goesOn bounded

/-- An asset of the catalog file. -/
def fileAsset (symbol : String) : AssetRow where
  symbol := symbol
  storageSymbol := symbol
  name := symbol
  exchange := "NYSE"
  currency := "USD"
  assetClass := "EQUITY"
  assetSubclass := none
  isin := none
  country := none
  addedAt := 0

/-- The order of code points. -/
def codePointOrder : Collation String := ⟨id, fun _ _ => id⟩

/-- Between two pages one asset is inserted before the cursor and one after
it. -/
def crossingWalk : List (WalkAction Rat) :=
  [.page, .write (.sync 200 true [fileAsset "NYSE:B", fileAsset "NYSE:D"]), .page]

/-- The three assets that were there are returned once. -/
theorem pagination_exact_crossing :
    let db : Database Rat := catalogStep Database.empty
      (.sync 100 true [fileAsset "NYSE:A", fileAsset "NYSE:C", fileAsset "NYSE:E"])
    let walk := run (ListWalk.step codePointOrder ⟨id, id⟩ ⟨none, none, none⟩ 2) (ListWalk.start db)
      crossingWalk
    walk.finished = true ∧
      walk.returned.map (fun row => row.asset.symbol) = ["NYSE:A", "NYSE:C", "NYSE:D", "NYSE:E"] ∧
      (walk.returned.map (fun row => row.asset.symbol)).count "NYSE:E" = 1 := by
  intro db walk
  have finished : walk.finished = true := by decide +kernel
  have named : Named db := by
    apply named_catalogStep
    · intro symbol absent
      exact absurd rfl absent
    · decide
  have along : Along (ListWalk.step codePointOrder ⟨id, id⟩ ⟨none, none, none⟩ 2)
      (fun _ action => action.Named) (ListWalk.start db) crossingWalk := by
    refine ⟨trivial, ?_, trivial, trivial⟩
    change forall row, row ∈ [fileAsset "NYSE:B", fileAsset "NYSE:D"] -> row.symbol ≠ ""
    decide
  refine ⟨finished, by decide +kernel, ?_⟩
  have exact_walk := (pagination_exact codePointOrder ⟨id, id⟩ ⟨none, none, none⟩ 2 named).1 crossingWalk
    along
  apply exact_walk.2 finished
  refine ⟨fun _ _ => ⟨_, rfl, rfl⟩, ?_, fun _ _ => ⟨_, rfl, rfl⟩, trivial⟩
  intro _ impossible
  cases impossible

end HybridDataSvc
