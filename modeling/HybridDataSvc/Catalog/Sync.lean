import HybridDataSvc.Catalog.Onboarding
import HybridDataSvc.Transition.Runs

namespace HybridDataSvc

open Relational AssetsRepo AssetServiceServicer Transition

/-!
# The catalog only grows

Two operations insert assets: `upsert_many`, with which every start of the
server replays the catalog file, and `create_with_feeds`.  The first rewrites
an asset it finds, except for the time the asset was added; the second leaves
it alone.  No operation deletes.
-/

variable {F : Type}

namespace AssetsRepo

/-- The `DO UPDATE SET` of `upsert_many`: every column but the key and
`added_at`. -/
def refresh (old new : AssetRecord) : AssetRecord :=
  { new with symbol := old.symbol, addedAt := old.addedAt }

theorem refresh_key (old new : AssetRecord) : (refresh old new).key = old.key := rfl

/-- A row of the payload of `upsert_many`. -/
def payloadRow (now : Int) (row : AssetRow) : AssetRecord :=
  { row with addedAt := now, updatedAt := now }

/-- `executemany` of the insert of `upsert_many`. -/
def upsertAssets (assets : Table AssetRecord.key) (payload : List AssetRecord) :
    Table AssetRecord.key :=
  payload.foldl (fun table row => table.merge refresh row) assets

/-- `upsert_many`, with the number of rows: a transaction that may fail as a
whole, and none when there is nothing to write. -/
def upsertMany (now : Int) (commits : Bool) (rows : List AssetRow) (db : Database F) :
    Except PyError Nat × Database F :=
  let payload := rows.map (payloadRow now)
  if payload.isEmpty then (.ok 0, db)
  else if commits then
    (.ok payload.length, { db with assets := upsertAssets db.assets payload })
  else (.error .databaseError, db)

/-- What a batch of rows of one time leaves under a symbol: the last row, with
the time the symbol was added. -/
theorem lookup_upsertAssets (now : Int) (payload : List AssetRecord)
    (fresh : forall row, row ∈ payload -> row.addedAt = now) (assets : Table AssetRecord.key)
    (symbol : String) :
    (upsertAssets assets payload).lookup symbol =
      match Table.lastUnder AssetRecord.key payload symbol with
      | none => assets.lookup symbol
      | some row =>
        some { row with
          addedAt := ((assets.lookup symbol).map (fun old => old.addedAt)).getD now } := by
  induction payload generalizing assets with
  | nil => rfl
  | cons row rest ih =>
      have later := ih (fun other member => fresh other (List.mem_cons_of_mem _ member))
        (assets.merge refresh row)
      have freshRow := fresh row List.mem_cons_self
      have unfolded : (upsertAssets assets (row :: rest)).lookup symbol =
          (upsertAssets (assets.merge refresh row) rest).lookup symbol := rfl
      have split : Table.lastUnder AssetRecord.key (row :: rest) symbol =
          (Table.lastUnder AssetRecord.key rest symbol).or
            (Table.lastUnder AssetRecord.key [row] symbol) :=
        Table.lastUnder_append [row] rest symbol
      rw [unfolded, later, split, Table.lookup_merge assets refresh_key]
      by_cases here : symbol = row.key
      · have last : Table.lastUnder AssetRecord.key [row] symbol = some row := by
          simp [Table.lastUnder, here]
        rw [last, if_pos here]
        cases Table.lastUnder AssetRecord.key rest symbol with
        | some other => cases assets.lookup symbol <;> simp [freshRow, refresh]
        | none =>
            cases found : assets.lookup symbol with
            | none => simp [freshRow.symm]
            | some old =>
                have sameSymbol : old.symbol = row.symbol := (Table.key_of_lookup found).trans here
                simp [refresh, sameSymbol]
      · have last : Table.lastUnder AssetRecord.key [row] symbol = none := by
          simp [Table.lastUnder, Ne.symm here]
        rw [last, if_neg here, Option.or_none]

/-- `upsert_many` on the asset of a symbol: the last of the rows that have it,
with the time the symbol was added. -/
theorem lookup_upsertMany (now : Int) (rows : List AssetRow) (db : Database F) (symbol : String) :
    (upsertMany now true rows db).2.assets.lookup symbol =
      match Table.lastUnder AssetRecord.key (rows.map (payloadRow now)) symbol with
      | none => db.assets.lookup symbol
      | some row =>
        some { row with
          addedAt := ((db.assets.lookup symbol).map (fun old => old.addedAt)).getD now } := by
  have fresh : forall row, row ∈ rows.map (payloadRow now) -> row.addedAt = now := by
    intro row member
    rcases List.mem_map.mp member with ⟨source, _, rfl⟩
    rfl
  cases rows with
  | nil => rfl
  | cons row rest => exact lookup_upsertAssets now _ fresh db.assets symbol

/-- `upsert_many` leaves everything but the assets. -/
theorem upsertMany_frame (now : Int) (commits : Bool) (rows : List AssetRow) (db : Database F) :
    (upsertMany now commits rows db).2.feeds = db.feeds ∧
      (upsertMany now commits rows db).2.store = db.store := by
  unfold upsertMany
  cases rows with
  | nil => exact ⟨rfl, rfl⟩
  | cons row rest =>
      cases commits with
      | true => exact ⟨rfl, rfl⟩
      | false => exact ⟨rfl, rfl⟩

theorem upsertMany_of_not_commits (now : Int) (rows : List AssetRow) (db : Database F) :
    (upsertMany now false rows db).2 = db := by
  cases rows with
  | nil => rfl
  | cons row rest => rfl

/-- `create_with_feeds` on a symbol that is there. -/
theorem createWithFeeds_of_present (now : Int) (commits : Bool) {asset : AssetRow}
    (timeframes : List String) (tvSymbol : String) {db : Database F} {existing : AssetRecord}
    (present : db.assets.lookup asset.symbol = some existing) :
    (createWithFeeds now commits asset timeframes tvSymbol db).2 = db ∧
      (commits = true ->
        (createWithFeeds now commits asset timeframes tvSymbol db).1 =
          .ok (existing.toAssetRow, false)) := by
  cases commits with
  | false => exact ⟨rfl, by simp⟩
  | true => simp [createWithFeeds, present]

/-- `create_with_feeds` on a symbol that is not there. -/
theorem lookup_createWithFeeds_of_absent (now : Int) {asset : AssetRow} (timeframes : List String)
    (tvSymbol : String) {db : Database F} (absent : db.assets.lookup asset.symbol = none)
    (symbol : String) :
    (createWithFeeds now true asset timeframes tvSymbol db).2.assets.lookup symbol =
      (db.assets.lookup symbol).or
        (if asset.symbol = symbol then some { asset with addedAt := now, updatedAt := now }
         else none) := by
  simp only [createWithFeeds, if_true, absent]
  rw [Table.lookup_insertNew]
  rfl

/-- A create that answers with an existing asset has found it. -/
theorem present_of_createWithFeeds {now : Int} {commits : Bool} {asset existing : AssetRow}
    {timeframes : List String} {tvSymbol : String} {db : Database F}
    (answered : (createWithFeeds now commits asset timeframes tvSymbol db).1 =
      .ok (existing, false)) :
    (exists record, db.assets.lookup existing.symbol = some record) ∧
      (createWithFeeds now commits asset timeframes tvSymbol db).2 = db := by
  cases commits with
  | false => simp [createWithFeeds] at answered
  | true =>
      cases found : db.assets.lookup asset.symbol with
      | none => simp [createWithFeeds, found] at answered
      | some record =>
          have spec := createWithFeeds_of_present now true timeframes tvSymbol found
          have same : record.toAssetRow = existing :=
            congrArg Prod.fst (Except.ok.inj ((spec.2 rfl).symm.trans answered))
          have key : record.key = asset.symbol := Table.key_of_lookup found
          have symbol : existing.symbol = asset.symbol := by
            rw [← same]
            exact key
          refine ⟨⟨record, ?_⟩, spec.1⟩
          rw [symbol]
          exact found

theorem getWithStatus_ne_none {db : Database F} {symbol : String} {record : AssetRecord}
    (found : db.assets.lookup symbol = some record) : getWithStatus db symbol ≠ none := by
  rw [getWithStatus, found]
  exact Option.some_ne_none _

end AssetsRepo

/-- The branch of `CreateAsset` for an asset that vanished is not taken. -/
theorem createAsset_ne_inconsistent (env : CreateEnv) (request : CreateAssetRequest)
    (db : Database F) :
    (createAsset env request db).1 ≠ .error (.internal "inconsistent catalog state") := by
  unfold createAsset
  cases validationError request.asset with
  | some details => simp
  | none =>
      cases answer : createWithFeeds env.now env.commits (requestedAsset request.asset)
          (requestedTimeframes request) (requestedTvSymbol request) db with
      | mk result after =>
          cases result with
          | error raised => simp
          | ok pair =>
              cases pair with
              | mk asset created =>
                  cases created with
                  | true => simp
                  | false =>
                      have present := present_of_createWithFeeds (congrArg Prod.fst answer)
                      have unchanged : after = db := by
                        rw [← present.2, answer]
                      rcases present.1 with ⟨record, found⟩
                      rw [← unchanged] at found
                      rcases Option.ne_none_iff_exists'.mp (getWithStatus_ne_none found) with
                        ⟨row, read⟩
                      simp [read]

/-! ## Runs of the two operations -/

/-- A call of one of the two operations, with the clock and whether its
transaction commits. -/
inductive CatalogAction
  | sync (now : Int) (commits : Bool) (rows : List AssetRow)
  | create (now : Int) (commits : Bool) (asset : AssetRow) (timeframes : List String)
      (tvSymbol : String)

/-- The clock an operation reads. -/
def CatalogAction.now : CatalogAction -> Int
  | .sync now _ _ => now
  | .create now _ _ _ _ => now

/-- The database after an operation. -/
def catalogStep (db : Database F) : CatalogAction -> Database F
  | .sync now commits rows => (upsertMany now commits rows db).2
  | .create now commits asset timeframes tvSymbol =>
    (createWithFeeds now commits asset timeframes tvSymbol db).2

/-- The assets an operation may write. -/
def CatalogAction.rows : CatalogAction -> List AssetRow
  | .sync _ _ rows => rows
  | .create _ _ asset _ _ => [asset]

/-- What an operation does under a symbol: nothing, or it writes one of its
rows, with the time of the asset that is there or else its own. -/
theorem catalogStep_lookup (db : Database F) (action : CatalogAction) (symbol : String) :
    (catalogStep db action).assets.lookup symbol = db.assets.lookup symbol ∨
      exists row, row ∈ action.rows ∧ row.symbol = symbol ∧
        (catalogStep db action).assets.lookup symbol = some
          { row with
            addedAt := ((db.assets.lookup symbol).map (fun old => old.addedAt)).getD action.now
            updatedAt := action.now } := by
  cases action with
  | sync now commits rows =>
      cases commits with
      | false => exact Or.inl (by rw [catalogStep, upsertMany_of_not_commits])
      | true =>
          rw [catalogStep, lookup_upsertMany]
          cases last : Table.lastUnder AssetRecord.key (rows.map (payloadRow now)) symbol with
          | none => exact Or.inl rfl
          | some record =>
              have spec := Table.mem_of_lastUnder last
              rcases List.mem_map.mp spec.1 with ⟨row, member, rfl⟩
              exact Or.inr ⟨row, member, spec.2, rfl⟩
  | create now commits asset timeframes tvSymbol =>
      cases found : db.assets.lookup asset.symbol with
      | some existing =>
          rw [catalogStep, (createWithFeeds_of_present now commits timeframes tvSymbol found).1]
          exact Or.inl rfl
      | none =>
          cases commits with
          | false => exact Or.inl rfl
          | true =>
              rw [catalogStep, lookup_createWithFeeds_of_absent now timeframes tvSymbol found]
              by_cases here : asset.symbol = symbol
              · subst here
                rw [found, if_pos rfl]
                exact Or.inr ⟨asset, List.mem_singleton_self asset, rfl, rfl⟩
              · rw [if_neg here, Option.or_none]
                exact Or.inl rfl

/-- The asset stays, with the time it was added. -/
def AddedAt (symbol : String) (addedAt : Int) (db : Database F) : Prop :=
  exists row, db.assets.lookup symbol = some row ∧ row.addedAt = addedAt

theorem addedAt_catalogStep {symbol : String} {addedAt : Int} (db : Database F)
    (action : CatalogAction) (added : AddedAt symbol addedAt db) :
    AddedAt symbol addedAt (catalogStep db action) := by
  rcases added with ⟨row, found, time⟩
  rcases catalogStep_lookup db action symbol with same | ⟨source, -, -, written⟩
  · exact ⟨row, same.trans found, time⟩
  · rw [found, Option.map_some, Option.getD_some] at written
    exact ⟨_, written, time⟩

/-- Repeating `upsert_many` with the same rows. -/
theorem upsertMany_again (now again : Int) (commits : Bool) (rows : List AssetRow)
    (db : Database F) (symbol : String) :
    ((upsertMany again commits rows (upsertMany now true rows db).2).2.assets.lookup symbol).map
        AssetRecord.toAssetRow =
      ((upsertMany now true rows db).2.assets.lookup symbol).map AssetRecord.toAssetRow := by
  cases commits with
  | false => rw [upsertMany_of_not_commits]
  | true =>
      have payloads : Table.lastUnder AssetRecord.key (rows.map (payloadRow again)) symbol =
          (Table.lastUnder AssetRecord.key (rows.map (payloadRow now)) symbol).map
            (fun row => { row with addedAt := again, updatedAt := again }) := by
        simp only [Table.lastUnder, ← List.map_reverse, List.find?_map, Option.map_map]
        rfl
      rw [lookup_upsertMany again, payloads, lookup_upsertMany now]
      cases Table.lastUnder AssetRecord.key (rows.map (payloadRow now)) symbol with
      | none => rfl
      | some row => rfl

/-- The catalog only grows: over every run, assets stay with the time they
were added, a create leaves an asset that is there alone and returns it, a
repeated sync changes nothing but `updated_at`, and the asset that a create
has found is still there when it is read back. -/
theorem catalog_only_grows (db : Database F) (actions : List CatalogAction) :
    let reached := run catalogStep db actions
    (forall later symbol row, reached.assets.lookup symbol = some row ->
      exists kept, (run catalogStep reached later).assets.lookup symbol = some kept ∧
        kept.addedAt = row.addedAt) ∧
    (forall action symbol row, reached.assets.lookup symbol = none ->
      (catalogStep reached action).assets.lookup symbol = some row -> row.addedAt = action.now) ∧
    (forall now commits asset timeframes tvSymbol existing,
      reached.assets.lookup asset.symbol = some existing ->
      (createWithFeeds now commits asset timeframes tvSymbol reached).2 = reached ∧
        (commits = true -> (createWithFeeds now commits asset timeframes tvSymbol reached).1 =
          .ok (existing.toAssetRow, false))) ∧
    (forall now again commits rows,
      let once := (upsertMany now true rows reached).2
      let twice := (upsertMany again commits rows once).2
      twice.feeds = once.feeds ∧ twice.store = once.store ∧
        forall symbol, (twice.assets.lookup symbol).map AssetRecord.toAssetRow =
          (once.assets.lookup symbol).map AssetRecord.toAssetRow) ∧
    (forall now commits asset timeframes tvSymbol existing between,
      (createWithFeeds now commits asset timeframes tvSymbol reached).1 = .ok (existing, false) ->
      getWithStatus
        (run catalogStep (createWithFeeds now commits asset timeframes tvSymbol reached).2 between)
        existing.symbol ≠ none) ∧
    forall env request,
      (createAsset env request reached).1 ≠ .error (.internal "inconsistent catalog state") := by
  intro reached
  refine ⟨?stays, ?first, ?present, ?again, ?reread, ?branch⟩
  case stays =>
    intro later symbol row found
    have added : AddedAt symbol row.addedAt reached := ⟨row, found, rfl⟩
    exact invariant_run_always catalogStep addedAt_catalogStep added later
  case first =>
    intro action symbol row absent found
    rcases catalogStep_lookup reached action symbol with same | ⟨source, -, -, written⟩
    · rw [same, absent] at found
      cases found
    · rw [absent, Option.map_none, Option.getD_none] at written
      rw [Option.some_inj.mp (found.symm.trans written)]
  case present =>
    intro now commits asset timeframes tvSymbol existing found
    exact createWithFeeds_of_present now commits timeframes tvSymbol found
  case again =>
    intro now again commits rows once twice
    have frame := upsertMany_frame again commits rows once
    exact ⟨frame.1, frame.2, upsertMany_again now again commits rows reached⟩
  case reread =>
    intro now commits asset timeframes tvSymbol existing between answered
    have present := present_of_createWithFeeds answered
    rcases present.1 with ⟨record, found⟩
    rw [present.2]
    have added : AddedAt existing.symbol record.addedAt reached := ⟨record, found, rfl⟩
    rcases invariant_run_always catalogStep addedAt_catalogStep added between with ⟨kept, keptFound, -⟩
    exact getWithStatus_ne_none keptFound
  case branch =>
    intro env request
    exact createAsset_ne_inconsistent env request reached

end HybridDataSvc
