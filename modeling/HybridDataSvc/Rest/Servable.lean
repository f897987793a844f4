import HybridDataSvc.Catalog.AssetsFile
import HybridDataSvc.Catalog.Pagination
import HybridDataSvc.Rest.CatalogRoutes
import Mathlib.Data.List.TakeDrop
import Mathlib.Data.List.TakeWhile

namespace HybridDataSvc

open Relational Series Transition AssetsRepo AssetServiceServicer

/-!
# What the REST surface can serve

The response models and the parameters of the routes constrain the symbol, the
currency, the ISIN and the country of an asset.  `Presentable` collects the
constraints.  Neither the loader of the catalog file nor `CreateAsset` checks
them all, and one asset that is not presentable fails every page it is on.
-/

variable {F : Type}

/-- An asset that every route can serve. -/
structure Presentable (asset : AssetRow) : Prop where
  symbol : isTvIdentifier asset.symbol.toList = true
  short : asset.symbol.length ≤ 32
  assetClass : asset.assetClass ∈ validAssetClasses
  currency : asset.currency.length = 3
  isin : forall isin, asset.isin = some isin -> isin = "" ∨ isin.length = 12
  country : forall country, asset.country = some country -> country = "" ∨ country.length = 2

/-- The body shows an asset; empty texts are left out. -/
structure AssetModel.Shows (model : AssetModel) (asset : AssetRow) : Prop where
  symbol : model.symbol = asset.symbol
  name : model.name = asset.name
  exchange : model.exchange = asset.exchange
  currency : model.currency = asset.currency
  assetClass : model.assetClass.value = asset.assetClass
  assetSubClass : model.assetSubClass = orNone (asset.assetSubclass.getD "")
  isin : model.isin = orNone (asset.isin.getD "")
  country : model.country = orNone (asset.country.getD "")

/-! ## The response models -/

theorem optionalLength_iff (length : Nat) (text : Option String) :
    optionalLength length (orNone (text.getD "")) = true ↔
      forall value, text = some value -> value = "" ∨ value.length = length := by
  cases text with
  | none => simp [orNone, optionalLength]
  | some value =>
      by_cases empty : value = ""
      · simp [orNone, optionalLength, empty]
      · simp [orNone, optionalLength, empty, constrLength]

theorem ofText_eq_some_iff (text : String) (assetClass : AssetClass) :
    AssetClass.ofText text = some assetClass ↔ assetClass.value = text := by
  constructor
  · intro found
    rw [AssetClass.ofText] at found
    have holds := List.find?_some found
    exact of_decide_eq_true holds
  · rintro rfl
    cases assetClass <;> rfl

theorem exists_ofText_iff (text : String) :
    (exists assetClass, AssetClass.ofText text = some assetClass) ↔ text ∈ validAssetClasses := by
  simp only [ofText_eq_some_iff]
  constructor
  · rintro ⟨assetClass, rfl⟩
    cases assetClass <;> decide
  · intro valid
    simp only [validAssetClasses, List.mem_cons, List.not_mem_nil, or_false] at valid
    rcases valid with rfl | rfl | rfl | rfl
    · exact ⟨.crypto, rfl⟩
    · exact ⟨.equity, rfl⟩
    · exact ⟨.etf, rfl⟩
    · exact ⟨.fund, rfl⟩

/-- The row of the client for a stored asset. -/
def clientRow (asset : AssetRow) : ClientAssetRow :=
  BarServiceClient.assetMessageToRow (rowToAssetMessage asset)

/-- The model takes an asset exactly when its constraints are met. -/
theorem rowToAssetModel_clientRow (asset : AssetRow) :
    (exists model, rowToAssetModel (clientRow asset) = some model) ↔
      asset.assetClass ∈ validAssetClasses ∧ asset.currency.length = 3 ∧
        (forall isin, asset.isin = some isin -> isin = "" ∨ isin.length = 12) ∧
        forall country, asset.country = some country -> country = "" ∨ country.length = 2 := by
  rw [← optionalLength_iff 12 asset.isin, ← optionalLength_iff 2 asset.country,
    ← exists_ofText_iff]
  have classEq : (clientRow asset).assetClass = asset.assetClass := rfl
  have checks : (constrLength 3 (clientRow asset).currency &&
      optionalLength 12 (clientRow asset).isin && optionalLength 2 (clientRow asset).country) = true ↔
      asset.currency.length = 3 ∧ optionalLength 12 (orNone (asset.isin.getD "")) = true ∧
        optionalLength 2 (orNone (asset.country.getD "")) = true := by
    rw [Bool.and_eq_true, Bool.and_eq_true, and_assoc, constrLength, decide_eq_true_iff]
    rfl
  rw [← checks]
  unfold rowToAssetModel
  rw [classEq]
  cases AssetClass.ofText asset.assetClass with
  | none => simp
  | some assetClass =>
      by_cases met : (constrLength 3 (clientRow asset).currency &&
        optionalLength 12 (clientRow asset).isin && optionalLength 2 (clientRow asset).country) = true
      · simp [met]
      · simp [met]

theorem shows_of_rowToAssetModel {asset : AssetRow} {model : AssetModel}
    (made : rowToAssetModel (clientRow asset) = some model) : model.Shows asset := by
  have classEq : (clientRow asset).assetClass = asset.assetClass := rfl
  unfold rowToAssetModel at made
  rw [classEq] at made
  cases member : AssetClass.ofText asset.assetClass with
  | none =>
      rw [member] at made
      cases made
  | some assetClass =>
      rw [member] at made
      simp only [Option.ite_none_right_eq_some, Option.some.injEq] at made
      rcases made with ⟨-, rfl⟩
      exact
        { symbol := rfl
          name := rfl
          exchange := rfl
          currency := rfl
          assetClass := (ofText_eq_some_iff _ _).mp member
          assetSubClass := rfl
          isin := rfl
          country := rfl }

/-! ## The path parameter -/

/-- An exchange, a colon, and characters of a class. -/
def colonPattern (rest : Char -> Bool) (text : List Char) : Bool :=
  match text.span isExchangeChar with
  | (exchange, ':' :: symbol) => !exchange.isEmpty && !symbol.isEmpty && symbol.all rest
  | _ => false

theorem isTvIdentifier_eq (text : List Char) :
    isTvIdentifier text = colonPattern isSymbolChar text := rfl

theorem matchesPathPattern_eq (symbol : String) :
    Rest.matchesPathPattern symbol = colonPattern Rest.isPathChar symbol.toList := rfl

/-- The texts of a pattern. -/
theorem colonPattern_iff (rest : Char -> Bool) (text : List Char) :
    colonPattern rest text = true ↔ exists exchange symbol, text = exchange ++ ':' :: symbol ∧
      exchange ≠ [] ∧ symbol ≠ [] ∧ (forall c, c ∈ exchange -> isExchangeChar c = true) ∧
      forall c, c ∈ symbol -> rest c = true := by
  rw [colonPattern, List.span_eq_takeWhile_dropWhile]
  constructor
  · intro matched
    cases after : text.dropWhile isExchangeChar with
    | nil =>
        rw [after] at matched
        cases matched
    | cons c symbol =>
        rw [after] at matched
        by_cases colon : c = ':'
        · subst colon
          simp only [Bool.and_eq_true, Bool.not_eq_true', List.isEmpty_eq_false_iff,
            List.all_eq_true] at matched
          refine ⟨text.takeWhile isExchangeChar, symbol, ?_, matched.1.1, matched.1.2, ?_, matched.2⟩
          · rw [← after, List.takeWhile_append_dropWhile]
          · intro c member
            exact List.mem_takeWhile_imp member
        · simp [colon] at matched
  · rintro ⟨exchange, symbol, rfl, exchangeNe, symbolNe, exchangeAll, symbolAll⟩
    have colon : isExchangeChar ':' = false := by decide
    have before : (exchange ++ ':' :: symbol).takeWhile isExchangeChar = exchange := by
      rw [List.takeWhile_append_of_pos exchangeAll, List.takeWhile_cons_of_neg (by simp [colon]),
        List.append_nil]
    have after : (exchange ++ ':' :: symbol).dropWhile isExchangeChar = ':' :: symbol := by
      rw [List.dropWhile_append_of_pos exchangeAll, List.dropWhile_cons_of_neg (by simp [colon])]
    rw [before, after]
    simp only [Bool.and_eq_true, Bool.not_eq_true', List.isEmpty_eq_false_iff, List.all_eq_true]
    exact ⟨⟨exchangeNe, symbolNe⟩, symbolAll⟩

/-- The profile route takes the identifiers of at most 32 characters. -/
theorem profile_accepts_iff (symbol : String) :
    (Rest.isSegment symbol = true ∧ Rest.validPathSymbol symbol = true) ↔
      isTvIdentifier symbol.toList = true ∧ symbol.length ≤ 32 := by
  simp only [Rest.isSegment, Rest.validPathSymbol, Bool.and_eq_true, decide_eq_true_eq,
    isTvIdentifier_eq, matchesPathPattern_eq, colonPattern_iff]
  constructor
  · rintro ⟨⟨-, noSlash⟩, ⟨-, short⟩, exchange, rest, text, exchangeNe, restNe, exchangeAll, restAll⟩
    refine ⟨⟨exchange, rest, text, exchangeNe, restNe, exchangeAll, ?_⟩, short⟩
    intro c member
    have path := restAll c member
    rw [Rest.isPathChar, Bool.or_eq_true, beq_iff_eq] at path
    rcases path with symbolChar | slash
    · exact symbolChar
    · refine absurd ?_ noSlash
      rw [text, ← slash]
      exact List.mem_append_right _ (List.mem_cons_of_mem _ member)
  · rintro ⟨⟨exchange, rest, text, exchangeNe, restNe, exchangeAll, restAll⟩, short⟩
    have long : 3 ≤ symbol.toList.length := by
      have first := List.length_pos_iff.mpr exchangeNe
      have second := List.length_pos_iff.mpr restNe
      rw [text, List.length_append, List.length_cons]
      omega
    have length : symbol.toList.length = symbol.length := String.length_toList
    refine ⟨⟨?_, ?_⟩, ⟨by omega, short⟩, exchange, rest, text, exchangeNe, restNe, exchangeAll, ?_⟩
    · rintro rfl
      rw [String.length_empty] at length
      omega
    · intro slash
      rw [text, List.mem_append, List.mem_cons] at slash
      rcases slash with inExchange | colon | inRest
      · exact absurd (exchangeAll _ inExchange) (by decide)
      · cases colon
      · exact absurd (restAll _ inRest) (by decide)
    · intro c member
      rw [Rest.isPathChar, restAll c member, Bool.true_or]

/-! ## The routes over a catalog -/

/-- All rows of an answer are shown if each of them is. -/
theorem exists_mapM_eq_some {Row Model : Type} {show_ : Row -> Option Model} {rows : List Row}
    (each : forall row, row ∈ rows -> exists model, show_ row = some model) :
    exists models, rows.mapM show_ = some models := by
  induction rows with
  | nil => exact ⟨[], rfl⟩
  | cons row rest ih =>
      rcases each row List.mem_cons_self with ⟨model, first⟩
      rcases ih (fun other member => each other (List.mem_cons_of_mem _ member)) with
        ⟨models, later⟩
      exact ⟨model :: models, by simp [List.mapM_cons, first, later]⟩

theorem statusOfText_text (status : FeedStatus) : statusOfText status.text = some status := by
  cases status <;> rfl

theorem getAssetProfile_of_stored {db : Database F} {asset : AssetRecord}
    (stored : asset ∈ db.assets.rows) (named : asset.symbol ≠ "") :
    BarServiceClient.getAssetProfile asset.symbol db = .ok (some (clientRow asset.toAssetRow)) := by
  have found : db.assets.lookup asset.symbol = some asset :=
    (db.assets.mem_rows_iff_lookup asset).mp stored
  simp only [BarServiceClient.getAssetProfile, AssetServiceServicer.getProfile, if_neg named, found]
  rfl

/-- What the route answers for a stored asset is what becomes of its row, where the
path is accepted. -/
theorem getProfile_eq_ok_iff {db : Database F} {asset : AssetRecord}
    (stored : asset ∈ db.assets.rows) (model : AssetModel) :
    Rest.getProfile asset.symbol db = .ok model ↔
      (Rest.isSegment asset.symbol = true ∧ Rest.validPathSymbol asset.symbol = true) ∧
        rowToAssetModel (clientRow asset.toAssetRow) = some model := by
  unfold Rest.getProfile
  by_cases segment : Rest.isSegment asset.symbol = true
  · by_cases valid : Rest.validPathSymbol asset.symbol = true
    · have named : asset.symbol ≠ "" := by
        rw [Rest.isSegment, Bool.and_eq_true, decide_eq_true_iff] at segment
        exact segment.1
      rw [if_neg (by simp [segment]), if_neg (by simp [valid]),
        getAssetProfile_of_stored stored named]
      cases made : rowToAssetModel (clientRow asset.toAssetRow) with
      | none => simp [made]
      | some row => simp [made, segment, valid]
    · rw [if_neg (by simp [segment]), if_pos (by simp [valid])]
      simp [valid]
  · rw [if_pos (by simp [segment])]
    simp [segment]

/-- The profile of a stored asset is served exactly when the asset is
presentable. -/
theorem profile_ok_iff {db : Database F} {asset : AssetRecord} (stored : asset ∈ db.assets.rows) :
    (exists model, Rest.getProfile asset.symbol db = .ok model ∧ model.Shows asset.toAssetRow) ↔
      Presentable asset.toAssetRow := by
  constructor
  · rintro ⟨model, served, -⟩
    rcases (getProfile_eq_ok_iff stored model).mp served with ⟨path, made⟩
    have accepted := (profile_accepts_iff asset.symbol).mp path
    rcases (rowToAssetModel_clientRow _).mp ⟨model, made⟩ with
      ⟨assetClass, currency, isin, country⟩
    exact
      { symbol := accepted.1
        short := accepted.2
        assetClass := assetClass
        currency := currency
        isin := isin
        country := country }
  · intro presentable
    rcases (rowToAssetModel_clientRow _).mpr ⟨presentable.assetClass, presentable.currency,
      presentable.isin, presentable.country⟩ with ⟨model, made⟩
    have path := (profile_accepts_iff asset.symbol).mpr ⟨presentable.symbol, presentable.short⟩
    exact ⟨model, (getProfile_eq_ok_iff stored model).mpr ⟨path, made⟩,
      shows_of_rowToAssetModel made⟩

variable {Position : Type} [LinearOrder Position] (collation : Collation Position)
  (lower : Lowercase)

/-- Every row of a page is a stored asset with its status. -/
theorem mem_listWithStatus (filter : ListFilter) (cursor : Option String) (limit : Int)
    (db : Database F) :
    let answer := listWithStatus collation lower filter cursor limit db
    (forall row, row ∈ answer.1 ->
      exists asset, asset ∈ db.assets.rows ∧ row = withStatus db asset) ∧
    forall next, answer.2 = some next -> exists asset, asset ∈ db.assets.rows ∧ next = asset.symbol := by
  intro answer
  have groups : forall row, row ∈ listedGroups collation lower filter cursor db ->
      exists asset, asset ∈ db.assets.rows ∧ row = withStatus db asset := by
    intro row member
    rw [listedGroups_eq, sortBy, List.mem_insertionSort, List.mem_map] at member
    rcases member with ⟨asset, filtered, rfl⟩
    exact ⟨asset, List.mem_of_mem_filter filtered, rfl⟩
  have unfolded : answer = listWithStatus collation lower filter cursor limit db := rfl
  unfold listWithStatus at unfolded
  by_cases more : clampedLimit limit <
      ((listedGroups collation lower filter cursor db).take (clampedLimit limit + 1)).length
  · rw [unfolded, if_pos more]
    constructor
    · intro row member
      exact groups row (List.mem_of_mem_take (List.mem_of_mem_take member))
    · intro next isNext
      rcases Option.map_eq_some_iff.mp isNext with ⟨row, last, rfl⟩
      rcases groups row (List.mem_of_mem_take (List.mem_of_mem_take (List.mem_of_getLast? last))) with
        ⟨asset, stored, rfl⟩
      exact ⟨asset, stored, rfl⟩
  · rw [unfolded, if_neg more]
    constructor
    · intro row member
      exact groups row (List.mem_of_mem_take member)
    · intro next impossible
      cases impossible

/-- The REST surface serves a catalog: every profile, every page that is asked
for with valid parameters, and every cursor it hands out. -/
structure Serves (db : Database F) : Prop where
  profile : forall asset, asset ∈ db.assets.rows ->
    exists model, Rest.getProfile asset.symbol db = .ok model ∧ model.Shows asset.toAssetRow
  search : forall query : Rest.SearchQuery, query.isValid = true ->
    exists results, Rest.search collation lower query db = .ok results
  list : forall query : Rest.ListQuery, query.isValid = true ->
    exists body, Rest.listAssets collation lower query db = .ok body
  cursor : forall (query : Rest.ListQuery) body next,
    Rest.listAssets collation lower query db = .ok body -> body.nextCursor = some next ->
      Rest.ListQuery.isValid { query with cursor := some next } = true

/-- Every asset is presentable. -/
def AllPresentable (db : Database F) : Prop :=
  forall asset, asset ∈ db.assets.rows -> Presentable asset.toAssetRow

theorem Presentable.exists_model {asset : AssetRow} (presentable : Presentable asset) :
    exists model, rowToAssetModel (clientRow asset) = some model :=
  (rowToAssetModel_clientRow asset).mpr ⟨presentable.assetClass, presentable.currency,
    presentable.isin, presentable.country⟩

theorem search_of_allPresentable {db : Database F} (all : AllPresentable db)
    (query : Rest.SearchQuery) (valid : query.isValid = true) :
    exists results, Rest.search collation lower query db = .ok results := by
  have each : forall row, row ∈ BarServiceClient.searchAssets collation lower query.q query.limit db ->
      exists model, rowToAssetModel row = some model := by
    intro row member
    rcases List.mem_map.mp member with ⟨message, found, rfl⟩
    rw [AssetServiceServicer.search] at found
    by_cases blank : PyText.strip query.q = ""
    · rw [if_pos blank] at found
      cases found
    · rw [if_neg blank] at found
      rcases List.mem_map.mp found with ⟨asset, listed, rfl⟩
      rw [AssetsRepo.search] at listed
      by_cases empty : PyText.strip (PyText.strip query.q) = ""
      · rw [if_pos empty] at listed
        cases listed
      · rw [if_neg empty] at listed
        rcases List.mem_map.mp listed with ⟨record, taken, rfl⟩
        have sorted := List.mem_of_mem_take taken
        rw [sortBy, List.mem_insertionSort] at sorted
        exact (all record (List.mem_of_mem_filter sorted)).exists_model
  rcases exists_mapM_eq_some each with ⟨models, mapped⟩
  refine ⟨models, ?_⟩
  rw [Rest.search, if_neg (by simp [valid]), mapped]

/-- What the client returns for a listing. -/
theorem mem_clientList (query : Rest.ListQuery) (db : Database F) :
    let answer := BarServiceClient.listAssets collation lower query.exchange
      (query.assetClass.map AssetClass.value) query.q query.cursor query.limit db
    (forall row, row ∈ answer.1 -> exists asset status, asset ∈ db.assets.rows ∧
      row.asset = clientRow asset.toAssetRow ∧ row.status = FeedStatus.text status) ∧
    forall next, answer.2 = some next -> exists asset, asset ∈ db.assets.rows ∧ next = asset.symbol := by
  intro answer
  have unfolded : answer = BarServiceClient.listAssets collation lower query.exchange
    (query.assetClass.map AssetClass.value) query.q query.cursor query.limit db := rfl
  have listed := mem_listWithStatus collation lower
    { exchange := orNone (query.exchange.getD "")
      assetClass := orNone ((query.assetClass.map AssetClass.value).getD "")
      q := orNone (query.q.getD "") }
    (orNone (query.cursor.getD "")) (requestedLimit query.limit 100 500) db
  rw [unfolded]
  constructor
  · intro row member
    rcases List.mem_map.mp member with ⟨message, inReply, rfl⟩
    rcases List.mem_map.mp inReply with ⟨statusRow, onPage, rfl⟩
    rcases listed.1 statusRow onPage with ⟨asset, stored, rfl⟩
    exact ⟨asset, _, stored, rfl, rfl⟩
  · intro next isNext
    simp only [BarServiceClient.listAssets, AssetServiceServicer.listAssets] at isNext
    generalize listWithStatus collation lower _ _ _ db = page at listed isNext
    cases last : page.2 with
    | none =>
        rw [last] at isNext
        cases isNext
    | some symbol =>
        rw [last, Option.getD_some, orNone] at isNext
        by_cases empty : symbol = ""
        · rw [if_pos empty] at isNext
          cases isNext
        · rw [if_neg empty, Option.some_inj] at isNext
          exact listed.2 next (by rw [last, isNext])

theorem list_of_allPresentable {db : Database F} (all : AllPresentable db)
    (query : Rest.ListQuery) (valid : query.isValid = true) :
    exists body, Rest.listAssets collation lower query db = .ok body := by
  have each := (mem_clientList collation lower query db).1
  have shown : forall row, row ∈ (BarServiceClient.listAssets collation lower query.exchange
      (query.assetClass.map AssetClass.value) query.q query.cursor query.limit db).1 ->
      exists model, rowToStatusModel row = some model := by
    intro row member
    rcases each row member with ⟨asset, status, stored, assetEq, statusEq⟩
    rcases (all asset stored).exists_model with ⟨model, made⟩
    refine ⟨{ asset := model, status := status, addedAt := row.addedAt,
              lastBarTs := row.lastBarTs }, ?_⟩
    simp only [rowToStatusModel, assetEq, statusEq, made, statusOfText_text]
  rcases exists_mapM_eq_some shown with ⟨models, mapped⟩
  rw [Rest.listAssets, if_neg (by simp [valid])]
  simp only [mapped]
  exact ⟨_, rfl⟩

theorem cursor_of_allPresentable {db : Database F} (all : AllPresentable db)
    (query : Rest.ListQuery) (body : ListAssetsResponse) (next : String)
    (answered : Rest.listAssets collation lower query db = .ok body)
    (isNext : body.nextCursor = some next) :
    Rest.ListQuery.isValid { query with cursor := some next } = true := by
  have cursors := (mem_clientList collation lower query db).2
  rw [Rest.listAssets] at answered
  by_cases valid : query.isValid = true
  · rw [if_neg (by simp [valid])] at answered
    generalize BarServiceClient.listAssets collation lower query.exchange
      (query.assetClass.map AssetClass.value) query.q query.cursor query.limit
      db = answer at answered cursors
    cases mapped : answer.1.mapM rowToStatusModel with
    | none => simp [mapped] at answered
    | some models =>
        simp only [mapped, HttpAnswer.ok.injEq] at answered
        rw [← answered] at isNext
        rcases cursors next isNext with ⟨asset, stored, rfl⟩
        have short := (all asset stored).short
        simp only [Rest.ListQuery.isValid, Bool.and_eq_true, decide_eq_true_eq] at valid ⊢
        refine ⟨⟨⟨valid.1.1.1, ?_⟩, valid.1.2⟩, valid.2⟩
        exact decide_eq_true short
  · rw [if_pos (by simp [valid])] at answered
    cases answered

/-- A catalog is served exactly when each of its assets is presentable. -/
theorem serves_iff (db : Database F) : Serves collation lower db ↔ AllPresentable db := by
  constructor
  · intro serves asset stored
    exact (profile_ok_iff stored).mp (serves.profile asset stored)
  · intro all
    exact
      { profile := fun asset stored => (profile_ok_iff stored).mpr (all asset stored)
        search := search_of_allPresentable collation lower all
        list := list_of_allPresentable collation lower all
        cursor := cursor_of_allPresentable collation lower all }

/-! ## What the write paths admit -/

/-- A call of one of the two write paths: the file is synced at a start of the
server, or an asset is created over gRPC. -/
inductive AdmitAction
  | sync (now : Int) (commits : Bool) (file : Option YamlFile)
  | create (env : CreateEnv) (request : CreateAssetRequest)

/-- The database after a call. -/
def admitStep (upper : String -> String) (db : Database F) : AdmitAction -> Database F
  | .sync now commits file => (AssetsLoader.sync upper now commits file db).2
  | .create env request => (createAsset env request db).2

/-- The assets that the call writes are presentable. -/
def AdmitAction.WritesPresentable (upper : String -> String) (db : Database F) : AdmitAction -> Prop
  | .sync _ commits file =>
    commits = true -> forall row, row ∈ AssetsLoader.fileRows upper file -> Presentable row
  | .create env request => Creates env request db -> Presentable (requestedAsset request.asset)

/-- The time an asset was added is not part of what is checked. -/
theorem presentable_addedAt_iff (row : AssetRow) (addedAt : Int) :
    Presentable { row with addedAt := addedAt } ↔ Presentable row := by
  constructor
  · intro presentable
    exact ⟨presentable.symbol, presentable.short, presentable.assetClass, presentable.currency,
      presentable.isin, presentable.country⟩
  · intro presentable
    exact ⟨presentable.symbol, presentable.short, presentable.assetClass, presentable.currency,
      presentable.isin, presentable.country⟩

theorem allPresentable_iff (db : Database F) :
    AllPresentable db ↔
      forall symbol asset, db.assets.lookup symbol = some asset -> Presentable asset.toAssetRow := by
  constructor
  · intro all symbol asset found
    exact all asset ((db.assets.lookup_eq_some_iff symbol asset).mp found).1
  · intro all asset stored
    exact all asset.symbol asset ((db.assets.mem_rows_iff_lookup asset).mp stored)

theorem allPresentable_upsertMany {db : Database F} (all : AllPresentable db) (now : Int)
    {rows : List AssetRow} (distinct : (rows.map (fun row => row.symbol)).Nodup) :
    AllPresentable (upsertMany now true rows db).2 ↔ forall row, row ∈ rows -> Presentable row := by
  have unique : ((rows.map (payloadRow now)).map AssetRecord.key).Nodup := by
    rw [List.map_map]
    exact distinct
  rw [allPresentable_iff] at all ⊢
  constructor
  · intro after row member
    have last : Table.lastUnder AssetRecord.key (rows.map (payloadRow now)) row.symbol =
        some (payloadRow now row) :=
      (Table.lastUnder_eq_some_iff unique row.symbol (payloadRow now row)).mpr
        ⟨List.mem_map_of_mem member, rfl⟩
    have found := lookup_upsertMany now rows db row.symbol
    rw [last] at found
    exact (presentable_addedAt_iff row _).mp (after row.symbol _ found)
  · intro each symbol asset found
    rcases catalogStep_lookup db (.sync now true rows) symbol with same | ⟨row, member, -, written⟩
    · exact all symbol asset (same.symm.trans found)
    · rw [Option.some_inj.mp (found.symm.trans written)]
      exact (presentable_addedAt_iff row _).mpr (each row member)

theorem allPresentable_onboarded {db : Database F} {env : CreateEnv} {request : CreateAssetRequest}
    (all : AllPresentable db) (creates : Creates env request db) :
    AllPresentable (onboarded env.now request db) ↔ Presentable (requestedAsset request.asset) := by
  have lookup : forall symbol, (onboarded env.now request db).assets.lookup symbol =
      (db.assets.lookup symbol).or
        (if request.asset.symbol = symbol then some (createdAsset env.now request) else none) :=
    fun symbol => Table.lookup_insertNew db.assets (createdAsset env.now request) symbol
  rw [allPresentable_iff] at all ⊢
  constructor
  · intro presentable
    have found := lookup request.asset.symbol
    rw [creates.2.2, if_pos rfl] at found
    exact (presentable_addedAt_iff _ env.now).mp (presentable _ _ found)
  · intro written symbol asset found
    rw [lookup] at found
    cases old : db.assets.lookup symbol with
    | some stored =>
        rw [old] at found
        exact all symbol asset (old.trans found)
    | none =>
        rw [old, Option.none_or] at found
        by_cases here : request.asset.symbol = symbol
        · rw [if_pos here, Option.some_inj] at found
          rw [← found]
          exact (presentable_addedAt_iff _ env.now).mpr written
        · rw [if_neg here] at found
          cases found

/-- A call keeps every asset presentable exactly when those it writes are. -/
theorem allPresentable_admitStep_iff (upper : String -> String) (db : Database F)
    (action : AdmitAction) (all : AllPresentable db) :
    AllPresentable (admitStep upper db action) ↔ action.WritesPresentable upper db := by
  cases action with
  | sync now commits file =>
      rw [admitStep, AssetsLoader.sync_eq, catalogStep]
      cases commits with
      | false =>
          rw [upsertMany_of_not_commits]
          exact ⟨fun _ impossible => Bool.noConfusion impossible, fun _ => all⟩
      | true =>
          rw [allPresentable_upsertMany all now (AssetsLoader.nodup_fileRows upper file)]
          exact ⟨fun each _ => each, fun each => each rfl⟩
  | create env request =>
      by_cases creates : Creates env request db
      · have after : admitStep upper db (.create env request) = onboarded env.now request db :=
          congrArg Prod.snd (createAsset_of_creates creates)
        rw [after, allPresentable_onboarded all creates]
        exact ⟨fun presentable _ => presentable, fun written => written creates⟩
      · have same : admitStep upper db (.create env request) = db :=
          (createAsset_of_not_creates creates).1
        rw [same]
        exact ⟨fun _ impossible => absurd impossible creates, fun _ => all⟩

/-- Over every run of the write paths, the REST surface serves every catalog
the run goes through if and only if every asset it writes is presentable. -/
theorem rest_serves_iff (upper : String -> String) (actions : List AdmitAction) :
    (forall shorter, shorter <+: actions ->
      Serves collation lower (run (admitStep upper) (Database.empty : Database F) shorter)) ↔
      Along (admitStep upper) (fun db action => action.WritesPresentable upper db)
        (Database.empty : Database F) actions := by
  simp only [serves_iff]
  apply invariant_prefixes_iff_always
  · intro db action all
    exact allPresentable_admitStep_iff upper db action all
  · intro asset stored
    cases stored

/-- A currency of four letters passes `CreateAsset`. -/
def fourLetterRequest : CreateAssetRequest where
  asset :=
    { symbol := "BINANCE:ADAUSDT", storageSymbol := "ADA/USDT:USDT", name := "Cardano",
      exchange := "BINANCE", currency := "USDT", assetClass := "CRYPTO", assetSubclass := "",
      isin := "", country := "" }
  timeframes := []
  tvSymbol := ""

/-- A symbol without an exchange passes the loader. -/
def bareSymbolFile : YamlFile :=
  .mapping (.entries [.mapping
    [("symbol", .text "AAPL"), ("storage_symbol", .text "AAPL"), ("name", .text "Apple"),
      ("exchange", .text "NASDAQ"), ("currency", .text "USD"), ("asset_class", .text "EQUITY")]])

/-- Both write paths admit assets that the REST surface fails on. -/
theorem rest_fails_on_admitted :
    (exists response,
      (createAsset ⟨100000, true⟩ fourLetterRequest (Database.empty : Database Rat)).1 =
        .ok response ∧ response.created = true) ∧
      (let db := admitStep String.toUpper (Database.empty : Database Rat)
        (.create ⟨100000, true⟩ fourLetterRequest)
      Rest.getProfile "BINANCE:ADAUSDT" db = .internalError ∧
        Rest.listAssets codePointOrder ⟨String.toLower, String.toLower⟩ ⟨none, none, none, none, 100⟩ db =
          .internalError ∧
        ¬ Serves codePointOrder ⟨String.toLower, String.toLower⟩ db) ∧
      let db := admitStep String.toUpper (Database.empty : Database Rat)
        (.sync 100000 true (some bareSymbolFile))
      db.assets.rows.map (fun asset => asset.symbol) = ["AAPL"] ∧
        Rest.getProfile "AAPL" db = .unprocessable ∧
        ¬ Serves codePointOrder ⟨String.toLower, String.toLower⟩ db := by
  refine ⟨?admitted, ?fourLetters, ?bareSymbol⟩
  case admitted =>
    refine ⟨{ assetWithStatus := freshAnswer 100000 fourLetterRequest, created := true,
              pollEtaSeconds := 30 }, ?_, rfl⟩
    decide +kernel
  case fourLetters =>
    intro db
    have profile : Rest.getProfile "BINANCE:ADAUSDT" db = .internalError := by decide +kernel
    have list : Rest.listAssets codePointOrder ⟨String.toLower, String.toLower⟩
        ⟨none, none, none, none, 100⟩ db = .internalError := by decide +kernel
    refine ⟨profile, list, ?_⟩
    intro serves
    rcases serves.list ⟨none, none, none, none, 100⟩ (by decide) with ⟨body, answered⟩
    rw [list] at answered
    cases answered
  case bareSymbol =>
    intro db
    have symbols : db.assets.rows.map (fun asset => asset.symbol) = ["AAPL"] := by decide +kernel
    have profile : Rest.getProfile "AAPL" db = .unprocessable := by decide +kernel
    refine ⟨symbols, profile, ?_⟩
    intro serves
    have stored : "AAPL" ∈ db.assets.rows.map (fun asset => asset.symbol) := by
      rw [symbols]
      exact List.mem_singleton_self _
    rcases List.mem_map.mp stored with ⟨asset, member, symbol⟩
    rcases serves.profile asset member with ⟨model, answered, -⟩
    rw [symbol, profile] at answered
    cases answered

end HybridDataSvc
