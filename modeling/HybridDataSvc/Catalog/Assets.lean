import HybridDataSvc.Catalog.Schema
import HybridDataSvc.Serving.BarService

namespace HybridDataSvc

open Relational

/-!
# Onboarding an asset

`AssetsRepo.create_with_feeds` and `get_with_status`, and the handler
`CreateAsset` over them.  An asset and its feeds are inserted in one
transaction; a feed row that is there already is left alone.  The answer to
a fresh insert is put together by the handler, the answer to a repeated one
is read back.
-/

variable {F : Type}

/-! ## The repository -/

/-- `AssetWithStatusRow`. -/
structure AssetWithStatusRow where
  asset : AssetRow
  status : FeedStatus
  lastBarTs : Int
  deriving DecidableEq, Repr

namespace AssetsRepo

/-- `assets a LEFT JOIN feeds f ON f.storage_symbol = a.storage_symbol`. -/
def feedsOf (db : Database F) (asset : AssetRecord) : List (Option FeedRecord) :=
  (leftJoin [asset] (fun row =>
    db.feeds.select (fun feed => decide (feed.storageSymbol = row.storageSymbol)))).map Prod.snd

/-- `... LEFT JOIN cache_meta cm ON cm.symbol = a.storage_symbol AND
cm.timeframe = f.timeframe`; the timeframe of a missing feed matches nothing. -/
def statusRows (db : Database F) (asset : AssetRecord) :
    List (Option FeedRecord × Option MetaRow) :=
  leftJoin (feedsOf db asset) (fun feed =>
    match feed with
    | none => []
    | some feed =>
      db.store.cacheMeta.select (fun row =>
        decide (row.bucket.symbol = asset.storageSymbol) &&
          decide (row.bucket.timeframe = feed.timeframe)))

/-- `bool_or(f.status = status)`. -/
def anyStatus (status : FeedStatus) (rows : List (Option FeedRecord × Option MetaRow)) : Bool :=
  rows.any (fun row => decide (row.1.map (fun feed => feed.status) = some status))

/-- The `CASE` expression `agg_status`. -/
def aggStatus (rows : List (Option FeedRecord × Option MetaRow)) : FeedStatus :=
  if anyStatus .active rows then .active
  else if anyStatus .pending rows then .pending
  else if anyStatus .inactive rows then .inactive
  else .pending

/-- `COALESCE(MAX(cm.last_bar_ts), 0)`. -/
def maxLastBarTs (rows : List (Option FeedRecord × Option MetaRow)) : Int :=
  maxOrZero (rows.filterMap (fun row => row.2.map MetaRow.lastBarTs))

/-- The columns both status queries select for an asset. -/
def withStatus (db : Database F) (asset : AssetRecord) : AssetWithStatusRow :=
  let rows := statusRows db asset
  { asset := asset.toAssetRow, status := aggStatus rows, lastBarTs := maxLastBarTs rows }

/-- `get_with_status`. -/
def getWithStatus (db : Database F) (tvSymbol : String) : Option AssetWithStatusRow :=
  (db.assets.lookup tvSymbol).map (withStatus db)

/-- The row `create_with_feeds` inserts for a timeframe. -/
def pendingFeed (now : Int) (storageSymbol tvSymbol timeframe : String) : FeedRecord where
  storageSymbol := storageSymbol
  timeframe := timeframe
  tvSymbol := tvSymbol
  status := .pending
  updatedAt := now

/-- `create_with_feeds`: a transaction that may fail as a whole. -/
def createWithFeeds (now : Int) (commits : Bool) (asset : AssetRow) (timeframes : List String)
    (tvSymbol : String) (db : Database F) : Except PyError (AssetRow × Bool) × Database F :=
  if commits then
    match db.assets.lookup asset.symbol with
    | some existing => (.ok (existing.toAssetRow, false), db)
    | none =>
      let created := { asset with addedAt := now }
      (.ok (created, true),
        { db with
          assets := db.assets.insertNew { created with updatedAt := now }
          feeds := db.feeds.insertNewAll
            (timeframes.map (pendingFeed now asset.storageSymbol tvSymbol)) })
  else (.error .databaseError, db)

end AssetsRepo

/-! ## The handler -/

/-- The message `Asset`; an unset field is the empty string. -/
structure AssetMessage where
  symbol : String
  storageSymbol : String
  name : String
  exchange : String
  currency : String
  assetClass : String
  assetSubclass : String
  isin : String
  country : String
  deriving DecidableEq, Repr

structure AssetWithStatusMessage where
  asset : AssetMessage
  status : String
  addedAt : Int
  lastBarTs : Int
  deriving DecidableEq, Repr

structure CreateAssetRequest where
  asset : AssetMessage
  timeframes : List String
  tvSymbol : String
  deriving DecidableEq, Repr

structure CreateAssetResponse where
  assetWithStatus : AssetWithStatusMessage
  created : Bool
  pollEtaSeconds : Int
  deriving DecidableEq, Repr

namespace AssetServiceServicer

/-- `_row_to_asset_message`. -/
def rowToAssetMessage (row : AssetRow) : AssetMessage where
  symbol := row.symbol
  storageSymbol := row.storageSymbol
  name := row.name
  exchange := row.exchange
  currency := row.currency
  assetClass := row.assetClass
  assetSubclass := row.assetSubclass.getD ""
  isin := row.isin.getD ""
  country := row.country.getD ""

/-- `_row_to_asset_with_status_message`. -/
def rowToAssetWithStatusMessage (row : AssetWithStatusRow) : AssetWithStatusMessage where
  asset := rowToAssetMessage row.asset
  status := row.status.text
  addedAt := row.asset.addedAt
  lastBarTs := row.lastBarTs

/-- `_POLL_ETA_SECONDS`. -/
def pollEtaSeconds : Int := 30

/-- `_VALID_ASSET_CLASSES`, sorted. -/
def validAssetClasses : List String := ["CRYPTO", "EQUITY", "ETF", "FUND"]

/-- `_DEFAULT_TIMEFRAMES`. -/
def defaultTimeframes : List String := ["1h"]

/-- `[A-Z0-9]`. -/
def isExchangeChar (c : Char) : Bool := c.isUpper || c.isDigit

/-- `[A-Z0-9._-]`. -/
def isSymbolChar (c : Char) : Bool := isExchangeChar c || c == '.' || c == '_' || c == '-'

/-- A match of `_TV_SYMBOL_RE` up to the end of the text. -/
def isTvIdentifier (text : List Char) : Bool :=
  match text.span isExchangeChar with
  | (exchange, ':' :: symbol) => !exchange.isEmpty && !symbol.isEmpty && symbol.all isSymbolChar
  | _ => false

/-- `_TV_SYMBOL_RE.match(symbol)`; the `$` of the pattern also matches before
a newline that ends the text. -/
def tvSymbolMatches (symbol : String) : Bool :=
  isTvIdentifier symbol.toList ||
    (symbol.toList.getLast? == some '\n' && isTvIdentifier symbol.toList.dropLast)

/-- The checks of `CreateAsset`, in order, with the details of the status. -/
def validationError (asset : AssetMessage) : Option String :=
  if asset.symbol = "" then some "asset.symbol is required"
  else if !tvSymbolMatches asset.symbol then
    some ("asset.symbol must match TradingView identifier shape " ++
      "EXCHANGE:SYMBOL (uppercase + [._-])")
  else if asset.storageSymbol = "" then some "asset.storage_symbol is required"
  else if asset.name = "" then some "asset.name is required"
  else if asset.exchange = "" then some "asset.exchange is required"
  else if asset.currency = "" then some "asset.currency is required"
  else if asset.assetClass ∉ validAssetClasses then
    some ("asset.asset_class must be one of [" ++
      ", ".intercalate (validAssetClasses.map pyRepr) ++ "]")
  else none

/-- `text or None`. -/
def orNone (text : String) : Option String := if text = "" then none else some text

/-- `list(request.timeframes) or list(_DEFAULT_TIMEFRAMES)`. -/
def requestedTimeframes (request : CreateAssetRequest) : List String :=
  if request.timeframes.isEmpty then defaultTimeframes else request.timeframes

/-- `request.tv_symbol or asset_msg.symbol`. -/
def requestedTvSymbol (request : CreateAssetRequest) : String :=
  if request.tvSymbol = "" then request.asset.symbol else request.tvSymbol

/-- The `AssetRow` built from the request. -/
def requestedAsset (asset : AssetMessage) : AssetRow where
  symbol := asset.symbol
  storageSymbol := asset.storageSymbol
  name := asset.name
  exchange := asset.exchange
  currency := asset.currency
  assetClass := asset.assetClass
  assetSubclass := orNone asset.assetSubclass
  isin := orNone asset.isin
  country := orNone asset.country
  addedAt := 0

/-- The surroundings of `CreateAsset`: the clock and whether the transaction
of the repository commits. -/
structure CreateEnv where
  now : Int
  commits : Bool

/-- `CreateAsset`, with the database it leaves. -/
def createAsset (env : CreateEnv) (request : CreateAssetRequest) (db : Database F) :
    Except GrpcError CreateAssetResponse × Database F :=
  match validationError request.asset with
  | some details => (.error (.invalidArgument details), db)
  | none =>
    match AssetsRepo.createWithFeeds env.now env.commits (requestedAsset request.asset)
        (requestedTimeframes request) (requestedTvSymbol request) db with
    | (.error _, after) => (.error (.internal "internal error creating asset"), after)
    | (.ok (existing, false), after) =>
      match AssetsRepo.getWithStatus after existing.symbol with
      | none => (.error (.internal "inconsistent catalog state"), after)
      | some row =>
        (.ok { assetWithStatus := rowToAssetWithStatusMessage row, created := false,
               pollEtaSeconds := pollEtaSeconds }, after)
    | (.ok (asset, true), after) =>
      -- the answer is put together, not read back
      let fresh : AssetWithStatusRow := { asset := asset, status := .pending, lastBarTs := 0 }
      (.ok { assetWithStatus := rowToAssetWithStatusMessage fresh, created := true,
             pollEtaSeconds := pollEtaSeconds }, after)

end AssetServiceServicer

end HybridDataSvc
