import HybridDataSvc.Catalog.Listing
import HybridDataSvc.Text.Python

namespace HybridDataSvc

open Relational Series AssetsRepo AssetServiceServicer

/-!
# The catalog over REST

The routes `/v1/profile/{symbol}`, `/v1/search` and `/v1/assets`, the client
they call and the handlers behind it.  The parameters of a request are checked
before the call, and the rows of the answer by the response models after it.  The
handlers are those of texts without a NUL; `Catalog.LiteralSearch` has what the
driver makes of the others.
-/

variable {F : Type}

/-! ## The read handlers of the asset service -/

/-- How `GetProfile` ends. -/
inductive ProfileReply
  | invalidArgument (details : String)
  | notFound (details : String)
  | found (asset : AssetMessage)
  deriving DecidableEq, Repr

structure ListAssetsRequest where
  exchange : String
  assetClass : String
  query : String
  cursor : String
  limit : Int
  deriving DecidableEq, Repr

structure ListAssetsReply where
  assets : List AssetWithStatusMessage
  nextCursor : String
  deriving DecidableEq, Repr

section Handlers

variable {Position : Type} [LinearOrder Position] (collation : Collation Position)
  (lower : Lowercase)

/-- `AssetsRepo.search`. -/
def AssetsRepo.search (q : String) (limit : Nat) (db : Database F) : List AssetRow :=
  let stripped := PyText.strip q
  if stripped = "" then []
  else
    let found := db.assets.rows.filter (fun asset => textMatches lower stripped asset.toAssetRow)
    ((sortBy (fun asset : AssetRecord => collation.position asset.symbol) found).take limit).map
      AssetRecord.toAssetRow

namespace AssetServiceServicer

/-- The limit of a request, 0 standing for one that is not set. -/
def requestedLimit (limit default most : Int) : Int :=
  max 1 (min (if limit = 0 then default else limit) most)

/-- `GetProfile`. -/
def getProfile (symbol : String) (db : Database F) : ProfileReply :=
  if symbol = "" then .invalidArgument "symbol is required"
  else
    match db.assets.lookup symbol with
    | none => .notFound (symbol ++ " is not in the configured feed list")
    | some asset => .found (rowToAssetMessage asset.toAssetRow)

/-- `Search`. -/
def search (query : String) (limit : Int) (db : Database F) : List AssetMessage :=
  let stripped := PyText.strip query
  if stripped = "" then []
  else
    (AssetsRepo.search collation lower stripped (requestedLimit limit 10 50).toNat db).map
      rowToAssetMessage

/-- `ListAssets`. -/
def listAssets (request : ListAssetsRequest) (db : Database F) : ListAssetsReply :=
  let filter : ListFilter :=
    { exchange := orNone request.exchange, assetClass := orNone request.assetClass,
      q := orNone request.query }
  let answer := listWithStatus collation lower filter (orNone request.cursor)
    (requestedLimit request.limit 100 500) db
  { assets := answer.1.map rowToAssetWithStatusMessage, nextCursor := answer.2.getD "" }

end AssetServiceServicer

end Handlers

/-! ## The client -/

/-- `AssetRow` of the client. -/
structure ClientAssetRow where
  symbol : String
  storageSymbol : String
  name : String
  exchange : String
  currency : String
  assetClass : String
  assetSubclass : Option String
  isin : Option String
  country : Option String
  deriving DecidableEq, Repr

/-- `AssetWithStatusRow` of the client. -/
structure ClientAssetWithStatusRow where
  asset : ClientAssetRow
  status : String
  addedAt : Int
  lastBarTs : Int
  deriving DecidableEq, Repr

namespace BarServiceClient

/-- `_asset_message_to_row`. -/
def assetMessageToRow (message : AssetMessage) : ClientAssetRow where
  symbol := message.symbol
  storageSymbol := message.storageSymbol
  name := message.name
  exchange := message.exchange
  currency := message.currency
  assetClass := message.assetClass
  assetSubclass := orNone message.assetSubclass
  isin := orNone message.isin
  country := orNone message.country

/-- `_asset_with_status_message_to_row`. -/
def assetWithStatusMessageToRow (message : AssetWithStatusMessage) : ClientAssetWithStatusRow where
  asset := assetMessageToRow message.asset
  status := message.status
  addedAt := message.addedAt
  lastBarTs := message.lastBarTs

/-- `get_asset_profile`: an error other than a symbol that is not found is
raised. -/
def getAssetProfile (symbol : String) (db : Database F) : Except String (Option ClientAssetRow) :=
  match AssetServiceServicer.getProfile symbol db with
  | .invalidArgument _ => .error "INVALID_ARGUMENT"
  | .notFound _ => .ok none
  | .found message => .ok (some (assetMessageToRow message))

section Client

variable {Position : Type} [LinearOrder Position] (collation : Collation Position)
  (lower : Lowercase)

/-- `search_assets`. -/
def searchAssets (query : String) (limit : Int) (db : Database F) : List ClientAssetRow :=
  (AssetServiceServicer.search collation lower query limit db).map assetMessageToRow

/-- `list_assets`. -/
def listAssets (exchange assetClass q cursor : Option String) (limit : Int) (db : Database F) :
    List ClientAssetWithStatusRow × Option String :=
  let reply := AssetServiceServicer.listAssets collation lower
    { exchange := exchange.getD "", assetClass := assetClass.getD "", query := q.getD "",
      cursor := cursor.getD "", limit := limit } db
  (reply.assets.map assetWithStatusMessageToRow, orNone reply.nextCursor)

end Client

end BarServiceClient

/-! ## The response models -/

/-- `AssetClass`. -/
inductive AssetClass
  | equity
  | crypto
  | etf
  | fund
  deriving DecidableEq, Repr

def AssetClass.value : AssetClass -> String
  | .equity => "EQUITY"
  | .crypto => "CRYPTO"
  | .etf => "ETF"
  | .fund => "FUND"

/-- `AssetClass(text)`, which raises for any other text. -/
def AssetClass.ofText (text : String) : Option AssetClass :=
  [AssetClass.equity, .crypto, .etf, .fund].find? (fun member => decide (member.value = text))

/-- `AssetStatus(text)`. -/
def statusOfText (text : String) : Option FeedStatus :=
  [FeedStatus.active, .pending, .inactive].find? (fun member => decide (member.text = text))

/-- `Asset`. -/
structure AssetModel where
  symbol : String
  name : String
  exchange : String
  type : Option String
  currency : String
  assetClass : AssetClass
  assetSubClass : Option String
  isin : Option String
  country : Option String
  deriving DecidableEq, Repr

/-- `constr(min_length=length, max_length=length)`. -/
def constrLength (length : Nat) (text : String) : Bool := decide (text.length = length)

/-- The same constraint on a field that may be missing. -/
def optionalLength (length : Nat) (text : Option String) : Bool :=
  text.all (constrLength length)

/-- `_row_to_asset_model`, which the other two routes repeat: `none` when the
class is unknown or the model refuses a field. -/
def rowToAssetModel (row : ClientAssetRow) : Option AssetModel :=
  match AssetClass.ofText row.assetClass with
  | none => none
  | some assetClass =>
    if constrLength 3 row.currency && optionalLength 12 row.isin && optionalLength 2 row.country then
      some
        { symbol := row.symbol, name := row.name, exchange := row.exchange,
          type := (orNone row.assetClass).map String.toLower, currency := row.currency,
          assetClass := assetClass, assetSubClass := row.assetSubclass, isin := row.isin,
          country := row.country }
    else none

/-- `AssetWithStatus`. -/
structure AssetWithStatusModel where
  asset : AssetModel
  status : FeedStatus
  addedAt : Int
  lastBarTs : Int
  deriving DecidableEq, Repr

/-- `_row_to_status_model`. -/
def rowToStatusModel (row : ClientAssetWithStatusRow) : Option AssetWithStatusModel :=
  match rowToAssetModel row.asset, statusOfText row.status with
  | some asset, some status =>
    some { asset := asset, status := status, addedAt := row.addedAt, lastBarTs := row.lastBarTs }
  | _, _ => none

structure ListAssetsResponse where
  assets : List AssetWithStatusModel
  nextCursor : Option String
  deriving DecidableEq, Repr

/-! ## The routes -/

/-- What a request is answered with: no route takes it, its parameters are
refused (422), the route raises an error with a detail, the model of the
response refuses a row (500), or the body (200). -/
inductive HttpAnswer (Body : Type)
  | noRoute
  | unprocessable
  | httpError (status : Nat) (error message : String)
  | internalError
  | ok (body : Body)
  deriving DecidableEq, Repr

namespace Rest

/-- A character of the class after the colon, which has the slash too. -/
def isPathChar (c : Char) : Bool := isSymbolChar c || c == '/'

/-- The pattern of the path parameter; its `$` matches at the end only. -/
def matchesPathPattern (symbol : String) : Bool :=
  match symbol.toList.span isExchangeChar with
  | (exchange, ':' :: rest) => !exchange.isEmpty && !rest.isEmpty && rest.all isPathChar
  | _ => false

/-- The constraints of the path parameter. -/
def validPathSymbol (symbol : String) : Bool :=
  decide (3 ≤ symbol.length) && decide (symbol.length ≤ 32) && matchesPathPattern symbol

/-- A path parameter takes one segment of the path. -/
def isSegment (symbol : String) : Bool := decide (symbol ≠ "") && decide ('/' ∉ symbol.toList)

/-- `GET /v1/profile/{symbol}`. -/
def getProfile (symbol : String) (db : Database F) : HttpAnswer AssetModel :=
  if !isSegment symbol then .noRoute
  else if !validPathSymbol symbol then .unprocessable
  else
    match BarServiceClient.getAssetProfile symbol db with
    | .error code => .httpError 503 "grpc_unavailable" ("AssetService unreachable: " ++ code)
    | .ok none =>
      .httpError 404 "unknown_symbol" (symbol ++ " is not in the configured feed list")
    | .ok (some row) =>
      match rowToAssetModel row with
      | none => .internalError
      | some asset => .ok asset

section Pages

variable {Position : Type} [LinearOrder Position] (collation : Collation Position)
  (lower : Lowercase)

/-- The query parameters of `GET /v1/search`. -/
structure SearchQuery where
  q : String
  limit : Int
  deriving DecidableEq, Repr

/-- Their constraints. -/
def SearchQuery.isValid (query : SearchQuery) : Bool :=
  decide (1 ≤ query.q.length) && decide (query.q.length ≤ 64) &&
    decide (1 ≤ query.limit) && decide (query.limit ≤ 50)

/-- `GET /v1/search`. -/
def search (query : SearchQuery) (db : Database F) : HttpAnswer (List AssetModel) :=
  if !query.isValid then .unprocessable
  else
    match (BarServiceClient.searchAssets collation lower query.q query.limit db).mapM
        rowToAssetModel with
    | none => .internalError
    | some results => .ok results

/-- The query parameters of `GET /v1/assets`. -/
structure ListQuery where
  exchange : Option String
  assetClass : Option AssetClass
  q : Option String
  cursor : Option String
  limit : Int
  deriving DecidableEq, Repr

/-- The constraint of the cursor. -/
def validCursor (cursor : String) : Bool := decide (cursor.length ≤ 32)

/-- The constraints of the parameters. -/
def ListQuery.isValid (query : ListQuery) : Bool :=
  query.exchange.all (fun exchange => decide (exchange.length ≤ 64)) &&
    query.q.all (fun q => decide (1 ≤ q.length) && decide (q.length ≤ 64)) &&
    query.cursor.all validCursor &&
    decide (1 ≤ query.limit) && decide (query.limit ≤ 500)

/-- `GET /v1/assets`. -/
def listAssets (query : ListQuery) (db : Database F) : HttpAnswer ListAssetsResponse :=
  if !query.isValid then .unprocessable
  else
    let answer := BarServiceClient.listAssets collation lower query.exchange
      (query.assetClass.map AssetClass.value) query.q query.cursor query.limit db
    match answer.1.mapM rowToStatusModel with
    | none => .internalError
    | some assets => .ok { assets := assets, nextCursor := answer.2 }

end Pages

end Rest

end HybridDataSvc
