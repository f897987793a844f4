import HybridDataSvc.Catalog.Assets
import HybridDataSvc.Relational.Grouping
import HybridDataSvc.Relational.Keyset

namespace HybridDataSvc

open Relational Series

/-!
# Listing the catalog

`list_with_status`: one query that joins every asset with its feeds and their
summaries, groups the result by the columns of the asset, and returns the
first ones beyond the cursor in the order of the symbols.  The order is the
collation of the database, and its `lower` and Python's come in as functions.
-/

variable {F : Type}

/-- The order of texts in the database. -/
structure Collation (Position : Type) where
  position : String -> Position
  injective : Function.Injective position

/-- `str.lower` and the `lower` of the database. -/
structure Lowercase where
  python : String -> String
  sql : String -> String

/-- `text LIKE pattern`: `%` stands for any text, `_` for one character, and a
backslash takes the character after it as it is. -/
def sqlLike : List Char -> List Char -> Bool
  | [], text => text.isEmpty
  | '%' :: pattern, text => text.tails.any (fun rest => sqlLike pattern rest)
  | '_' :: pattern, text =>
    match text with
    | [] => false
    | _ :: rest => sqlLike pattern rest
  | '\\' :: c :: pattern, text =>
    match text with
    | [] => false
    | d :: rest => c == d && sqlLike pattern rest
  | c :: pattern, text =>
    match text with
    | [] => false
    | d :: rest => c == d && sqlLike pattern rest

/-- The filters of a listing. -/
structure ListFilter where
  exchange : Option String
  assetClass : Option String
  q : Option String
  deriving DecidableEq, Repr

/-- An argument that `if argument:` takes as given. -/
def truthy (argument : Option String) : Option String :=
  argument.filter (fun text => decide (text ≠ ""))

namespace AssetsRepo

/-- `lower(a.symbol) || ' ' || lower(a.name)`. -/
def searchText (lower : Lowercase) (asset : AssetRow) : String :=
  lower.sql asset.symbol ++ " " ++ lower.sql asset.name

/-- `searchText LIKE '%q%'`. -/
def textMatches (lower : Lowercase) (q : String) (asset : AssetRow) : Bool :=
  sqlLike ("%" ++ lower.python q ++ "%").toList (searchText lower asset).toList

/-- The `WHERE` clauses of the filters. -/
def meetsFilter (lower : Lowercase) (filter : ListFilter) (asset : AssetRow) : Bool :=
  (match truthy filter.exchange with
    | none => true
    | some exchange => decide (asset.exchange = exchange)) &&
  (match truthy filter.assetClass with
    | none => true
    | some assetClass => decide (asset.assetClass = assetClass)) &&
  (match truthy filter.q with
    | none => true
    | some q => textMatches lower q asset)

section Query

variable {Position : Type} [LinearOrder Position] (collation : Collation Position)

/-- The `WHERE` clause of the cursor. -/
def afterCursor (cursor : Option String) (asset : AssetRow) : Bool :=
  match truthy cursor with
  | none => true
  | some last => decide (collation.position last < collation.position asset.symbol)

/-- `LEFT JOIN feeds f ON f.storage_symbol = a.storage_symbol`. -/
def matchingFeeds (db : Database F) (asset : AssetRecord) : List FeedRecord :=
  db.feeds.select (fun feed => decide (feed.storageSymbol = asset.storageSymbol))

/-- `LEFT JOIN cache_meta cm ON cm.symbol = a.storage_symbol AND
cm.timeframe = f.timeframe`. -/
def matchingMeta (db : Database F) (joined : AssetRecord × Option FeedRecord) : List MetaRow :=
  match joined.2 with
  | none => []
  | some feed =>
    db.store.cacheMeta.select (fun row =>
      decide (row.bucket.symbol = joined.1.storageSymbol) &&
        decide (row.bucket.timeframe = feed.timeframe))

/-- A row of the joined tables. -/
abbrev JoinedRow : Type := (AssetRecord × Option FeedRecord) × Option MetaRow

/-- The joined tables. -/
def joinedRows (db : Database F) (assets : List AssetRecord) : List JoinedRow :=
  leftJoin (leftJoin assets (matchingFeeds db)) (matchingMeta db)

/-- The columns that are selected for a group. -/
def groupColumns (group : AssetRow × List JoinedRow) : AssetWithStatusRow :=
  let rows := group.2.map (fun row => (row.1.2, row.2))
  { asset := group.1, status := aggStatus rows, lastBarTs := maxLastBarTs rows }

/-- The columns of `GROUP BY`, which are those of the asset. -/
def groupedAsset (row : JoinedRow) : AssetRow := row.1.1.toAssetRow

/-- The place of a row in `ORDER BY a.symbol`. -/
def symbolPosition (row : AssetWithStatusRow) : Position := collation.position row.asset.symbol

/-- `max(1, min(int(limit), 500))`. -/
def clampedLimit (limit : Int) : Nat := (max 1 (min limit 500)).toNat

/-- The groups that the query reads, before its `LIMIT`. -/
def listedGroups (lower : Lowercase) (filter : ListFilter) (cursor : Option String)
    (db : Database F) : List AssetWithStatusRow :=
  let selected := (joinedRows db db.assets.rows).filter (fun row =>
    meetsFilter lower filter (groupedAsset row) && afterCursor collation cursor (groupedAsset row))
  sortBy (symbolPosition collation) ((groupBy groupedAsset selected).map groupColumns)

/-- `list_with_status`. -/
def listWithStatus (lower : Lowercase) (filter : ListFilter) (cursor : Option String)
    (limit : Int) (db : Database F) : List AssetWithStatusRow × Option String :=
  let clamped := clampedLimit limit
  -- one more row than the page holds
  let rows := (listedGroups collation lower filter cursor db).take (clamped + 1)
  if clamped < rows.length then
    let page := rows.take clamped
    (page, page.getLast?.map (fun row => row.asset.symbol))
  else (rows, none)

end Query

end AssetsRepo

end HybridDataSvc
