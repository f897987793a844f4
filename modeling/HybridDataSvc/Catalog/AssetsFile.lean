import HybridDataSvc.Catalog.Sync

namespace HybridDataSvc

open Relational AssetsRepo

/-!
# The catalog file

`services/assets_loader.py`: what `yaml.safe_load` returns is checked entry by
entry and upserted.  The checks look at the symbol and the class of an entry;
the other values go to the database as they are, which stores the text of a
value that is not a text and refuses a missing one in a required column.
-/

variable {F : Type}

/-- A value of an entry: `None`, a text, or any other value with the text the
database stores for it, if it takes the value at all.  A list and a mapping have no
hash.  A value is shown if its `repr` does not raise, as that of a number with too
many digits does. -/
inductive YamlValue
  | null
  | text (value : String)
  | other (shown : Bool) (column : Option String)
  | unhashable (typeName : String) (shown : Bool) (column : Option String)
  deriving DecidableEq, Repr

/-- An element of the list of entries. -/
inductive YamlEntry
  | notMapping
  | mapping (fields : List (String × YamlValue))
  deriving DecidableEq, Repr

/-- What the file holds under `assets`. -/
inductive YamlAssets
  | null
  | notList
  | entries (entries : List YamlEntry)
  deriving DecidableEq, Repr

/-- What `yaml.safe_load` returns for the file. -/
inductive YamlFile
  | empty
  | notMapping
  | mapping (assets : YamlAssets)
  deriving DecidableEq, Repr

/-- `AssetsYamlError`, one constructor for each message. -/
inductive AssetsYamlError
  | notMapping
  | missingAssets
  | assetsNotList
  | entryNotMapping (entry : Nat)
  | missingKey (entry : Nat) (key : String)
  | symbolNotUppercase (entry : Nat)
  | badAssetClass (entry : Nat)
  | duplicateSymbol (entry : Nat) (symbol : String)
  deriving DecidableEq, Repr

/-- What leaves `load_assets_yaml`: an `AssetsYamlError`, the error of a value without
a hash, or the one of a value that its message cannot show. -/
inductive LoadError
  | yaml (raised : AssetsYamlError)
  | typeError (message : String)
  | notShown
  deriving DecidableEq, Repr

/-- The `AssetRow` made of an entry. -/
structure FileAsset where
  symbol : String
  storageSymbol : YamlValue
  name : YamlValue
  exchange : YamlValue
  currency : YamlValue
  assetClass : String
  assetSubclass : YamlValue
  isin : YamlValue
  country : YamlValue
  deriving DecidableEq, Repr

namespace AssetsLoader

/-- `entry[key]`. -/
def requiredKey (entry : Nat) (fields : List (String × YamlValue)) (key : String) :
    Except LoadError YamlValue :=
  match fields.lookup key with
  | some value => .ok value
  | none => .error (.yaml (.missingKey entry key))

/-- `entry.get(key)`. -/
def optionalKey (fields : List (String × YamlValue)) (key : String) : YamlValue :=
  (fields.lookup key).getD .null

/-- An error with a value in its message. -/
def messageWith (shown : Bool) (raised : AssetsYamlError) : LoadError :=
  if shown then .yaml raised else .notShown

/-- `isinstance(symbol, str) and symbol == symbol.upper()`. -/
def uppercaseSymbol (upper : String -> String) (entry : Nat) (symbol : YamlValue) :
    Except LoadError String :=
  match symbol with
  | .text value =>
    if value = upper value then .ok value else .error (.yaml (.symbolNotUppercase entry))
  | .null => .error (.yaml (.symbolNotUppercase entry))
  | .other shown _ => .error (messageWith shown (.symbolNotUppercase entry))
  | .unhashable _ shown _ => .error (messageWith shown (.symbolNotUppercase entry))

/-- `asset_class in _VALID_ASSET_CLASSES`. -/
def validClass (entry : Nat) (assetClass : YamlValue) : Except LoadError String :=
  match assetClass with
  | .text value =>
    if value ∈ AssetServiceServicer.validAssetClasses then .ok value
    else .error (.yaml (.badAssetClass entry))
  | .null => .error (.yaml (.badAssetClass entry))
  | .other shown _ => .error (messageWith shown (.badAssetClass entry))
  | .unhashable typeName _ _ => .error (.typeError ("unhashable type: " ++ pyRepr typeName))

/-- One round of the loop of `_parse_entries`, but for the duplicates. -/
def parseEntry (upper : String -> String) (entry : Nat) (fields : List (String × YamlValue)) :
    Except LoadError FileAsset := do
  let symbol ← requiredKey entry fields "symbol"
  let storageSymbol ← requiredKey entry fields "storage_symbol"
  let name ← requiredKey entry fields "name"
  let exchange ← requiredKey entry fields "exchange"
  let currency ← requiredKey entry fields "currency"
  let assetClass ← requiredKey entry fields "asset_class"
  let symbol ← uppercaseSymbol upper entry symbol
  let assetClass ← validClass entry assetClass
  return { symbol := symbol, storageSymbol := storageSymbol, name := name, exchange := exchange,
           currency := currency, assetClass := assetClass,
           assetSubclass := optionalKey fields "asset_subclass",
           isin := optionalKey fields "isin", country := optionalKey fields "country" }

/-- The loop of `_parse_entries`, with the symbols seen so far. -/
def parseEntries (upper : String -> String) :
    Nat -> List String -> List YamlEntry -> Except LoadError (List FileAsset)
  | _, _, [] => .ok []
  | entry, _, .notMapping :: _ => .error (.yaml (.entryNotMapping entry))
  | entry, seen, .mapping fields :: rest =>
    match parseEntry upper entry fields with
    | .error raised => .error raised
    | .ok asset =>
      if asset.symbol ∈ seen then .error (.yaml (.duplicateSymbol entry asset.symbol))
      else
        match parseEntries upper (entry + 1) (asset.symbol :: seen) rest with
        | .error raised => .error raised
        | .ok later => .ok (asset :: later)

/-- `load_assets_yaml`. -/
def loadAssetsYaml (upper : String -> String) : YamlFile -> Except LoadError (List FileAsset)
  | .empty => .ok []
  | .notMapping => .error (.yaml .notMapping)
  | .mapping .null => .error (.yaml .missingAssets)
  | .mapping .notList => .error (.yaml .assetsNotList)
  | .mapping (.entries entries) => parseEntries upper 0 [] entries

/-! ## The columns -/

/-- A text that the database takes. -/
def storableText (text : String) : Option String :=
  if '\x00' ∈ text.toList then none else some text

/-- The text of a required column. -/
def requiredColumn : YamlValue -> Option String
  | .null => none
  | .text value => storableText value
  | .other _ column => column
  | .unhashable _ _ column => column

/-- The text of a column that may be null. -/
def optionalColumn : YamlValue -> Option (Option String)
  | .null => some none
  | .text value => (storableText value).map some
  | .other _ column => column.map some
  | .unhashable _ _ column => column.map some

/-- The columns of an entry, if the database takes them all. -/
def columns (asset : FileAsset) : Option AssetRow := do
  let symbol ← storableText asset.symbol
  let storageSymbol ← requiredColumn asset.storageSymbol
  let name ← requiredColumn asset.name
  let exchange ← requiredColumn asset.exchange
  let currency ← requiredColumn asset.currency
  let assetSubclass ← optionalColumn asset.assetSubclass
  let isin ← optionalColumn asset.isin
  let country ← optionalColumn asset.country
  return { symbol := symbol, storageSymbol := storageSymbol, name := name, exchange := exchange,
           currency := currency, assetClass := asset.assetClass, assetSubclass := assetSubclass,
           isin := isin, country := country, addedAt := 0 }

/-- What leaves `sync`. -/
inductive SyncError
  | load (raised : LoadError)
  | repository (raised : PyError)
  deriving DecidableEq, Repr

/-- `sync`: a file that is missing is an empty catalog, and a row that the
database does not take fails the whole transaction. -/
def sync (upper : String -> String) (now : Int) (commits : Bool) (file : Option YamlFile)
    (db : Database F) : Except SyncError Nat × Database F :=
  match file with
  | none => (.ok 0, db)
  | some file =>
    match loadAssetsYaml upper file with
    | .error raised => (.error (.load raised), db)
    | .ok assets =>
      match assets.mapM columns with
      | none => (.error (.repository .databaseError), db)
      | some rows =>
        match upsertMany now commits rows db with
        | (.error raised, after) => (.error (.repository raised), after)
        | (.ok written, after) => (.ok written, after)

/-- The rows that a file brings to the database: none if it is missing, is
malformed or has a row that the database does not take. -/
def fileRows (upper : String -> String) (file : Option YamlFile) : List AssetRow :=
  match file with
  | none => []
  | some file =>
    match loadAssetsYaml upper file with
    | .error _ => []
    | .ok assets => (assets.mapM columns).getD []

/-- A sync upserts the rows of the file. -/
theorem sync_eq (upper : String -> String) (now : Int) (commits : Bool) (file : Option YamlFile)
    (db : Database F) :
    (sync upper now commits file db).2 =
      catalogStep db (.sync now commits (fileRows upper file)) := by
  unfold sync fileRows
  cases file with
  | none => rfl
  | some file =>
      simp only
      cases loadAssetsYaml upper file with
      | error raised => rfl
      | ok assets =>
          simp only
          cases assets.mapM columns with
          | none => rfl
          | some rows =>
              simp only [Option.getD_some, catalogStep]
              cases upsertMany now commits rows db with
              | mk result after =>
                  cases result with
                  | error raised => rfl
                  | ok written => rfl

/-! ## A file has each symbol once -/

theorem parseEntries_symbols {upper : String -> String} {entry : Nat} {seen : List String}
    {entries : List YamlEntry} {assets : List FileAsset}
    (parsed : parseEntries upper entry seen entries = .ok assets) :
    (assets.map (fun asset => asset.symbol)).Nodup ∧
      forall asset, asset ∈ assets -> asset.symbol ∉ seen := by
  induction entries generalizing entry seen assets with
  | nil =>
      cases parsed
      exact ⟨List.nodup_nil, by simp⟩
  | cons head rest ih =>
      cases head with
      | notMapping => cases parsed
      | mapping fields =>
          rw [parseEntries] at parsed
          cases first : parseEntry upper entry fields with
          | error raised => simp [first] at parsed
          | ok asset =>
              rw [first] at parsed
              by_cases again : asset.symbol ∈ seen
              · simp [again] at parsed
              · cases later : parseEntries upper (entry + 1) (asset.symbol :: seen) rest with
                | error raised => simp [again, later] at parsed
                | ok others =>
                    simp only [again, if_false, later, Except.ok.injEq] at parsed
                    subst parsed
                    have spec := ih later
                    constructor
                    · rw [List.map_cons, List.nodup_cons]
                      refine ⟨?_, spec.1⟩
                      intro repeated
                      rcases List.mem_map.mp repeated with ⟨other, member, same⟩
                      exact spec.2 other member (same ▸ List.mem_cons_self)
                    · intro other member
                      rcases List.mem_cons.mp member with rfl | tail
                      · exact again
                      · exact fun inSeen => spec.2 other tail (List.mem_cons_of_mem _ inSeen)

theorem symbol_of_columns {asset : FileAsset} {row : AssetRow} (taken : columns asset = some row) :
    row.symbol = asset.symbol := by
  simp only [columns, Option.bind_eq_bind, Option.bind_eq_some_iff, Option.pure_def,
    Option.some.injEq] at taken
  rcases taken with ⟨symbol, stored, storageSymbol, -, name, -, exchange, -, currency, -,
    assetSubclass, -, isin, -, country, -, rfl⟩
  simp only [storableText, Option.ite_none_left_eq_some, Option.some.injEq] at stored
  exact stored.2.symm

theorem symbols_of_mapM_columns {assets : List FileAsset} {rows : List AssetRow}
    (taken : assets.mapM columns = some rows) :
    rows.map (fun row => row.symbol) = assets.map (fun asset => asset.symbol) := by
  induction assets generalizing rows with
  | nil =>
      cases taken
      rfl
  | cons asset rest ih =>
      simp only [List.mapM_cons, Option.bind_eq_bind, Option.bind_eq_some_iff, Option.pure_def,
        Option.some.injEq] at taken
      rcases taken with ⟨row, first, others, later, rfl⟩
      rw [List.map_cons, List.map_cons, symbol_of_columns first, ih later]

theorem loadAssetsYaml_symbols {upper : String -> String} {file : YamlFile}
    {assets : List FileAsset} (loaded : loadAssetsYaml upper file = .ok assets) :
    (assets.map (fun asset => asset.symbol)).Nodup := by
  cases file with
  | empty =>
      cases loaded
      exact List.nodup_nil
  | notMapping => cases loaded
  | mapping content =>
      cases content with
      | null => cases loaded
      | notList => cases loaded
      | entries entries => exact (parseEntries_symbols loaded).1

/-- The rows of a file have distinct symbols. -/
theorem nodup_fileRows (upper : String -> String) (file : Option YamlFile) :
    ((fileRows upper file).map (fun row => row.symbol)).Nodup := by
  cases file with
  | none => exact List.nodup_nil
  | some file =>
      rw [fileRows]
      cases loaded : loadAssetsYaml upper file with
      | error raised => exact List.nodup_nil
      | ok assets =>
          cases taken : assets.mapM columns with
          | none =>
              simp only [taken, Option.getD_none]
              exact List.nodup_nil
          | some rows =>
              simp only [taken, Option.getD_some, symbols_of_mapM_columns taken]
              exact loadAssetsYaml_symbols loaded

end AssetsLoader

end HybridDataSvc
