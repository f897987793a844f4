import HybridDataSvc.Catalog.AssetsFile
import HybridDataSvc.Fallible.Results

namespace HybridDataSvc

open Relational AssetsRepo AssetServiceServicer Fallible

/-!
# Which catalog files are taken

The loader checks the symbol and the class of an entry, and only that the other
required keys are there.  A class that is a list or a mapping has no hash, so that
the check of the class itself raises, and so does a message that cannot show its
value; and a required value that is null, empty or no text at all is returned with the
rows.  For every value that a document can have, what the loader does is right exactly
when none of this happens.
-/

variable {F : Type}

/-! ## Parsed documents -/

/-- A value that `yaml.safe_load` returns, a pair being one of `!!pairs`.  Floats, times
and bytes are given as they are written. -/
inductive Yaml
  | null
  | bool (value : Bool)
  | int (value : Int)
  | float (written : String)
  | text (value : String)
  | time (written : String)
  | bytes (written : String)
  | set (members : List Yaml)
  | pair (first second : Yaml)
  | list (items : List Yaml)
  | mapping (items : List (Yaml × Yaml))

namespace Yaml

variable (shown : Yaml -> Bool) (column : Yaml -> Option String)

/-- A value of an entry, with whether its `repr` succeeds and what the database stores
for it.  A set is looked up in a set as a frozen one, so that it has a hash there. -/
def value : Yaml -> YamlValue
  | .null => .null
  | .text value => .text value
  | .list items => .unhashable "list" (shown (.list items)) (column (.list items))
  | .mapping items => .unhashable "dict" (shown (.mapping items)) (column (.mapping items))
  | other => .other (shown other) (column other)

/-- A key of a mapping as the loader looks it up: only texts are equal to a text. -/
def field : Yaml × Yaml -> Option (String × YamlValue)
  | (.text key, content) => some (key, value shown column content)
  | _ => none

def entry : Yaml -> YamlEntry
  | .mapping items => .mapping (items.filterMap (field shown column))
  | _ => .notMapping

/-- `raw.get("assets")`. -/
def assetsOf (items : List (Yaml × Yaml)) : Option Yaml :=
  (items.find? (fun item => match item.1 with | .text key => key == "assets" | _ => false)).map
    Prod.snd

/-- The document as the loader tells its values apart. -/
def file : Yaml -> YamlFile
  | .null => .empty
  | .mapping items =>
    match assetsOf items with
    | none => .mapping .null
    | some .null => .mapping .null
    | some (.list entries) => .mapping (.entries (entries.map (entry shown column)))
    | some _ => .mapping .notList
  | _ => .notMapping

end Yaml

namespace YamlValue

/-- `repr` of the value does not raise. -/
def isShown : YamlValue -> Bool
  | .other shown _ => shown
  | .unhashable _ shown _ => shown
  | _ => true

def isHashable : YamlValue -> Bool
  | .unhashable _ _ _ => false
  | _ => true

end YamlValue

/-- The loader has raised what it documents. -/
def LoadError.IsYaml (raised : LoadError) : Prop := exists error, raised = .yaml error

namespace AssetsLoader

/-! ## What the loader checks of an entry -/

/-- The keys that `_parse_entries` reads first. -/
def requiredKeys : List String :=
  ["symbol", "storage_symbol", "name", "exchange", "currency", "asset_class"]

/-- The asset has the values of the entry. -/
structure MadeOf (fields : List (String × YamlValue)) (asset : FileAsset) : Prop where
  symbol : fields.lookup "symbol" = some (.text asset.symbol)
  storageSymbol : fields.lookup "storage_symbol" = some asset.storageSymbol
  name : fields.lookup "name" = some asset.name
  exchange : fields.lookup "exchange" = some asset.exchange
  currency : fields.lookup "currency" = some asset.currency
  assetClass : fields.lookup "asset_class" = some (.text asset.assetClass)
  assetSubclass : optionalKey fields "asset_subclass" = asset.assetSubclass
  isin : optionalKey fields "isin" = asset.isin
  country : optionalKey fields "country" = asset.country

/-- The asset is that of a mapping which passes the checks. -/
structure RowOf (upper : String -> String) (entry : YamlEntry) (asset : FileAsset) : Prop where
  made : exists fields, entry = .mapping fields ∧ MadeOf fields asset
  uppercase : asset.symbol = upper asset.symbol
  assetClass : asset.assetClass ∈ validAssetClasses

/-- A check of the entry raises what is no `AssetsYamlError`: the symbol is no text and
cannot be shown, or the symbol is good and the class has no hash or cannot be shown. -/
inductive Chokes (upper : String -> String) (fields : List (String × YamlValue)) : Prop
  | symbol {value : YamlValue}
      (present : forall key, key ∈ requiredKeys -> exists content, fields.lookup key = some content)
      (found : fields.lookup "symbol" = some value)
      (notShown : value.isShown = false)
  | assetClass {text : String} {value : YamlValue}
      (present : forall key, key ∈ requiredKeys -> exists content, fields.lookup key = some content)
      (symbol : fields.lookup "symbol" = some (.text text))
      (uppercase : text = upper text)
      (found : fields.lookup "asset_class" = some value)
      (bad : value.isHashable = false ∨ value.isShown = false)

theorem requiredKey_ok_iff (entry : Nat) (fields : List (String × YamlValue)) (key : String)
    (value : YamlValue) :
    requiredKey entry fields key = .ok value ↔ fields.lookup key = some value := by
  unfold requiredKey
  cases fields.lookup key <;> simp

theorem isYaml_of_requiredKey {entry : Nat} {fields : List (String × YamlValue)} {key : String}
    {raised : LoadError} (fails : requiredKey entry fields key = .error raised) :
    raised.IsYaml := by
  unfold requiredKey at fails
  cases found : fields.lookup key with
  | none =>
      rw [found] at fails
      cases fails
      exact ⟨_, rfl⟩
  | some value =>
      rw [found] at fails
      cases fails

theorem messageWith_isYaml_iff (shown : Bool) (error : AssetsYamlError) :
    (messageWith shown error).IsYaml ↔ shown = true := by
  cases shown <;> simp [messageWith, LoadError.IsYaml]

theorem uppercaseSymbol_ok_iff (upper : String -> String) (entry : Nat) (value : YamlValue)
    (symbol : String) :
    uppercaseSymbol upper entry value = .ok symbol ↔
      value = .text symbol ∧ symbol = upper symbol := by
  cases value with
  | text text =>
      by_cases same : text = upper text
      · simp only [uppercaseSymbol, if_pos same, Except.ok.injEq, YamlValue.text.injEq]
        constructor
        · rintro rfl
          exact ⟨rfl, same⟩
        · exact fun both => both.1
      · simp only [uppercaseSymbol, if_neg same, YamlValue.text.injEq]
        apply iff_of_false
        · intro impossible
          cases impossible
        · rintro ⟨rfl, equal⟩
          exact same equal
  | _ => simp [uppercaseSymbol]

theorem uppercaseSymbol_escapes_iff (upper : String -> String) (entry : Nat)
    (value : YamlValue) :
    (exists raised, uppercaseSymbol upper entry value = .error raised ∧ ¬ raised.IsYaml) ↔
      value.isShown = false := by
  cases value with
  | null => simp [uppercaseSymbol, LoadError.IsYaml, YamlValue.isShown]
  | text text =>
      by_cases same : text = upper text
      · simp only [uppercaseSymbol, if_pos same]
        simp [YamlValue.isShown]
      · simp only [uppercaseSymbol, if_neg same]
        simp [LoadError.IsYaml, YamlValue.isShown]
  | other shown column => simp [uppercaseSymbol, messageWith_isYaml_iff, YamlValue.isShown]
  | unhashable typeName shown column =>
      simp [uppercaseSymbol, messageWith_isYaml_iff, YamlValue.isShown]

theorem validClass_ok_iff (entry : Nat) (value : YamlValue) (assetClass : String) :
    validClass entry value = .ok assetClass ↔
      value = .text assetClass ∧ assetClass ∈ validAssetClasses := by
  cases value with
  | text text =>
      by_cases valid : text ∈ validAssetClasses
      · simp only [validClass, if_pos valid, Except.ok.injEq, YamlValue.text.injEq]
        constructor
        · rintro rfl
          exact ⟨rfl, valid⟩
        · exact fun both => both.1
      · simp only [validClass, if_neg valid, YamlValue.text.injEq]
        apply iff_of_false
        · intro impossible
          cases impossible
        · rintro ⟨rfl, member⟩
          exact valid member
  | _ => simp [validClass]

theorem validClass_escapes_iff (entry : Nat) (value : YamlValue) :
    (exists raised, validClass entry value = .error raised ∧ ¬ raised.IsYaml) ↔
      value.isHashable = false ∨ value.isShown = false := by
  cases value with
  | null => simp [validClass, LoadError.IsYaml, YamlValue.isHashable, YamlValue.isShown]
  | text text =>
      by_cases valid : text ∈ validAssetClasses <;>
        simp [validClass, valid, LoadError.IsYaml, YamlValue.isHashable, YamlValue.isShown]
  | other shown column =>
      simp [validClass, messageWith_isYaml_iff, YamlValue.isHashable, YamlValue.isShown]
  | unhashable typeName shown column =>
      simp [validClass, LoadError.IsYaml, YamlValue.isHashable]

variable {upper : String -> String}

theorem parseEntry_ok_iff (entry : Nat) (fields : List (String × YamlValue)) (asset : FileAsset) :
    parseEntry upper entry fields = .ok asset ↔ RowOf upper (.mapping fields) asset := by
  unfold parseEntry
  simp only [bind_eq_ok_iff, requiredKey_ok_iff, uppercaseSymbol_ok_iff, validClass_ok_iff]
  constructor
  · rintro ⟨_, symbol, storageSymbol, foundStorage, name, foundName, exchange, foundExchange,
      currency, foundCurrency, _, assetClass, text, ⟨rfl, uppercase⟩, classText, ⟨rfl, valid⟩, made⟩
    cases made
    exact ⟨⟨fields, rfl, symbol, foundStorage, foundName, foundExchange, foundCurrency,
      assetClass, rfl, rfl, rfl⟩, uppercase, valid⟩
  · rintro ⟨⟨_, same, made⟩, uppercase, valid⟩
    cases same
    refine ⟨_, made.symbol, _, made.storageSymbol, _, made.name, _, made.exchange, _,
      made.currency, _, made.assetClass, _, ⟨rfl, uppercase⟩, _, ⟨rfl, valid⟩, ?_⟩
    rw [made.assetSubclass, made.isin, made.country]
    rfl

/-- The keys are looked up before anything is checked. -/
theorem requiredKeys_present {fields : List (String × YamlValue)}
    {symbol storageSymbol name exchange currency assetClass : YamlValue}
    (foundSymbol : fields.lookup "symbol" = some symbol)
    (foundStorage : fields.lookup "storage_symbol" = some storageSymbol)
    (foundName : fields.lookup "name" = some name)
    (foundExchange : fields.lookup "exchange" = some exchange)
    (foundCurrency : fields.lookup "currency" = some currency)
    (foundClass : fields.lookup "asset_class" = some assetClass) :
    forall key, key ∈ requiredKeys -> exists content, fields.lookup key = some content := by
  intro key member
  simp only [requiredKeys, List.mem_cons, List.not_mem_nil, or_false] at member
  rcases member with rfl | rfl | rfl | rfl | rfl | rfl
  · exact ⟨_, foundSymbol⟩
  · exact ⟨_, foundStorage⟩
  · exact ⟨_, foundName⟩
  · exact ⟨_, foundExchange⟩
  · exact ⟨_, foundCurrency⟩
  · exact ⟨_, foundClass⟩

theorem chokes_of_parseEntry {entry : Nat} {fields : List (String × YamlValue)}
    {raised : LoadError} (fails : parseEntry upper entry fields = .error raised)
    (escapes : ¬ raised.IsYaml) : Chokes upper fields := by
  unfold parseEntry at fails
  simp only [bind_eq_error_iff, requiredKey_ok_iff] at fails
  have missing : forall key, requiredKey entry fields key ≠ .error raised :=
    fun key absent => escapes (isYaml_of_requiredKey absent)
  simp only [missing, false_or] at fails
  rcases fails with ⟨symbol, foundSymbol, storageSymbol, foundStorage, name, foundName, exchange,
    foundExchange, currency, foundCurrency, assetClass, foundClass, fails⟩
  have present := requiredKeys_present foundSymbol foundStorage foundName foundExchange
    foundCurrency foundClass
  rcases fails with bad | ⟨text, good, bad | ⟨valid, -, made⟩⟩
  · exact Chokes.symbol present foundSymbol
      ((uppercaseSymbol_escapes_iff upper entry symbol).mp ⟨raised, bad, escapes⟩)
  · rcases (uppercaseSymbol_ok_iff upper entry symbol text).mp good with ⟨rfl, uppercase⟩
    exact Chokes.assetClass present foundSymbol uppercase foundClass
      ((validClass_escapes_iff entry assetClass).mp ⟨raised, bad, escapes⟩)
  · cases made

theorem requiredKeys_found {fields : List (String × YamlValue)}
    (present : forall key, key ∈ requiredKeys -> exists content,
      fields.lookup key = some content) :
    exists storageSymbol name exchange currency assetClass,
      fields.lookup "storage_symbol" = some storageSymbol ∧
      fields.lookup "name" = some name ∧ fields.lookup "exchange" = some exchange ∧
      fields.lookup "currency" = some currency ∧
      fields.lookup "asset_class" = some assetClass := by
  rcases present "storage_symbol" (by decide) with ⟨storageSymbol, foundStorage⟩
  rcases present "name" (by decide) with ⟨name, foundName⟩
  rcases present "exchange" (by decide) with ⟨exchange, foundExchange⟩
  rcases present "currency" (by decide) with ⟨currency, foundCurrency⟩
  rcases present "asset_class" (by decide) with ⟨assetClass, foundClass⟩
  exact ⟨storageSymbol, name, exchange, currency, assetClass, foundStorage, foundName,
    foundExchange, foundCurrency, foundClass⟩

theorem parseEntry_of_chokes (entry : Nat) {fields : List (String × YamlValue)}
    (chokes : Chokes upper fields) :
    exists raised, parseEntry upper entry fields = .error raised ∧ ¬ raised.IsYaml := by
  unfold parseEntry
  simp only [bind_eq_error_iff, requiredKey_ok_iff]
  cases chokes with
  | symbol present found notShown =>
      rcases requiredKeys_found present with ⟨storageSymbol, name, exchange, currency, assetClass, foundStorage,
        foundName, foundExchange, foundCurrency, foundClass⟩
      rcases (uppercaseSymbol_escapes_iff upper entry _).mpr notShown with ⟨raised, bad, escapes⟩
      exact ⟨raised, Or.inr ⟨_, found, Or.inr ⟨_, foundStorage, Or.inr ⟨_, foundName,
        Or.inr ⟨_, foundExchange, Or.inr ⟨_, foundCurrency, Or.inr ⟨_, foundClass,
        Or.inl bad⟩⟩⟩⟩⟩⟩, escapes⟩
  | assetClass present symbol uppercase found bad =>
      rcases requiredKeys_found present with ⟨storageSymbol, name, exchange, currency, assetClass, foundStorage,
        foundName, foundExchange, foundCurrency, -⟩
      rcases (validClass_escapes_iff entry _).mpr bad with ⟨raised, bad, escapes⟩
      have good := (uppercaseSymbol_ok_iff upper entry _ _).mpr ⟨rfl, uppercase⟩
      exact ⟨raised, Or.inr ⟨_, symbol, Or.inr ⟨_, foundStorage, Or.inr ⟨_, foundName,
        Or.inr ⟨_, foundExchange, Or.inr ⟨_, foundCurrency, Or.inr ⟨_, found,
        Or.inr ⟨_, good, Or.inl bad⟩⟩⟩⟩⟩⟩⟩, escapes⟩

/-! ## A list of entries -/

/-- The rows are those of the entries, in their order, and none has the symbol of
another or one seen before. -/
structure RowsOf (upper : String -> String) (seen : List String) (entries : List YamlEntry)
    (assets : List FileAsset) : Prop where
  rows : List.Forall₂ (RowOf upper) entries assets
  distinct : (assets.map (fun asset => asset.symbol)).Nodup
  fresh : forall asset, asset ∈ assets -> asset.symbol ∉ seen

/-- Every entry passes the checks. -/
def Accepted (upper : String -> String) (seen : List String) (entries : List YamlEntry) : Prop :=
  exists assets, RowsOf upper seen entries assets

namespace RowsOf

variable {seen : List String} {entry : YamlEntry} {rest : List YamlEntry} {asset : FileAsset}
  {assets : List FileAsset}

theorem nil (upper : String -> String) (seen : List String) : RowsOf upper seen [] [] :=
  ⟨List.Forall₂.nil, List.nodup_nil, by simp⟩

theorem cons_iff :
    RowsOf upper seen (entry :: rest) (asset :: assets) ↔
      RowOf upper entry asset ∧ asset.symbol ∉ seen ∧
        RowsOf upper (asset.symbol :: seen) rest assets := by
  constructor
  · rintro ⟨rows, distinct, fresh⟩
    rw [List.map_cons, List.nodup_cons] at distinct
    refine ⟨(List.forall₂_cons.mp rows).1, fresh asset List.mem_cons_self,
      (List.forall₂_cons.mp rows).2, distinct.2, ?_⟩
    intro other member
    rw [List.mem_cons, not_or]
    constructor
    · intro same
      exact distinct.1 (List.mem_map.mpr ⟨other, member, same⟩)
    · exact fresh other (List.mem_cons_of_mem _ member)
  · rintro ⟨row, new, later⟩
    refine ⟨List.Forall₂.cons row later.rows, ?_, ?_⟩
    · rw [List.map_cons, List.nodup_cons]
      refine ⟨?_, later.distinct⟩
      intro again
      rcases List.mem_map.mp again with ⟨other, member, same⟩
      exact later.fresh other member (same ▸ List.mem_cons_self)
    · intro other member
      rcases List.mem_cons.mp member with rfl | tail
      · exact new
      · exact fun inSeen => later.fresh other tail (List.mem_cons_of_mem _ inSeen)

theorem cons_left_iff :
    RowsOf upper seen (entry :: rest) assets ↔
      exists asset others, RowOf upper entry asset ∧ asset.symbol ∉ seen ∧
        RowsOf upper (asset.symbol :: seen) rest others ∧ assets = asset :: others := by
  constructor
  · intro whole
    cases assets with
    | nil => cases whole.rows
    | cons asset others =>
        rcases cons_iff.mp whole with ⟨row, new, later⟩
        exact ⟨asset, others, row, new, later, rfl⟩
  · rintro ⟨asset, others, row, new, later, rfl⟩
    exact cons_iff.mpr ⟨row, new, later⟩

end RowsOf

/-- The entry `fields` is reached by the loop, and a check of it raises what is not
documented. -/
def ChokesOn (upper : String -> String) (seen : List String) (entries : List YamlEntry)
    (fields : List (String × YamlValue)) : Prop :=
  exists before after, entries = before ++ .mapping fields :: after ∧
    Accepted upper seen before ∧ Chokes upper fields

theorem not_chokesOn_nil (seen : List String) (fields : List (String × YamlValue)) :
    ¬ ChokesOn upper seen [] fields := by
  rintro ⟨before, after, split, -⟩
  simp at split

theorem chokesOn_cons_iff {seen : List String} {entry : YamlEntry} {rest : List YamlEntry}
    {fields : List (String × YamlValue)} :
    ChokesOn upper seen (entry :: rest) fields ↔
      (entry = .mapping fields ∧ Chokes upper fields) ∨
        exists asset, RowOf upper entry asset ∧ asset.symbol ∉ seen ∧
          ChokesOn upper (asset.symbol :: seen) rest fields := by
  constructor
  · rintro ⟨before, after, split, ⟨assets, rows⟩, chokes⟩
    cases before with
    | nil =>
        cases split
        exact Or.inl ⟨rfl, chokes⟩
    | cons first others =>
        cases split
        cases assets with
        | nil => cases rows.rows
        | cons asset assets =>
            rcases RowsOf.cons_iff.mp rows with ⟨row, new, later⟩
            exact Or.inr ⟨asset, row, new, others, after, rfl, ⟨assets, later⟩, chokes⟩
  · rintro (⟨rfl, chokes⟩ | ⟨asset, row, new, before, after, rfl, ⟨assets, rows⟩, chokes⟩)
    · exact ⟨[], rest, rfl, ⟨[], RowsOf.nil upper seen⟩, chokes⟩
    · exact ⟨entry :: before, after, rfl, ⟨asset :: assets, RowsOf.cons_iff.mpr ⟨row, new, rows⟩⟩,
        chokes⟩

/-- A round of the loop, as steps that may fail. -/
theorem parseEntries_cons (upper : String -> String) (entry : Nat) (seen : List String)
    (fields : List (String × YamlValue)) (rest : List YamlEntry) :
    parseEntries upper entry seen (.mapping fields :: rest) =
      parseEntry upper entry fields >>= fun asset =>
        if asset.symbol ∈ seen then .error (.yaml (.duplicateSymbol entry asset.symbol))
        else
          parseEntries upper (entry + 1) (asset.symbol :: seen) rest >>= fun later =>
            .ok (asset :: later) := by
  rw [parseEntries]
  cases parseEntry upper entry fields with
  | error raised => rfl
  | ok asset =>
      by_cases again : asset.symbol ∈ seen
      · simp only [bind, Except.bind, if_pos again]
      · simp only [bind, Except.bind, if_neg again]
        cases parseEntries upper (entry + 1) (asset.symbol :: seen) rest <;> rfl

theorem parseEntries_cons_ok_iff (entry : Nat) (seen : List String)
    (fields : List (String × YamlValue)) (rest : List YamlEntry) (assets : List FileAsset) :
    parseEntries upper entry seen (.mapping fields :: rest) = .ok assets ↔
      exists asset others, RowOf upper (.mapping fields) asset ∧ asset.symbol ∉ seen ∧
        parseEntries upper (entry + 1) (asset.symbol :: seen) rest = .ok others ∧
        assets = asset :: others := by
  rw [parseEntries_cons, bind_eq_ok_iff]
  simp only [parseEntry_ok_iff]
  constructor
  · rintro ⟨asset, row, goesOn⟩
    by_cases again : asset.symbol ∈ seen
    · rw [if_pos again] at goesOn
      cases goesOn
    · rw [if_neg again, bind_eq_ok_iff] at goesOn
      rcases goesOn with ⟨others, parsed, same⟩
      cases same
      exact ⟨asset, others, row, again, parsed, rfl⟩
  · rintro ⟨asset, others, row, new, parsed, rfl⟩
    refine ⟨asset, row, ?_⟩
    rw [if_neg new]
    exact (bind_eq_ok_iff _).mpr ⟨others, parsed, rfl⟩

/-- The loop returns the rows of the entries exactly if all of them pass. -/
theorem parseEntries_ok_iff (entry : Nat) (seen : List String) (entries : List YamlEntry)
    (assets : List FileAsset) :
    parseEntries upper entry seen entries = .ok assets ↔ RowsOf upper seen entries assets := by
  induction entries generalizing entry seen assets with
  | nil =>
      constructor
      · intro parsed
        cases parsed
        exact RowsOf.nil upper seen
      · rintro ⟨rows, -, -⟩
        cases rows
        rfl
  | cons head rest ih =>
      rw [RowsOf.cons_left_iff]
      cases head with
      | notMapping =>
          apply iff_of_false
          · intro parsed
            cases parsed
          · rintro ⟨asset, others, row, -⟩
            rcases row.made with ⟨fields, impossible, -⟩
            cases impossible
      | mapping fields =>
          rw [parseEntries_cons_ok_iff]
          simp only [ih]

/-- A round raises what is not documented if a check of the entry does, or the rest of
the loop. -/
theorem parseEntries_cons_escapes_iff (entry : Nat) (seen : List String)
    (fields : List (String × YamlValue)) (rest : List YamlEntry) :
    (exists raised, parseEntries upper entry seen (.mapping fields :: rest) = .error raised ∧
        ¬ raised.IsYaml) ↔
      Chokes upper fields ∨ exists asset, RowOf upper (.mapping fields) asset ∧
        asset.symbol ∉ seen ∧ exists raised,
          parseEntries upper (entry + 1) (asset.symbol :: seen) rest = .error raised ∧
          ¬ raised.IsYaml := by
  simp only [parseEntries_cons, bind_eq_error_iff, parseEntry_ok_iff]
  constructor
  · rintro ⟨raised, fails | ⟨asset, row, goesOn⟩, escapes⟩
    · exact Or.inl (chokes_of_parseEntry fails escapes)
    · by_cases again : asset.symbol ∈ seen
      · rw [if_pos again] at goesOn
        cases goesOn
        exact absurd ⟨_, rfl⟩ escapes
      · rw [if_neg again, bind_eq_error_iff] at goesOn
        rcases goesOn with fails | ⟨others, -, impossible⟩
        · exact Or.inr ⟨asset, row, again, raised, fails, escapes⟩
        · cases impossible
  · rintro (chokes | ⟨asset, row, new, raised, fails, escapes⟩)
    · rcases parseEntry_of_chokes entry chokes with ⟨raised, fails, escapes⟩
      exact ⟨raised, Or.inl fails, escapes⟩
    · refine ⟨raised, Or.inr ⟨asset, row, ?_⟩, escapes⟩
      rw [if_neg new]
      exact (bind_eq_error_iff _).mpr (Or.inl fails)

/-- The loop raises what is not documented exactly if a check of an entry that it
reaches does. -/
theorem parseEntries_escapes_iff (entry : Nat) (seen : List String) (entries : List YamlEntry) :
    (exists raised, parseEntries upper entry seen entries = .error raised ∧ ¬ raised.IsYaml) ↔
      exists fields, ChokesOn upper seen entries fields := by
  induction entries generalizing entry seen with
  | nil =>
      apply iff_of_false
      · rintro ⟨raised, impossible, -⟩
        cases impossible
      · rintro ⟨fields, chokes⟩
        exact not_chokesOn_nil seen fields chokes
  | cons head rest ih =>
      simp only [chokesOn_cons_iff]
      cases head with
      | notMapping =>
          apply iff_of_false
          · rintro ⟨raised, fails, escapes⟩
            cases fails
            exact escapes ⟨_, rfl⟩
          · rintro ⟨fields, ⟨impossible, -⟩ | ⟨asset, row, -⟩⟩
            · cases impossible
            · rcases row.made with ⟨found, impossible, -⟩
              cases impossible
      | mapping fields =>
          rw [parseEntries_cons_escapes_iff]
          simp only [ih, exists_or, YamlEntry.mapping.injEq, exists_eq_left']
          apply or_congr Iff.rfl
          constructor
          · rintro ⟨asset, row, new, other, chokes⟩
            exact ⟨other, asset, row, new, chokes⟩
          · rintro ⟨other, asset, row, new, chokes⟩
            exact ⟨asset, row, new, other, chokes⟩

/-! ## A whole document -/

/-- The entries of a document that is well formed so far; an empty one has none. -/
def entryList : YamlFile -> Option (List YamlEntry)
  | .empty => some []
  | .mapping (.entries entries) => some entries
  | _ => none

/-- The values of the required keys are texts, and none of them is empty. -/
def FullText (entry : YamlEntry) : Prop :=
  exists fields, entry = .mapping fields ∧
    forall key, key ∈ requiredKeys ->
      exists text, fields.lookup key = some (.text text) ∧ text ≠ ""

/-- The rows of a well-formed document. -/
def WellFormed (upper : String -> String) (file : YamlFile) (assets : List FileAsset) : Prop :=
  exists entries, entryList file = some entries ∧ RowsOf upper [] entries assets ∧
    forall entry, entry ∈ entries -> FullText entry

/-- The rows of a well-formed document have been returned, or a document that is not
well formed has been refused. -/
def LoadsRight (upper : String -> String) (file : YamlFile)
    (loaded : Except LoadError (List FileAsset)) : Prop :=
  (exists assets, loaded = .ok assets ∧ WellFormed upper file assets) ∨
    exists error, loaded = .error (.yaml error) ∧ forall assets, ¬ WellFormed upper file assets

/-- No entry that the loop reaches raises what is not documented, and if all are
accepted then the values of their required keys are texts. -/
def LoadsOnlyText (upper : String -> String) (file : YamlFile) : Prop :=
  forall entries, entryList file = some entries ->
    (forall fields, ¬ ChokesOn upper [] entries fields) ∧
      (Accepted upper [] entries -> forall entry, entry ∈ entries -> FullText entry)

theorem loadAssetsYaml_of_entryList {file : YamlFile} {entries : List YamlEntry}
    (listed : entryList file = some entries) :
    loadAssetsYaml upper file = parseEntries upper 0 [] entries := by
  cases file with
  | empty =>
      cases listed
      rfl
  | notMapping => cases listed
  | mapping content =>
      cases content with
      | null => cases listed
      | notList => cases listed
      | entries found =>
          cases listed
          rfl

theorem loadAssetsYaml_of_not_listed {file : YamlFile} (refused : entryList file = none) :
    exists error, loadAssetsYaml upper file = .error (.yaml error) := by
  cases file with
  | empty => cases refused
  | notMapping => exact ⟨_, rfl⟩
  | mapping content =>
      cases content with
      | null => exact ⟨_, rfl⟩
      | notList => exact ⟨_, rfl⟩
      | entries found => cases refused

theorem WellFormed.loaded {file : YamlFile} {assets : List FileAsset}
    (wellFormed : WellFormed upper file assets) : loadAssetsYaml upper file = .ok assets := by
  rcases wellFormed with ⟨entries, listed, rows, -⟩
  rw [loadAssetsYaml_of_entryList listed]
  exact (parseEntries_ok_iff 0 [] entries assets).mpr rows

theorem loadsOnlyText_of_loadsRight {file : YamlFile}
    (right : LoadsRight upper file (loadAssetsYaml upper file)) : LoadsOnlyText upper file := by
  intro entries listed
  rw [loadAssetsYaml_of_entryList listed] at right
  constructor
  · intro fields chokes
    rcases (parseEntries_escapes_iff 0 [] entries).mpr ⟨fields, chokes⟩ with
      ⟨raised, fails, escapes⟩
    rw [fails] at right
    rcases right with ⟨assets, impossible, -⟩ | ⟨error, same, -⟩
    · cases impossible
    · cases same
      exact escapes ⟨error, rfl⟩
  · rintro ⟨assets, rows⟩
    rw [(parseEntries_ok_iff 0 [] entries assets).mpr rows] at right
    rcases right with ⟨_, -, found, same, -, full⟩ | ⟨error, impossible, -⟩
    · cases listed.symm.trans same
      exact full
    · cases impossible

/-- A document that has no entries to loop over is refused. -/
theorem loadsRight_of_not_listed {file : YamlFile} (unlisted : entryList file = none) :
    LoadsRight upper file (loadAssetsYaml upper file) := by
  have refused : exists error, loadAssetsYaml upper file = .error (.yaml error) :=
    loadAssetsYaml_of_not_listed unlisted
  rcases refused with ⟨error, refused⟩
  refine Or.inr ⟨error, refused, ?_⟩
  rintro assets ⟨entries, same, -⟩
  cases unlisted.symm.trans same

theorem loadsRight_of_listed {file : YamlFile} {entries : List YamlEntry}
    (listed : entryList file = some entries) (only : LoadsOnlyText upper file) :
    LoadsRight upper file (loadAssetsYaml upper file) := by
  rcases only entries listed with ⟨reached, full⟩
  cases parsed : loadAssetsYaml upper file with
  | ok assets =>
      have rows := parsed
      rw [loadAssetsYaml_of_entryList listed, parseEntries_ok_iff] at rows
      exact Or.inl ⟨assets, rfl, ⟨entries, listed, rows, full ⟨assets, rows⟩⟩⟩
  | error raised =>
      have documented : raised.IsYaml := by
        by_contra escapes
        rw [loadAssetsYaml_of_entryList listed] at parsed
        rcases (parseEntries_escapes_iff 0 [] entries).mp ⟨raised, parsed, escapes⟩ with
          ⟨fields, chokes⟩
        exact reached fields chokes
      rcases documented with ⟨error, rfl⟩
      refine Or.inr ⟨error, rfl, ?_⟩
      intro assets wellFormed
      rw [wellFormed.loaded] at parsed
      cases parsed

theorem loadsRight_iff (file : YamlFile) :
    LoadsRight upper file (loadAssetsYaml upper file) ↔ LoadsOnlyText upper file := by
  constructor
  · exact loadsOnlyText_of_loadsRight
  · intro only
    cases listed : entryList file with
    | none => exact loadsRight_of_not_listed listed
    | some entries => exact loadsRight_of_listed listed only

/-! ## The whole file or nothing -/

/-- Every row is in the catalog, with the time its symbol was added, and nothing else
has changed. -/
structure UpsertsAll (now : Int) (rows : List AssetRow) (before after : Database F) : Prop where
  each : forall row, row ∈ rows -> after.assets.lookup row.symbol =
    some { payloadRow now row with
      addedAt := ((before.assets.lookup row.symbol).map (fun old => old.addedAt)).getD now }
  others : forall symbol, symbol ∉ rows.map (fun row => row.symbol) ->
    after.assets.lookup symbol = before.assets.lookup symbol
  feeds : after.feeds = before.feeds
  store : after.store = before.store

/-- All rows of the file have been upserted, or the sync has raised and the database is
as it was. -/
def SyncsWhole (upper : String -> String) (now : Int) (file : YamlFile) (before : Database F)
    (synced : Except SyncError Nat × Database F) : Prop :=
  (exists assets rows, loadAssetsYaml upper file = .ok assets ∧
    assets.mapM columns = some rows ∧ synced.1 = .ok rows.length ∧
    UpsertsAll now rows before synced.2) ∨
  exists raised, synced = (.error raised, before)

theorem upsertsAll_upsertMany (now : Int) {rows : List AssetRow}
    (distinct : (rows.map (fun row => row.symbol)).Nodup) (db : Database F) :
    UpsertsAll now rows db (upsertMany now true rows db).2 := by
  have keys : (rows.map (payloadRow now)).map AssetRecord.key =
      rows.map (fun row => row.symbol) := by
    rw [List.map_map]
    rfl
  constructor
  · intro row member
    have last : Table.lastUnder AssetRecord.key (rows.map (payloadRow now)) row.symbol =
        some (payloadRow now row) := by
      rw [Table.lastUnder_eq_some_iff (keys ▸ distinct)]
      exact ⟨List.mem_map.mpr ⟨row, member, rfl⟩, rfl⟩
    rw [lookup_upsertMany, last]
  · intro symbol absent
    have last : Table.lastUnder AssetRecord.key (rows.map (payloadRow now)) symbol = none := by
      rw [← Option.not_isSome_iff_eq_none, Table.lastUnder_isSome_iff]
      rintro ⟨_, member, same⟩
      rcases List.mem_map.mp member with ⟨row, listed, rfl⟩
      exact absent (List.mem_map.mpr ⟨row, listed, same⟩)
    rw [lookup_upsertMany, last]
  · exact (upsertMany_frame now true rows db).1
  · exact (upsertMany_frame now true rows db).2

/-- `upsert_many` is one transaction. -/
theorem upsertMany_whole (now : Int) (commits : Bool) {rows : List AssetRow}
    (distinct : (rows.map (fun row => row.symbol)).Nodup) (db : Database F) :
    (exists after, upsertMany now commits rows db = (.ok rows.length, after) ∧
      UpsertsAll now rows db after) ∨
    exists raised, upsertMany now commits rows db = (.error raised, db) := by
  have all := upsertsAll_upsertMany now distinct db
  cases rows with
  | nil => exact Or.inl ⟨_, rfl, all⟩
  | cons row rest =>
      cases commits with
      | true =>
          refine Or.inl ⟨_, ?_, all⟩
          rw [← List.length_map (payloadRow now)]
          rfl
      | false => exact Or.inr ⟨_, rfl⟩

theorem syncsWhole_sync (upper : String -> String) (now : Int) (commits : Bool) (file : YamlFile)
    (db : Database F) : SyncsWhole upper now file db (sync upper now commits (some file) db) := by
  cases loaded : loadAssetsYaml upper file with
  | error raised =>
      refine Or.inr ⟨.load raised, ?_⟩
      simp only [sync, loaded]
  | ok assets =>
      cases taken : assets.mapM columns with
      | none =>
          refine Or.inr ⟨.repository .databaseError, ?_⟩
          simp only [sync, loaded, taken]
      | some rows =>
          have distinct : (rows.map (fun row => row.symbol)).Nodup := by
            rw [symbols_of_mapM_columns taken]
            exact loadAssetsYaml_symbols loaded
          rcases upsertMany_whole now commits distinct db with
            ⟨after, written, all⟩ | ⟨raised, failed⟩
          · refine Or.inl ⟨assets, rows, loaded, taken, ?_, ?_⟩
            · simp only [sync, loaded, taken, written]
            · simp only [sync, loaded, taken, written]
              exact all
          · refine Or.inr ⟨.repository raised, ?_⟩
            simp only [sync, loaded, taken, failed]

/-- For every document: the loader returns the rows of a well-formed one and refuses
any other with an `AssetsYamlError`, and a sync writes all rows or none, exactly if no
check of an entry that the loader reaches chokes, and the required values of a document
that it takes are texts. -/
theorem catalog_file_loads_iff (upper : String -> String) (shown : Yaml -> Bool)
    (column : Yaml -> Option String) (document : Yaml) :
    (LoadsRight upper (document.file shown column)
        (loadAssetsYaml upper (document.file shown column)) ∧
      forall (now : Int) (commits : Bool) (db : Database F),
        SyncsWhole upper now (document.file shown column) db
          (sync upper now commits (some (document.file shown column)) db)) ↔
      LoadsOnlyText upper (document.file shown column) := by
  rw [loadsRight_iff, and_iff_left_iff_imp]
  intro _ now commits db
  exact syncsWhole_sync upper now commits (document.file shown column) db

/-- A document of one entry, but for its name and its class. -/
def oneEntry (name assetClass : Yaml) : Yaml :=
  .mapping [(.text "assets", .list [.mapping
    [(.text "symbol", .text "BTC"), (.text "storage_symbol", .text "BTC/USDT:USDT"),
      (.text "name", name), (.text "exchange", .text "BINANCE"), (.text "currency", .text "USD"),
      (.text "asset_class", assetClass)]])]

/-- A class that is a list raises a `TypeError`, and a name that is null is returned:
neither does what the loader documents. -/
theorem list_class_raises_and_null_name_passes :
    loadAssetsYaml id ((oneEntry (.text "Bitcoin") (.list [.text "CRYPTO"])).file
        (fun _ => true) (fun _ => none)) = .error (.typeError "unhashable type: 'list'") ∧
      ¬ LoadsRight id ((oneEntry (.text "Bitcoin") (.list [.text "CRYPTO"])).file
        (fun _ => true) (fun _ => none)) (.error (.typeError "unhashable type: 'list'")) ∧
      (loadAssetsYaml id ((oneEntry .null (.text "CRYPTO")).file
        (fun _ => true) (fun _ => none))).map (List.map (fun asset => asset.name)) =
          .ok [.null] ∧
      ¬ LoadsRight id ((oneEntry .null (.text "CRYPTO")).file (fun _ => true) (fun _ => none))
        (loadAssetsYaml id ((oneEntry .null (.text "CRYPTO")).file
          (fun _ => true) (fun _ => none))) := by
  refine ⟨by decide, ?_, by decide, ?_⟩
  · rintro (⟨assets, impossible, -⟩ | ⟨error, impossible, -⟩)
    · cases impossible
    · cases impossible
  · rintro (⟨assets, -, entries, listed, -, full⟩ | ⟨error, impossible, -⟩)
    · cases listed
      rcases full _ List.mem_cons_self with ⟨fields, same, texts⟩
      cases same
      rcases texts "name" (by decide) with ⟨text, found, -⟩
      cases found
    · cases impossible

end AssetsLoader

end HybridDataSvc
