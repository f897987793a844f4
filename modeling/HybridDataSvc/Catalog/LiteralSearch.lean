import HybridDataSvc.Catalog.Pagination
import HybridDataSvc.Rest.CatalogRoutes
import HybridDataSvc.Series.Newest
import Mathlib.Data.Bool.AllAny
import Mathlib.Data.List.Infix

namespace HybridDataSvc

open Relational Series AssetsRepo AssetServiceServicer

/-!
# What a search matches

The search puts the query between two `%` and matches it with `LIKE`.  As long as
the query has none of the three characters that `LIKE` reads otherwise, this is the
search for a substring that it is meant to be.  A query that has one of them also
matches a text in which it does not occur: the text that it spells when the
wildcards stand for some letter and what is escaped for itself.  A query with a NUL
does not get as far as that, as the driver refuses the pattern.
-/

/-! ## `LIKE` between two percent signs -/

/-- A character that stands for itself in a pattern. -/
def Plain (c : Char) : Prop := c ≠ '%' ∧ c ≠ '_' ∧ c ≠ '\\'

instance (c : Char) : Decidable (Plain c) := inferInstanceAs (Decidable (_ ∧ _))

theorem sqlLike_plain_cons {c : Char} (plain : Plain c) (pattern : List Char) (d : Char)
    (text : List Char) :
    sqlLike (c :: pattern) (d :: text) = (c == d && sqlLike pattern text) := by
  rcases plain with ⟨noPercent, noUnderscore, noEscape⟩
  rw [sqlLike]
  · exact noPercent
  · exact noUnderscore
  · intro _ _ escape
    exact absurd escape noEscape

theorem sqlLike_plain_nil {c : Char} (plain : Plain c) (pattern : List Char) :
    sqlLike (c :: pattern) [] = false := by
  rcases plain with ⟨noPercent, noUnderscore, noEscape⟩
  rw [sqlLike]
  · exact noPercent
  · exact noUnderscore
  · intro _ _ escape
    exact absurd escape noEscape

/-- A pattern that ends in `%` and is plain before it matches what begins with it. -/
theorem sqlLike_prefix_iff {pattern : List Char} (plain : forall c, c ∈ pattern -> Plain c)
    (text : List Char) : sqlLike (pattern ++ ['%']) text = true ↔ pattern <+: text := by
  induction pattern generalizing text with
  | nil =>
      rw [List.nil_append, sqlLike, List.any_eq_true]
      exact iff_of_true ⟨[], (List.mem_tails _ _).mpr (List.nil_suffix), rfl⟩ List.nil_prefix
  | cons c rest ih =>
      rw [List.forall_mem_cons] at plain
      cases text with
      | nil =>
          rw [List.cons_append, sqlLike_plain_nil plain.1]
          simp
      | cons d text =>
          rw [List.cons_append, sqlLike_plain_cons plain.1, Bool.and_eq_true, beq_iff_eq,
            ih plain.2, List.cons_prefix_cons]

/-- A plain pattern between two `%` matches the texts it occurs in. -/
theorem sqlLike_infix_iff {pattern : List Char} (plain : forall c, c ∈ pattern -> Plain c)
    (text : List Char) :
    sqlLike ('%' :: (pattern ++ ['%'])) text = true ↔ pattern <:+: text := by
  rw [sqlLike, List.any_eq_true, List.infix_iff_prefix_suffix]
  constructor
  · rintro ⟨rest, member, like⟩
    exact ⟨rest, (sqlLike_prefix_iff plain rest).mp like, (List.mem_tails _ _).mp member⟩
  · rintro ⟨rest, begins, ends⟩
    exact ⟨rest, (List.mem_tails _ _).mpr ends, (sqlLike_prefix_iff plain rest).mpr begins⟩

/-- A text that a pattern with a `%` after it spells: some letter for a wildcard, and
the next character for an escape. -/
def spelled : List Char -> List Char
  | [] => []
  | '%' :: pattern => 'x' :: spelled pattern
  | '_' :: pattern => 'x' :: spelled pattern
  | ['\\'] => ['%']
  | '\\' :: c :: pattern => c :: spelled pattern
  | c :: pattern => c :: spelled pattern

theorem sqlLike_spelled (pattern : List Char) :
    sqlLike (pattern ++ ['%']) (spelled pattern) = true := by
  fun_induction spelled pattern with
  | case1 => decide
  | case2 pattern ih =>
      rw [List.cons_append, sqlLike, List.any_eq_true]
      exact ⟨_, (List.mem_tails _ _).mpr (List.suffix_cons _ _), ih⟩
  | case3 pattern ih =>
      rw [List.cons_append, sqlLike]
      exact ih
  | case4 => decide
  | case5 c pattern ih =>
      rw [List.cons_append, List.cons_append, sqlLike, beq_self_eq_true, Bool.true_and]
      exact ih
  | case6 c pattern noPercent noUnderscore noEnd noEscape ih =>
      have plain : Plain c := by
        refine ⟨noPercent, noUnderscore, ?_⟩
        rintro rfl
        cases pattern with
        | nil => exact noEnd rfl rfl
        | cons d rest => exact noEscape d rest rfl rfl
      rw [List.cons_append, sqlLike_plain_cons plain, beq_self_eq_true, Bool.true_and]
      exact ih

/-- Spelling takes away escapes. -/
theorem count_spelled_le (pattern : List Char) :
    (spelled pattern).count '\\' ≤ pattern.count '\\' ∧
      ('\\' ∈ pattern -> (spelled pattern).count '\\' < pattern.count '\\') := by
  fun_induction spelled pattern with
  | case1 => simp
  | case2 pattern ih => simpa using ih
  | case3 pattern ih => simpa using ih
  | case4 => decide
  | case5 c pattern ih =>
      have most := ih.1
      refine ⟨?_, fun _ => ?_⟩ <;>
        · simp only [List.count_cons, beq_self_eq_true, if_true]
          omega
  | case6 c pattern noPercent noUnderscore noEnd noEscape ih =>
      have noBackslash : c ≠ '\\' := by
        rintro rfl
        cases pattern with
        | nil => exact noEnd rfl rfl
        | cons d rest => exact noEscape d rest rfl rfl
      simpa [List.count_cons, noBackslash, Ne.symm noBackslash] using ih

/-- Without escapes it takes away the wildcards. -/
theorem plain_spelled {pattern : List Char} (noEscape : '\\' ∉ pattern) :
    forall c, c ∈ spelled pattern -> Plain c := by
  fun_induction spelled pattern with
  | case1 => simp
  | case2 pattern ih =>
      rw [List.mem_cons, not_or] at noEscape
      exact List.forall_mem_cons.mpr ⟨by decide, ih noEscape.2⟩
  | case3 pattern ih =>
      rw [List.mem_cons, not_or] at noEscape
      exact List.forall_mem_cons.mpr ⟨by decide, ih noEscape.2⟩
  | case4 => simp at noEscape
  | case5 c pattern ih => simp at noEscape
  | case6 c pattern noPercent noUnderscore noEnd noEscape' ih =>
      rw [List.mem_cons, not_or] at noEscape
      exact List.forall_mem_cons.mpr ⟨⟨noPercent, noUnderscore, Ne.symm noEscape.1⟩,
        ih noEscape.2⟩

/-- What a pattern spells does not have the pattern in it unless it is plain, whatever
plain text comes before. -/
theorem not_infix_spelled {pattern : List Char} (special : exists c, c ∈ pattern ∧ ¬ Plain c)
    {lead : List Char} (plainLead : forall c, c ∈ lead -> Plain c) :
    ¬ pattern <:+: lead ++ spelled pattern := by
  intro occurs
  by_cases escape : '\\' ∈ pattern
  · have none : lead.count '\\' = 0 :=
      List.count_eq_zero.mpr (fun member => (plainLead _ member).2.2 rfl)
    have least := occurs.sublist.count_le '\\'
    rw [List.count_append, none, Nat.zero_add] at least
    exact absurd ((count_spelled_le pattern).2 escape) (not_lt.mpr least)
  · rcases special with ⟨c, member, notPlain⟩
    rcases List.mem_append.mp (occurs.subset member) with before | inside
    · exact notPlain (plainLead c before)
    · exact notPlain (plain_spelled escape c inside)

/-! ## The two searches -/

variable {F : Type} {Position : Type} [LinearOrder Position]

/-- The lower-cased query occurs in the searched text of the asset. -/
def containsQuery (lower : Lowercase) (q : String) (asset : AssetRow) : Bool :=
  decide ((lower.python q).toList <:+: (searchText lower asset).toList)

theorem textMatches_eq_containsQuery {lower : Lowercase} {q : String}
    (plain : forall c, c ∈ (lower.python q).toList -> Plain c) (asset : AssetRow) :
    textMatches lower q asset = containsQuery lower q asset := by
  have pattern : ("%" ++ lower.python q ++ "%").toList =
      '%' :: ((lower.python q).toList ++ ['%']) := by
    rw [String.toList_append, String.toList_append]
    rfl
  rw [textMatches, containsQuery, pattern, Bool.eq_iff_iff, decide_eq_true_eq]
  exact sqlLike_infix_iff plain _

section Listing

variable (collation : Collation Position) (lower : Lowercase)

/-- A text that the driver sends as a parameter: texts of the database have no NUL. -/
def isSendable (text : String) : Bool := decide ('\x00' ∉ text.toList)

/-- `Search`, which fails where the driver refuses the pattern. -/
def sendSearch (query : String) (limit : Int) (db : Database F) :
    Except PyError (List AssetMessage) :=
  let stripped := PyText.strip query
  if stripped = "" ∨ isSendable (lower.python (PyText.strip stripped)) then
    .ok (AssetServiceServicer.search collation lower query limit db)
  else .error .databaseError

/-- The parameters of a listing other than the query that are there. -/
def otherParameters (request : ListAssetsRequest) : List String :=
  [request.exchange, request.assetClass, request.cursor].filter (fun text => decide (text ≠ ""))

/-- `ListAssets`. -/
def sendListAssets (request : ListAssetsRequest) (db : Database F) :
    Except PyError (List AssetWithStatusMessage) :=
  if (otherParameters request).all isSendable &&
      (request.query = "" || isSendable (lower.python request.query)) then
    .ok (AssetServiceServicer.listAssets collation lower request db).assets
  else .error .databaseError

/-- The assets `Search` should answer with. -/
def literalSearch (q : String) (limit : Int) (db : Database F) : List AssetMessage :=
  let found := db.assets.rows.filter (fun asset => containsQuery lower q asset.toAssetRow)
  (((sortBy (fun asset : AssetRecord => collation.position asset.symbol) found).take
    (requestedLimit limit 10 50).toNat).map AssetRecord.toAssetRow).map
      rowToAssetMessage

/-- The assets `ListAssets` should list for a query: those of them it lists without
one in which the query occurs. -/
def literalList (q : String) (request : ListAssetsRequest) (db : Database F) :
    Except PyError (List AssetWithStatusMessage) :=
  let filter : ListFilter :=
    { exchange := orNone request.exchange, assetClass := orNone request.assetClass, q := none }
  if (otherParameters request).all isSendable then
    .ok ((((listedGroups collation lower filter (orNone request.cursor) db).filter
      (fun row => containsQuery lower q row.asset)).take
        (clampedLimit (requestedLimit request.limit 100 500))).map rowToAssetWithStatusMessage)
  else .error .databaseError

/-- Both searches for a query are literal, on every catalog and with every limit. -/
structure SearchesLiterally (F : Type) (q : String) : Prop where
  search : forall (db : Database F) limit,
    sendSearch collation lower q limit db =
      .ok (literalSearch collation lower (PyText.strip q) limit db)
  list : forall (db : Database F) request, request.query = PyText.strip q ->
    sendListAssets collation lower request db =
      literalList collation lower (PyText.strip q) request db

theorem listWithStatus_rows (filter : ListFilter) (cursor : Option String) (limit : Int)
    (db : Database F) :
    (listWithStatus collation lower filter cursor limit db).1 =
      (listedGroups collation lower filter cursor db).take (clampedLimit limit) := by
  unfold listWithStatus
  dsimp only
  split
  · rw [List.take_take, min_eq_left (Nat.le_succ _)]
  · next short =>
      rw [List.length_take, not_lt] at short
      rw [List.take_of_length_le (by omega), List.take_of_length_le (by omega)]

/-- A query that matches literally selects from the listing without one. -/
theorem listedGroups_of_literal {q : String} (nonempty : q ≠ "")
    (literal : forall asset, textMatches lower q asset = containsQuery lower q asset)
    (exchange assetClass cursor : Option String) (db : Database F) :
    listedGroups collation lower ⟨exchange, assetClass, some q⟩ cursor db =
      (listedGroups collation lower ⟨exchange, assetClass, none⟩ cursor db).filter
        (fun row => containsQuery lower q row.asset) := by
  have given : truthy (some q) = some q :=
    Option.filter_eq_some_iff.mpr ⟨rfl, decide_eq_true nonempty⟩
  have selects : forall asset, meetsFilter lower ⟨exchange, assetClass, some q⟩ asset =
      (meetsFilter lower ⟨exchange, assetClass, none⟩ asset && containsQuery lower q asset) := by
    intro asset
    rw [meetsFilter, meetsFilter, given, ← literal]
    simp only [truthy, Option.filter_none, Bool.and_true]
  rw [listedGroups_eq, listedGroups_eq, ← sortBy_filter (nodup_withStatus collation db _),
    List.filter_map, List.filter_filter]
  congr 2
  apply List.filter_congr
  intro asset _
  rw [selects, Function.comp_apply, Bool.and_right_comm, Bool.and_comm]
  rfl

/-- A character that neither the pattern language nor the driver reads otherwise. -/
def Ordinary (c : Char) : Prop := Plain c ∧ c ≠ '\x00'

instance (c : Char) : Decidable (Ordinary c) := inferInstanceAs (Decidable (_ ∧ _))

/-- A query of ordinary characters is searched for literally. -/
theorem searchesLiterally_of_ordinary {q : String} (nonempty : PyText.strip q ≠ "")
    (ordinary : forall c, c ∈ (lower.python (PyText.strip q)).toList -> Ordinary c) :
    SearchesLiterally collation lower F q := by
  have plain : forall c, c ∈ (lower.python (PyText.strip q)).toList -> Plain c :=
    fun c member => (ordinary c member).1
  have sendable : isSendable (lower.python (PyText.strip q)) = true :=
    decide_eq_true (fun member => (ordinary _ member).2 rfl)
  constructor
  · intro db limit
    rw [sendSearch]
    simp only [PyText.strip_strip, sendable, or_true, if_true, AssetServiceServicer.search,
      AssetsRepo.search, if_neg nonempty, textMatches_eq_containsQuery plain]
    rfl
  · intro db request same
    have given : orNone request.query = some (PyText.strip q) := by
      rw [same, orNone, if_neg nonempty]
    rw [sendListAssets, literalList, same, sendable, Bool.or_true, Bool.and_true]
    congr 1
    simp only [AssetServiceServicer.listAssets, listWithStatus_rows, given,
      listedGroups_of_literal collation lower nonempty (textMatches_eq_containsQuery plain)]

/-- What is documented of the two functions: Python's leaves no character that has
another lower case, and the database changes nothing in a text without one. -/
structure Lowercase.Documented (isLower : Char -> Prop) : Prop where
  python : forall text c, c ∈ (lower.python text).toList -> isLower c
  sql : forall text : String, (forall c, c ∈ text.toList -> isLower c) -> lower.sql text = text
  ascii : forall c : Char, c.toNat < 128 -> c.isUpper = false -> isLower c

variable {lower}

/-- A catalog with one asset, named by what the query spells. -/
def spelledCatalog (F : Type) (pattern : List Char) : Database F where
  store := Store.empty
  feeds := Table.empty
  assets := ⟨[{
    symbol := "1:1", storageSymbol := "1", name := String.ofList (spelled pattern),
    exchange := "1", currency := "USD", assetClass := "EQUITY", assetSubclass := none,
    isin := none, country := none, addedAt := 0, updatedAt := 0 }], List.nodup_singleton _⟩

theorem isLower_spelled {isLower : Char -> Prop} (letter : isLower 'x') (percent : isLower '%')
    {pattern : List Char} (lowered : forall c, c ∈ pattern -> isLower c) :
    forall c, c ∈ spelled pattern -> isLower c := by
  fun_induction spelled pattern with
  | case1 => exact lowered
  | case2 pattern ih | case3 pattern ih =>
      rw [List.forall_mem_cons] at lowered
      exact List.forall_mem_cons.mpr ⟨letter, ih lowered.2⟩
  | case4 => exact List.forall_mem_singleton.mpr percent
  | case5 c pattern ih =>
      rw [List.forall_mem_cons, List.forall_mem_cons] at lowered
      exact List.forall_mem_cons.mpr ⟨lowered.2.1, ih lowered.2.2⟩
  | case6 c pattern noPercent noUnderscore noEnd noEscape ih =>
      rw [List.forall_mem_cons] at lowered
      exact List.forall_mem_cons.mpr ⟨lowered.1, ih lowered.2⟩

/-- What the database makes of the asset that is named by a query in lower case. -/
theorem searchText_spelledCatalog {isLower : Char -> Prop}
    (documented : lower.Documented isLower) (q : String) {asset : AssetRecord}
    (member : asset ∈ (spelledCatalog F (lower.python q).toList).assets.rows) :
    (searchText lower asset.toAssetRow).toList =
      "1:1 ".toList ++ spelled (lower.python q).toList := by
  have name := documented.sql (String.ofList (spelled (lower.python q).toList)) (by
    rw [String.toList_ofList]
    exact isLower_spelled (documented.ascii 'x' (by decide) (by decide))
      (documented.ascii '%' (by decide) (by decide)) (documented.python _))
  have symbol := documented.sql "1:1" (by
    have small : forall c, c ∈ "1:1".toList -> c.toNat < 128 ∧ c.isUpper = false :=
      List.all_iff_forall_prop.mp (by decide)
    exact fun c member => documented.ascii c (small c member).1 (small c member).2)
  rw [List.mem_singleton.mp member, searchText]
  simp only [name, symbol, String.toList_append, String.toList_ofList]
  rfl

/-- The pattern of a query matches the asset that is named by it. -/
theorem textMatches_spelledCatalog {isLower : Char -> Prop}
    (documented : lower.Documented isLower) (q : String) {asset : AssetRecord}
    (member : asset ∈ (spelledCatalog F (lower.python q).toList).assets.rows) :
    textMatches lower q asset.toAssetRow = true := by
  rw [textMatches, searchText_spelledCatalog documented q member, String.toList_append,
    String.toList_append]
  change sqlLike ('%' :: ((lower.python q).toList ++ ['%'])) _ = true
  rw [sqlLike, List.any_eq_true]
  exact ⟨_, (List.mem_tails _ _).mpr (List.suffix_append _ _), sqlLike_spelled _⟩

/-- A query that is not plain does not occur in it. -/
theorem not_containsQuery_spelledCatalog {isLower : Char -> Prop}
    (documented : lower.Documented isLower) {q : String}
    (special : exists c, c ∈ (lower.python q).toList ∧ ¬ Plain c) {asset : AssetRecord}
    (member : asset ∈ (spelledCatalog F (lower.python q).toList).assets.rows) :
    ¬ containsQuery lower q asset.toAssetRow = true := by
  rw [containsQuery, decide_eq_true_eq, searchText_spelledCatalog documented q member]
  exact not_infix_spelled special (List.all_iff_forall_prop.mp (by decide))

/-- A query with a special character is refused, or finds an asset in which it does
not occur. -/
theorem not_searchesLiterally {isLower : Char -> Prop} (documented : lower.Documented isLower)
    {q : String} (nonempty : PyText.strip q ≠ "")
    (special : exists c, c ∈ (lower.python (PyText.strip q)).toList ∧ ¬ Ordinary c) :
    ¬ SearchesLiterally collation lower F q := by
  intro literal
  have finds := literal.search (spelledCatalog F (lower.python (PyText.strip q)).toList) 1
  rw [sendSearch] at finds
  simp only [PyText.strip_strip] at finds
  have sendable : PyText.strip q = "" ∨ isSendable (lower.python (PyText.strip q)) = true := by
    by_contra refused
    rw [if_neg refused] at finds
    cases finds
  rw [if_pos sendable, Except.ok.injEq] at finds
  have notPlain : exists c, c ∈ (lower.python (PyText.strip q)).toList ∧ ¬ Plain c := by
    rcases special with ⟨c, member, notOrdinary⟩
    refine ⟨c, member, fun plain => notOrdinary ⟨plain, ?_⟩⟩
    rintro rfl
    exact of_decide_eq_true (sendable.resolve_left nonempty) member
  have absent := List.filter_eq_nil_iff.mpr (fun (asset : AssetRecord)
    (member : asset ∈ (spelledCatalog F _).assets.rows) =>
      not_containsQuery_spelledCatalog documented notPlain member)
  have matched := List.filter_eq_self.mpr (fun (asset : AssetRecord)
    (member : asset ∈ (spelledCatalog F _).assets.rows) =>
      textMatches_spelledCatalog documented (PyText.strip q) member)
  rw [literalSearch, absent] at finds
  simp only [AssetServiceServicer.search, AssetsRepo.search, if_neg nonempty,
    PyText.strip_strip, matched] at finds
  cases finds

/-- A query is searched for literally on every catalog exactly when its lower case has
none of the characters `%`, `_` and backslash, and no NUL. -/
theorem searches_literally_iff {isLower : Char -> Prop} (documented : lower.Documented isLower)
    {q : String} (nonempty : PyText.strip q ≠ "") :
    SearchesLiterally collation lower F q ↔
      forall c, c ∈ (lower.python (PyText.strip q)).toList -> Ordinary c := by
  constructor
  · intro literal c member
    by_contra special
    exact not_searchesLiterally collation documented nonempty ⟨c, member, special⟩ literal
  · exact searchesLiterally_of_ordinary collation lower nonempty

end Listing

/-- Lower case where there is nothing but ASCII. -/
def asciiLower : Lowercase :=
  let fold (text : String) := String.ofList (text.toList.map Char.toLower)
  ⟨fold, fold⟩

theorem isUpper_eq_false_iff (c : Char) :
    c.isUpper = false ↔ ¬ ('A'.val ≤ c.val ∧ c.val ≤ 'Z'.val) :=
  decide_eq_false_iff_not

theorem isUpper_toLower (c : Char) : c.toLower.isUpper = false := by
  unfold Char.toLower
  rw [isUpper_eq_false_iff]
  split
  · next upper =>
      have low := UInt32.le_iff_toNat_le.mp upper.1
      have high := UInt32.le_iff_toNat_le.mp upper.2
      simp only [UInt32.le_iff_toNat_le, UInt32.toNat_add]
      simp only [Char.reduceVal, UInt32.reduceToNat, UInt32.reduceSub] at low high ⊢
      omega
  · next notUpper => exact notUpper

theorem toLower_of_not_isUpper {c : Char} (notUpper : c.isUpper = false) : c.toLower = c := by
  unfold Char.toLower
  exact dif_neg ((isUpper_eq_false_iff c).mp notUpper)

theorem asciiLower_documented : asciiLower.Documented (fun c => c.isUpper = false) where
  python := by
    intro text c member
    rw [asciiLower, String.toList_ofList] at member
    rcases List.mem_map.mp member with ⟨d, _, rfl⟩
    exact isUpper_toLower d
  sql := by
    intro text lowered
    have same : text.toList.map Char.toLower = text.toList := by
      conv_rhs => rw [← List.map_id text.toList]
      exact List.map_congr_left (fun c member => toLower_of_not_isUpper (lowered c member))
    rw [asciiLower]
    simp only [same, String.ofList_toList]
  ascii := fun _ _ notUpper => notUpper

/-- A ticker in letters is searched for literally, one with an underscore is not. -/
theorem searches_literally_iff_ticker :
    SearchesLiterally codePointOrder asciiLower Rat " Brk " ∧
      ¬ SearchesLiterally codePointOrder asciiLower Rat "BRK_B" := by
  constructor
  · exact (searches_literally_iff codePointOrder asciiLower_documented (by decide)).mpr
      (List.all_iff_forall_prop.mp (by decide))
  · rw [searches_literally_iff codePointOrder asciiLower_documented (by decide),
      ← List.all_iff_forall_prop]
    decide

/-- The search for a ticker with an underscore finds another one with it. -/
theorem underscore_finds_another :
    let db : Database Rat := catalogStep Database.empty
      (.sync 100 true [fileAsset "NYSE:BRK_B", fileAsset "NYSE:BRKXB"])
    (sendSearch codePointOrder asciiLower "BRK_B" 10 db).map
        (fun assets => assets.map (fun asset => asset.symbol)) =
          .ok ["NYSE:BRKXB", "NYSE:BRK_B"] ∧
      (literalSearch codePointOrder asciiLower "BRK_B" 10 db).map (fun asset => asset.symbol) =
        ["NYSE:BRK_B"] ∧
      ¬ SearchesLiterally codePointOrder asciiLower Rat "BRK_B" := by
  intro db
  have found : (sendSearch codePointOrder asciiLower "BRK_B" 10 db).map
      (fun assets => assets.map (fun asset => asset.symbol)) =
        .ok ["NYSE:BRKXB", "NYSE:BRK_B"] := by decide +kernel
  have wanted : (literalSearch codePointOrder asciiLower "BRK_B" 10 db).map
      (fun asset => asset.symbol) = ["NYSE:BRK_B"] := by decide +kernel
  refine ⟨found, wanted, ?_⟩
  intro literal
  have same := literal.search db 10
  rw [show PyText.strip "BRK_B" = "BRK_B" by decide] at same
  rw [same, Except.map, wanted, Except.ok.injEq] at found
  exact absurd found (by decide)

end HybridDataSvc
