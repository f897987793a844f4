import HybridDataSvc.Rest.BarRoutes
import HybridDataSvc.Serving.NewestBars
import HybridDataSvc.Catalog.Onboarding

namespace HybridDataSvc

open Relational Transition Series AssetServiceServicer

/-!
# How old a quote is

A stored timestamp is the open of a bar that has closed, and the age of a quote is
counted from it.  The newest bar there can be is therefore between one and two bars
old, while the default limit is an hour for every timeframe.
-/

variable {F : Type}

/-- The default of `max_age_seconds`. -/
def defaultMaxAgeSeconds : Int := 3600

/-- A timeframe of the routes has bars of half an hour at most, or of an hour at least. -/
theorem timeframe_seconds (timeframe : Timeframe) :
    exists secs, tfSeconds (restToStorage timeframe.value) = .ok secs ∧ 0 < secs ∧
      (secs ≤ 1800 ∨ 3600 ≤ secs) := by
  cases timeframe
  · exact ⟨60, by decide⟩
  · exact ⟨180, by decide⟩
  · exact ⟨300, by decide⟩
  · exact ⟨900, by decide⟩
  · exact ⟨1800, by decide⟩
  · exact ⟨3600, by decide⟩
  · exact ⟨7200, by decide⟩
  · exact ⟨14400, by decide⟩
  · exact ⟨86400, by decide⟩
  · exact ⟨604800, by decide⟩

theorem FirstWithBars.unique {store : Store F} {symbol timeframe first second : String}
    (isFirst : FirstWithBars store symbol timeframe first)
    (isSecond : FirstWithBars store symbol timeframe second) : first = second := by
  rcases isFirst with ⟨firstBars, before, after, split, earlier⟩
  rcases isSecond with ⟨secondBars, before', after', split', earlier'⟩
  rcases List.append_eq_append_iff.mp (split.symm.trans split') with
    ⟨between, head, tail⟩ | ⟨between, head, tail⟩
  · cases between with
    | nil => exact (List.cons.inj tail).1
    | cons next rest =>
        -- the first provider would come before the second one
        have same := (List.cons.inj tail).1
        exact absurd firstBars (earlier' first (by rw [head, same]; simp))
  · cases between with
    | nil => exact (List.cons.inj tail).1.symm
    | cons next rest =>
        have same := (List.cons.inj tail).1
        exact absurd secondBars (earlier second (by rw [head, same]; simp))

/-- A request without a provider is served by the first one with bars. -/
theorem resolve_of_firstWithBars {store : Store F} (agrees : MetadataAgrees store)
    {symbol timeframe provider : String}
    (served : FirstWithBars store symbol timeframe provider) :
    BarServiceServicer.resolve store symbol timeframe "" = .ok provider := by
  rcases resolve_of_present (mem_presentProviders_iff_hasBars agrees symbol timeframe) with
    ⟨chosen, resolved, isFirst | ⟨_, none⟩⟩
  · rw [resolved, isFirst.unique served]
  · rcases served.2 with ⟨before, after, split, _⟩
    exact absurd served.1 (none provider (by rw [split]; simp))

/-- The last bar of an ascending series is the one with the greatest time. -/
theorem rtake_one_of_greatest {bars : List (Bar F)} (ascending : Ascending Bar.time bars)
    {last : Int} (present : exists bar, bar ∈ bars ∧ bar.time = last)
    (greatest : forall bar, bar ∈ bars -> bar.time ≤ last) :
    exists bar, bar.time = last ∧ bars.rtake 1 = [bar] := by
  rcases List.eq_nil_or_concat bars with rfl | ⟨earlier, final, rfl⟩
  · rcases present with ⟨bar, impossible, _⟩
    cases impossible
  · refine ⟨final, ?_, by simp [List.rtake]⟩
    rcases present with ⟨bar, member, rfl⟩
    have most := greatest final (by simp)
    rw [List.concat_eq_append] at member ascending
    rcases List.mem_append.mp member with before | same
    · have less := (List.pairwise_append.mp ascending).2.2 bar before final (by simp)
      exact absurd (lt_of_lt_of_le less most) (lt_irrefl _)
    · rw [List.mem_singleton.mp same]

/-- `GetRecentBars` for one bar answers with the newest one. -/
theorem getRecentBars_newest {store : Store F} {symbol timeframe provider : String}
    (resolved : BarServiceServicer.resolve store symbol timeframe "" = .ok provider) {last : Int}
    (newest : IsGreatest (store.storedTimes ⟨symbol, timeframe, provider⟩) last) :
    exists bar, bar.time = last ∧
      BarServiceServicer.getRecentBars store ⟨symbol, timeframe, 1, ""⟩ =
        .ok { bars := [bar], truncated := false } := by
  have answer := getRecentBars_resolved resolved 1
  rw [show (effectiveCount 1).toNat = 1 by decide] at answer
  dsimp only at answer
  have ascending : Ascending Bar.time
      ((sortBy BarRow.ts (store.bucketRows ⟨symbol, timeframe, provider⟩)).map BarRow.toBar) :=
    List.pairwise_map.mpr (ascending_sortBy (store.nodup_bucketRows_ts _))
  have present : exists bar, bar ∈ (sortBy BarRow.ts
      (store.bucketRows ⟨symbol, timeframe, provider⟩)).map BarRow.toBar ∧ bar.time = last := by
    rcases newest.1 with ⟨row, member, bucket, ts⟩
    exact ⟨row.toBar, List.mem_map_of_mem ((mem_sortBy row).mpr
      ((Store.mem_bucketRows _ _ _).mpr ⟨member, bucket⟩)), ts⟩
  have greatest : forall bar, bar ∈ (sortBy BarRow.ts
      (store.bucketRows ⟨symbol, timeframe, provider⟩)).map BarRow.toBar -> bar.time ≤ last := by
    intro bar listed
    rcases List.mem_map.mp listed with ⟨row, member, rfl⟩
    have stored := (Store.mem_bucketRows _ _ _).mp ((mem_sortBy row).mp member)
    exact newest.2 ⟨row, stored.1, stored.2, rfl⟩
  rcases rtake_one_of_greatest ascending present greatest with ⟨bar, time, taken⟩
  rw [taken] at answer
  exact ⟨bar, time, answer⟩

/-- The quote of a series of which the newest stored bar is known. -/
theorem getQuote_of_newest {db : Database F} (agrees : MetadataAgrees db.store)
    {tvSymbol : String} (valid : Rest.validPathSymbol tvSymbol = true) {asset : AssetRecord}
    (found : db.assets.lookup tvSymbol = some asset) (timeframe : Timeframe) {provider : String}
    (served : FirstWithBars db.store asset.storageSymbol (restToStorage timeframe.value) provider)
    {last : Int} (newest : IsGreatest (db.store.storedTimes
      ⟨asset.storageSymbol, restToStorage timeframe.value, provider⟩) last)
    (now maxAgeSeconds : Int) :
    exists price, Rest.getQuote (stubsOf db) now tvSymbol timeframe maxAgeSeconds =
      Rest.newQuote asset.symbol timeframe price asset.currency last
        (decide (maxAgeSeconds < now - last)) := by
  have named : tvSymbol ≠ "" := by
    rintro rfl
    revert valid
    decide
  have profile : (stubsOf db).getAssetProfile tvSymbol =
      .ok (some (BarServiceClient.assetMessageToRow (rowToAssetMessage asset.toAssetRow))) := by
    simp only [Stubs.getAssetProfile, stubsOf, AssetServiceServicer.getProfile, if_neg named,
      found]
  rcases getRecentBars_newest (resolve_of_firstWithBars agrees served) newest with
    ⟨bar, rfl, answer⟩
  have latest : (stubsOf db).latestBar asset.storageSymbol (restToStorage timeframe.value) =
      .ok (some bar) := by
    simp only [Stubs.latestBar, stubsOf, answer]
    rfl
  refine ⟨bar.close, ?_⟩
  rw [Rest.getQuote, profile]
  dsimp only [BarServiceClient.assetMessageToRow, rowToAssetMessage]
  rw [latest]

/-- Where the newest bar that can have closed is stored, the quote says that it is not
stale exactly when the response takes the currency, and the bars are half an hour long
at most, or an hour and the clock is at the close of this one. -/
theorem quote_of_newest_iff [PyFloat F] (actions : List (CacheAction F)) {db : Database F}
    (reachable : db.store = run CacheAction.step Store.empty actions)
    {tvSymbol : String} (valid : Rest.validPathSymbol tvSymbol = true) {asset : AssetRecord}
    (found : db.assets.lookup tvSymbol = some asset) (timeframe : Timeframe) {secs : Int}
    (known : tfSeconds (restToStorage timeframe.value) = .ok secs) {provider : String}
    (served : FirstWithBars db.store asset.storageSymbol (restToStorage timeframe.value) provider)
    {last now : Int} (newest : IsGreatest (db.store.storedTimes
      ⟨asset.storageSymbol, restToStorage timeframe.value, provider⟩) last)
    (closed : last + secs ≤ now) (next : now < last + 2 * secs) :
    (exists quote, Rest.getQuote (stubsOf db) now tvSymbol timeframe defaultMaxAgeSeconds =
        .ok quote ∧ quote.stale = false) ↔
      asset.currency.length = 3 ∧ (secs ≤ 1800 ∨ (secs = 3600 ∧ now = last + 3600)) := by
  have agrees : MetadataAgrees db.store := by
    rw [reachable]
    exact invariant_run_always CacheAction.step step_metadataAgrees metadataAgrees_empty actions
  rcases getQuote_of_newest agrees valid found timeframe served newest now defaultMaxAgeSeconds
    with ⟨price, answer⟩
  have age : decide (defaultMaxAgeSeconds < now - last) = false ↔
      secs ≤ 1800 ∨ (secs = 3600 ∧ now = last + 3600) := by
    rcases timeframe_seconds timeframe with ⟨other, lookup, _, short | long⟩ <;>
      cases known.symm.trans lookup <;>
      rw [decide_eq_false_iff_not, defaultMaxAgeSeconds] <;>
      omega
  rw [answer]
  by_cases length : asset.currency.length = 3
  · rw [Rest.newQuote_of_length length, ← age, and_iff_right length]
    constructor
    · rintro ⟨quote, equal, fresh⟩
      cases equal
      exact fresh
    · intro fresh
      exact ⟨_, rfl, fresh⟩
  · rw [Rest.newQuote_of_not_length length]
    refine iff_of_false ?_ (fun both => length both.1)
    rintro ⟨quote, impossible, _⟩
    cases impossible

section Example

def cardano : AssetRecord where
  symbol := "BINANCE:ADAUSDT"
  storageSymbol := "ADA"
  name := "Cardano"
  exchange := "BINANCE"
  currency := "USD"
  assetClass := "CRYPTO"
  assetSubclass := none
  isin := none
  country := none
  addedAt := 100000
  updatedAt := 100000

/-- The catalog knows one asset, and its hourly bar at 3600 has been stored. -/
def cardanoDatabase : Database Rat where
  store := seededStore [seedBar 3600 10]
  feeds := Table.empty
  assets := Table.empty.insertNewAll [cardano]

theorem cardano_served : FirstWithBars cardanoDatabase.store "ADA" "1h" "tradingview" :=
  ⟨⟨(seedBar 3600 10).toRow 100000 (defaultBucket "ADA" "1h"), by decide +kernel, rfl⟩,
    [], ["yahoo"], rfl, fun _ impossible => by cases impossible⟩

theorem cardano_newest :
    IsGreatest (cardanoDatabase.store.storedTimes ⟨"ADA", "1h", "tradingview"⟩) 3600 := by
  constructor
  · exact ⟨(seedBar 3600 10).toRow 100000 (defaultBucket "ADA" "1h"), by decide +kernel, rfl, rfl⟩
  · rintro ts ⟨row, member, _, rfl⟩
    have only : forall row, row ∈ cardanoDatabase.store.bars.rows -> row.ts ≤ 3600 := by
      decide +kernel
    exact only row member

/-- At the second of its close the hourly bar is not stale. -/
theorem quote_of_newest_iff_at_close :
    exists quote, Rest.getQuote (stubsOf cardanoDatabase) 7200 "BINANCE:ADAUSDT" .h1
      defaultMaxAgeSeconds = .ok quote ∧ quote.stale = false := by
  have reachable : cardanoDatabase.store = run CacheAction.step Store.empty
      [.insertBars (defaultBucket "ADA" "1h") (.ohlcv [seedBar 3600 10]) ⟨100000, true⟩] := rfl
  have found : cardanoDatabase.assets.lookup "BINANCE:ADAUSDT" = some cardano := by
    decide +kernel
  have fresh := quote_of_newest_iff _ reachable (by decide) found .h1
    (by decide : tfSeconds "1h" = .ok 3600) cardano_served cardano_newest
    (by decide : (3600 + 3600 : Int) ≤ 7200) (by decide)
  exact fresh.mpr ⟨by decide, Or.inr ⟨rfl, rfl⟩⟩

/-- One second later, with nearly an hour to the close of the next bar, it is. -/
theorem newest_hourly_quote_is_stale :
    IsGreatest (cardanoDatabase.store.storedTimes ⟨"ADA", "1h", "tradingview"⟩) 3600 ∧
      (3600 + 3600 ≤ 7201 ∧ 7201 < 3600 + 2 * 3600) ∧
      Rest.getQuote (stubsOf cardanoDatabase) 7201 "BINANCE:ADAUSDT" .h1 defaultMaxAgeSeconds =
        .ok ⟨"BINANCE:ADAUSDT", .h1, 10, "USD", 3600, true⟩ := by
  refine ⟨cardano_newest, ⟨by decide, by decide⟩, ?_⟩
  decide +kernel

end Example

end HybridDataSvc
