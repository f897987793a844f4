import HybridDataSvc.Serving.BarService
import HybridDataSvc.Cache.Metadata

namespace HybridDataSvc

open Relational Transition

/-!
# Every answer has one provider

A series may be stored for several providers.  The handlers look at
`cache_meta` to choose one and read `bars` for it, so that the choice falls on
the first provider with bars rests on the agreement of the two tables, which
every sequence of writes keeps.
-/

variable {F : Type}

/-- The provider has a stored bar of the series. -/
def HasBars (store : Store F) (symbol timeframe provider : String) : Prop :=
  exists row, row ∈ store.bars.rows ∧ row.bucket = ⟨symbol, timeframe, provider⟩

/-- The provider is the first one of the precedence with a bar of the series. -/
def FirstWithBars (store : Store F) (symbol timeframe provider : String) : Prop :=
  HasBars store symbol timeframe provider ∧
    exists before after, providerPrecedence = before ++ provider :: after ∧
      forall earlier, earlier ∈ before -> ¬ HasBars store symbol timeframe earlier

/-- All bars are stored bars of the series from the provider. -/
def FromProvider (store : Store F) (symbol timeframe provider : String) (bars : List (Bar F)) :
    Prop :=
  forall bar, bar ∈ bars ->
    exists row, row ∈ store.bars.rows ∧ row.bucket = ⟨symbol, timeframe, provider⟩ ∧
      bar = row.toBar

/-- The three handlers answer a request with the data of the provider alone,
and the recent bars are missing only if it has none. -/
structure ServedBy (store : Store F) (symbol timeframe requested provider : String) : Prop where
  recent : forall count, exists response,
    BarServiceServicer.getRecentBars store ⟨symbol, timeframe, count, requested⟩ = .ok response ∧
      FromProvider store symbol timeframe provider response.bars ∧
      (response.bars = [] -> ¬ HasBars store symbol timeframe provider)
  inRange : forall fromTs toTs limit, exists response,
    BarServiceServicer.getBarsInRange store
        ⟨symbol, timeframe, fromTs, toTs, limit, requested⟩ = .ok response ∧
      FromProvider store symbol timeframe provider response.bars
  health : forall minBars, exists response,
    BarServiceServicer.healthCheck store ⟨symbol, timeframe, minBars, requested⟩ = .ok response ∧
      response.barsAvailable = (store.bucketRows ⟨symbol, timeframe, provider⟩).length ∧
      (HasBars store symbol timeframe provider ->
        response.lastBarTs ∈ store.storedTimes ⟨symbol, timeframe, provider⟩) ∧
      (¬ HasBars store symbol timeframe provider -> response.lastBarTs = 0)

/-- The three handlers refuse the request. -/
structure Refused (store : Store F) (symbol timeframe requested : String) : Prop where
  recent : forall count, exists details,
    BarServiceServicer.getRecentBars store ⟨symbol, timeframe, count, requested⟩ =
      .error (.invalidArgument details)
  inRange : forall fromTs toTs limit, exists details,
    BarServiceServicer.getBarsInRange store ⟨symbol, timeframe, fromTs, toTs, limit, requested⟩ =
      .error (.invalidArgument details)
  health : forall minBars, exists details,
    BarServiceServicer.healthCheck store ⟨symbol, timeframe, minBars, requested⟩ =
      .error (.invalidArgument details)

/-! ## The choice of the provider -/

theorem mem_presentProviders (store : Store F) (symbol timeframe provider : String) :
    provider ∈ presentProviders store symbol timeframe ↔
      (getMeta store ⟨symbol, timeframe, provider⟩).isSome = true := by
  rw [Option.isSome_iff_exists]
  simp only [presentProviders, List.mem_map, Table.mem_select, Bool.and_eq_true,
    decide_eq_true_eq, getMeta, Table.lookup_eq_some_iff]
  constructor
  · rintro ⟨row, ⟨member, sameSymbol, sameTimeframe⟩, sameProvider⟩
    refine ⟨row, member, ?_⟩
    rw [← sameSymbol, ← sameTimeframe, ← sameProvider]
  · rintro ⟨row, member, same⟩
    exact ⟨row, ⟨member, by rw [same], by rw [same]⟩, by rw [same]⟩

theorem mem_presentProviders_iff_hasBars {store : Store F} (agrees : MetadataAgrees store)
    (symbol timeframe provider : String) :
    provider ∈ presentProviders store symbol timeframe ↔
      HasBars store symbol timeframe provider := by
  rw [mem_presentProviders]
  exact agrees.present ⟨symbol, timeframe, provider⟩

theorem resolve_listed (store : Store F) (symbol timeframe : String) {requested : String}
    (listed : requested ∈ providerPrecedence) :
    BarServiceServicer.resolve store symbol timeframe requested = .ok requested := by
  have named : requested ≠ "" := by
    rintro rfl
    exact absurd listed (by decide)
  simp only [BarServiceServicer.resolve, resolveProvider, if_pos named, if_pos listed]

theorem resolve_unlisted (store : Store F) (symbol timeframe : String) {requested : String}
    (named : requested ≠ "") (unlisted : requested ∉ providerPrecedence) :
    exists details, BarServiceServicer.resolve store symbol timeframe requested =
      .error (.invalidArgument details) := by
  simp only [BarServiceServicer.resolve, resolveProvider, if_pos named, if_neg unlisted]
  exact ⟨_, rfl⟩

/-- Where the summary lists the providers with bars, the first one of them is
chosen without a requested provider, and if no listed one has any, the
default. -/
theorem resolve_of_present {store bars : Store F} {symbol timeframe : String}
    (present : forall provider, provider ∈ presentProviders store symbol timeframe ↔
      HasBars bars symbol timeframe provider) :
    exists provider, BarServiceServicer.resolve store symbol timeframe "" = .ok provider ∧
      (FirstWithBars bars symbol timeframe provider ∨
        (provider = defaultProvider ∧
          forall other, other ∈ providerPrecedence -> ¬ HasBars bars symbol timeframe other)) := by
  have unnamed : ¬ ("" : String) ≠ "" := fun different => different rfl
  cases found : providerPrecedence.find?
      (fun provider => decide (provider ∈ presentProviders store symbol timeframe)) with
  | none =>
      refine ⟨defaultProvider, ?_, Or.inr ⟨rfl, ?_⟩⟩
      · simp only [BarServiceServicer.resolve, resolveProvider, if_neg unnamed, found,
          Option.getD_none]
      · intro other listed stored
        have absent := List.find?_eq_none.mp found other listed
        exact absent (decide_eq_true ((present other).mpr stored))
  | some provider =>
      refine ⟨provider, ?_, Or.inl ?_⟩
      · simp only [BarServiceServicer.resolve, resolveProvider, if_neg unnamed, found,
          Option.getD_some]
      · rcases List.find?_eq_some_iff_append.mp found with ⟨here, before, after, split, earlier⟩
        refine ⟨(present provider).mp (of_decide_eq_true here), before, after, split, ?_⟩
        intro other member stored
        have absent := earlier other member
        rw [decide_eq_true ((present other).mpr stored)] at absent
        cases absent

/-- A request without a provider is served by the default one where it has bars,
for nothing comes before it. -/
theorem resolve_of_defaultBars {store : Store F} (agrees : MetadataAgrees store)
    {symbol timeframe : String} (stored : HasBars store symbol timeframe defaultProvider) :
    BarServiceServicer.resolve store symbol timeframe "" = .ok defaultProvider := by
  have unnamed : ¬ ("" : String) ≠ "" := fun different => different rfl
  have present := (mem_presentProviders_iff_hasBars agrees symbol timeframe defaultProvider).mpr stored
  have found : providerPrecedence.find?
      (fun provider => decide (provider ∈ presentProviders store symbol timeframe)) =
        some defaultProvider := List.find?_cons_of_pos (decide_eq_true present)
  simp only [BarServiceServicer.resolve, resolveProvider, if_neg unnamed, found, Option.getD_some]

/-! ## The answers of one provider -/

section Answers

variable {store : Store F} {symbol timeframe requested provider : String}

theorem fromProvider_map {rows : List (BarRow F)}
    (own : forall row, row ∈ rows -> row ∈ store.bucketRows ⟨symbol, timeframe, provider⟩) :
    FromProvider store symbol timeframe provider (rows.map BarRow.toBar) := by
  intro bar member
  rcases List.mem_map.mp member with ⟨row, rowMem, rfl⟩
  have parts := (store.mem_bucketRows _ row).mp (own row rowMem)
  exact ⟨row, parts.1, parts.2, rfl⟩

/-- At least one bar is asked for, so an empty answer means an empty bucket. -/
theorem take_orderByDesc_ne_nil {rows : List (BarRow F)} {count : Int} (positive : 1 ≤ count)
    {row : BarRow F} (member : row ∈ rows) :
    (orderByDesc BarRow.ts rows).take count.toNat ≠ [] := by
  intro empty
  have some_asked : count.toNat ≠ 0 := by omega
  rcases List.take_eq_nil_iff.mp empty with none_asked | none_stored
  · exact some_asked none_asked
  · have ordered := (mem_orderByDesc BarRow.ts rows row).mpr member
    rw [none_stored] at ordered
    cases ordered

theorem servedBy_of_resolve (agrees : MetadataAgrees store)
    (resolved : BarServiceServicer.resolve store symbol timeframe requested = .ok provider) :
    ServedBy store symbol timeframe requested provider where
  recent := by
    intro count
    generalize asked : max 1 (min (BarServiceServicer.orDefault count 300) maxBars) = clamped
    have positive : 1 ≤ clamped := asked ▸ le_max_left _ _
    have reads : ¬ clamped < 0 := by omega
    simp only [BarServiceServicer.getRecentBars, asked, resolved, readBars, if_neg reads,
      DataFrame.rows]
    refine ⟨_, rfl, ?_, ?_⟩
    · apply fromProvider_map
      intro row member
      exact (mem_orderByDesc BarRow.ts _ row).mp (List.mem_of_mem_take (List.mem_reverse.mp member))
    · rintro empty ⟨row, member, own⟩
      have nothing := List.reverse_eq_nil_iff.mp (List.map_eq_nil_iff.mp empty)
      exact take_orderByDesc_ne_nil positive ((store.mem_bucketRows _ row).mpr ⟨member, own⟩) nothing
  inRange := by
    intro fromTs toTs limit
    simp only [BarServiceServicer.getBarsInRange, resolved]
    refine ⟨_, rfl, ?_⟩
    unfold HybridDataSvc.getBarsInRange
    by_cases reversed : toTs < fromTs
    · rw [if_pos reversed]
      intro bar member
      cases member
    · rw [if_neg reversed]
      apply fromProvider_map
      intro row member
      have taken := List.mem_of_mem_take (List.mem_of_mem_take (List.mem_reverse.mp member))
      exact (List.mem_filter.mp ((mem_orderByDesc BarRow.ts _ row).mp taken)).1
  health := by
    intro minBars
    simp only [BarServiceServicer.healthCheck, resolved]
    refine ⟨_, rfl, ?_⟩
    have present := agrees.present ⟨symbol, timeframe, provider⟩
    cases found : getMeta store ⟨symbol, timeframe, provider⟩ with
    | none =>
        rw [found] at present
        have without : ¬ HasBars store symbol timeframe provider := by
          intro stored
          cases present.mpr stored
        have noRows : store.bucketRows ⟨symbol, timeframe, provider⟩ = [] := by
          apply List.eq_nil_iff_forall_not_mem.mpr
          intro row member
          exact without ⟨row, (store.mem_bucketRows _ row).mp member⟩
        simp only [barCount, latestBarTs, found, noRows, Option.map_none, Option.getD_none,
          List.length_nil]
        exact ⟨trivial, fun stored => absurd stored without, fun _ => trivial⟩
    | some summary =>
        rw [found] at present
        simp only [barCount, latestBarTs, found, Option.map_some, Option.getD_some]
        exact ⟨agrees.counted _ summary found, fun _ => agrees.stored _ summary found,
          fun without => absurd (present.mp rfl) without⟩

theorem refused_of_resolve {details : String}
    (resolved : BarServiceServicer.resolve store symbol timeframe requested =
      .error (.invalidArgument details)) : Refused store symbol timeframe requested where
  recent := by
    intro count
    exact ⟨details, by simp only [BarServiceServicer.getRecentBars, resolved]⟩
  inRange := by
    intro fromTs toTs limit
    exact ⟨details, by simp only [BarServiceServicer.getBarsInRange, resolved]⟩
  health := by
    intro minBars
    exact ⟨details, by simp only [BarServiceServicer.healthCheck, resolved]⟩

end Answers

/-! ## Runs of writes for listed providers -/

variable [PyFloat F]

/-- A direct insert is for a listed provider; the other writes are for the
default one. -/
def CacheAction.ListedProvider : CacheAction F -> Prop
  | .getBars _ _ _ _ => True
  | .insertBars bucket _ _ => bucket.provider ∈ providerPrecedence
  | .invalidate _ _ _ => True

/-- Only listed providers have bars. -/
def ListedBars (store : Store F) : Prop :=
  forall row, row ∈ store.bars.rows -> row.bucket.provider ∈ providerPrecedence

theorem submits_listedProvider {store : Store F} {action : CacheAction F} {bucket : Bucket}
    {df : DataFrame F} {env : InsertEnv} (submitted : CacheAction.Submits store action bucket df env)
    (listed : action.ListedProvider) : bucket.provider ∈ providerPrecedence := by
  cases submitted with
  | getBars handed => exact List.mem_cons_self
  | insertBars => exact listed

theorem step_listedBars (store : Store F) (action : CacheAction F) (bars : ListedBars store)
    (listed : action.ListedProvider) : ListedBars (CacheAction.step store action) := by
  rcases CacheAction.step_cases store action with
    unchanged | ⟨bucket, df, env, barSecs, closed, submitted, _, _, result⟩ |
      ⟨symbol, timeframe, _, result⟩
  · rw [unchanged]
    exact bars
  · rw [result]
    intro row member
    rcases mem_bars_commitRows member with ⟨bar, _, rfl⟩ | old
    · exact submits_listedProvider submitted listed
    · exact bars row old
  · rw [result]
    intro row member
    exact bars row ((mem_bars_invalidate _ store row).mp member).1

theorem along_listedProvider {store : Store F} {actions : List (CacheAction F)}
    (listed : forall action, action ∈ actions -> action.ListedProvider) :
    Along CacheAction.step (fun _ action => action.ListedProvider) store actions := by
  induction actions generalizing store with
  | nil => trivial
  | cons action rest ih =>
      exact ⟨listed action List.mem_cons_self,
        ih (fun other member => listed other (List.mem_cons_of_mem _ member))⟩

/-- In every state that writes for listed providers reach, a request without a
provider is served by the first provider with bars of the series, and gets an
empty answer only if no provider has any; a request for a listed provider is
served by it, and any other is refused. -/
theorem provider_precedence (actions : List (CacheAction F))
    (listed : forall action, action ∈ actions -> action.ListedProvider)
    (symbol timeframe : String) :
    let store := run CacheAction.step Store.empty actions
    (exists provider, ServedBy store symbol timeframe "" provider ∧
      (FirstWithBars store symbol timeframe provider ∨
        forall other, ¬ HasBars store symbol timeframe other)) ∧
    (forall requested, requested ∈ providerPrecedence ->
      ServedBy store symbol timeframe requested requested) ∧
    forall requested, requested ≠ "" -> requested ∉ providerPrecedence ->
      Refused store symbol timeframe requested := by
  intro store
  have agrees : MetadataAgrees store :=
    invariant_run_always CacheAction.step step_metadataAgrees metadataAgrees_empty actions
  have bars : ListedBars store := by
    refine invariant_run CacheAction.step step_listedBars ?_ (along_listedProvider listed)
    intro row member
    cases member
  refine ⟨?_, ?_, ?_⟩
  · rcases resolve_of_present (mem_presentProviders_iff_hasBars agrees symbol timeframe) with
      ⟨provider, resolved, first | ⟨-, none_listed⟩⟩
    · exact ⟨provider, servedBy_of_resolve agrees resolved, Or.inl first⟩
    · refine ⟨provider, servedBy_of_resolve agrees resolved, Or.inr ?_⟩
      rintro other ⟨row, member, own⟩
      have otherListed := bars row member
      rw [own] at otherListed
      exact none_listed other otherListed ⟨row, member, own⟩
  · intro requested requestedListed
    exact servedBy_of_resolve agrees (resolve_listed store symbol timeframe requestedListed)
  · intro requested named unlisted
    rcases resolve_unlisted store symbol timeframe named unlisted with ⟨details, resolved⟩
    exact refused_of_resolve resolved

/-- Bars from the second provider only, which then serves the series. -/
theorem provider_precedence_second :
    let store := run CacheAction.step (Store.empty : Store Rat)
      [.insertBars ⟨"ADA", "1h", "yahoo"⟩ (.ohlcv [seedBar 0 10]) ⟨100000, true⟩]
    FirstWithBars store "ADA" "1h" "yahoo" ∧ ServedBy store "ADA" "1h" "yahoo" "yahoo" := by
  intro store
  have served := provider_precedence (F := Rat)
    [.insertBars ⟨"ADA", "1h", "yahoo"⟩ (.ohlcv [seedBar 0 10]) ⟨100000, true⟩]
    (by
      intro action member
      rw [List.mem_singleton.mp member]
      exact (by decide : "yahoo" ∈ providerPrecedence)) "ADA" "1h"
  have stored : HasBars store "ADA" "1h" "yahoo" :=
    ⟨(seedBar 0 10).toRow 100000 ⟨"ADA", "1h", "yahoo"⟩, by decide +kernel, rfl⟩
  have empty : ¬ HasBars store "ADA" "1h" "tradingview" := by
    rintro ⟨row, member, own⟩
    have only : forall row, row ∈ store.bars.rows -> row.bucket.provider = "yahoo" := by
      decide +kernel
    have provider := only row member
    rw [own] at provider
    exact absurd provider (by decide)
  refine ⟨⟨stored, ["tradingview"], [], rfl, ?_⟩, served.2.1 "yahoo" (by decide)⟩
  intro earlier member
  rw [List.mem_singleton.mp member]
  exact empty

end HybridDataSvc
