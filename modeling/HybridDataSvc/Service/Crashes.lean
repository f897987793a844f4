import HybridDataSvc.Service.Loop
import HybridDataSvc.Catalog.Onboarding
import HybridDataSvc.Fetcher.Writers

namespace HybridDataSvc

open Relational Transition AssetServiceServicer

/-!
# What can crash the writer

Fetches fail inside the `try` of their target.  Outside of it the writer
looks up the length of a bar twice: when it lists its targets at the start,
for every one of them, and when it computes how long to sleep, for those that
have bars.  A feed with bars has a timeframe that `_insert_bars` knew, so only
the start can raise, and it does for any polled feed with an unknown
timeframe.  Nothing checks the timeframe of a feed when it is accepted.
-/

variable {F : Type} [PyFloat F]

/-! ## Known timeframes -/

/-- The timeframe has an entry in `_TF_SECONDS`. -/
def KnownTimeframe (timeframe : String) : Prop := exists secs, tfSeconds timeframe = .ok secs

/-- Every polled feed has a known timeframe. -/
def KnownFeeds (feeds : Table FeedRecord.key) : Prop :=
  forall row, row ∈ feeds.rows -> row.status ≠ .inactive -> KnownTimeframe row.timeframe

/-- Every series with a summary row has a known timeframe. -/
def KnownBuckets (store : Store F) : Prop :=
  forall bucket, (getMeta store bucket).isSome = true -> KnownTimeframe bucket.timeframe

theorem knownBuckets_of_sound {store : Store F} (sound : SoundBars store)
    (agrees : MetadataAgrees store) : KnownBuckets store := by
  intro bucket present
  rcases (agrees.present bucket).mp present with ⟨row, member, rfl⟩
  rcases (sound row member).closed with ⟨secs, known, _⟩
  exact ⟨secs, known⟩

theorem knownFeeds_iff_lookup (feeds : Table FeedRecord.key) :
    KnownFeeds feeds ↔ forall k row, feeds.lookup k = some row -> row.status ≠ .inactive ->
      KnownTimeframe row.timeframe := by
  constructor
  · intro known k row found
    exact known row ((feeds.lookup_eq_some_iff k row).mp found).1
  · intro known row member
    exact known row.key row ((feeds.mem_rows_iff_lookup row).mp member)

/-- Adding polled rows keeps the timeframes known exactly when the rows that
are new have known ones. -/
theorem knownFeeds_insertNewAll_iff {feeds : Table FeedRecord.key} (known : KnownFeeds feeds)
    {batch : List FeedRecord} (polled : forall row, row ∈ batch -> row.status ≠ .inactive) :
    KnownFeeds (feeds.insertNewAll batch) ↔
      forall row, row ∈ batch -> feeds.lookup row.key = none -> KnownTimeframe row.timeframe := by
  rw [knownFeeds_iff_lookup] at known ⊢
  simp only [Table.lookup_insertNewAll]
  constructor
  · intro after row member free
    have present := (Table.firstUnder_isSome_iff batch row.key).mpr ⟨row, member, rfl⟩
    rcases Option.isSome_iff_exists.mp present with ⟨first, found⟩
    have firstSpec := Table.mem_of_firstUnder found
    have result := after row.key first (by rw [free, Option.none_or, found])
      (polled first firstSpec.1)
    rw [show first.timeframe = row.timeframe from congrArg Prod.snd firstSpec.2] at result
    exact result
  · intro new k row found status
    cases stored : feeds.lookup k with
    | some old =>
        rw [stored, Option.some_or, Option.some_inj] at found
        subst found
        exact known k old stored status
    | none =>
        rw [stored, Option.none_or] at found
        have spec := Table.mem_of_firstUnder found
        rw [← spec.2] at stored
        exact new row spec.1 stored

theorem knownFeeds_markActive_iff (now : Int) (storageSymbol timeframe : String)
    (feeds : Table FeedRecord.key) :
    KnownFeeds (FeedsRepo.markActive now storageSymbol timeframe feeds) ↔ KnownFeeds feeds := by
  rw [knownFeeds_iff_lookup, knownFeeds_iff_lookup]
  simp only [FeedsRepo.lookup_markActive]
  constructor
  · intro after k row found status
    by_cases promoted : FeedsRepo.promotable storageSymbol timeframe row = true
    · have result := after k { row with status := .active, updatedAt := now }
        (by rw [found, Option.map_some, if_pos promoted])
        (fun impossible => by cases impossible)
      exact result
    · exact after k row (by rw [found, Option.map_some, if_neg promoted]) status
  · intro before k row found status
    rcases Option.map_eq_some_iff.mp found with ⟨old, stored, rfl⟩
    by_cases promoted : FeedsRepo.promotable storageSymbol timeframe old = true
    · rw [if_pos promoted]
      apply before k old stored
      simp only [FeedsRepo.promotable, Bool.and_eq_true, decide_eq_true_eq] at promoted
      rw [promoted.2]
      decide
    · rw [if_neg promoted] at status ⊢
      exact before k old stored status

/-! ## When the start and the cycle complete -/

theorem exists_mapM_ok_iff {Item Value : Type} (read : Item -> Except PyError Value)
    (items : List Item) :
    (exists values, items.mapM read = .ok values) ↔
      forall item, item ∈ items -> exists value, read item = .ok value := by
  induction items with
  | nil => simp [pure, Except.pure]
  | cons item rest ih =>
      rw [List.forall_mem_cons, ← ih]
      cases first : read item with
      | error raised => simp [List.mapM_cons, first, bind, Except.bind]
      | ok value =>
          cases later : rest.mapM read with
          | error raised => simp [List.mapM_cons, first, later, bind, Except.bind]
          | ok values => simp [List.mapM_cons, first, later, bind, Except.bind, pure, Except.pure]

theorem exists_listTarget_iff (target : FeedRow) :
    (exists value, listTarget target = .ok value) ↔ KnownTimeframe target.timeframe := by
  unfold listTarget KnownTimeframe
  cases tfSeconds target.timeframe with
  | error raised => simp
  | ok secs => simp

/-- The listing at the start completes exactly when every target has a known
timeframe. -/
theorem startupListing_ok_iff (feeds : Table FeedRecord.key) :
    (exists listed, startupListing (FeedsRepo.pollingTargets feeds) = .ok listed) ↔
      KnownFeeds feeds := by
  rw [startupListing, exists_mapM_ok_iff]
  simp only [exists_listTarget_iff, FeedsRepo.mem_pollingTargets]
  constructor
  · intro known row member status
    exact known row.toFeedRow ⟨row, member, rfl, status⟩
  · rintro known target ⟨row, member, rfl, status⟩
    exact known row member status

omit [PyFloat F] in
theorem earliestWake_ok {store : Store F} (known : KnownBuckets store) (now : Rat)
    (feeds : List Feed) (earliest : Rat) :
    exists wake, earliestWake now store earliest feeds = .ok wake := by
  induction feeds generalizing earliest with
  | nil => exact ⟨earliest, rfl⟩
  | cons feed rest ih =>
      unfold earliestWake
      cases newest : latestBarTs store (defaultBucket feed.symbol feed.timeframe) with
      | none => exact ih _
      | some lastTs =>
          have present : (getMeta store (defaultBucket feed.symbol feed.timeframe)).isSome = true := by
            rw [latestBarTs] at newest
            rcases Option.map_eq_some_iff.mp newest with ⟨summary, found, _⟩
            rw [found]
            rfl
          rcases known _ present with ⟨secs, lookup⟩
          have lookup' : tfSeconds feed.timeframe = .ok secs := lookup
          simp only [lookup']
          exact ih _

/-! ## What a cycle does to the tables -/

section Cycle

variable (cfg : FetcherConfig F) (env : FeedRow -> TargetEnv F)

/-- A polled target has been fetched, and may have been promoted. -/
theorem pollTarget_cases (writer : Writer F) (row : FeedRow) :
    pollTarget cfg env writer row = (fetchTarget cfg (env row).fetch row writer).2 ∨
      exists now, pollTarget cfg env writer row =
        { (fetchTarget cfg (env row).fetch row writer).2 with
          feeds := FeedsRepo.markActive now row.storageSymbol row.timeframe writer.feeds } := by
  unfold pollTarget
  by_cases shown : (fetchTarget cfg (env row).fetch row writer).1 = true
  · simp only [if_pos shown]
    rcases promoteTarget_cases (env row).markNow (env row).markCommits row
      (fetchTarget cfg (env row).fetch row writer).2 with same | promoted
    · exact Or.inl same
    · exact Or.inr ⟨_, promoted⟩
  · simp only [if_neg shown]
    exact Or.inl trivial

theorem pollTarget_writes (writer : Writer F) (row : FeedRow) :
    Writes writer.system.store (pollTarget cfg env writer row).system.store := by
  have writes := fetch_writes cfg (env row).fetch (feedRowToFeed row) writer.system
  rcases pollTarget_cases cfg env writer row with same | ⟨now, promoted⟩
  · rw [same]
    exact writes
  · rw [promoted]
    exact writes

theorem pollTargets_writes (writer : Writer F) (targets : List FeedRow) :
    Writes writer.system.store (targets.foldl (pollTarget cfg env) writer).system.store := by
  induction targets generalizing writer with
  | nil => exact Writes.none _
  | cons row rest ih => exact (pollTarget_writes cfg env writer row).trans (ih _)

theorem knownFeeds_pollTargets_iff (writer : Writer F) (targets : List FeedRow) :
    KnownFeeds (targets.foldl (pollTarget cfg env) writer).feeds ↔ KnownFeeds writer.feeds := by
  induction targets generalizing writer with
  | nil => rfl
  | cons row rest ih =>
      rw [List.foldl_cons, ih]
      rcases pollTarget_cases cfg env writer row with same | ⟨now, promoted⟩
      · rw [same]
        rfl
      · rw [promoted, knownFeeds_markActive_iff]

end Cycle

/-! ## Runs of the service -/

/-- One step of the service: a request, a start or restart of the writer, a
cycle, or a write to the bar tables by another process. -/
inductive ServiceAction (F : Type)
  | create (env : CreateEnv) (request : CreateAssetRequest)
  | start (env : StartEnv)
  | cycle (env : CycleEnv F)
  | write (action : CacheAction F)

/-- The settings of the writer. -/
structure WriterConfig (F : Type) extends FetcherConfig F where
  pollIntervalS : Rat

def ServiceAction.step (cfg : WriterConfig F) (writer : Writer F) : ServiceAction F -> Writer F
  | .create env request => writer.withCatalog (createAsset env request writer.db).2
  | .start env => (startup env writer).2
  | .cycle env => (pollCycle cfg.toFetcherConfig cfg.pollIntervalS env writer).2
  | .write action => writer.withStore (CacheAction.step writer.system.store action)

/-- The feeds a step adds have known timeframes. -/
def ServiceAction.AddsKnown (writer : Writer F) : ServiceAction F -> Prop
  | .create env request =>
      Creates env request writer.db ->
        forall timeframe, timeframe ∈ requestedTimeframes request ->
          writer.db.feedAt request.asset.storageSymbol timeframe = none -> KnownTimeframe timeframe
  | .start env =>
      env.commits = true ->
        forall feed, feed ∈ env.feeds ->
          writer.db.feedAt feed.symbol feed.timeframe = none -> KnownTimeframe feed.timeframe
  | .cycle _ => True
  | .write _ => True

/-- A restart that adds feeds with known timeframes only, and every cycle, completes. -/
def Survives (cfg : WriterConfig F) (writer : Writer F) : Prop :=
  (forall env, ServiceAction.AddsKnown writer (.start env : ServiceAction F) ->
    exists listed, (startup env writer).1 = .ok listed) ∧
  forall env, exists seconds,
    (pollCycle cfg.toFetcherConfig cfg.pollIntervalS env writer).1 = .ok seconds

/-- The bar tables are in a state that writes through the cache can leave. -/
structure SoundStore (writer : Writer F) : Prop where
  sound : SoundBars writer.system.store
  agrees : MetadataAgrees writer.system.store

theorem SoundStore.knownBuckets {writer : Writer F} (store : SoundStore writer) :
    KnownBuckets writer.system.store := knownBuckets_of_sound store.sound store.agrees

theorem SoundStore.of_writes {before after : Writer F} (store : SoundStore before)
    (writes : Writes before.system.store after.system.store) : SoundStore after := by
  rcases writes with ⟨actions, result⟩
  constructor
  · rw [result]
    exact invariant_run_always CacheAction.step step_soundBars store.sound actions
  · rw [result]
    exact invariant_run_always CacheAction.step step_metadataAgrees store.agrees actions

omit [PyFloat F] in
/-- A start writes the seeded feeds and nothing else to the database. -/
theorem startup_tables (env : StartEnv) (writer : Writer F) :
    (startup env writer).2.system.store = writer.system.store ∧
      (startup env writer).2.feeds = (feedsLoaderSync env writer.db).2.feeds := by
  have fetcher : forall started : Writer F,
      (startFetcher env started).system.store = started.system.store ∧
        (startFetcher env started).feeds = started.feeds := by
    intro started
    unfold startFetcher
    cases env.feeds <;> exact ⟨rfl, rfl⟩
  simp only [startup]
  split
  · exact ⟨rfl, rfl⟩
  · exact fetcher _

theorem step_soundStore (cfg : WriterConfig F) (writer : Writer F) (action : ServiceAction F)
    (store : SoundStore writer) : SoundStore (ServiceAction.step cfg writer action) := by
  apply store.of_writes
  cases action with
  | create env request => exact Writes.none _
  | start env =>
      rw [ServiceAction.step, (startup_tables env writer).1]
      exact Writes.none _
  | cycle env => exact pollTargets_writes cfg.toFetcherConfig env.target writer _
  | write action => exact Writes.one _ action

theorem step_knownFeeds_iff (cfg : WriterConfig F) {writer : Writer F}
    (known : KnownFeeds writer.feeds) (action : ServiceAction F) :
    KnownFeeds (ServiceAction.step cfg writer action).feeds ↔ action.AddsKnown writer := by
  cases action with
  | create env request =>
      by_cases creates : Creates env request writer.db
      · simp only [ServiceAction.step, ServiceAction.AddsKnown, createAsset_of_creates creates,
          Writer.withCatalog, onboarded]
        rw [show writer.db.feeds = writer.feeds from rfl, knownFeeds_insertNewAll_iff known]
        · simp only [creates, true_implies, List.forall_mem_map]
          rfl
        · intro row member
          rcases List.mem_map.mp member with ⟨timeframe, _, rfl⟩
          intro impossible
          cases impossible
      · simp only [ServiceAction.step, ServiceAction.AddsKnown,
          (createAsset_of_not_creates creates).1]
        exact iff_of_true known (fun impossible => absurd impossible creates)
  | start env =>
      simp only [ServiceAction.step, ServiceAction.AddsKnown, (startup_tables env writer).2,
        feedsLoaderSync]
      cases commits : env.commits with
      | false =>
          simp only [Bool.false_eq_true, if_false]
          exact iff_of_true known (fun impossible => by cases impossible)
      | true =>
          simp only [if_true, FeedsRepo.seedFromEnv]
          rw [show writer.db.feeds = writer.feeds from rfl, knownFeeds_insertNewAll_iff known]
          · simp only [true_implies, List.forall_mem_map]
            rfl
          · intro row member
            rcases List.mem_map.mp member with ⟨feed, _, rfl⟩
            exact FeedsRepo.seedRow_polled env.now writer.db.store feed
  | cycle env =>
      exact (knownFeeds_pollTargets_iff cfg.toFetcherConfig env.target writer _).trans
        (iff_of_true known trivial)
  | write action => exact iff_of_true known trivial

omit [PyFloat F] in
theorem startup_ok_iff (env : StartEnv) (writer : Writer F) :
    (exists listed, (startup env writer).1 = .ok listed) ↔
      KnownFeeds (feedsLoaderSync env writer.db).2.feeds := by
  rw [← startupListing_ok_iff]
  simp only [startup, Writer.withCatalog]
  split
  · next raised listing => simp [listing]
  · next listed listing => simp [listing]

theorem survives_iff_knownFeeds (cfg : WriterConfig F) {writer : Writer F}
    (store : SoundStore writer) : Survives cfg writer ↔ KnownFeeds writer.feeds := by
  constructor
  · intro survives
    -- a restart that cannot seed lists the feeds that are there
    exact (startup_ok_iff ⟨0, false, "", "", "", ""⟩ writer).mp
      (survives.1 _ (fun impossible => by cases impossible))
  · intro known
    constructor
    · intro env adds
      have after := (step_knownFeeds_iff cfg known (.start env)).mpr adds
      rw [ServiceAction.step, (startup_tables env writer).2] at after
      exact (startup_ok_iff env writer).mpr after
    · intro env
      have after := (step_soundStore cfg writer (.cycle env) store).knownBuckets
      rcases earliestWake_ok after env.now
        ((FeedsRepo.pollingTargets writer.feeds).map feedRowToFeed)
        (NumberText.nearest (env.now + cfg.pollIntervalS)) with ⟨wake, earliest⟩
      refine ⟨max minSleepS (NumberText.nearest (wake - env.later)), ?_⟩
      simp only [ServiceAction.step, pollCycle] at earliest
      simp only [pollCycle, sleepUntilNextEvent, earliest]

/-- After every part of a run a restart and the cycles complete, exactly when
every step of the run has added feeds with known timeframes only. -/
theorem writer_survives_iff (cfg : WriterConfig F) (primary : Feed)
    (actions : List (ServiceAction F)) :
    (forall earlier, earlier <+: actions ->
        Survives cfg (run (ServiceAction.step cfg) (Writer.boot primary) earlier)) ↔
      Along (ServiceAction.step cfg) (fun writer action => action.AddsKnown writer)
        (Writer.boot primary) actions := by
  have bootStore : SoundStore (Writer.boot primary : Writer F) :=
    ⟨soundBars_empty, metadataAgrees_empty⟩
  have bootFeeds : KnownFeeds (Writer.boot primary : Writer F).feeds := by
    intro row impossible
    cases impossible
  refine invariant_prefixes_iff (ServiceAction.step cfg)
    (fun writer action store => step_soundStore cfg writer action store) ?_ bootStore
    ((survives_iff_knownFeeds cfg bootStore).mpr bootFeeds) actions
  intro writer action store survives
  rw [survives_iff_knownFeeds cfg (step_soundStore cfg writer action store)]
  exact step_knownFeeds_iff cfg ((survives_iff_knownFeeds cfg store).mp survives) action

/-- A request for eight-hour bars is accepted, and the next start raises. -/
theorem unknown_timeframe_crashes :
    let cfg : WriterConfig Rat :=
      { tvCli := "tv", barsToFetch := 300, showFloats := fun _ => "", pollIntervalS := 30 }
    let request := { adaRequest with timeframes := ["8h"] }
    let booted : Writer Rat := Writer.boot ⟨"ADA", "1h", "BINANCE:ADAUSDT"⟩
    (exists response, (createAsset ⟨100000, true⟩ request booted.db).1 = .ok response ∧
        response.created = true) ∧
      (startup ⟨100030, true, "ADA@1h", "ADA", "1h", "BINANCE:ADAUSDT"⟩
        (ServiceAction.step cfg booted (.create ⟨100000, true⟩ request))).1 =
          .error (.valueError "Unknown timeframe: '8h'") ∧
      ¬ Survives cfg (run (ServiceAction.step cfg) booted [.create ⟨100000, true⟩ request]) := by
  intro cfg request booted
  have creates : Creates ⟨100000, true⟩ request booted.db := by
    refine ⟨?_, rfl, rfl⟩
    decide +kernel
  have raises : (startup ⟨100030, true, "ADA@1h", "ADA", "1h", "BINANCE:ADAUSDT"⟩
      (run (ServiceAction.step cfg) booted [.create ⟨100000, true⟩ request])).1 =
        .error (.valueError "Unknown timeframe: '8h'") := by decide +kernel
  refine ⟨⟨_, by rw [createAsset_of_creates creates], rfl⟩, raises, ?_⟩
  intro survives
  have raisesAgain : (startup ⟨100030, false, "ADA@1h", "ADA", "1h", "BINANCE:ADAUSDT"⟩
      (run (ServiceAction.step cfg) booted [.create ⟨100000, true⟩ request])).1 =
        .error (.valueError "Unknown timeframe: '8h'") := by decide +kernel
  rcases survives.1 ⟨100030, false, "ADA@1h", "ADA", "1h", "BINANCE:ADAUSDT"⟩
    (fun impossible => by cases impossible) with ⟨listed, completes⟩
  rw [raisesAgain] at completes
  cases completes

end HybridDataSvc
