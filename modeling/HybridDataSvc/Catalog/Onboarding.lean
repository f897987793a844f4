import HybridDataSvc.Catalog.Assets
import HybridDataSvc.Catalog.Feeds
import HybridDataSvc.Cache.Runs

namespace HybridDataSvc

open Relational AssetsRepo AssetServiceServicer

/-!
# What onboarding promises

A request that creates its asset answers that the asset is pending without
bars, and its caller relies on the requested feeds being polled from the
requested chart.  Both hold for a storage symbol without feeds.  Where the
storage symbol is in use already the feeds and bars are those of somebody
else: `StartsPending` and `FeedsFree` say exactly which of them the answer
and the polling agree with.
-/

variable {F : Type}

/-! ## What a fresh insert leaves -/

/-- The database after the request has created its asset. -/
def onboarded (now : Int) (request : CreateAssetRequest) (db : Database F) : Database F :=
  { db with
    assets := db.assets.insertNew
      { requestedAsset request.asset with addedAt := now, updatedAt := now }
    feeds := db.feeds.insertNewAll
      ((requestedTimeframes request).map
        (pendingFeed now request.asset.storageSymbol (requestedTvSymbol request))) }

/-- The row the request inserts. -/
def createdAsset (now : Int) (request : CreateAssetRequest) : AssetRecord :=
  { requestedAsset request.asset with addedAt := now, updatedAt := now }

/-- The answer to a request that has created its asset. -/
def freshAnswer (now : Int) (request : CreateAssetRequest) : AssetWithStatusMessage :=
  rowToAssetWithStatusMessage
    { asset := (createdAsset now request).toAssetRow, status := .pending, lastBarTs := 0 }

/-- The request is valid, its transaction commits and its symbol is new. -/
def Creates (env : CreateEnv) (request : CreateAssetRequest) (db : Database F) : Prop :=
  validationError request.asset = none ∧ env.commits = true ∧
    db.assets.lookup request.asset.symbol = none

/-- What `CreateAsset` does when it creates the asset. -/
theorem createAsset_of_creates {env : CreateEnv} {request : CreateAssetRequest} {db : Database F}
    (creates : Creates env request db) :
    createAsset env request db =
      (.ok { assetWithStatus := freshAnswer env.now request, created := true,
             pollEtaSeconds := pollEtaSeconds }, onboarded env.now request db) := by
  rcases creates with ⟨valid, commits, absent⟩
  have unknown : db.assets.lookup (requestedAsset request.asset).symbol = none := absent
  simp only [createAsset, valid, createWithFeeds, commits, if_true, unknown]
  rfl

/-- What it leaves otherwise: the database as it was, and another answer. -/
theorem createAsset_of_not_creates {env : CreateEnv} {request : CreateAssetRequest}
    {db : Database F} (creates : ¬ Creates env request db) :
    (createAsset env request db).2 = db ∧
      forall response, (createAsset env request db).1 = .ok response ->
        response.created = false := by
  unfold createAsset createWithFeeds
  cases invalid : validationError request.asset with
  | some details =>
      refine ⟨rfl, ?_⟩
      intro response impossible
      cases impossible
  | none =>
      cases commits : env.commits with
      | false =>
          simp only [Bool.false_eq_true, if_false]
          refine ⟨trivial, ?_⟩
          intro response impossible
          cases impossible
      | true =>
          cases present : db.assets.lookup (requestedAsset request.asset).symbol with
          | none => exact absurd ⟨invalid, commits, present⟩ creates
          | some existing =>
              simp only [if_true]
              cases getWithStatus db existing.symbol with
              | none =>
                  refine ⟨rfl, ?_⟩
                  intro response impossible
                  cases impossible
              | some row =>
                  refine ⟨rfl, ?_⟩
                  intro response answered
                  cases answered
                  rfl

/-- The inversion of `CreateAsset` for an answer `created=true`. -/
theorem createAsset_created {env : CreateEnv} {request : CreateAssetRequest} {db : Database F}
    {response : CreateAssetResponse}
    (answered : (createAsset env request db).1 = .ok response) (created : response.created = true) :
    db.assets.lookup request.asset.symbol = none ∧
      response.assetWithStatus = freshAnswer env.now request ∧
      (createAsset env request db).2 = onboarded env.now request db := by
  by_cases creates : Creates env request db
  · rw [createAsset_of_creates creates] at answered ⊢
    cases answered
    exact ⟨creates.2.2, rfl, rfl⟩
  · have other := (createAsset_of_not_creates creates).2 response answered
    rw [created] at other
    cases other

theorem firstUnder_pendingFeed (now : Int) (storageSymbol tvSymbol timeframe : String)
    (timeframes : List String) :
    Table.firstUnder FeedRecord.key (timeframes.map (pendingFeed now storageSymbol tvSymbol))
        (storageSymbol, timeframe) =
      if timeframe ∈ timeframes then some (pendingFeed now storageSymbol tvSymbol timeframe)
      else none := by
  induction timeframes with
  | nil => rfl
  | cons head rest ih =>
      simp only [Table.firstUnder, List.map_cons, List.find?_cons, List.mem_cons] at ih ⊢
      by_cases same : head = timeframe
      · subst same
        simp [pendingFeed, FeedRecord.key]
      · have different : (pendingFeed now storageSymbol tvSymbol head).key ≠
            (storageSymbol, timeframe) := fun clash => same (congrArg Prod.snd clash)
        rw [decide_eq_false different, ih]
        simp [Ne.symm same]

theorem feedAt_onboarded (now : Int) (request : CreateAssetRequest) (db : Database F)
    (timeframe : String) :
    (onboarded now request db).feedAt request.asset.storageSymbol timeframe =
      (db.feedAt request.asset.storageSymbol timeframe).or
        (if timeframe ∈ requestedTimeframes request then
          some (pendingFeed now request.asset.storageSymbol (requestedTvSymbol request) timeframe)
        else none) := by
  rw [Database.feedAt, onboarded, Table.lookup_insertNewAll, firstUnder_pendingFeed]
  rfl

theorem getWithStatus_onboarded {db : Database F} (now : Int) {request : CreateAssetRequest}
    (absent : db.assets.lookup request.asset.symbol = none) :
    getWithStatus (onboarded now request db) request.asset.symbol =
      some (withStatus (onboarded now request db) (createdAsset now request)) := by
  have inserted : (onboarded now request db).assets.lookup request.asset.symbol =
      some (createdAsset now request) := by
    rw [onboarded, Table.lookup_insertNew, absent, Option.none_or]
    exact if_pos rfl
  rw [getWithStatus, inserted]
  rfl

/-! ## What the status query computes -/

section Status

variable (db : Database F) (asset : AssetRecord)

theorem some_mem_feedsOf (feed : FeedRecord) :
    some feed ∈ feedsOf db asset ↔
      feed ∈ db.feeds.rows ∧ feed.storageSymbol = asset.storageSymbol := by
  have joined : some feed ∈ feedsOf db asset ↔ (asset, some feed) ∈ leftJoin [asset] (fun row =>
      db.feeds.select (fun other => decide (other.storageSymbol = row.storageSymbol))) := by
    rw [feedsOf, List.mem_map]
    constructor
    · rintro ⟨⟨row, other⟩, member, rfl⟩
      have same := List.mem_singleton.mp ((mem_leftJoin _ _ row (some feed)).mp member).1
      subst same
      exact member
    · intro member
      exact ⟨_, member, rfl⟩
  rw [joined, mem_leftJoin]
  simp

theorem anyStatus_iff (status : FeedStatus) :
    anyStatus status (statusRows db asset) = true ↔
      exists feed, feed ∈ db.feeds.rows ∧ feed.storageSymbol = asset.storageSymbol ∧
        feed.status = status := by
  rw [anyStatus, List.any_eq_true]
  constructor
  · rintro ⟨⟨feed, summary⟩, member, same⟩
    cases feed with
    | none => cases of_decide_eq_true same
    | some feed =>
        have own := (some_mem_feedsOf db asset feed).mp ((mem_leftJoin _ _ _ summary).mp member).1
        exact ⟨feed, own.1, own.2, Option.some_inj.mp (of_decide_eq_true same)⟩
  · rintro ⟨feed, member, own, same⟩
    rcases exists_mem_leftJoin ((some_mem_feedsOf db asset feed).mpr ⟨member, own⟩) _ with
      ⟨summary, joined⟩
    exact ⟨_, joined, decide_eq_true (congrArg some same)⟩

/-- The summary rows the query sees: those of the storage symbol for the
timeframes it has feeds for. -/
theorem mem_lastBarTs_iff (ts : Int) :
    ts ∈ (statusRows db asset).filterMap (fun row => row.2.map MetaRow.lastBarTs) ↔
      exists summary, summary ∈ db.store.cacheMeta.rows ∧
        summary.bucket.symbol = asset.storageSymbol ∧
        (exists feed, feed ∈ db.feeds.rows ∧ feed.storageSymbol = asset.storageSymbol ∧
          feed.timeframe = summary.bucket.timeframe) ∧
        summary.lastBarTs = ts := by
  rw [List.mem_filterMap]
  constructor
  · rintro ⟨⟨feed, summary⟩, member, value⟩
    cases summary with
    | none => cases value
    | some summary =>
        have joined := (mem_leftJoin _ _ feed (some summary)).mp member
        cases feed with
        | none => cases joined.2
        | some feed =>
            have own := (some_mem_feedsOf db asset feed).mp joined.1
            have matched := (db.store.cacheMeta.mem_select _ summary).mp joined.2
            simp only [Bool.and_eq_true, decide_eq_true_eq] at matched
            exact ⟨summary, matched.1, matched.2.1, ⟨feed, own.1, own.2, matched.2.2.symm⟩,
              Option.some_inj.mp value⟩
  · rintro ⟨summary, member, ownSymbol, ⟨feed, feedMem, own, same⟩, rfl⟩
    refine ⟨(some feed, some summary), ?_, rfl⟩
    refine (mem_leftJoin _ _ _ _).mpr ⟨(some_mem_feedsOf db asset feed).mpr ⟨feedMem, own⟩, ?_⟩
    refine (db.store.cacheMeta.mem_select _ summary).mpr ⟨member, ?_⟩
    simp [ownSymbol, same]

theorem aggStatus_pending_iff {rows : List (Option FeedRecord × Option MetaRow)}
    (some_feed : anyStatus .active rows = true ∨ anyStatus .pending rows = true ∨
      anyStatus .inactive rows = true) :
    aggStatus rows = .pending ↔ anyStatus .active rows = false ∧ anyStatus .pending rows = true := by
  unfold aggStatus
  cases active : anyStatus .active rows with
  | true => simp
  | false =>
      cases pending : anyStatus .pending rows with
      | true => simp
      | false =>
          have inactive : anyStatus .inactive rows = true := by
            rw [active, pending] at some_feed
            simpa using some_feed
          simp [inactive]

end Status

/-! ## The answer and the stored state -/

/-- A summary row that counts for the asset once its feeds are there. -/
def CountsFor (request : CreateAssetRequest) (db : Database F) (summary : MetaRow) : Prop :=
  summary ∈ db.store.cacheMeta.rows ∧ summary.bucket.symbol = request.asset.storageSymbol ∧
    (summary.bucket.timeframe ∈ requestedTimeframes request ∨
      (db.feedAt request.asset.storageSymbol summary.bucket.timeframe).isSome = true)

/-- The storage symbol is as unused as the answer says: no feed of it is
active, some feed of it is or becomes pending, and what is stored for its
feeds does not reach past the epoch. -/
structure StartsPending (request : CreateAssetRequest) (db : Database F) : Prop where
  noneActive : forall timeframe row,
    db.feedAt request.asset.storageSymbol timeframe = some row -> row.status ≠ .active
  somePending :
    (exists timeframe, timeframe ∈ requestedTimeframes request ∧
      db.feedAt request.asset.storageSymbol timeframe = none) ∨
    exists timeframe row,
      db.feedAt request.asset.storageSymbol timeframe = some row ∧ row.status = .pending
  noBars : (forall summary, ¬ CountsFor request db summary) ∨
    ((exists summary, CountsFor request db summary ∧ summary.lastBarTs = 0) ∧
      forall summary, CountsFor request db summary -> summary.lastBarTs ≤ 0)

section Answer

variable (now : Int) (request : CreateAssetRequest) (db : Database F)

theorem feedAt_onboarded_eq_some_iff (timeframe : String) (row : FeedRecord) :
    (onboarded now request db).feedAt request.asset.storageSymbol timeframe = some row ↔
      db.feedAt request.asset.storageSymbol timeframe = some row ∨
        (db.feedAt request.asset.storageSymbol timeframe = none ∧
          timeframe ∈ requestedTimeframes request ∧
          row = pendingFeed now request.asset.storageSymbol (requestedTvSymbol request)
            timeframe) := by
  rw [feedAt_onboarded]
  cases stored : db.feedAt request.asset.storageSymbol timeframe with
  | some old => simp
  | none =>
      by_cases asked : timeframe ∈ requestedTimeframes request
      · simp [asked, eq_comm]
      · simp [asked]

theorem requestedTimeframes_ne_nil : requestedTimeframes request ≠ [] := by
  unfold requestedTimeframes
  by_cases empty : request.timeframes.isEmpty = true
  · rw [if_pos empty]
    decide
  · rw [if_neg empty]
    exact fun nothing => empty (List.isEmpty_iff.mpr nothing)

/-- The statuses of the asset's feeds after the insert. -/
theorem anyStatus_onboarded (status : FeedStatus) :
    anyStatus status (statusRows (onboarded now request db) (createdAsset now request)) = true ↔
      (exists timeframe row,
        db.feedAt request.asset.storageSymbol timeframe = some row ∧ row.status = status) ∨
      (status = .pending ∧ exists timeframe, timeframe ∈ requestedTimeframes request ∧
        db.feedAt request.asset.storageSymbol timeframe = none) := by
  rw [anyStatus_iff]
  constructor
  · rintro ⟨feed, member, own, same⟩
    have found := ((onboarded now request db).feedAt_eq_some_iff _ _ feed).mpr ⟨member, own, rfl⟩
    rcases (feedAt_onboarded_eq_some_iff now request db _ feed).mp found with
      old | ⟨free, asked, equal⟩
    · exact Or.inl ⟨_, feed, old, same⟩
    · rw [equal] at same
      exact Or.inr ⟨same.symm, _, asked, free⟩
  · rintro (⟨timeframe, row, stored, same⟩ | ⟨rfl, timeframe, asked, free⟩)
    · have found := (feedAt_onboarded_eq_some_iff now request db _ row).mpr (Or.inl stored)
      have parts := ((onboarded now request db).feedAt_eq_some_iff _ _ row).mp found
      exact ⟨row, parts.1, parts.2.1, same⟩
    · have found := (feedAt_onboarded_eq_some_iff now request db timeframe _).mpr
        (Or.inr ⟨free, asked, rfl⟩)
      have parts := ((onboarded now request db).feedAt_eq_some_iff _ _ _).mp found
      exact ⟨_, parts.1, parts.2.1, rfl⟩

theorem status_onboarded_iff :
    aggStatus (statusRows (onboarded now request db) (createdAsset now request)) = .pending ↔
      (forall timeframe row,
        db.feedAt request.asset.storageSymbol timeframe = some row -> row.status ≠ .active) ∧
      ((exists timeframe, timeframe ∈ requestedTimeframes request ∧
          db.feedAt request.asset.storageSymbol timeframe = none) ∨
        exists timeframe row,
          db.feedAt request.asset.storageSymbol timeframe = some row ∧ row.status = .pending) := by
  have some_feed : anyStatus .active
        (statusRows (onboarded now request db) (createdAsset now request)) = true ∨
      anyStatus .pending
        (statusRows (onboarded now request db) (createdAsset now request)) = true ∨
      anyStatus .inactive
        (statusRows (onboarded now request db) (createdAsset now request)) = true := by
    rcases List.exists_mem_of_ne_nil _ (requestedTimeframes_ne_nil request) with ⟨timeframe, asked⟩
    simp only [anyStatus_onboarded]
    cases stored : db.feedAt request.asset.storageSymbol timeframe with
    | none => exact Or.inr (Or.inl (Or.inr ⟨trivial, timeframe, asked, stored⟩))
    | some row =>
        cases status : row.status with
        | active => exact Or.inl (Or.inl ⟨timeframe, row, stored, status⟩)
        | pending => exact Or.inr (Or.inl (Or.inl ⟨timeframe, row, stored, status⟩))
        | inactive => exact Or.inr (Or.inr (Or.inl ⟨timeframe, row, stored, status⟩))
  rw [aggStatus_pending_iff some_feed, Bool.eq_false_iff, Ne, anyStatus_onboarded,
    anyStatus_onboarded]
  constructor
  · rintro ⟨noneActive, pending⟩
    refine ⟨fun timeframe row stored active => noneActive (Or.inl ⟨timeframe, row, stored, active⟩),
      ?_⟩
    rcases pending with old | ⟨_, free⟩
    · exact Or.inr old
    · exact Or.inl free
  · rintro ⟨noneActive, pending⟩
    constructor
    · rintro (⟨timeframe, row, stored, active⟩ | ⟨impossible, _⟩)
      · exact noneActive timeframe row stored active
      · cases impossible
    · rcases pending with free | old
      · exact Or.inr ⟨rfl, free⟩
      · exact Or.inl old

theorem mem_lastBarTs_onboarded (ts : Int) :
    ts ∈ (statusRows (onboarded now request db) (createdAsset now request)).filterMap
        (fun row => row.2.map MetaRow.lastBarTs) ↔
      exists summary, CountsFor request db summary ∧ summary.lastBarTs = ts := by
  rw [mem_lastBarTs_iff]
  have polled : forall timeframe,
      (exists feed, feed ∈ (onboarded now request db).feeds.rows ∧
        feed.storageSymbol = request.asset.storageSymbol ∧ feed.timeframe = timeframe) ↔
      (timeframe ∈ requestedTimeframes request ∨
        (db.feedAt request.asset.storageSymbol timeframe).isSome = true) := by
    intro timeframe
    rw [← show (exists feed,
        (onboarded now request db).feedAt request.asset.storageSymbol timeframe = some feed) ↔ _ from
      exists_congr (fun feed => (onboarded now request db).feedAt_eq_some_iff _ _ feed),
      ← Option.isSome_iff_exists, feedAt_onboarded, Option.isSome_or, Bool.or_eq_true]
    by_cases asked : timeframe ∈ requestedTimeframes request
    · simp [asked]
    · simp [asked]
  constructor
  · rintro ⟨summary, member, own, feeds, equal⟩
    exact ⟨summary, ⟨member, own, (polled _).mp feeds⟩, equal⟩
  · rintro ⟨summary, ⟨member, own, feeds⟩, equal⟩
    exact ⟨summary, member, own, (polled _).mpr feeds, equal⟩

theorem lastBarTs_onboarded_iff :
    maxLastBarTs (statusRows (onboarded now request db) (createdAsset now request)) = 0 ↔
      (forall summary, ¬ CountsFor request db summary) ∨
      ((exists summary, CountsFor request db summary ∧ summary.lastBarTs = 0) ∧
        forall summary, CountsFor request db summary -> summary.lastBarTs ≤ 0) := by
  rw [maxLastBarTs, maxOrZero_eq_zero_iff, List.eq_nil_iff_forall_not_mem]
  simp only [mem_lastBarTs_onboarded]
  constructor
  · rintro (nothing | ⟨zero, upper⟩)
    · exact Or.inl fun summary counts => nothing _ ⟨summary, counts, rfl⟩
    · exact Or.inr ⟨zero, fun summary counts => upper _ ⟨summary, counts, rfl⟩⟩
  · rintro (nothing | ⟨zero, upper⟩)
    · exact Or.inl fun ts found => nothing found.choose found.choose_spec.1
    · refine Or.inr ⟨zero, ?_⟩
      rintro ts ⟨summary, counts, rfl⟩
      exact upper summary counts

end Answer

theorem FeedStatus.text_injective : Function.Injective FeedStatus.text := by
  intro first second same
  cases first <;> cases second <;> first | rfl | exact absurd same (by decide)

/-- The answer `created=true` describes the stored state exactly when the
storage symbol starts out pending. -/
theorem createAsset_answer_iff (env : CreateEnv) (request : CreateAssetRequest) (db : Database F)
    (response : CreateAssetResponse)
    (answered : (createAsset env request db).1 = .ok response) (created : response.created = true) :
    (getWithStatus (createAsset env request db).2 request.asset.symbol).map
        rowToAssetWithStatusMessage = some response.assetWithStatus ↔
      StartsPending request db := by
  rcases createAsset_created answered created with ⟨absent, answer, after⟩
  rw [after, answer, getWithStatus_onboarded env.now absent, Option.map_some, Option.some_inj]
  have described : rowToAssetWithStatusMessage
        (withStatus (onboarded env.now request db) (createdAsset env.now request)) =
      freshAnswer env.now request ↔
      aggStatus (statusRows (onboarded env.now request db) (createdAsset env.now request)) =
          .pending ∧
        maxLastBarTs (statusRows (onboarded env.now request db) (createdAsset env.now request)) =
          0 := by
    simp only [freshAnswer, rowToAssetWithStatusMessage, withStatus,
      AssetWithStatusMessage.mk.injEq, FeedStatus.text_injective.eq_iff, true_and]
  rw [described, status_onboarded_iff, lastBarTs_onboarded_iff]
  constructor
  · rintro ⟨⟨noneActive, somePending⟩, noBars⟩
    exact ⟨noneActive, somePending, noBars⟩
  · rintro ⟨noneActive, somePending, noBars⟩
    exact ⟨⟨noneActive, somePending⟩, noBars⟩

/-- A request for a perpetual of a spot market, under its own symbol. -/
def adaRequest : CreateAssetRequest where
  asset :=
    { symbol := "BINANCE:ADAUSDT.P", storageSymbol := "ADA", name := "Cardano",
      exchange := "BINANCE", currency := "USD", assetClass := "CRYPTO", assetSubclass := "PERP",
      isin := "", country := "" }
  timeframes := ["1h"]
  tvSymbol := ""

/-- The asset of a storage symbol that nobody uses. -/
theorem createAsset_answer_iff_unused :
    exists response, (createAsset ⟨100000, true⟩ adaRequest (Database.empty : Database Rat)).1 =
        .ok response ∧
      (getWithStatus (createAsset ⟨100000, true⟩ adaRequest (Database.empty : Database Rat)).2
        "BINANCE:ADAUSDT.P").map rowToAssetWithStatusMessage = some response.assetWithStatus := by
  have answered : (createAsset ⟨100000, true⟩ adaRequest (Database.empty : Database Rat)).1 =
      .ok { assetWithStatus := freshAnswer 100000 adaRequest, created := true,
            pollEtaSeconds := 30 } := by decide +kernel
  refine ⟨_, answered, (createAsset_answer_iff ⟨100000, true⟩ adaRequest Database.empty _ answered
    rfl).mpr ⟨?_, ?_, ?_⟩⟩
  · intro timeframe row impossible
    cases impossible
  · exact Or.inl ⟨"1h", by decide, rfl⟩
  · apply Or.inl
    rintro summary ⟨impossible, _⟩
    cases impossible

/-- The feed of a storage symbol that the writer polls already, with a bar. -/
def seededDatabase (tvSymbol : String) (status : FeedStatus) : Database Rat where
  store := seededStore [seedBar 3600 10]
  feeds := FeedsRepo.upsert 0 "ADA" "1h" tvSymbol status Table.empty
  assets := Table.empty

/-- The answer is pending without bars, the stored state active with one. -/
theorem createAsset_answer_active :
    exists response, (createAsset ⟨100000, true⟩ adaRequest
        (seededDatabase "BINANCE:ADAUSDT" .active)).1 = .ok response ∧ response.created = true ∧
      (getWithStatus (createAsset ⟨100000, true⟩ adaRequest
          (seededDatabase "BINANCE:ADAUSDT" .active)).2 "BINANCE:ADAUSDT.P").map
        rowToAssetWithStatusMessage =
          some { response.assetWithStatus with status := "active", lastBarTs := 3600 } ∧
      response.assetWithStatus.status = "pending" ∧ response.assetWithStatus.lastBarTs = 0 := by
  refine ⟨{ assetWithStatus := freshAnswer 100000 adaRequest, created := true,
            pollEtaSeconds := 30 }, ?_⟩
  decide +kernel

/-! ## The polling that was asked for -/

/-- The feeds asked for are stored with the chart asked for, and are polled. -/
def PollingStarted (request : CreateAssetRequest) (after : Database F) : Prop :=
  forall timeframe, timeframe ∈ requestedTimeframes request ->
    exists row, after.feedAt request.asset.storageSymbol timeframe = some row ∧
      row.tvSymbol = requestedTvSymbol request ∧
      row.toFeedRow ∈ FeedsRepo.pollingTargets after.feeds

/-- A feed asked for that is there already is on the chart asked for and has
not been disabled. -/
def FeedsFree (request : CreateAssetRequest) (db : Database F) : Prop :=
  forall timeframe row, timeframe ∈ requestedTimeframes request ->
    db.feedAt request.asset.storageSymbol timeframe = some row ->
    row.tvSymbol = requestedTvSymbol request ∧ row.status ≠ .inactive

theorem feedAt_mem_pollingTargets_iff {db : Database F} {storageSymbol timeframe : String}
    {row : FeedRecord} (stored : db.feedAt storageSymbol timeframe = some row) :
    row.toFeedRow ∈ FeedsRepo.pollingTargets db.feeds ↔ row.status ≠ .inactive := by
  have member := ((db.feedAt_eq_some_iff _ _ row).mp stored).1
  rw [FeedsRepo.mem_pollingTargets]
  constructor
  · rintro ⟨_, _, _, status⟩
    exact status
  · intro status
    exact ⟨row, member, rfl, status⟩

/-- A request that creates its asset starts the polling it asked for exactly
when the feeds that are there already agree with it. -/
theorem pollingStarted_iff (env : CreateEnv) (request : CreateAssetRequest) (db : Database F)
    (response : CreateAssetResponse)
    (answered : (createAsset env request db).1 = .ok response) (created : response.created = true) :
    PollingStarted request (createAsset env request db).2 ↔ FeedsFree request db := by
  rcases createAsset_created answered created with ⟨_, _, after⟩
  rw [after]
  constructor
  · intro started timeframe row asked stored
    rcases started timeframe asked with ⟨found, foundEq, chart, target⟩
    have same : found = row := by
      have kept := (feedAt_onboarded_eq_some_iff env.now request db timeframe row).mpr
        (Or.inl stored)
      exact Option.some_inj.mp (foundEq.symm.trans kept)
    subst same
    exact ⟨chart, (feedAt_mem_pollingTargets_iff foundEq).mp target⟩
  · intro free timeframe asked
    cases stored : db.feedAt request.asset.storageSymbol timeframe with
    | some row =>
        have kept := (feedAt_onboarded_eq_some_iff env.now request db timeframe row).mpr
          (Or.inl stored)
        have agrees := free timeframe row asked stored
        exact ⟨row, kept, agrees.1, (feedAt_mem_pollingTargets_iff kept).mpr agrees.2⟩
    | none =>
        have inserted := (feedAt_onboarded_eq_some_iff env.now request db timeframe _).mpr
          (Or.inr ⟨stored, asked, rfl⟩)
        refine ⟨_, inserted, rfl, (feedAt_mem_pollingTargets_iff inserted).mpr ?_⟩
        intro impossible
        cases impossible

theorem pollingStarted_iff_unused :
    PollingStarted adaRequest
      (createAsset ⟨100000, true⟩ adaRequest (Database.empty : Database Rat)).2 := by
  have answered : (createAsset ⟨100000, true⟩ adaRequest (Database.empty : Database Rat)).1 =
      .ok { assetWithStatus := freshAnswer 100000 adaRequest, created := true,
            pollEtaSeconds := 30 } := by decide +kernel
  refine (pollingStarted_iff ⟨100000, true⟩ adaRequest Database.empty _ answered rfl).mpr ?_
  intro timeframe row _ impossible
  cases impossible

/-- A feed that is there on another chart, or that has been disabled, stays so. -/
theorem polling_not_started :
    (exists response, (createAsset ⟨100000, true⟩ adaRequest
        (seededDatabase "BINANCE:ADAUSDT" .active)).1 = .ok response ∧ response.created = true ∧
      ¬ PollingStarted adaRequest (createAsset ⟨100000, true⟩ adaRequest
        (seededDatabase "BINANCE:ADAUSDT" .active)).2) ∧
    exists response, (createAsset ⟨100000, true⟩ adaRequest
        (seededDatabase "BINANCE:ADAUSDT.P" .inactive)).1 = .ok response ∧
      response.created = true ∧
      ¬ PollingStarted adaRequest (createAsset ⟨100000, true⟩ adaRequest
        (seededDatabase "BINANCE:ADAUSDT.P" .inactive)).2 := by
  constructor
  · refine ⟨{ assetWithStatus := freshAnswer 100000 adaRequest, created := true,
              pollEtaSeconds := 30 }, by decide +kernel, rfl, ?_⟩
    intro started
    rcases started "1h" (by decide) with ⟨row, stored, chart, _⟩
    have kept : ((createAsset ⟨100000, true⟩ adaRequest
        (seededDatabase "BINANCE:ADAUSDT" .active)).2.feedAt "ADA" "1h").map
          (fun row => row.tvSymbol) = some "BINANCE:ADAUSDT" := by decide +kernel
    rw [show adaRequest.asset.storageSymbol = "ADA" from rfl] at stored
    rw [stored, Option.map_some, chart] at kept
    exact absurd kept (by decide)
  · refine ⟨{ assetWithStatus := freshAnswer 100000 adaRequest, created := true,
              pollEtaSeconds := 30 }, by decide +kernel, rfl, ?_⟩
    intro started
    rcases started "1h" (by decide) with ⟨row, stored, _, target⟩
    have kept : ((createAsset ⟨100000, true⟩ adaRequest
        (seededDatabase "BINANCE:ADAUSDT.P" .inactive)).2.feedAt "ADA" "1h").map
          (fun row => row.status) = some .inactive := by decide +kernel
    rw [show adaRequest.asset.storageSymbol = "ADA" from rfl] at stored
    rw [stored, Option.map_some] at kept
    exact (feedAt_mem_pollingTargets_iff stored).mp target (Option.some_inj.mp kept)

end HybridDataSvc
