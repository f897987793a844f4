import HybridDataSvc.Catalog.Assets
import HybridDataSvc.Catalog.Feeds
import HybridDataSvc.Text.Numbers
import HybridDataSvc.Text.Python
import Mathlib.Algebra.Order.Ring.Unbundled.Rat

namespace HybridDataSvc

open Relational NumberText

/-!
# The writer's main loop

`__main__.py` with the configuration and the seeding it starts from.  A start
seeds the configured feeds, lists the rows it is going to poll with the length
of their bars, and then repeats one cycle: poll every target, each inside a
`try` of its own, and sleep until the next bar close.
-/

variable {F : Type} [PyFloat F]

/-! ## `_parse_feeds` -/

/-- One entry of `FEEDS`. -/
def parseEntry (defaultTf defaultTvSymbol entry : String) : List Feed :=
  match (PyText.split (PyText.strip entry) '@').map PyText.strip with
  | [] => []
  | [symbol] => if symbol = "" then [] else [⟨symbol, defaultTf, defaultTvSymbol⟩]
  | [symbol, timeframe] => [⟨symbol, timeframe, defaultTvSymbol⟩]
  | symbol :: timeframe :: tvSymbol :: _ => [⟨symbol, timeframe, tvSymbol⟩]

/-- `_parse_feeds`. -/
def parseFeeds (feedsEnv defaultSymbol defaultTf defaultTvSymbol : String) : List Feed :=
  let fallback : List Feed := [⟨defaultSymbol, defaultTf, defaultTvSymbol⟩]
  if PyText.strip feedsEnv = "" then fallback
  else
    let result := (PyText.split feedsEnv ',').flatMap (parseEntry defaultTf defaultTvSymbol)
    if result.isEmpty then fallback else result

/-! ## The state of the process and its database -/

/-- The database, with the fetcher's memory and the chart beside it. -/
structure Writer (F : Type) where
  system : System F
  feeds : Table FeedRecord.key
  assets : Table AssetRecord.key

namespace Writer

/-- The tables of the database. -/
def db (writer : Writer F) : Database F := ⟨writer.system.store, writer.feeds, writer.assets⟩

/-- Another process has written to the catalog. -/
def withCatalog (writer : Writer F) (db : Database F) : Writer F :=
  { writer with feeds := db.feeds, assets := db.assets }

/-- Another process has written to the bar tables. -/
def withStore (writer : Writer F) (store : Store F) : Writer F :=
  { writer with system := { writer.system with store := store } }

/-- The first start on empty tables. -/
def boot (primary : Feed) : Writer F where
  system := ⟨Store.empty, DataFetcher.init primary, primary.chart⟩
  feeds := Table.empty
  assets := Table.empty

end Writer

/-- `_feedrow_to_feed`. -/
def feedRowToFeed (row : FeedRow) : Feed := ⟨row.storageSymbol, row.timeframe, row.tvSymbol⟩

/-! ## The start -/

/-- The settings a start reads from its environment: `FEEDS` and the defaults
for what an entry leaves out. -/
structure StartEnv where
  now : Int
  commits : Bool
  feedsEnv : String
  symbol : String
  timeframe : String
  tvSymbol : String

def StartEnv.feeds (env : StartEnv) : List Feed :=
  parseFeeds env.feedsEnv env.symbol env.timeframe env.tvSymbol

/-- `feeds_loader.sync`: a failing database is logged and counts as no row. -/
def feedsLoaderSync (env : StartEnv) (db : Database F) : Nat × Database F :=
  if env.commits then FeedsRepo.seedFromEnv env.now env.feeds db else (0, db)

/-- The line for one initial target, with the length of its bars. -/
def listTarget (row : FeedRow) : Except PyError (FeedRow × Int) :=
  match tfSeconds row.timeframe with
  | .error raised => .error raised
  | .ok secs => .ok (row, secs)

/-- The lines that list the initial targets. -/
def startupListing (targets : List FeedRow) : Except PyError (List (FeedRow × Int)) :=
  targets.mapM listTarget

/-- `DataFetcher(cfg)`: the primary feed is the first configured one. -/
def startFetcher (env : StartEnv) (writer : Writer F) : Writer F :=
  match env.feeds with
  | [] => writer
  | primary :: _ =>
    { writer with system := { writer.system with fetcher := DataFetcher.init primary } }

/-- `main` up to its loop. -/
def startup (env : StartEnv) (writer : Writer F) :
    Except PyError (List (FeedRow × Int)) × Writer F :=
  let started := writer.withCatalog (feedsLoaderSync env writer.db).2
  match startupListing (FeedsRepo.pollingTargets started.feeds) with
  | .error raised => (.error raised, started)
  | .ok listed => (.ok listed, startFetcher env started)

/-! ## One cycle -/

/-- The surroundings of one target in a cycle. -/
structure TargetEnv (F : Type) where
  fetch : FetchEnv F
  markNow : Int
  markCommits : Bool

/-- `int(df["time"].iloc[-1])`: whether the frame shows a bar.  A frame
without one raises, and so does a failed fetch; both end the target's `try`. -/
def showsBar (outcome : Except PyError (DataFrame F)) : Bool :=
  match outcome with
  | .error _ => false
  | .ok df =>
    match df.rows with
    | .error _ => false
    | .ok rows => !rows.isEmpty

/-- The fetch of a target. -/
def fetchTarget (cfg : FetcherConfig F) (env : FetchEnv F) (row : FeedRow) (writer : Writer F) :
    Bool × Writer F :=
  let result := DataFetcher.fetch cfg env (feedRowToFeed row) writer.system
  (showsBar result.outcome, { writer with system := result.system })

/-- The promotion of a target by the status it was read with. -/
def promoteTarget (now : Int) (commits : Bool) (row : FeedRow) (writer : Writer F) : Writer F :=
  if row.status = .pending ∧ commits = true then
    { writer with feeds := FeedsRepo.markActive now row.storageSymbol row.timeframe writer.feeds }
  else writer

omit [PyFloat F] in
theorem promoteTarget_cases (now : Int) (commits : Bool) (row : FeedRow) (writer : Writer F) :
    promoteTarget now commits row writer = writer ∨
      promoteTarget now commits row writer = { writer with
        feeds := FeedsRepo.markActive now row.storageSymbol row.timeframe writer.feeds } := by
  unfold promoteTarget
  by_cases promotes : row.status = .pending ∧ commits = true
  · exact Or.inr (if_pos promotes)
  · exact Or.inl (if_neg promotes)

/-- The body of the loop over the targets. -/
def pollTarget (cfg : FetcherConfig F) (env : FeedRow -> TargetEnv F) (writer : Writer F)
    (row : FeedRow) : Writer F :=
  let fetched := fetchTarget cfg (env row).fetch row writer
  if fetched.1 then promoteTarget (env row).markNow (env row).markCommits row fetched.2
  else fetched.2

/-- `_MIN_SLEEP_S`. -/
def minSleepS : Rat := 5

/-- `_BAR_CLOSE_GRACE_S`. -/
def barCloseGraceS : Rat := 5

/-- The loop of `_sleep_until_next_event` over the feeds.  Each sum of floats is
rounded; times do not come near the largest float. -/
def earliestWake (now : Rat) (store : Store F) : Rat -> List Feed -> Except PyError Rat
  | earliest, [] => .ok earliest
  | earliest, feed :: rest =>
    match latestBarTs store (defaultBucket feed.symbol feed.timeframe) with
    | none => earliestWake now store (min earliest (nearest (now + minSleepS))) rest
    | some lastTs =>
      match tfSeconds feed.timeframe with
      | .error raised => .error raised
      | .ok secs =>
        -- the whole number before the grace becomes a float of its own
        let nextClose := nearest (nearest (lastTs + 2 * secs) + barCloseGraceS)
        earliestWake now store (min earliest nextClose) rest

/-- `_sleep_until_next_event`, with both its readings of the clock: the
seconds it sleeps. -/
def sleepUntilNextEvent (now later : Rat) (feeds : List Feed) (store : Store F)
    (fallbackS : Rat) : Except PyError Rat :=
  match earliestWake now store (nearest (now + fallbackS)) feeds with
  | .error raised => .error raised
  | .ok earliest => .ok (max minSleepS (nearest (earliest - later)))

/-- The surroundings of a cycle. -/
structure CycleEnv (F : Type) where
  target : FeedRow -> TargetEnv F
  now : Rat
  later : Rat

/-- One round of the main loop: the seconds it sleeps at the end. -/
def pollCycle (cfg : FetcherConfig F) (pollIntervalS : Rat) (env : CycleEnv F)
    (writer : Writer F) : Except PyError Rat × Writer F :=
  let targets := FeedsRepo.pollingTargets writer.feeds
  let polled := targets.foldl (pollTarget cfg env.target) writer
  (sleepUntilNextEvent env.now env.later (targets.map feedRowToFeed) polled.system.store
    pollIntervalS, polled)

end HybridDataSvc
