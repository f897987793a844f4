import HybridDataSvc.Cache.GetBars

namespace HybridDataSvc

open Relational

/-!
# The fetcher and the chart

`DataFetcher.fetch` drives one TradingView chart through the `tv` command
line.  The chart shows a symbol at a resolution and is changed only by `tv
symbol` and `tv timeframe`; `tv ohlcv` returns the bars of whatever it shows.
The fetcher remembers the feed it last switched to and switches only for
another one.  A command that fails may nevertheless have changed the chart,
so each failing outcome says whether it took effect.
-/

/-- `Feed`. -/
structure Feed where
  symbol : String
  timeframe : String
  tvSymbol : String
  deriving DecidableEq, Repr

/-- `_TF_TO_TV`. -/
def tfToTv : List (String × String) :=
  [("1", "1"), ("3", "3"), ("5", "5"), ("15", "15"), ("30", "30"),
   ("60", "60"), ("1h", "60"), ("2h", "120"), ("4h", "240"),
   ("D", "D"), ("1D", "D"), ("W", "W"), ("1W", "W")]

/-- `_TF_TO_TV.get(timeframe, timeframe)`. -/
def tvTimeframe (timeframe : String) : String := (tfToTv.lookup timeframe).getD timeframe

/-- What the chart shows. -/
structure Chart where
  tvSymbol : String
  resolution : String
  deriving DecidableEq, Repr

/-- The chart that shows exactly a feed. -/
def Feed.chart (feed : Feed) : Chart := ⟨feed.tvSymbol, tvTimeframe feed.timeframe⟩

/-- How a `tv symbol` or `tv timeframe` command ends: it reports success, or
times out, is not found, exits with an error (its `stderr` stripped), prints
no JSON, more of it than Python can read, or no object, or reports a failure. -/
inductive SwitchOutcome
  | succeeded
  | timedOut (tookEffect : Bool)
  | notFound
  | exited (stderr : String) (tookEffect : Bool)
  | unparsable (message : String) (tookEffect : Bool)
  | unreadable (typeName : String) (tookEffect : Bool)
  | notAnObject (typeName : String) (tookEffect : Bool)
  | refused (data : String) (tookEffect : Bool)
  deriving DecidableEq, Repr

namespace SwitchOutcome

/-- The chart has been changed. -/
def tookEffect : SwitchOutcome -> Bool
  | .succeeded => true
  | .timedOut took => took
  | .notFound => false
  | .exited _ took => took
  | .unparsable _ took => took
  | .unreadable _ took => took
  | .notAnObject _ took => took
  | .refused _ took => took

/-- The exception of `_tv_switch` after a command. -/
def raised (tvCli subcmd arg : String) : SwitchOutcome -> Option PyError
  | .succeeded => none
  | .timedOut _ =>
      some (.dataFetchError ("tv " ++ subcmd ++ " switch timed out for " ++ pyRepr arg))
  | .notFound => some (.fileNotFoundError tvCli)
  | .exited stderr _ => some (.dataFetchError ("tv " ++ subcmd ++ " switch failed: " ++ stderr))
  | .unparsable message _ => some (.dataFetchError message)
  | .unreadable typeName _ => some (.other typeName)
  | .notAnObject typeName _ =>
      some (.attributeError (pyRepr typeName ++ " object has no attribute 'get'"))
  | .refused data _ => some (.dataFetchError ("tv " ++ subcmd ++ " returned failure: " ++ data))

theorem raised_eq_none_iff (tvCli subcmd arg : String) (outcome : SwitchOutcome) :
    outcome.raised tvCli subcmd arg = none ↔ outcome = .succeeded := by
  cases outcome <;> simp [raised]

end SwitchOutcome

/-- `_tv_switch`, with the chart it leaves: the symbol first, then the timeframe. -/
def tvSwitch (tvCli : String) (feed : Feed) (symbolOutcome timeframeOutcome : SwitchOutcome)
    (chart : Chart) : Except PyError Unit × Chart :=
  let afterSymbol :=
    if symbolOutcome.tookEffect then { chart with tvSymbol := feed.tvSymbol } else chart
  match symbolOutcome.raised tvCli "symbol" feed.tvSymbol with
  | some error => (.error error, afterSymbol)
  | none =>
    let afterTimeframe :=
      if timeframeOutcome.tookEffect then
        { afterSymbol with resolution := tvTimeframe feed.timeframe }
      else afterSymbol
    match timeframeOutcome.raised tvCli "timeframe" (tvTimeframe feed.timeframe) with
    | some error => (.error error, afterTimeframe)
    | none => (.ok (), afterTimeframe)

/-- The settings of `DataSvcConfig` that `fetch` reads, and how Python shows a
list of floats in a message. -/
structure FetcherConfig (F : Type) where
  tvCli : String
  barsToFetch : Int
  showFloats : List F -> String

/-- The chart a `DataFetcher` believes to be on the screen. -/
structure DataFetcher where
  chartTvSymbol : String
  chartTimeframe : String
  deriving DecidableEq, Repr

/-- `DataFetcher.__init__`: the chart is taken to show the primary feed. -/
def DataFetcher.init (primary : Feed) : DataFetcher := ⟨primary.tvSymbol, primary.timeframe⟩

/-- The chart the remembered pair stands for. -/
def DataFetcher.chart (fetcher : DataFetcher) : Chart :=
  ⟨fetcher.chartTvSymbol, tvTimeframe fetcher.chartTimeframe⟩

/-- `feed.tv_symbol != self._chart_tv_symbol or feed.timeframe != self._chart_timeframe`. -/
def DataFetcher.NeedsSwitch (fetcher : DataFetcher) (feed : Feed) : Prop :=
  feed.tvSymbol ≠ fetcher.chartTvSymbol ∨ feed.timeframe ≠ fetcher.chartTimeframe

instance (fetcher : DataFetcher) (feed : Feed) : Decidable (fetcher.NeedsSwitch feed) :=
  inferInstanceAs (Decidable (_ ∨ _))

/-- The database, the fetcher's memory and the real chart. -/
structure System (F : Type) where
  store : Store F
  fetcher : DataFetcher
  chart : Chart

/-- The surroundings of one `fetch`: `time.time()`, the error of the tab
activation if it fails, the outcomes of the two switch commands, and what the
cache call reads and is answered.  `ohlcv n` is the frame parsed from
`tv ohlcv -n n`, or the exception of `_tv_fetch`. -/
structure FetchEnv (F : Type) where
  clock : Rat
  tabPinError : Option String
  symbolOutcome : SwitchOutcome
  timeframeOutcome : SwitchOutcome
  now : Int
  ohlcv : Int -> Except PyError (DataFrame F)
  ohlcvAgain : Int -> Except PyError (DataFrame F)
  insert : InsertEnv

/-- A `tv ohlcv` command and the chart it was issued on. -/
structure OhlcvCall where
  count : Int
  chart : Chart
  deriving DecidableEq, Repr

/-- What one `fetch` did. -/
structure FetchResult (F : Type) where
  outcome : Except PyError (DataFrame F)
  system : System F
  ohlcvCalls : List OhlcvCall

section Fetch

variable {F : Type} [PyFloat F]

/-- The closure `_fetcher`: the bars `_tv_fetch` returns, unless a close is
outside the band of the symbol. -/
def verifiedFetch (cfg : FetcherConfig F) (symbol : String)
    (ohlcv : Int -> Except PyError (DataFrame F)) (count : Int) : Except PyError (DataFrame F) :=
  match ohlcv (min count 500) with
  | .error raised => .error raised
  | .ok df =>
    match df.rows with
    | .error raised => .error raised
    | .ok rows =>
      let bad := (rows.map (fun bar => bar.close)).filter (fun close => !isPlausible symbol close)
      if bad.isEmpty then .ok df
      else
        .error (.dataFetchError ("tv_fetch returned implausible closes for " ++ symbol ++
          " (sample=" ++ cfg.showFloats (bad.take 3) ++ ")"))

/-- The surroundings the cache call sees. -/
def FetchEnv.cache (env : FetchEnv F) (cfg : FetcherConfig F) (symbol : String) : GetBarsEnv F where
  now := env.now
  fetch := verifiedFetch cfg symbol env.ohlcv
  refetch := verifiedFetch cfg symbol env.ohlcvAgain
  insert := env.insert

/-- The fast path: no newer bar can have closed yet. -/
def cacheFresh (clock : Rat) (secs : Int) : Option Int -> Bool
  | none => false
  | some lastTs => decide (clock - lastTs < 2 * secs)

/-- The tail of `fetch` on the chart that is now taken to show the feed. -/
def fetchOnChart (cfg : FetcherConfig F) (env : FetchEnv F) (feed : Feed) (store : Store F)
    (fetcher : DataFetcher) (chart : Chart) : FetchResult F :=
  let called := getBars (env.cache cfg feed.symbol) feed.symbol feed.timeframe cfg.barsToFetch store
  { outcome := called.outcome
    system := { store := called.store, fetcher := fetcher, chart := chart }
    ohlcvCalls := called.fetches.map (fun count => { count := min count 500, chart := chart }) }

/-- `DataFetcher.fetch`. -/
def DataFetcher.fetch (cfg : FetcherConfig F) (env : FetchEnv F) (feed : Feed) (system : System F) :
    FetchResult F :=
  match tfSeconds feed.timeframe with
  | .error raised => { outcome := .error raised, system := system, ohlcvCalls := [] }
  | .ok secs =>
    let bucket := defaultBucket feed.symbol feed.timeframe
    if cacheFresh env.clock secs (latestBarTs system.store bucket) then
      { outcome := readBars system.store bucket cfg.barsToFetch
        system := system, ohlcvCalls := [] }
    else
      match env.tabPinError with
      | some message =>
        { outcome := .error (.dataFetchError ("tab pin activation failed: " ++ message))
          system := system, ohlcvCalls := [] }
      | none =>
        if system.fetcher.NeedsSwitch feed then
          match tvSwitch cfg.tvCli feed env.symbolOutcome env.timeframeOutcome system.chart with
          | (.error raised, chart) =>
            -- the remembered pair stays, whatever the failed switch has done to the chart
            { outcome := .error raised, system := { system with chart := chart }, ohlcvCalls := [] }
          | (.ok (), chart) =>
            fetchOnChart cfg env feed system.store ⟨feed.tvSymbol, feed.timeframe⟩ chart
        else fetchOnChart cfg env feed system.store system.fetcher system.chart

end Fetch

end HybridDataSvc
