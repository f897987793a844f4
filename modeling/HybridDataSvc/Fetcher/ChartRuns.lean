import HybridDataSvc.Fetcher.DataFetcher
import HybridDataSvc.Transition.Runs

namespace HybridDataSvc

open Relational Transition

/-!
# The remembered chart and the real one

`fetch` skips the switch when the feed is the remembered one, so the bars it
stores are the feed's only while the remembered pair agrees with the chart.
A switch that fails half-way can change the chart and leaves the pair, and a
restart sets the pair to the primary feed whatever the chart shows.  Apart
from these two the pair follows the chart, and `chartAgrees_iff` says so for
every run.

A process that is killed inside a `fetch` is a `fetch` whose remaining
commands fail, followed by a restart.
-/

/-! ## One switch -/

section Switch

variable {tvCli : String} {feed : Feed} {symbolOutcome timeframeOutcome : SwitchOutcome}
  {chart after : Chart}

/-- A switch that reports success shows the feed. -/
theorem tvSwitch_ok
    (switched : tvSwitch tvCli feed symbolOutcome timeframeOutcome chart = (.ok (), after)) :
    after = feed.chart ∧ symbolOutcome = .succeeded ∧ timeframeOutcome = .succeeded := by
  unfold tvSwitch at switched
  cases symbolRaised : symbolOutcome.raised tvCli "symbol" feed.tvSymbol with
  | some error =>
      rw [symbolRaised] at switched
      cases switched
  | none =>
      rw [symbolRaised] at switched
      have symbolDone := (SwitchOutcome.raised_eq_none_iff _ _ _ _).mp symbolRaised
      subst symbolDone
      cases timeframeRaised :
          timeframeOutcome.raised tvCli "timeframe" (tvTimeframe feed.timeframe) with
      | some error =>
          simp only [timeframeRaised] at switched
          cases switched
      | none =>
          simp only [timeframeRaised] at switched
          have timeframeDone := (SwitchOutcome.raised_eq_none_iff _ _ _ _).mp timeframeRaised
          subst timeframeDone
          cases switched
          exact ⟨rfl, rfl, rfl⟩

/-- A switch that raises has failed in the first command or in the second. -/
theorem tvSwitch_error {raised : PyError}
    (switched : tvSwitch tvCli feed symbolOutcome timeframeOutcome chart = (.error raised, after)) :
    (symbolOutcome ≠ .succeeded ∧
        after = if symbolOutcome.tookEffect then { chart with tvSymbol := feed.tvSymbol }
          else chart) ∨
      (symbolOutcome = .succeeded ∧ timeframeOutcome ≠ .succeeded ∧
        after = if timeframeOutcome.tookEffect then feed.chart
          else { chart with tvSymbol := feed.tvSymbol }) := by
  unfold tvSwitch at switched
  cases symbolRaised : symbolOutcome.raised tvCli "symbol" feed.tvSymbol with
  | some error =>
      simp only [symbolRaised] at switched
      cases switched
      refine Or.inl ⟨?_, rfl⟩
      rintro rfl
      cases symbolRaised
  | none =>
      have symbolDone := (SwitchOutcome.raised_eq_none_iff _ _ _ _).mp symbolRaised
      subst symbolDone
      cases timeframeRaised :
          timeframeOutcome.raised tvCli "timeframe" (tvTimeframe feed.timeframe) with
      | some error =>
          simp only [symbolRaised, timeframeRaised] at switched
          cases switched
          refine Or.inr ⟨rfl, ?_, rfl⟩
          rintro rfl
          cases timeframeRaised
      | none =>
          simp only [symbolRaised, timeframeRaised] at switched
          cases switched

end Switch

/-- A switch away from the remembered pair fails with the chart changed: by
the failing command itself, or by the symbol command before it. -/
inductive Disturbs (fetcher : DataFetcher) (feed : Feed)
    (symbolOutcome timeframeOutcome : SwitchOutcome) : Prop
  | symbol (failed : symbolOutcome ≠ .succeeded) (took : symbolOutcome.tookEffect = true)
      (different : feed.tvSymbol ≠ fetcher.chartTvSymbol)
  | symbolOnly (switched : symbolOutcome = .succeeded) (failed : timeframeOutcome ≠ .succeeded)
      (different : feed.tvSymbol ≠ fetcher.chartTvSymbol)
  | timeframe (switched : symbolOutcome = .succeeded) (failed : timeframeOutcome ≠ .succeeded)
      (took : timeframeOutcome.tookEffect = true)
      (different : tvTimeframe feed.timeframe ≠ tvTimeframe fetcher.chartTimeframe)

/-- A failed switch leaves the chart of the remembered pair exactly when it
does not disturb it. -/
theorem tvSwitch_error_keeps_iff {tvCli : String} {feed : Feed}
    {symbolOutcome timeframeOutcome : SwitchOutcome} {fetcher : DataFetcher} {after : Chart}
    {raised : PyError}
    (switched : tvSwitch tvCli feed symbolOutcome timeframeOutcome fetcher.chart =
      (.error raised, after)) :
    after = fetcher.chart ↔ ¬ Disturbs fetcher feed symbolOutcome timeframeOutcome := by
  have sameChart : forall symbol resolution, (⟨symbol, resolution⟩ : Chart) = fetcher.chart ↔
      symbol = fetcher.chartTvSymbol ∧ resolution = tvTimeframe fetcher.chartTimeframe := by
    intro symbol resolution
    rw [DataFetcher.chart, Chart.mk.injEq]
  rcases tvSwitch_error switched with ⟨symbolFailed, rfl⟩ | ⟨symbolDone, timeframeFailed, rfl⟩
  · cases took : symbolOutcome.tookEffect with
    | false =>
        apply iff_of_true rfl
        rintro (⟨_, tookEffect, _⟩ | ⟨done, _, _⟩ | ⟨done, _, _, _⟩)
        · rw [took] at tookEffect
          cases tookEffect
        · exact symbolFailed done
        · exact symbolFailed done
    | true =>
        rw [if_pos rfl, sameChart]
        constructor
        · rintro ⟨same, _⟩ (⟨_, _, different⟩ | ⟨done, _, _⟩ | ⟨done, _, _, _⟩)
          · exact different same
          · exact symbolFailed done
          · exact symbolFailed done
        · intro undisturbed
          exact ⟨by_contra fun different => undisturbed (.symbol symbolFailed took different), rfl⟩
  · cases took : timeframeOutcome.tookEffect with
    | false =>
        rw [if_neg Bool.false_ne_true, sameChart]
        constructor
        · rintro ⟨same, _⟩ (⟨failed, _, _⟩ | ⟨_, _, different⟩ | ⟨_, _, tookEffect, _⟩)
          · exact failed symbolDone
          · exact different same
          · rw [took] at tookEffect
            cases tookEffect
        · intro undisturbed
          exact ⟨by_contra fun different =>
            undisturbed (.symbolOnly symbolDone timeframeFailed different), rfl⟩
    | true =>
        rw [if_pos rfl, Feed.chart, sameChart]
        constructor
        · rintro ⟨same, sameResolution⟩
            (⟨failed, _, _⟩ | ⟨_, _, different⟩ | ⟨_, _, _, different⟩)
          · exact failed symbolDone
          · exact different same
          · exact different sameResolution
        · intro undisturbed
          exact ⟨by_contra fun different =>
              undisturbed (.symbolOnly symbolDone timeframeFailed different),
            by_contra fun different =>
              undisturbed (.timeframe symbolDone timeframeFailed took different)⟩

/-! ## One fetch -/

variable {F : Type} [PyFloat F]

/-- The fetch gets past the cache and the tab activation. -/
def ReachesChart (env : FetchEnv F) (feed : Feed) (system : System F) : Prop :=
  env.tabPinError = none ∧ exists secs, tfSeconds feed.timeframe = .ok secs ∧
    cacheFresh env.clock secs
      (latestBarTs system.store (defaultBucket feed.symbol feed.timeframe)) = false

/-- The ways a fetch can go. -/
inductive FetchPath (cfg : FetcherConfig F) (env : FetchEnv F) (feed : Feed) (system : System F) :
    FetchResult F -> Prop
  | early {outcome : Except PyError (DataFrame F)} (stays : ¬ ReachesChart env feed system) :
      FetchPath cfg env feed system { outcome := outcome, system := system, ohlcvCalls := [] }
  | failedSwitch {raised : PyError} {chart : Chart} (reaches : ReachesChart env feed system)
      (needs : system.fetcher.NeedsSwitch feed)
      (switched : tvSwitch cfg.tvCli feed env.symbolOutcome env.timeframeOutcome system.chart =
        (.error raised, chart)) :
      FetchPath cfg env feed system
        { outcome := .error raised, system := { system with chart := chart }, ohlcvCalls := [] }
  | switched {chart : Chart} (reaches : ReachesChart env feed system)
      (needs : system.fetcher.NeedsSwitch feed)
      (switched : tvSwitch cfg.tvCli feed env.symbolOutcome env.timeframeOutcome system.chart =
        (.ok (), chart)) :
      FetchPath cfg env feed system
        (fetchOnChart cfg env feed system.store ⟨feed.tvSymbol, feed.timeframe⟩ chart)
  | remembered (reaches : ReachesChart env feed system)
      (same : ¬ system.fetcher.NeedsSwitch feed) :
      FetchPath cfg env feed system
        (fetchOnChart cfg env feed system.store system.fetcher system.chart)

/-- The inversion of `fetch`. -/
theorem fetch_path (cfg : FetcherConfig F) (env : FetchEnv F) (feed : Feed) (system : System F) :
    FetchPath cfg env feed system (DataFetcher.fetch cfg env feed system) := by
  cases known : tfSeconds feed.timeframe with
  | error raised =>
      simp only [DataFetcher.fetch, known]
      refine .early ?_
      rintro ⟨_, secs, otherwise, _⟩
      cases known.symm.trans otherwise
  | ok secs =>
      cases fresh : cacheFresh env.clock secs
          (latestBarTs system.store (defaultBucket feed.symbol feed.timeframe)) with
      | true =>
          simp only [DataFetcher.fetch, known, fresh, if_true]
          refine .early ?_
          rintro ⟨_, otherSecs, otherwise, stale⟩
          have same := Except.ok.inj (otherwise.symm.trans known)
          subst same
          cases fresh.symm.trans stale
      | false =>
          cases pinned : env.tabPinError with
          | some message =>
              simp only [DataFetcher.fetch, known, fresh, pinned, Bool.false_eq_true, if_false]
              refine .early ?_
              rintro ⟨otherwise, _⟩
              cases pinned.symm.trans otherwise
          | none =>
              have reaches : ReachesChart env feed system := ⟨pinned, secs, known, fresh⟩
              simp only [DataFetcher.fetch, known, fresh, pinned, Bool.false_eq_true, if_false]
              by_cases needs : system.fetcher.NeedsSwitch feed
              · rw [if_pos needs]
                cases switched : tvSwitch cfg.tvCli feed env.symbolOutcome env.timeframeOutcome
                    system.chart with
                | mk result chart =>
                    cases result with
                    | error raised => exact .failedSwitch reaches needs switched
                    | ok done => exact .switched reaches needs switched
              · rw [if_neg needs]
                exact .remembered reaches needs

/-! ## Runs of fetches and restarts -/

/-- One step of the writer process. -/
inductive FetcherAction (F : Type)
  | fetch (feed : Feed) (env : FetchEnv F)
  | restart (primary : Feed)

/-- The first start of the process, on a chart that shows the primary feed. -/
def boot (primary : Feed) (store : Store F) : System F where
  store := store
  fetcher := DataFetcher.init primary
  chart := primary.chart

namespace FetcherAction

def step (cfg : FetcherConfig F) (system : System F) : FetcherAction F -> System F
  | .fetch feed env => (DataFetcher.fetch cfg env feed system).system
  | .restart primary => { system with fetcher := DataFetcher.init primary }

/-- The condition on a step: no failed switch has changed the chart, and a
restart finds it on the primary feed. -/
def Undisturbed (system : System F) : FetcherAction F -> Prop
  | .fetch feed env =>
      ReachesChart env feed system ->
        ¬ Disturbs system.fetcher feed env.symbolOutcome env.timeframeOutcome
  | .restart primary => system.chart = primary.chart

end FetcherAction

/-- The remembered pair stands for the chart that is shown. -/
def ChartAgrees (system : System F) : Prop := system.chart = system.fetcher.chart

theorem not_needsSwitch_iff (fetcher : DataFetcher) (feed : Feed) :
    ¬ fetcher.NeedsSwitch feed ↔
      feed.tvSymbol = fetcher.chartTvSymbol ∧ feed.timeframe = fetcher.chartTimeframe := by
  rw [DataFetcher.NeedsSwitch, not_or, not_not, not_not]

theorem step_chartAgrees_iff (cfg : FetcherConfig F) {system : System F}
    (agrees : ChartAgrees system) (action : FetcherAction F) :
    ChartAgrees (FetcherAction.step cfg system action) ↔ action.Undisturbed system := by
  cases action with
  | restart primary => exact Iff.rfl
  | fetch feed env =>
      have path := fetch_path cfg env feed system
      change ChartAgrees (DataFetcher.fetch cfg env feed system).system ↔
        (ReachesChart env feed system ->
          ¬ Disturbs system.fetcher feed env.symbolOutcome env.timeframeOutcome)
      generalize DataFetcher.fetch cfg env feed system = result at path
      cases path with
      | early stays => exact iff_of_true agrees (fun reaches => absurd reaches stays)
      | failedSwitch reaches needs switched =>
          rw [agrees] at switched
          have keeps := tvSwitch_error_keeps_iff switched
          exact ⟨fun same _ => keeps.mp same, fun undisturbed => keeps.mpr (undisturbed reaches)⟩
      | switched reaches needs switched =>
          rcases tvSwitch_ok switched with ⟨shown, symbolDone, timeframeDone⟩
          refine iff_of_true shown (fun _ => ?_)
          rintro (⟨failed, _, _⟩ | ⟨_, failed, _⟩ | ⟨_, failed, _, _⟩)
          · exact failed symbolDone
          · exact failed timeframeDone
          · exact failed timeframeDone
      | remembered reaches same =>
          have equal := (not_needsSwitch_iff system.fetcher feed).mp same
          refine iff_of_true agrees (fun _ => ?_)
          rintro (⟨_, _, different⟩ | ⟨_, _, different⟩ | ⟨_, _, _, different⟩)
          · exact different equal.1
          · exact different equal.1
          · exact different (congrArg tvTimeframe equal.2)

/-- From agreement on, `tv ohlcv` is issued on the chart of the feed. -/
theorem fetch_onChart (cfg : FetcherConfig F) (env : FetchEnv F) (feed : Feed) {system : System F}
    (agrees : ChartAgrees system) {call : OhlcvCall}
    (issued : call ∈ (DataFetcher.fetch cfg env feed system).ohlcvCalls) :
    call.chart = feed.chart := by
  have path := fetch_path cfg env feed system
  generalize DataFetcher.fetch cfg env feed system = result at path issued
  cases path with
  | early stays => cases issued
  | failedSwitch reaches needs switched => cases issued
  | switched reaches needs switched =>
      rcases List.mem_map.mp issued with ⟨count, _, rfl⟩
      exact (tvSwitch_ok switched).1
  | remembered reaches same =>
      rcases List.mem_map.mp issued with ⟨count, _, rfl⟩
      have equal := (not_needsSwitch_iff system.fetcher feed).mp same
      change system.chart = feed.chart
      rw [agrees, DataFetcher.chart, Feed.chart, equal.1, equal.2]

/-- Every `tv ohlcv` of a run is issued while the chart shows its feed, and
where `fetch` decides against a switch the chart is the remembered one. -/
def RightChart (cfg : FetcherConfig F) (start : System F) (actions : List (FetcherAction F)) :
    Prop :=
  forall earlier feed env, earlier ++ [.fetch feed env] <+: actions ->
    (forall call,
      call ∈ (DataFetcher.fetch cfg env feed
        (run (FetcherAction.step cfg) start earlier)).ohlcvCalls ->
      call.chart = feed.chart) ∧
    (¬ (run (FetcherAction.step cfg) start earlier).fetcher.NeedsSwitch feed ->
      ChartAgrees (run (FetcherAction.step cfg) start earlier))

/-- The remembered pair agrees with the chart in every state of a run exactly
when every step is undisturbed, and then every fetch of the run is on the
right chart. -/
theorem chartAgrees_iff (cfg : FetcherConfig F) (primary : Feed) (store : Store F)
    (actions : List (FetcherAction F)) :
    ((forall earlier, earlier <+: actions ->
        ChartAgrees (run (FetcherAction.step cfg) (boot primary store) earlier)) ↔
      Along (FetcherAction.step cfg) FetcherAction.Undisturbed (boot primary store) actions) ∧
    (Along (FetcherAction.step cfg) FetcherAction.Undisturbed (boot primary store) actions ->
      RightChart cfg (boot primary store) actions) := by
  have booted : ChartAgrees (boot primary store) := rfl
  have exactStep : forall (system : System F) (action : FetcherAction F), ChartAgrees system ->
      (ChartAgrees (FetcherAction.step cfg system action) ↔ action.Undisturbed system) :=
    fun system action agrees => step_chartAgrees_iff cfg agrees action
  have exactSteps := invariant_prefixes_iff_always (FetcherAction.step cfg) exactStep booted actions
  refine ⟨exactSteps, ?_⟩
  intro along earlier feed env initial
  have agrees := exactSteps.mpr along earlier
    ((List.prefix_append earlier [FetcherAction.fetch feed env]).trans initial)
  exact ⟨fun call issued => fetch_onChart cfg env feed agrees issued, fun _ => agrees⟩

/-- A fetch whose chart commands end as given and whose `tv ohlcv` fails. -/
def chartEnv (symbolOutcome timeframeOutcome : SwitchOutcome) : FetchEnv Rat where
  clock := 10000
  tabPinError := none
  symbolOutcome := symbolOutcome
  timeframeOutcome := timeframeOutcome
  now := 10000
  ohlcv := fun _ => .error (.dataFetchError "timed out")
  ohlcvAgain := fun _ => .error (.dataFetchError "timed out")
  insert := ⟨10000, true⟩

/-- There and back again, then a restart on the primary feed. -/
theorem chartAgrees_iff_round_trip :
    let cfg : FetcherConfig Rat := { tvCli := "tv", barsToFetch := 300, showFloats := fun _ => "" }
    let ada : Feed := ⟨"ADA", "1h", "BINANCE:ADAUSDT"⟩
    let dot : Feed := ⟨"DOT", "1h", "BINANCE:DOTUSDT"⟩
    RightChart cfg (boot ada Store.empty)
      [.fetch dot (chartEnv .succeeded .succeeded), .fetch ada (chartEnv .succeeded .succeeded),
       .restart ada, .fetch ada (chartEnv .succeeded .succeeded)] := by
  intro cfg ada dot
  have calm : forall fetcher feed, ¬ Disturbs fetcher feed .succeeded .succeeded := by
    intro fetcher feed disturbs
    rcases disturbs with ⟨failed, _⟩ | ⟨_, failed, _⟩ | ⟨_, failed, _⟩
    · exact failed rfl
    · exact failed rfl
    · exact failed rfl
  have primary : (run (FetcherAction.step cfg) (boot ada Store.empty)
      [.fetch dot (chartEnv .succeeded .succeeded),
       .fetch ada (chartEnv .succeeded .succeeded)]).chart = ada.chart := by
    decide +kernel
  exact (chartAgrees_iff cfg ada Store.empty _).2
    ⟨fun _ => calm _ dot, fun _ => calm _ ada, primary, fun _ => calm _ ada, trivial⟩

/-- After a switch whose second command times out, and after a restart while
another feed is shown, the first feed is fetched on the second one's chart. -/
theorem fetch_on_wrong_chart :
    let cfg : FetcherConfig Rat := { tvCli := "tv", barsToFetch := 300, showFloats := fun _ => "" }
    let ada : Feed := ⟨"ADA", "1h", "BINANCE:ADAUSDT"⟩
    let dot : Feed := ⟨"DOT", "1h", "BINANCE:DOTUSDT"⟩
    ¬ RightChart cfg (boot ada Store.empty)
        [.fetch dot (chartEnv .succeeded (.timedOut false)),
         .fetch ada (chartEnv .succeeded .succeeded)] ∧
      ¬ RightChart cfg (boot ada Store.empty)
        [.fetch dot (chartEnv .succeeded .succeeded), .restart ada,
         .fetch ada (chartEnv .succeeded .succeeded)] := by
  intro cfg ada dot
  constructor
  · intro right
    have shown := (right [.fetch dot (chartEnv .succeeded (.timedOut false))] ada
      (chartEnv .succeeded .succeeded) (List.prefix_refl _)).1 ⟨300, dot.chart⟩ (by decide +kernel)
    exact absurd shown (by decide)
  · intro right
    have shown := (right [.fetch dot (chartEnv .succeeded .succeeded), .restart ada] ada
      (chartEnv .succeeded .succeeded) (List.prefix_refl _)).1 ⟨300, dot.chart⟩ (by decide +kernel)
    exact absurd shown (by decide)

end HybridDataSvc
