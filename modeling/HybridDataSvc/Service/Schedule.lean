import HybridDataSvc.Service.Crashes
import HybridDataSvc.Fetcher.FastPath
import HybridDataSvc.Text.Rounding

namespace HybridDataSvc

open Relational NumberText

/-!
# When the writer wakes up

`_sleep_until_next_event` takes the least of a wake-up time for each feed and of
the fallback.  A feed that has bars asks for the close of its next bar with a
grace, which is when `fetch` stops taking the fast path for it; a feed without
bars asks for the shortest sleep.  What the loop computes is the least of these
requests, and the limits of the sleep follow from that, up to what is lost when
times and their differences are rounded to floats.
-/

variable {F : Type}

/-- A feed asks to be woken at a time. -/
inductive AsksFor (now : Rat) (store : Store F) (feed : Feed) : Rat -> Prop
  | missing (empty : latestBarTs store (defaultBucket feed.symbol feed.timeframe) = none) :
      AsksFor now store feed (nearest (now + minSleepS))
  | close {lastTs secs : Int}
      (newest : latestBarTs store (defaultBucket feed.symbol feed.timeframe) = some lastTs)
      (known : tfSeconds feed.timeframe = .ok secs) :
      AsksFor now store feed (nearest (nearest (lastTs + 2 * secs) + barCloseGraceS))

/-- One round: the time so far is lowered to what the feed asks for. -/
theorem earliestWake_cons (now : Rat) (store : Store F) (earliest : Rat) {feed : Feed}
    (rest : List Feed) (known : KnownTimeframe feed.timeframe) :
    exists due, AsksFor now store feed due ∧
      (forall other, AsksFor now store feed other -> other = due) ∧
      earliestWake now store earliest (feed :: rest) =
        earliestWake now store (min earliest due) rest := by
  rcases known with ⟨secs, lookup⟩
  cases newest : latestBarTs store (defaultBucket feed.symbol feed.timeframe) with
  | none =>
      refine ⟨_, .missing newest, ?_, by simp only [earliestWake, newest]⟩
      rintro _ (empty | ⟨present, _⟩)
      · rfl
      · cases newest.symm.trans present
  | some lastTs =>
      refine ⟨_, .close newest lookup, ?_, by simp only [earliestWake, newest, lookup]⟩
      rintro _ (empty | ⟨present, lookup'⟩)
      · cases newest.symm.trans empty
      · cases newest.symm.trans present
        cases lookup.symm.trans lookup'
        rfl

/-- The loop returns the least request, or the time it started with. -/
theorem earliestWake_least (now : Rat) (store : Store F) {feeds : List Feed}
    (known : forall feed, feed ∈ feeds -> KnownTimeframe feed.timeframe) (earliest : Rat) :
    exists wake, earliestWake now store earliest feeds = .ok wake ∧ wake ≤ earliest ∧
      (forall feed, feed ∈ feeds -> forall due, AsksFor now store feed due -> wake ≤ due) ∧
      (wake = earliest ∨ exists feed, feed ∈ feeds ∧ AsksFor now store feed wake) := by
  induction feeds generalizing earliest with
  | nil =>
      refine ⟨earliest, rfl, le_refl earliest, ?_, Or.inl rfl⟩
      intro feed impossible
      cases impossible
  | cons feed rest ih =>
      have restKnown : forall other, other ∈ rest -> KnownTimeframe other.timeframe :=
        fun other member => known other (List.mem_cons_of_mem _ member)
      rcases earliestWake_cons now store earliest rest (known feed List.mem_cons_self) with
        ⟨due, asks, only, lowered⟩
      rcases ih restKnown (min earliest due) with ⟨wake, result, below, least, attained⟩
      refine ⟨wake, lowered.trans result, below.trans (min_le_left _ _), ?_, ?_⟩
      · intro other member time asksOther
        rcases List.mem_cons.mp member with rfl | later
        · rw [only time asksOther]
          exact below.trans (min_le_right _ _)
        · exact least other later time asksOther
      · rcases attained with same | ⟨other, member, asksOther⟩
        · rcases min_choice earliest due with start | start
          · exact Or.inl (same.trans start)
          · exact Or.inr ⟨feed, List.mem_cons_self, by rw [same, start]; exact asks⟩
        · exact Or.inr ⟨other, List.mem_cons_of_mem _ member, asksOther⟩

/-- The feed is not served from the database when it is polled at a time on this
store: nothing but a failing tab activation keeps the fetch from the chart. -/
def PolledAt (wake : Rat) (store : Store F) (feed : Feed) : Prop :=
  forall (env : FetchEnv F) (system : System F), env.clock = wake -> env.tabPinError = none ->
    system.store = store -> ReachesChart env feed system

/-- What the sleep has to be for these feeds, give or take some slack. -/
structure SleepsRight (slack now fallbackS : Rat) (store : Store F) (feeds : List Feed)
    (seconds : Rat) : Prop where
  least : minSleepS ≤ seconds
  most : seconds ≤ max minSleepS fallbackS + slack
  missing : forall feed, feed ∈ feeds ->
    latestBarTs store (defaultBucket feed.symbol feed.timeframe) = none ->
      seconds ≤ minSleepS + slack
  close : forall feed, feed ∈ feeds -> forall lastTs secs,
    latestBarTs store (defaultBucket feed.symbol feed.timeframe) = some lastTs ->
    tfSeconds feed.timeframe = .ok secs ->
      now + seconds ≤ max (now + minSleepS) (lastTs + 2 * secs + barCloseGraceS) + slack
  due : slack ≤ barCloseGraceS -> minSleepS + slack < seconds ->
    now + seconds < now + fallbackS - slack ->
    exists feed, feed ∈ feeds ∧ PolledAt (now + seconds) store feed ∧ exists lastTs secs,
      latestBarTs store (defaultBucket feed.symbol feed.timeframe) = some lastTs ∧
      tfSeconds feed.timeframe = .ok secs ∧ 2 * secs ≤ now + seconds - lastTs

/-- What the roundings of a clock and a fallback can add up to: less than two
microseconds for times of this century. -/
def clockSlack (now fallbackS : Rat) : Rat := (|now| + fallbackS + 8) / 2 ^ 50

theorem polledAt_of_closed {wake : Rat} {store : Store F} {feed : Feed} {lastTs secs : Int}
    (newest : latestBarTs store (defaultBucket feed.symbol feed.timeframe) = some lastTs)
    (known : tfSeconds feed.timeframe = .ok secs) (closed : 2 * secs ≤ wake - lastTs) :
    PolledAt wake store feed := by
  intro env system atWake pinned sameStore
  refine ⟨pinned, secs, known, ?_⟩
  rw [sameStore, newest, atWake, cacheFresh, decide_eq_false_iff_not, not_lt]
  exact closed

/-! ## What rounding costs -/

/-- The close of a bar, with its two roundings. -/
theorem abs_nearest_close_sub_le {due size : Rat} (small : |due| ≤ size) :
    |nearest (nearest due + barCloseGraceS) - (due + barCloseGraceS)| ≤
      (3 * size + 8) / 2 ^ 53 := by
  have grace : barCloseGraceS = 5 := rfl
  have positive : 0 ≤ size := (abs_nonneg due).trans small
  have first := nearest_le small
  have first' := le_nearest small
  have range := abs_le.mp small
  rw [grace]
  have inner : |nearest due + 5| ≤ 2 * size + 6 := abs_le.mpr ⟨by linarith, by linarith⟩
  have second := nearest_le inner
  have second' := le_nearest inner
  exact abs_le.mpr ⟨by linarith, by linarith⟩

/-- A pause is at most a little longer than it is wanted. -/
theorem nearest_le_of_le {wanted most : Rat} (nonneg : 0 ≤ most) (short : wanted ≤ most) :
    nearest wanted ≤ max 0 wanted + (most + 1) / 2 ^ 53 := by
  rcases le_total 0 wanted with ahead | past
  · have size : |wanted| ≤ most := by rwa [abs_of_nonneg ahead]
    rw [max_eq_right ahead]
    exact nearest_le size
  · have early := nearest_le (abs_of_nonpos past).le
    rw [max_eq_left past]
    linarith only [early, past, nonneg]

/-- One that is long is at most a little shorter. -/
theorem le_nearest_of_le {wanted most : Rat} (long : minSleepS < nearest wanted)
    (short : wanted ≤ most) : 0 ≤ wanted ∧ wanted - (most + 1) / 2 ^ 53 ≤ nearest wanted := by
  have least : minSleepS = 5 := rfl
  have ahead : 0 ≤ wanted := by
    by_contra past
    have early := nearest_le (abs_of_neg (not_le.mp past)).le
    rw [least] at long
    linarith [not_le.mp past]
  have size : |wanted| ≤ most := by rwa [abs_of_nonneg ahead]
  exact ⟨ahead, le_nearest size⟩

section Wake

variable {now fallbackS wake : Rat}

theorem sub_le_of_le_fallback (nonneg : 0 ≤ fallbackS)
    (below : wake ≤ nearest (now + fallbackS)) :
    wake - now ≤ fallbackS + (|now| + fallbackS + 1) / 2 ^ 53 := by
  have size : |now + fallbackS| ≤ |now| + fallbackS :=
    (abs_add_le now fallbackS).trans (by rw [abs_of_nonneg nonneg])
  have rounded := nearest_le size
  linarith

theorem sleep_le_fallback (nonneg : 0 ≤ fallbackS) (below : wake ≤ nearest (now + fallbackS)) :
    max minSleepS (nearest (wake - now)) ≤ max minSleepS fallbackS + clockSlack now fallbackS := by
  have clock := abs_nonneg now
  have wanted := sub_le_of_le_fallback nonneg below
  have most : 0 ≤ fallbackS + (|now| + fallbackS + 1) / 2 ^ 53 := by positivity
  have slept := nearest_le_of_le most wanted
  have first := le_max_left minSleepS fallbackS
  have second := le_max_right minSleepS fallbackS
  have start : max 0 (wake - now) ≤ fallbackS + (|now| + fallbackS + 1) / 2 ^ 53 :=
    max_le most wanted
  unfold clockSlack
  refine max_le ?_ ?_
  · linarith
  · linarith

theorem sleep_le_minSleep (nonneg : 0 ≤ fallbackS) (early : wake ≤ nearest (now + minSleepS)) :
    max minSleepS (nearest (wake - now)) ≤ minSleepS + clockSlack now fallbackS := by
  have least : minSleepS = 5 := rfl
  have clock := abs_nonneg now
  rw [least] at early ⊢
  have wanted := sub_le_of_le_fallback (by norm_num) early
  have most : 0 ≤ 5 + (|now| + 5 + 1) / 2 ^ 53 := by positivity
  have slept := nearest_le_of_le most wanted
  have start : max 0 (wake - now) ≤ 5 + (|now| + 5 + 1) / 2 ^ 53 := max_le most wanted
  unfold clockSlack
  refine max_le ?_ ?_
  · linarith
  · linarith

/-- A sleep that ends for the close of a bar: the bar closes within the reach of the clock. -/
theorem abs_close_le (nonneg : 0 ≤ fallbackS) {due : Rat} (ahead : 0 ≤ wake - now)
    (early : wake ≤ nearest (nearest due + barCloseGraceS))
    (soon : due ≤ 2 * (|now| + fallbackS) + 16) : |due| ≤ 2 * (|now| + fallbackS) + 16 := by
  have grace : barCloseGraceS = 5 := rfl
  have clock := abs_le.mp (le_refl |now|)
  have close := (abs_le.mp (abs_nearest_close_sub_le (le_refl |due|))).2
  rw [grace] at close early
  refine abs_le.mpr ⟨?_, soon⟩
  rcases abs_cases due with ⟨same, positive⟩ | ⟨same, negative⟩
  · linarith
  · rw [same] at close
    linarith

/-- The close of a bar is not slept through. -/
theorem sleep_le_close (nonneg : 0 ≤ fallbackS) (below : wake ≤ nearest (now + fallbackS))
    {due : Rat} (early : wake ≤ nearest (nearest due + barCloseGraceS)) :
    now + max minSleepS (nearest (wake - now)) ≤
      max (now + minSleepS) (due + barCloseGraceS) + clockSlack now fallbackS := by
  have grace : barCloseGraceS = 5 := rfl
  have least : minSleepS = 5 := rfl
  have clock := abs_nonneg now
  have reach := abs_le.mp (le_refl |now|)
  have first := le_max_left (now + minSleepS) (due + barCloseGraceS)
  have second := le_max_right (now + minSleepS) (due + barCloseGraceS)
  have fallback := sleep_le_fallback nonneg below
  have wanted := sub_le_of_le_fallback nonneg below
  have most : 0 ≤ fallbackS + (|now| + fallbackS + 1) / 2 ^ 53 := by positivity
  have slept := nearest_le_of_le most wanted
  have slack : 0 ≤ clockSlack now fallbackS := by
    unfold clockSlack
    positivity
  rw [← max_add_add_left]
  refine max_le (by linarith) ?_
  rcases le_total (wake - now) 0 with past | ahead
  · rw [max_eq_left past] at slept
    unfold clockSlack at slack ⊢
    linarith
  · rw [max_eq_right ahead] at slept
    rcases le_total (now + fallbackS) (due + 5) with late | soon
    · have bound : max minSleepS fallbackS ≤
          max (now + minSleepS) (due + barCloseGraceS) - now := by
        exact max_le (by linarith) (by linarith)
      have capped := (le_max_right minSleepS (nearest (wake - now))).trans fallback
      linarith
    · have size := abs_close_le nonneg ahead early (by linarith)
      have close := (abs_le.mp (abs_nearest_close_sub_le size)).2
      unfold clockSlack
      linarith

/-- A sleep that ends for the fallback has all of it. -/
theorem fallback_le_sleep (nonneg : 0 ≤ fallbackS) (long : minSleepS < nearest (wake - now))
    (same : wake = nearest (now + fallbackS)) :
    fallbackS - clockSlack now fallbackS ≤ nearest (wake - now) := by
  have clock := abs_nonneg now
  have size : |now + fallbackS| ≤ |now| + fallbackS :=
    (abs_add_le now fallbackS).trans (by rw [abs_of_nonneg nonneg])
  have late := le_nearest size
  have slept := (le_nearest_of_le long (sub_le_of_le_fallback nonneg same.le)).2
  unfold clockSlack
  linarith

/-- One that ends for a close has the bar closed. -/
theorem close_le_sleep (nonneg : 0 ≤ fallbackS) (below : wake ≤ nearest (now + fallbackS))
    (long : minSleepS < nearest (wake - now)) {due : Rat}
    (same : wake = nearest (nearest due + barCloseGraceS))
    (precise : clockSlack now fallbackS ≤ barCloseGraceS) : due ≤ now + nearest (wake - now) := by
  have grace : barCloseGraceS = 5 := rfl
  have reach := abs_le.mp (le_refl |now|)
  have wanted := sub_le_of_le_fallback nonneg below
  rcases le_nearest_of_le long wanted with ⟨ahead, slept⟩
  have soon : due ≤ 2 * (|now| + fallbackS) + 16 := by
    have close := (abs_le.mp (abs_nearest_close_sub_le (le_refl |due|))).1
    rw [← same] at close
    rcases abs_cases due with ⟨size, positive⟩ | ⟨size, negative⟩
    · rw [size] at close
      linarith
    · have clock := abs_nonneg now
      linarith
  have size := abs_close_le nonneg ahead same.le soon
  have close := (abs_le.mp (abs_nearest_close_sub_le size)).1
  rw [← same] at close
  unfold clockSlack at precise
  linarith

end Wake

/-! ## The sleep -/

/-- The sleep is never shorter than `_MIN_SLEEP_S` and, up to rounding, never past the
fallback or the close of a feed's next bar; and where it ends for a close, that feed is
polled. -/
theorem sleep_schedule (now fallbackS : Rat) (nonneg : 0 ≤ fallbackS) (store : Store F)
    (feeds : List Feed) (known : forall feed, feed ∈ feeds -> KnownTimeframe feed.timeframe) :
    exists seconds, sleepUntilNextEvent now now feeds store fallbackS = .ok seconds ∧
      SleepsRight (clockSlack now fallbackS) now fallbackS store feeds seconds := by
  rcases earliestWake_least now store known (nearest (now + fallbackS))
    with ⟨wake, result, below, least, attained⟩
  refine ⟨max minSleepS (nearest (wake - now)), by simp only [sleepUntilNextEvent, result], ?_⟩
  have absent : forall feed, feed ∈ feeds ->
      latestBarTs store (defaultBucket feed.symbol feed.timeframe) = none ->
        max minSleepS (nearest (wake - now)) ≤ minSleepS + clockSlack now fallbackS :=
    fun feed member empty => sleep_le_minSleep nonneg (least feed member _ (.missing empty))
  refine ⟨le_max_left _ _, sleep_le_fallback nonneg below, absent, ?_, ?_⟩
  · intro feed member lastTs secs newest lookup
    exact sleep_le_close nonneg below (least feed member _ (.close newest lookup))
  · intro precise long beforeFallback
    have slack : 0 ≤ clockSlack now fallbackS := by
      have clock := abs_nonneg now
      unfold clockSlack
      positivity
    have slept : minSleepS < nearest (wake - now) := by
      rcases lt_max_iff.mp ((le_add_of_nonneg_right slack).trans_lt long) with same | more
      · exact absurd same (lt_irrefl _)
      · exact more
    rw [max_eq_right slept.le] at beforeFallback ⊢
    -- the time is a request, and not that of a feed without bars
    rcases attained with same | ⟨feed, member, asks⟩
    · have late := fallback_le_sleep nonneg slept same
      exact absurd beforeFallback (not_lt.mpr (by linarith))
    · rcases asks with empty | ⟨newest, lookup⟩
      · exact absurd long (not_lt.mpr (absent feed member empty))
      · rename_i lastTs secs
        have passed := close_le_sleep nonneg below slept rfl precise
        have closed : (2 : Rat) * secs ≤
            now + nearest (nearest (nearest (lastTs + 2 * secs) + barCloseGraceS) - now) - lastTs := by
          linarith
        exact ⟨feed, member, polledAt_of_closed newest lookup closed, lastTs, secs, newest, lookup,
          closed⟩

/-- An hourly feed with bars up to 3600 and a fallback of an hour: at 10000 the writer
sleeps until five seconds past the close at 10800. -/
theorem sleep_schedule_hourly :
    let store := seededStore [seedBar 0 10, seedBar 3600 11]
    sleepUntilNextEvent 10000 10000 [⟨"ADA", "1h", "BINANCE:ADAUSDT"⟩] store 3600 = .ok 805 ∧
      SleepsRight (clockSlack 10000 3600) 10000 3600 store [⟨"ADA", "1h", "BINANCE:ADAUSDT"⟩]
        805 := by
  intro store
  have slept : sleepUntilNextEvent 10000 10000 [⟨"ADA", "1h", "BINANCE:ADAUSDT"⟩] store 3600 =
      .ok 805 := by decide +kernel
  refine ⟨slept, ?_⟩
  rcases sleep_schedule 10000 3600 (by norm_num) store [⟨"ADA", "1h", "BINANCE:ADAUSDT"⟩]
    (List.forall_mem_singleton.mpr ⟨3600, by decide⟩) with ⟨seconds, result, right⟩
  cases slept.symm.trans result
  exact right

/-- Without any slack the sleep can be too long: the clock and the fallback are floats, 30.7 as
nearly as a float can be, but their sum is rounded, and the sleep is as long as 30.7000000477. -/
theorem sleep_exceeds_fallback :
    let fallbackS : Rat := 8641281785017139 / 281474976710656
    let seconds : Rat := 128765133 / 4194304
    nearest 1700000000 = 1700000000 ∧ nearest fallbackS = fallbackS ∧
      sleepUntilNextEvent 1700000000 1700000000 [] (Store.empty : Store Rat) fallbackS =
        .ok seconds ∧
      ¬ SleepsRight 0 1700000000 fallbackS (Store.empty : Store Rat) [] seconds := by
  intro fallbackS seconds
  refine ⟨by decide +kernel, by decide +kernel, by decide +kernel, ?_⟩
  intro right
  exact absurd right.most (by decide +kernel)

end HybridDataSvc
