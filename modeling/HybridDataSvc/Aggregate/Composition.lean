import HybridDataSvc.Aggregate.Daily
import HybridDataSvc.Aggregate.Ohlcv
import HybridDataSvc.Series.Nested

namespace HybridDataSvc

open Series

/-!
# Aggregates of aggregates

The windows of a width are made of the windows of every width that divides it,
and each column of `_AGG` picks or adds up, so that an intraday timeframe may
be derived from any finer one.  Aggregating a second time for the same
timeframe changes nothing, for the daily periods as well.
-/

variable {V : Type} [LinearOrder V] [AddMonoid V]

omit [LinearOrder V] [AddMonoid V] in
/-- A column of the bars made of some parts. -/
theorem present_map {Name : Type} (column : Bar (Option V) -> Option V)
    (make : Name -> Bar (Option V)) (names : List Name) :
    present column (names.map make) = names.filterMap (fun name => column (make name)) := by
  rw [present, List.filterMap_map]
  rfl

omit [LinearOrder V] in
theorem sum_sums {Name : Type} (values : Name -> List V) (names : List Name) :
    (names.filterMap (fun name => some (values name).sum)).sum = (names.flatMap values).sum := by
  rw [List.filterMap_eq_map', List.flatMap_def, List.sum_flatten, List.map_map]
  rfl

/-- The aggregations over bars made of parts are those over the parts. -/
theorem aggColumns_parts (parts : Int -> List (Bar (Option V))) (times : List Int) :
    aggColumns (times.map (fun time => { aggColumns (parts time) with time := time })) =
      aggColumns (times.flatMap parts) := by
  have columns (column : Bar (Option V) -> Option V) :
      present column (times.flatMap parts) =
        times.flatMap (fun time => present column (parts time)) := List.filterMap_flatMap
  simp only [aggColumns, present_map, columns, sum_sums, Picks.head?.filterMap,
    Picks.getLast?.filterMap, Picks.max?.filterMap, Picks.min?.filterMap]

/-! ## Windows within windows -/

theorem ediv_mul_within {finer coarser : Int} (positive : 0 < finer) (divides : finer ∣ coarser)
    (ts : Int) : ts / finer * finer / coarser * coarser = ts / coarser * coarser := by
  rcases divides with ⟨number, rfl⟩
  rw [Int.mul_comm (ts / finer) finer, Int.mul_ediv_mul_of_pos _ _ positive,
    Int.ediv_ediv_of_nonneg positive.le]

theorem nested_intradayBuckets {finer coarser : Int} (positive : 0 < finer)
    (divides : finer ∣ coarser) :
    Nested (intradayBuckets (V := V) finer) (intradayBuckets coarser) where
  sameKey := fun _ => rfl
  named := fun _ => rfl
  within := ediv_mul_within positive divides
  make := by
    intro time rows ascending
    have sorted : rows.Pairwise (fun first second =>
        first.time / finer * finer ≤ second.time / finer * finer) := by
      apply ascending.imp
      intro first second before
      exact Int.mul_le_mul_of_nonneg_right (Int.ediv_le_ediv positive (le_of_lt before)) positive.le
    have columns := aggColumns_parts ((intradayBuckets finer).group rows)
      ((intradayBuckets finer).buckets rows)
    rw [(intradayBuckets finer).flatMap_group sorted] at columns
    exact congrArg (fun prices => Bar.mk prices time) columns

/-- Windows of windows are windows. -/
theorem bucketIntraday_bucketIntraday {finer coarser : Int} (positive : 0 < finer)
    (divides : finer ∣ coarser) {rows : List (Bar (Option V))} (ascending : Ascending Bar.time rows) :
    bucketIntraday (bucketIntraday rows finer) coarser = bucketIntraday rows coarser :=
  (nested_intradayBuckets positive divides).ofNormalized_ofNormalized ascending

/-! ## `aggregate` -/

theorem aggregate_arrivals (etDate : Int -> Date) (df : DataFrame (Option V)) (timeframe : String) :
    aggregate etDate df timeframe = aggregate etDate (.ohlcv df.arrivals) timeframe := by
  cases df with
  | noColumns => rfl
  | ohlcv rows => rfl

theorem ascending_derive (width : Int) (rows : List (Bar (Option V))) :
    Ascending Bar.time ((intradayBuckets width).derive rows) :=
  (intradayBuckets width).pairwise_derive rows

/-- The widths of the chain divide one another. -/
theorem dvd_of_le {finer coarser : String} {small large : Int}
    (known : intradaySeconds.lookup finer = some small)
    (known' : intradaySeconds.lookup coarser = some large) (ordered : small ≤ large) :
    small ∣ large := by
  have chain : forall first, first ∈ intradaySeconds -> forall second, second ∈ intradaySeconds ->
      first.2 ≤ second.2 -> first.2 ∣ second.2 := by decide
  exact chain _ (mem_of_lookup_eq_some known) _ (mem_of_lookup_eq_some known') ordered

/-- A coarser intraday timeframe may be derived from a finer one. -/
theorem aggregate_aggregate (etDate : Int -> Date) {finer coarser : String} {small large : Int}
    (known : intradaySeconds.lookup finer = some small)
    (known' : intradaySeconds.lookup coarser = some large) (ordered : small ≤ large)
    {df : DataFrame (Option V)} {bars : List (Bar (Option V))}
    (aggregated : aggregate etDate df finer = .ok bars) :
    aggregate etDate (.ohlcv bars) coarser = aggregate etDate df coarser := by
  rw [aggregate_arrivals, aggregate_intraday etDate known, Except.ok.injEq] at aggregated
  subst aggregated
  rw [aggregate_arrivals etDate df, aggregate_intraday etDate known', aggregate_intraday etDate known']
  have normal : normalize Bar.time ((intradayBuckets small).derive df.arrivals) =
      (intradayBuckets small).derive df.arrivals := normalize_of_ascending (ascending_derive _ _)
  have composed := bucketIntraday_bucketIntraday (width_pos known) (dvd_of_le known known' ordered)
    (ascending_normalize df.arrivals)
  change Except.ok (bucketIntraday (normalize Bar.time _) large) = Except.ok (bucketIntraday _ large)
  rw [normal]
  exact congrArg Except.ok composed

/-! ## A second time for the same timeframe -/

theorem ascending_periodBars (period : Int -> GroupKey) (rows : List (Bar (Option V))) :
    Ascending Bar.time (periodBars period rows) := by
  have sorted : (periodBars period rows).Pairwise (fun first second => first.time ≤ second.time) :=
    List.pairwise_insertionSort _ _
  have distinct := List.pairwise_map.mp (nodup_periodBars period rows)
  exact (sorted.and distinct).imp (fun both => lt_of_le_of_ne both.1 both.2)

/-- A period bar always has a volume. -/
theorem volume_of_mem_periodBars {period : Int -> GroupKey} {rows : List (Bar (Option V))}
    {bar : Bar (Option V)} (member : bar ∈ periodBars period rows) :
    exists volume, bar.volume = some volume := by
  rcases (mem_periodBars period rows bar).mp member with ⟨k, _, rfl⟩
  exact ⟨_, rfl⟩

/-- A period has one period bar. -/
theorem eq_of_period_eq {period : Int -> GroupKey} {rows : List (Bar (Option V))}
    {first second : Bar (Option V)} (firstMem : first ∈ periodBars period rows)
    (secondMem : second ∈ periodBars period rows)
    (same : period first.time = period second.time) : first = second := by
  rcases (mem_periodBars period rows first).mp firstMem with ⟨k, named, rfl⟩
  rcases (mem_periodBars period rows second).mp secondMem with ⟨other, otherNamed, rfl⟩
  rw [period_dailyBar named, period_dailyBar otherNamed] at same
  rw [same]

/-- A bar with a volume that is alone in its period is the bar of the period. -/
theorem dailyBar_singleton {bar : Bar (Option V)} (traded : exists volume, bar.volume = some volume) :
    dailyBar [bar] = bar := by
  rcases traded with ⟨volume, traded⟩
  rcases bar with ⟨⟨open_, high, low, close, _⟩, time⟩
  cases traded
  cases open_ <;> cases high <;> cases low <;> cases close <;>
    simp [dailyBar, aggColumns, present]

theorem inPeriod_periodBars {period : Int -> GroupKey} {rows : List (Bar (Option V))}
    {bar : Bar (Option V)} (member : bar ∈ periodBars period rows) :
    inPeriod period (periodBars period rows) (period bar.time) = [bar] := by
  rw [← List.perm_singleton]
  apply (List.perm_ext_iff_of_nodup _ (List.nodup_singleton bar)).mpr
  · intro other
    rw [mem_inPeriod, List.mem_singleton]
    constructor
    · rintro ⟨otherMem, same⟩
      exact eq_of_period_eq otherMem member same
    · rintro rfl
      exact ⟨member, rfl⟩
  · exact (ascending_periodBars period rows).nodup.filter _

/-- Period bars are the bars of their own periods. -/
theorem periodBars_periodBars (period : Int -> GroupKey) (rows : List (Bar (Option V))) :
    periodBars period (periodBars period rows) = periodBars period rows := by
  apply (ascending_periodBars period _).eq_of_mem_iff (ascending_periodBars period rows)
  intro bar
  rw [mem_periodBars period (periodBars period rows)]
  constructor
  · rintro ⟨k, named, rfl⟩
    rcases List.mem_map.mp (List.mem_eraseDups.mp named) with ⟨own, member, rfl⟩
    rw [inPeriod_periodBars member, dailyBar_singleton (volume_of_mem_periodBars member)]
    exact member
  · intro member
    refine ⟨period bar.time, List.mem_eraseDups.mpr (List.mem_map_of_mem member), ?_⟩
    rw [inPeriod_periodBars member, dailyBar_singleton (volume_of_mem_periodBars member)]

/-- What `aggregate` returns without grouping. -/
theorem aggregate_of_empty (etDate : Int -> Date) (timeframe : String) :
    aggregate (V := V) etDate (.ohlcv []) timeframe = .ok [] := by
  by_cases native : timeframe ∈ nativeTfs
  · simp only [aggregate, if_pos native]
    rfl
  · simp only [aggregate, if_neg native]
    rfl

theorem aggregate_native (etDate : Int -> Date) {timeframe : String} (native : timeframe ∈ nativeTfs)
    (rows : List (Bar (Option V))) :
    aggregate etDate (.ohlcv rows) timeframe = .ok (normalize Bar.time rows) := by
  simp only [aggregate, if_pos native]
  rfl

/-- Aggregating twice for one timeframe is aggregating once. -/
theorem aggregate_idempotent (etDate : Int -> Date) (timeframe : String)
    {df : DataFrame (Option V)} {bars : List (Bar (Option V))}
    (aggregated : aggregate etDate df timeframe = .ok bars) :
    aggregate etDate (.ohlcv bars) timeframe = .ok bars := by
  cases known : intradaySeconds.lookup timeframe with
  | some width =>
      rw [aggregate_aggregate etDate known known le_rfl aggregated]
      exact aggregated
  | none =>
      rw [aggregate_arrivals] at aggregated
      by_cases native : timeframe ∈ nativeTfs
      · rw [aggregate_native etDate native, Except.ok.injEq] at aggregated
        rw [aggregate_native etDate native, ← aggregated,
          normalize_of_ascending (ascending_normalize df.arrivals)]
      · by_cases derived : timeframe ∈ dailyDerived
        · rcases exists_period derived with ⟨ofDate, everyDate⟩
          have periods : forall ts, periodOf etDate timeframe ts = .ok (ofDate (etDate ts)) :=
            fun ts => everyDate (etDate ts)
          rw [aggregate_daily derived periods, Except.ok.injEq] at aggregated
          rw [aggregate_daily derived periods, ← aggregated,
            normalize_of_ascending (ascending_periodBars _ _), periodBars_periodBars]
        · -- an unknown timeframe is refused, unless there is nothing to group
          simp only [aggregate, normalizeFrame, if_neg native, known, if_neg derived] at aggregated
          split at aggregated
          · cases aggregated
            exact aggregate_of_empty etDate timeframe
          · cases aggregated

/-- Windows of windows are windows, for all widths of which one divides the other;
so a coarser intraday timeframe may be derived from a finer one, and aggregating
twice for any timeframe is aggregating once. -/
theorem intraday_composes (etDate : Int -> Date) :
    (forall finer coarser : Int, 0 < finer -> 0 < coarser -> finer ∣ coarser ->
      forall rows : List (Bar (Option V)), Ascending Bar.time rows ->
        bucketIntraday (bucketIntraday rows finer) coarser = bucketIntraday rows coarser) ∧
    (forall finer coarser small large, intradaySeconds.lookup finer = some small ->
      intradaySeconds.lookup coarser = some large -> small ≤ large ->
      forall (df : DataFrame (Option V)) bars, aggregate etDate df finer = .ok bars ->
        aggregate etDate (.ohlcv bars) coarser = aggregate etDate df coarser) ∧
    forall timeframe (df : DataFrame (Option V)) bars, aggregate etDate df timeframe = .ok bars ->
      aggregate etDate (.ohlcv bars) timeframe = .ok bars := by
  refine ⟨?windows, ?chain, ?again⟩
  case windows =>
    intro finer coarser positive _ divides rows ascending
    exact bucketIntraday_bucketIntraday positive divides ascending
  case chain =>
    intro finer coarser small large known known' ordered df bars aggregated
    exact aggregate_aggregate etDate known known' ordered aggregated
  case again =>
    intro timeframe df bars aggregated
    exact aggregate_idempotent etDate timeframe aggregated

end HybridDataSvc
