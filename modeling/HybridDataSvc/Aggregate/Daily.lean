import HybridDataSvc.Aggregate.Ohlcv
import HybridDataSvc.Series.Anchored

namespace HybridDataSvc

open Relational Series

/-!
# Daily bars and their period's first session

A bar of three days, a week or a month is named by its earliest daily bar.
Re-running the aggregation keeps the table exact as long as no period gets a
bar earlier than the ones it has.  When one does, the aggregate moves to the
earlier time and the row under the later one stays.
-/

section Periods

variable {V : Type}

/-- The period of a timestamp. -/
def periodOf (etDate : Int -> Date) (timeframe : String) (ts : Int) : Except PyError GroupKey :=
  groupKey timeframe (etDate ts)

/-- The timestamps a series has a bar at. -/
def shownTimes (rows : List (Bar (Option V))) : Set Int := { ts | barAtTime rows ts ≠ none }

/-- No bar is lost. -/
def SeriesGrows (before after : List (Bar (Option V))) : Prop := shownTimes before ⊆ shownTimes after

/-- No period gets a bar before the first one it has. -/
def KeepsOpens (etDate : Int -> Date) (timeframe : String) (before after : List (Bar (Option V))) :
    Prop :=
  KeepsLeaders (periodOf etDate timeframe) (shownTimes before) (shownTimes after)

theorem mem_shownTimes_iff (rows : List (Bar (Option V))) (ts : Int) :
    ts ∈ shownTimes rows ↔ ts ∈ (normalize Bar.time rows).map Bar.time := by
  rw [List.mem_map]
  constructor
  · intro shown
    rcases Option.ne_none_iff_exists'.mp shown with ⟨bar, found⟩
    have spec := Table.mem_of_lastUnder found
    refine ⟨bar, ?_, spec.2⟩
    rw [mem_normalize, spec.2]
    exact found
  · rintro ⟨bar, member, rfl⟩
    rw [mem_normalize] at member
    exact Option.ne_none_iff_exists'.mpr ⟨bar, member⟩

/-- Every date has a period. -/
theorem exists_period {timeframe : String} (derived : timeframe ∈ dailyDerived) :
    exists period : Date -> GroupKey, forall date, groupKey timeframe date = .ok (period date) := by
  simp only [dailyDerived, List.mem_cons, List.not_mem_nil, or_false] at derived
  rcases derived with rfl | rfl | rfl
  · exact ⟨_, fun date => rfl⟩
  · exact ⟨_, fun date => rfl⟩
  · exact ⟨_, fun date => rfl⟩

/-- The rows of a period. -/
def inPeriod (period : Int -> GroupKey) (rows : List (Bar (Option V))) (k : GroupKey) :
    List (Bar (Option V)) :=
  rows.filter (fun row => decide (period row.time = k))

variable [LinearOrder V] [AddMonoid V]

/-- The bars of the periods of some rows, oldest first. -/
def periodBars (period : Int -> GroupKey) (rows : List (Bar (Option V))) :
    List (Bar (Option V)) :=
  sortBy Bar.time ((rows.map (fun row => period row.time)).eraseDups.map (fun k =>
    dailyBar (inPeriod period rows k)))

/-- Pairing rows with their keys and selecting by key selects rows. -/
theorem filter_zip_map {Row Name : Type} [DecidableEq Name] (name : Row -> Name) (rows : List Row)
    (k : Name) :
    (((rows.map name).zip rows).filter (fun pair => decide (pair.1 = k))).map Prod.snd =
      rows.filter (fun row => decide (name row = k)) := by
  induction rows with
  | nil => rfl
  | cons row rest ih =>
      rw [List.map_cons, List.zip_cons_cons, List.filter_cons, List.filter_cons]
      by_cases here : name row = k
      · rw [if_pos (decide_eq_true here), if_pos (decide_eq_true here), List.map_cons, ih]
      · rw [if_neg (by simpa using here), if_neg (by simpa using here), ih]

theorem bucketDaily_eq {etDate : Int -> Date} {timeframe : String} {period : Int -> GroupKey}
    (known : forall ts, periodOf etDate timeframe ts = .ok (period ts))
    (rows : List (Bar (Option V))) :
    bucketDaily etDate rows timeframe = .ok (periodBars period rows) := by
  have keys : rows.mapM (fun row => groupKey timeframe (etDate row.time)) =
      .ok (rows.map (fun row => period row.time)) := by
    induction rows with
    | nil => rfl
    | cons row rest ih =>
        have head : groupKey timeframe (etDate row.time) = .ok (period row.time) := known row.time
        rw [List.mapM_cons, head, ih]
        rfl
  simp only [bucketDaily, keys, filter_zip_map]
  rfl

/-- `aggregate` derives the period bars of a base series. -/
theorem aggregate_daily {etDate : Int -> Date} {timeframe : String} {period : Int -> GroupKey}
    (derived : timeframe ∈ dailyDerived)
    (known : forall ts, periodOf etDate timeframe ts = .ok (period ts))
    (rows : List (Bar (Option V))) :
    aggregate etDate (.ohlcv rows) timeframe =
      .ok (periodBars period (normalize Bar.time rows)) := by
  have notNative : timeframe ∉ nativeTfs := by
    intro native
    simp only [dailyDerived, nativeTfs, List.mem_cons, List.not_mem_nil, or_false] at derived native
    rcases native with rfl | rfl
    · simp at derived
    · simp at derived
  have notIntraday : intradaySeconds.lookup timeframe = none := by
    simp only [dailyDerived, List.mem_cons, List.not_mem_nil, or_false] at derived
    rcases derived with rfl | rfl | rfl
    · rfl
    · rfl
    · rfl
  simp only [aggregate, normalizeFrame, if_neg notNative, notIntraday, if_pos derived]
  rw [bucketDaily_eq known]
  cases normalize Bar.time rows with
  | nil => rfl
  | cons row rest => rfl

/-! ## The times of the period bars -/

theorem dailyBar_time {rows : List (Bar (Option V))} (nonempty : rows ≠ []) :
    (exists first, first ∈ rows ∧ first.time = (dailyBar rows).time) ∧
      forall row, row ∈ rows -> (dailyBar rows).time ≤ row.time := by
  have named : rows.map Bar.time ≠ [] := by simpa using nonempty
  rcases Option.isSome_iff_exists.mp (List.isSome_min?_of_ne_nil named) with ⟨earliest, found⟩
  have time : (dailyBar rows).time = earliest := by
    change ((rows.map Bar.time).min?).getD 0 = earliest
    rw [found, Option.getD_some]
  have spec := List.min?_eq_some_iff.mp found
  simp only [List.mem_map, forall_exists_index, and_imp, forall_apply_eq_imp_iff₂] at spec
  rw [time]
  exact spec

omit [LinearOrder V] [AddMonoid V] in
theorem mem_inPeriod (period : Int -> GroupKey) (rows : List (Bar (Option V))) (k : GroupKey)
    (row : Bar (Option V)) : row ∈ inPeriod period rows k ↔ row ∈ rows ∧ period row.time = k := by
  rw [inPeriod, List.mem_filter, decide_eq_true_iff]

omit [LinearOrder V] [AddMonoid V] in
theorem inPeriod_ne_nil {period : Int -> GroupKey} {rows : List (Bar (Option V))} {k : GroupKey}
    (named : k ∈ (rows.map (fun row => period row.time)).eraseDups) :
    inPeriod period rows k ≠ [] := by
  rw [List.mem_eraseDups, List.mem_map] at named
  rcases named with ⟨row, member, here⟩
  exact List.ne_nil_of_mem ((mem_inPeriod period rows k row).mpr ⟨member, here⟩)

/-- A period bar is named by a timestamp of its period. -/
theorem period_dailyBar {period : Int -> GroupKey} {rows : List (Bar (Option V))} {k : GroupKey}
    (named : k ∈ (rows.map (fun row => period row.time)).eraseDups) :
    period (dailyBar (inPeriod period rows k)).time = k := by
  rcases (dailyBar_time (inPeriod_ne_nil named)).1 with ⟨first, member, time⟩
  rw [← time]
  exact ((mem_inPeriod period rows k first).mp member).2

/-- No two period bars have one time. -/
theorem nodup_periodBars (period : Int -> GroupKey) (rows : List (Bar (Option V))) :
    ((periodBars period rows).map Bar.time).Nodup := by
  have sorted : ((periodBars period rows).map Bar.time).Perm
      (((rows.map (fun row => period row.time)).eraseDups.map (fun k =>
        dailyBar (inPeriod period rows k))).map Bar.time) :=
    (List.perm_insertionSort _ _).map Bar.time
  rw [sorted.nodup_iff, List.map_map]
  have names : ((rows.map (fun row => period row.time)).eraseDups.map
        (Bar.time ∘ fun k => dailyBar (inPeriod period rows k))).map period =
      (rows.map (fun row => period row.time)).eraseDups := by
    rw [List.map_map]
    conv_rhs => rw [← List.map_id (rows.map (fun row => period row.time)).eraseDups]
    apply List.map_congr_left
    intro k named
    exact period_dailyBar named
  apply List.Nodup.of_map period
  rw [names]
  exact nodup_eraseDups _

theorem mem_periodBars (period : Int -> GroupKey) (rows : List (Bar (Option V)))
    (bar : Bar (Option V)) :
    bar ∈ periodBars period rows ↔
      exists k, k ∈ (rows.map (fun row => period row.time)).eraseDups ∧
        dailyBar (inPeriod period rows k) = bar := by
  rw [periodBars, mem_sortBy, List.mem_map]

/-- The period bars are named by the first timestamps of the periods. -/
theorem mem_times_periodBars (period : Int -> GroupKey) (rows : List (Bar (Option V))) (ts : Int) :
    ts ∈ (periodBars period rows).map Bar.time ↔
      Leads period { time | time ∈ rows.map Bar.time } ts := by
  have members : ts ∈ (periodBars period rows).map Bar.time ↔
      exists k, k ∈ (rows.map (fun row => period row.time)).eraseDups ∧
        (dailyBar (inPeriod period rows k)).time = ts := by
    simp only [List.mem_map, mem_periodBars, exists_exists_and_eq_and]
  rw [members]
  constructor
  · rintro ⟨k, named, rfl⟩
    have spec := dailyBar_time (inPeriod_ne_nil named)
    rcases spec.1 with ⟨first, firstMem, firstTime⟩
    refine ⟨?_, ?_⟩
    · rw [← firstTime]
      exact List.mem_map_of_mem ((mem_inPeriod period rows k first).mp firstMem).1
    · intro other shown same
      rcases List.mem_map.mp shown with ⟨row, member, rfl⟩
      rw [period_dailyBar named] at same
      exact spec.2 row ((mem_inPeriod period rows k row).mpr ⟨member, same⟩)
  · intro leads
    rcases List.mem_map.mp leads.1 with ⟨row, member, rfl⟩
    have named : period row.time ∈ (rows.map (fun row => period row.time)).eraseDups :=
      List.mem_eraseDups.mpr (List.mem_map_of_mem member)
    refine ⟨period row.time, named, ?_⟩
    have spec := dailyBar_time (inPeriod_ne_nil named)
    rcases spec.1 with ⟨first, firstMem, firstTime⟩
    have inRows := (mem_inPeriod period rows (period row.time) first).mp firstMem
    apply le_antisymm
    · exact spec.2 row ((mem_inPeriod period rows _ row).mpr ⟨member, rfl⟩)
    · rw [← firstTime]
      exact leads.2 first.time (List.mem_map_of_mem inRows.1) inRows.2

/-! ## Runs of the writer -/

/-- A run over the whole series. -/
def fullRun (rows : List (Bar (Option V))) : Derivation.Rerun (Bar (Option V)) Int := ⟨rows, none⟩

theorem upsertAggregates_fullRun {etDate : Int -> Date} {timeframe : String}
    {period : Int -> GroupKey} (derived : timeframe ∈ dailyDerived)
    (known : forall ts, periodOf etDate timeframe ts = .ok (period ts))
    (chain : List (List (Bar (Option V)))) (table : Table (Bar.time (F := Option V))) :
    upsertAggregates etDate timeframe table (chain.map fullRun) =
      .ok ((chain.map (fun rows => periodBars period (normalize Bar.time rows))).foldl
        Table.upsertAll table) := by
  induction chain generalizing table with
  | nil => rfl
  | cons rows rest ih =>
      have one : upsertAggregate etDate timeframe table (fullRun rows) =
          .ok (table.upsertAll (periodBars period (normalize Bar.time rows))) := by
        simp only [upsertAggregate, fullRun, aggregatedBars, aggregate_daily derived known]
      rw [List.map_cons, upsertAggregates, one]
      exact ih _

/-- The period bars of a series are named by the first timestamps of the
periods it has bars in. -/
theorem mem_times_iff_leads {etDate : Int -> Date} {timeframe : String}
    {period : Int -> GroupKey} (known : forall ts, periodOf etDate timeframe ts = .ok (period ts))
    (rows : List (Bar (Option V))) (ts : Int) :
    ts ∈ (periodBars period (normalize Bar.time rows)).map Bar.time ↔
      Leads (periodOf etDate timeframe) (shownTimes rows) ts := by
  have shown : { time | time ∈ (normalize Bar.time rows).map Bar.time } = shownTimes rows := by
    ext time
    exact (mem_shownTimes_iff rows time).symm
  rw [mem_times_periodBars, shown]
  simp only [Leads, known, Except.ok.injEq]

/-- What a chain of runs leaves is the last aggregate if and only if every
first timestamp of a period stays one to the end. -/
theorem fullRuns_perm_iff {etDate : Int -> Date} {timeframe : String} {period : Int -> GroupKey}
    (known : forall ts, periodOf etDate timeframe ts = .ok (period ts))
    (earlier : List (List (Bar (Option V)))) (last : List (Bar (Option V))) :
    (((earlier ++ [last]).map (fun rows => periodBars period (normalize Bar.time rows))).foldl
        Table.upsertAll (Table.empty : Table (Bar.time (F := Option V)))).rows.Perm
        (periodBars period (normalize Bar.time last)) ↔
      forall rows, rows ∈ earlier ++ [last] -> forall ts,
        Leads (periodOf etDate timeframe) (shownTimes rows) ts ->
          Leads (periodOf etDate timeframe) (shownTimes last) ts := by
  rw [List.map_append, List.map_singleton, upserts_perm_iff _ (nodup_periodBars _ _)]
  constructor
  · intro kept rows member ts leads
    rcases List.mem_append.mp member with before | isLast
    · have named := kept _ (List.mem_map_of_mem before) ts
        ((mem_times_iff_leads known rows ts).mpr leads)
      exact (mem_times_iff_leads known last ts).mp named
    · rw [← List.mem_singleton.mp isLast]
      exact leads
  · intro kept batch member ts named
    rcases List.mem_map.mp member with ⟨rows, before, rfl⟩
    have leads := kept rows (List.mem_append_left _ before) ts
      ((mem_times_iff_leads known rows ts).mp named)
    exact (mem_times_iff_leads known last ts).mpr leads

/-- Upserting the aggregates of a growing chain of daily series one after the
other leaves exactly the aggregate of the last series if and only if no step
adds a bar to a period before the first bar the period had. -/
theorem daily_incremental_iff (etDate : Int -> Date) {timeframe : String}
    (derived : timeframe ∈ dailyDerived) (first : List (Bar (Option V)))
    (later : List (List (Bar (Option V)))) (grows : (first :: later).IsChain SeriesGrows) :
    (exists table bars,
      upsertAggregates etDate timeframe Table.empty ((first :: later).map fullRun) = .ok table ∧
        aggregate etDate (.ohlcv (later.getLastD first)) timeframe = .ok bars ∧
        table.rows.Perm bars) ↔
      (first :: later).IsChain (KeepsOpens etDate timeframe) := by
  rcases exists_period derived with ⟨ofDate, everyDate⟩
  have known : forall ts, periodOf etDate timeframe ts = .ok (ofDate (etDate ts)) :=
    fun ts => everyDate (etDate ts)
  have splits : first :: later = (first :: later).dropLast ++ [later.getLastD first] := by
    rw [← List.getLast_eq_getLastD (List.cons_ne_nil first later), List.dropLast_append_getLast]
  have kept := fullRuns_perm_iff known (first :: later).dropLast (later.getLastD first)
  rw [← splits] at kept
  rw [upsertAggregates_fullRun derived known, aggregate_daily derived known]
  calc _ ↔ _ := by
        constructor
        · rintro ⟨table, bars, ran, aggregated, perm⟩
          rw [← Except.ok.inj ran, ← Except.ok.inj aggregated] at perm
          exact kept.mp perm
        · intro stays
          exact ⟨_, _, rfl, rfl, kept.mpr stays⟩
    _ ↔ _ := leaders_kept_iff first later grows

omit [LinearOrder V] [AddMonoid V] in
/-- A series grows by the rows that arrive after it. -/
theorem seriesGrows_append (before arrived : List (Bar (Option V))) :
    SeriesGrows before (before ++ arrived) := by
  intro ts shown absent
  rw [barAtTime, Table.lastUnder_append, Option.or_eq_none_iff] at absent
  exact shown absent.2

end Periods

/-- Two sessions of January. -/
def januaryDate (ts : Int) : Date := if ts < 86400 then ⟨2026, 1, 14⟩ else ⟨2026, 1, 15⟩

/-- A month whose bars arrive in their order. -/
theorem daily_incremental_month :
    let first : List (Bar (Option Rat)) := [(seedBar 0 10).complete]
    let second := first ++ [(seedBar 86400 11).complete]
    (exists table bars,
      upsertAggregates januaryDate "1M" Table.empty ([first, second].map fullRun) = .ok table ∧
        aggregate januaryDate (.ohlcv second) "1M" = .ok bars ∧ table.rows.Perm bars) ↔
      [first, second].IsChain (KeepsOpens januaryDate "1M") := by
  intro first second
  have derived : "1M" ∈ dailyDerived := by decide
  have grows : [first, second].IsChain SeriesGrows :=
    List.isChain_cons_cons.mpr
      ⟨seriesGrows_append first [(seedBar 86400 11).complete], List.IsChain.singleton _⟩
  exact daily_incremental_iff januaryDate derived first [second] grows

/-- A month whose first bar arrives late, as it does in a backfill that walks
backward: the month stays in the table twice. -/
theorem daily_late_bar_leaves_stale_month :
    let first : List (Bar (Option Rat)) := [(seedBar 86400 11).complete]
    let second := first ++ [(seedBar 0 10).complete]
    (forall before after, before ≤ after ->
        (januaryDate before).toordinal ≤ (januaryDate after).toordinal) ∧
      [first, second].IsChain SeriesGrows ∧
      exists table bars,
        upsertAggregates januaryDate "1M" Table.empty ([first, second].map fullRun) = .ok table ∧
          aggregate januaryDate (.ohlcv second) "1M" = .ok bars ∧
          table.rows.map Bar.time = [86400, 0] ∧ bars.map Bar.time = [0] ∧
          ¬ table.rows.Perm bars := by
  intro first second
  refine ⟨?monotone, ?grows, ?stale⟩
  case monotone =>
    intro before after order
    unfold januaryDate
    by_cases late : after < 86400
    · rw [if_pos late, if_pos (lt_of_le_of_lt order late)]
    · rw [if_neg late]
      by_cases early : before < 86400
      · rw [if_pos early]
        decide
      · rw [if_neg early]
  case grows =>
    exact List.isChain_cons_cons.mpr
      ⟨seriesGrows_append first [(seedBar 0 10).complete], List.IsChain.singleton _⟩
  case stale =>
    refine ⟨_, _, rfl, rfl, by decide, by decide, ?_⟩
    intro perm
    exact absurd perm.length_eq (by decide)

end HybridDataSvc
