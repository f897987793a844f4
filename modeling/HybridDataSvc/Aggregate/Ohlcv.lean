import Mathlib.Algebra.Order.Ring.Rat
import Mathlib.Data.List.Pairwise
import HybridDataSvc.Aggregate.Intraday
import HybridDataSvc.Series.Partition

namespace HybridDataSvc

open Relational Series

/-!
# What an intraday bar is made of

Over a base frame without missing cells, each bar that comes out has the open
of the first and the close of the last bar in its window, the extreme prices
of the window, and its whole volume.  The bars of a window are those that
arrived last for their timestamps, in whatever order the frame has them.
-/

section Complete

variable {V : Type}

/-- A bar none of whose cells is missing. -/
def Bar.complete (bar : Bar V) : Bar (Option V) :=
  { open_ := some bar.open_, high := some bar.high, low := some bar.low,
    close := some bar.close, volume := some bar.volume, time := bar.time }

/-- A frame none of whose cells is missing. -/
def DataFrame.complete : DataFrame V -> DataFrame (Option V)
  | .noColumns => .noColumns
  | .ohlcv rows => .ohlcv (rows.map Bar.complete)

/-- The rows of a frame in the order they have there. -/
def DataFrame.arrivals : DataFrame V -> List (Bar V)
  | .noColumns => []
  | .ohlcv rows => rows

/-- The bars at or after `time` and before `time + width`. -/
def window (width : Int) (bars : List (Bar V)) (time : Int) : List (Bar V) :=
  bars.filter (fun bar => decide (time ≤ bar.time) && decide (bar.time < time + width))

variable [LinearOrder V] [AddCommMonoid V]

/-- A bar sums up the bars of its window. -/
structure SumsUp (bars : List (Bar V)) (bar : Bar V) : Prop where
  opens : exists first, first ∈ bars ∧ (forall other, other ∈ bars -> first.time ≤ other.time) ∧
    bar.open_ = first.open_
  high : (exists highest, highest ∈ bars ∧ highest.high = bar.high) ∧
    forall other, other ∈ bars -> other.high ≤ bar.high
  low : (exists lowest, lowest ∈ bars ∧ lowest.low = bar.low) ∧
    forall other, other ∈ bars -> bar.low ≤ other.low
  closes : exists last, last ∈ bars ∧ (forall other, other ∈ bars -> other.time ≤ last.time) ∧
    bar.close = last.close
  volume : bar.volume = (bars.map (fun other => other.volume)).sum

/-- The bars of the windows of `width` seconds that are not empty, oldest
first. -/
structure IntradayBars (width : Int) (kept bars : List (Bar V)) : Prop where
  times : forall time, time ∈ bars.map Bar.time ↔
    exists row, row ∈ kept ∧ row.time / width * width = time
  ascending : bars.Pairwise (fun first second => first.time < second.time)
  divisible : forall bar, bar ∈ bars -> width ∣ bar.time
  sumsUp : forall bar, bar ∈ bars -> SumsUp (window width kept bar.time) bar

/-- The open and the close lie between the low and the high. -/
def Bar.Bounded (bar : Bar V) : Prop :=
  bar.low ≤ bar.open_ ∧ bar.low ≤ bar.close ∧ bar.open_ ≤ bar.high ∧ bar.close ≤ bar.high

namespace SumsUp

/-- The order of the bars of the window does not matter. -/
theorem of_perm {first second : List (Bar V)} {bar : Bar V} (sums : SumsUp first bar)
    (perm : first.Perm second) : SumsUp second bar where
  opens := by
    simp only [← perm.mem_iff]
    exact sums.opens
  high := by
    simp only [← perm.mem_iff]
    exact sums.high
  low := by
    simp only [← perm.mem_iff]
    exact sums.low
  closes := by
    simp only [← perm.mem_iff]
    exact sums.closes
  volume := sums.volume.trans (perm.map _).sum_eq

theorem bounded {bars : List (Bar V)} {bar : Bar V} (sums : SumsUp bars bar)
    (all : forall other, other ∈ bars -> other.Bounded) : bar.Bounded := by
  rcases sums.opens with ⟨first, firstMem, _, firstOpen⟩
  rcases sums.closes with ⟨last, lastMem, _, lastClose⟩
  have atFirst := all first firstMem
  have atLast := all last lastMem
  refine ⟨?_, ?_, ?_, ?_⟩
  · rw [firstOpen]
    exact (sums.low.2 first firstMem).trans atFirst.1
  · rw [lastClose]
    exact (sums.low.2 last lastMem).trans atLast.2.1
  · rw [firstOpen]
    exact atFirst.2.2.1.trans (sums.high.2 first firstMem)
  · rw [lastClose]
    exact atLast.2.2.2.trans (sums.high.2 last lastMem)

end SumsUp

/-! ## The aggregations over one window -/

omit [LinearOrder V] [AddCommMonoid V] in
/-- No cell is skipped. -/
theorem present_complete (column : Bar V -> V) (cell : Bar (Option V) -> Option V)
    (same : forall bar : Bar V, cell bar.complete = some (column bar)) (rows : List (Bar V)) :
    present cell (rows.map Bar.complete) = rows.map column := by
  rw [present, List.filterMap_map]
  have columns : cell ∘ Bar.complete = some ∘ column := by
    funext bar
    exact same bar
  rw [columns, List.filterMap_eq_map]

/-- The aggregations over ascending bars sum them up. -/
theorem aggColumns_complete {rows : List (Bar V)} (nonempty : rows ≠ [])
    (ascending : Ascending Bar.time rows) (time : Int) :
    exists bar : Bar V, bar.time = time ∧ SumsUp rows bar ∧
      { aggColumns (rows.map Bar.complete) with time := time } = bar.complete := by
  have columns (column : Bar V -> V) (cell : Bar (Option V) -> Option V)
      (same : forall bar : Bar V, cell bar.complete = some (column bar)) :
      present cell (rows.map Bar.complete) = rows.map column := present_complete column cell same rows
  have sorted : rows.Pairwise (fun first second => first.time ≤ second.time) :=
    ascending.imp le_of_lt
  have reflexive : Std.Refl (fun first second : Bar V => first.time ≤ second.time) :=
    ⟨fun bar => le_refl bar.time⟩
  rcases Option.isSome_iff_exists.mp
    (List.isSome_max?_of_ne_nil (l := rows.map (fun bar => bar.high)) (by simpa using nonempty)) with
    ⟨highest, highestEq⟩
  rcases Option.isSome_iff_exists.mp
    (List.isSome_min?_of_ne_nil (l := rows.map (fun bar => bar.low)) (by simpa using nonempty)) with
    ⟨lowest, lowestEq⟩
  have highSpec := List.max?_eq_some_iff.mp highestEq
  have lowSpec := List.min?_eq_some_iff.mp lowestEq
  simp only [List.mem_map, forall_exists_index, and_imp, forall_apply_eq_imp_iff₂] at highSpec lowSpec
  refine ⟨{ open_ := (rows.head nonempty).open_, high := highest, low := lowest,
            close := (rows.getLast nonempty).close,
            volume := (rows.map (fun bar => bar.volume)).sum, time := time }, rfl, ?sums, ?cells⟩
  case sums =>
    exact
      { opens := ⟨_, List.head_mem nonempty, fun other member => sorted.rel_head member, rfl⟩
        high := highSpec
        low := lowSpec
        closes := ⟨_, List.getLast_mem nonempty, fun other member => sorted.rel_getLast member, rfl⟩
        volume := rfl }
  case cells =>
    simp only [aggColumns, Bar.complete, columns (fun bar => bar.open_) (fun bar => bar.open_) (fun _ => rfl),
      columns (fun bar => bar.high) (fun bar => bar.high) (fun _ => rfl),
      columns (fun bar => bar.low) (fun bar => bar.low) (fun _ => rfl),
      columns (fun bar => bar.close) (fun bar => bar.close) (fun _ => rfl),
      columns (fun bar => bar.volume) (fun bar => bar.volume) (fun _ => rfl), highestEq, lowestEq,
      List.head?_map, List.getLast?_map, List.head?_eq_some_head nonempty,
      List.getLast?_eq_some_getLast nonempty, Option.map_some]

/-! ## Windows -/

/-- The window a bar counts in. -/
theorem ediv_mul_eq_iff {width ts time : Int} (positive : 0 < width) (multiple : width ∣ time) :
    ts / width * width = time ↔ time ≤ ts ∧ ts < time + width := by
  rcases multiple with ⟨number, rfl⟩
  rw [Int.mul_comm width number, Int.mul_eq_mul_right_iff positive.ne',
    Int.ediv_eq_iff_of_pos positive]

omit [LinearOrder V] [AddCommMonoid V] in
theorem window_eq_filter {width time : Int} (positive : 0 < width) (multiple : width ∣ time)
    (bars : List (Bar V)) :
    window width bars time =
      bars.filter (fun bar => decide (bar.time / width * width = time)) := by
  apply List.filter_congr
  intro bar _
  rw [← Bool.decide_and, decide_eq_decide]
  exact (ediv_mul_eq_iff positive multiple).symm

omit [LinearOrder V] [AddCommMonoid V] in
theorem normalize_complete (rows : List (Bar V)) :
    normalize Bar.time (rows.map Bar.complete) = (normalize Bar.time rows).map Bar.complete :=
  normalize_map (fun _ => rfl) rows

/-- The bars of a series, one window after the other. -/
def windowBars (width : Int) (rows : List (Bar V)) (time : Int) : List (Bar V) :=
  (normalize Bar.time rows).filter (fun bar => decide (bar.time / width * width = time))

theorem group_complete (width : Int) (rows : List (Bar V)) (time : Int) :
    (intradayBuckets width).group (normalize (intradayBuckets width).key (rows.map Bar.complete))
        time =
      (windowBars width rows time).map Bar.complete := by
  have normalized : normalize (intradayBuckets width).key (rows.map Bar.complete) =
      (normalize Bar.time rows).map Bar.complete := normalize_complete rows
  rw [normalized, Derivation.group, List.filter_map]
  rfl

theorem windowBars_ne_nil {width : Int} {rows : List (Bar V)} {time : Int}
    (member : time ∈ (intradayBuckets width).buckets
      (normalize (intradayBuckets width).key (rows.map Bar.complete))) : windowBars width rows time ≠ [] := by
  rw [Derivation.mem_buckets, group_complete] at member
  intro empty
  rw [empty] at member
  exact member rfl

/-- The derived bars have no missing cell, and each sums up its window. -/
theorem exists_intradayBars (width : Int) (rows : List (Bar V)) :
    exists bars : List (Bar V),
      bars.map Bar.complete = (intradayBuckets width).derive (rows.map Bar.complete) ∧
        forall bar, bar ∈ bars -> SumsUp (windowBars width rows bar.time) bar := by
  have each : forall out, out ∈ (intradayBuckets width).derive (rows.map Bar.complete) ->
      exists bar : Bar V, bar.complete = out ∧ SumsUp (windowBars width rows bar.time) bar := by
    intro out member
    rcases List.mem_map.mp member with ⟨time, named, rfl⟩
    have ascending : Ascending Bar.time (windowBars width rows time) :=
      List.Pairwise.sublist List.filter_sublist (ascending_normalize rows)
    rcases aggColumns_complete (windowBars_ne_nil named) ascending time with
      ⟨bar, rfl, sums, cells⟩
    refine ⟨bar, ?_, sums⟩
    rw [group_complete]
    exact cells.symm
  generalize (intradayBuckets width).derive (rows.map Bar.complete) = derived at each
  induction derived with
  | nil => exact ⟨[], rfl, by simp⟩
  | cons out rest ih =>
      rcases each out List.mem_cons_self with ⟨bar, rfl, sums⟩
      rcases ih (fun other member => each other (List.mem_cons_of_mem _ member)) with
        ⟨bars, mapped, allSum⟩
      refine ⟨bar :: bars, congrArg (List.cons bar.complete) mapped, ?_⟩
      intro other member
      rcases List.mem_cons.mp member with rfl | later
      · exact sums
      · exact allSum other later

section Derived

variable {width : Int} {rows bars : List (Bar V)}
  (mapped : bars.map Bar.complete = (intradayBuckets width).derive (rows.map Bar.complete))

include mapped

/-- The bars are at the windows that have a row. -/
theorem map_time_of_complete :
    bars.map Bar.time =
      (intradayBuckets (V := V) width).buckets
        (normalize (intradayBuckets width).key (rows.map Bar.complete)) := by
  rw [← Derivation.map_outKey_derive, ← mapped, List.map_map]
  rfl

theorem mem_times_of_complete (time : Int) :
    time ∈ bars.map Bar.time ↔ windowBars width rows time ≠ [] := by
  rw [map_time_of_complete mapped, Derivation.mem_buckets, group_complete, ne_eq,
    List.map_eq_nil_iff]

/-- No volume is lost. -/
theorem sum_volume_of_complete
    (sums : forall bar, bar ∈ bars -> SumsUp (windowBars width rows bar.time) bar) :
    (bars.map (fun bar => bar.volume)).sum =
      ((keepLast Bar.time rows).map (fun bar => bar.volume)).sum := by
  have perm := normalize_perm_keepLast Bar.time rows
  have byWindow : bars.map (fun bar => bar.volume) = (bars.map Bar.time).map (fun time =>
      ((windowBars width rows time).map (fun bar => bar.volume)).sum) := by
    rw [List.map_map]
    apply List.map_congr_left
    intro bar member
    exact (sums bar member).volume
  have cells (chosen : List (Bar V)) :
      (chosen.map Bar.complete).map (fun bar => bar.volume.getD 0) =
        chosen.map (fun bar => bar.volume) := by
    rw [List.map_map]
    rfl
  have total := (intradayBuckets (V := V) width).sum_map_buckets (fun bar => bar.volume.getD 0)
    (normalize (intradayBuckets width).key (rows.map Bar.complete))
  simp only [group_complete, cells] at total
  rw [byWindow, map_time_of_complete mapped, total, ← (perm.map _).sum_eq, ← cells,
    ← normalize_complete]
  rfl

/-- The bars that `aggregate` returns for an intraday timeframe sum up the
windows that are not empty. -/
theorem intradayBars_of_complete (positive : 0 < width)
    (sums : forall bar, bar ∈ bars -> SumsUp (windowBars width rows bar.time) bar) :
    IntradayBars width (keepLast Bar.time rows) bars := by
  have perm := normalize_perm_keepLast Bar.time rows
  have multiple : forall bar, bar ∈ bars -> width ∣ bar.time := by
    intro bar member
    have named := (mem_times_of_complete mapped bar.time).mp (List.mem_map_of_mem member)
    rcases List.exists_mem_of_ne_nil _ named with ⟨row, rowMem⟩
    rw [← of_decide_eq_true (List.mem_filter.mp rowMem).2]
    exact Int.dvd_mul_left _ _
  have windows : forall bar, bar ∈ bars ->
      (windowBars width rows bar.time).Perm (window width (keepLast Bar.time rows) bar.time) := by
    intro bar member
    rw [window_eq_filter positive (multiple bar member)]
    exact perm.filter _
  refine { times := ?times, ascending := ?ascending, divisible := multiple, sumsUp := ?sums }
  case times =>
    intro time
    rw [mem_times_of_complete mapped, windowBars, ne_eq, List.filter_eq_nil_iff]
    simp only [decide_eq_true_eq, not_forall, not_not, perm.mem_iff, exists_prop]
  case ascending =>
    have ordered := (intradayBuckets width).pairwise_derive (rows.map Bar.complete)
    rw [← mapped, List.pairwise_map] at ordered
    exact ordered
  case sums =>
    intro bar member
    exact (sums bar member).of_perm (windows bar member)

end Derived

/-! ## `aggregate` -/

theorem aggregate_complete (etDate : Int -> Date) {timeframe : String} {width : Int}
    (known : intradaySeconds.lookup timeframe = some width) (df : DataFrame V) :
    aggregate etDate df.complete timeframe =
      .ok ((intradayBuckets width).derive (df.arrivals.map Bar.complete)) := by
  rw [← aggregate_intraday etDate known]
  cases df with
  | noColumns => rfl
  | ohlcv rows => rfl

omit [LinearOrder V] [AddCommMonoid V] in
/-- Frames that have the same rows in the same order at each timestamp show
the same last arrivals. -/
theorem normalize_complete_congr {first second : List (Bar V)}
    (same : forall ts, first.filter (fun bar => decide (bar.time = ts)) =
      second.filter (fun bar => decide (bar.time = ts))) :
    normalize Bar.time (first.map Bar.complete) = normalize Bar.time (second.map Bar.complete) := by
  rw [normalize_complete, normalize_complete]
  congr 1
  apply normalize_congr
  intro ts
  rw [lastUnder_eq_getLast?, lastUnder_eq_getLast?, same ts]

/-- Intraday aggregation of a frame without missing cells: one bar for each
window that is not empty, which sums up the rows that arrived last for their
timestamps; no volume is lost, bounds are kept, and the order of rows with
distinct timestamps does not matter. -/
theorem aggregate_intraday_ohlcv (etDate : Int -> Date) {timeframe : String} {width : Int}
    (known : intradaySeconds.lookup timeframe = some width) (df : DataFrame V) :
    exists bars : List (Bar V),
      aggregate etDate df.complete timeframe = .ok (bars.map Bar.complete) ∧
        IntradayBars width (keepLast Bar.time df.arrivals) bars ∧
        (bars.map (fun bar => bar.volume)).sum =
          ((keepLast Bar.time df.arrivals).map (fun bar => bar.volume)).sum ∧
        ((forall row, row ∈ keepLast Bar.time df.arrivals -> row.Bounded) ->
          forall bar, bar ∈ bars -> bar.Bounded) ∧
        forall other : DataFrame V,
          (forall ts, other.arrivals.filter (fun bar => decide (bar.time = ts)) =
            df.arrivals.filter (fun bar => decide (bar.time = ts))) ->
          aggregate etDate other.complete timeframe = aggregate etDate df.complete timeframe := by
  rcases exists_intradayBars width df.arrivals with ⟨bars, mapped, sums⟩
  have spec := intradayBars_of_complete mapped (width_pos known) sums
  have conserved := sum_volume_of_complete mapped sums
  refine ⟨bars, ?result, spec, conserved, ?bounded, ?reordered⟩
  case result => rw [aggregate_complete etDate known, mapped]
  case bounded =>
    intro all bar member
    apply (spec.sumsUp bar member).bounded
    intro row rowMem
    exact all row (List.mem_of_mem_filter rowMem)
  case reordered =>
    intro other same
    have normalized := normalize_complete_congr same
    rw [aggregate_complete etDate known, aggregate_complete etDate known]
    exact congrArg (fun rows => Except.ok ((intradayBuckets width).ofNormalized rows)) normalized

end Complete

/-- Rows out of order, one timestamp twice, and a window before the epoch. -/
theorem aggregate_intraday_ohlcv_before_epoch :
    let etDate : Int -> Date := fun _ => ⟨1970, 1, 1⟩
    let df : DataFrame Rat := .ohlcv [seedBar 60 12, seedBar (-60) 9, seedBar 0 10, seedBar 60 11]
    exists bars : List (Bar Rat),
      aggregate etDate df.complete "5" = .ok (bars.map Bar.complete) ∧
        IntradayBars 300 (keepLast Bar.time df.arrivals) bars ∧
        (bars.map (fun bar => bar.volume)).sum =
          ((keepLast Bar.time df.arrivals).map (fun bar => bar.volume)).sum ∧
        ((forall row, row ∈ keepLast Bar.time df.arrivals -> row.Bounded) ->
          forall bar, bar ∈ bars -> bar.Bounded) ∧
        forall other : DataFrame Rat,
          (forall ts, other.arrivals.filter (fun bar => decide (bar.time = ts)) =
            df.arrivals.filter (fun bar => decide (bar.time = ts))) ->
          aggregate etDate other.complete "5" = aggregate etDate df.complete "5" := by
  intro etDate df
  exact aggregate_intraday_ohlcv etDate (rfl : intradaySeconds.lookup "5" = some 300) df

end HybridDataSvc
