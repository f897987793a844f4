import HybridDataSvc.Aggregate.Composition
import HybridDataSvc.Aggregate.Periods
import Mathlib.Data.List.Induction

namespace HybridDataSvc

open Series

/-!
# What a daily-derived bar is made of

Over any base frame, the rows that arrived last for their timestamps fall into
stretches of time, one for each week, month or block of days that has a bar,
and each bar that comes out sums up one of them.  A missing cell is passed
over, as pandas does: the open is that of the first row that has one.
-/

/-- The US/Eastern dates of the timestamps: dates of the calendar that do not go
back. -/
structure EasternDates where
  date : Int -> Date
  valid : forall ts, (date ts).Valid
  monotone : forall before after, before ≤ after -> (date before).toordinal ≤ (date after).toordinal

section Cells

variable {V : Type}

/-- The cell of the earliest of the rows that have one. -/
def IsEarliest (cell : Bar (Option V) -> Option V) (rows : List (Bar (Option V)))
    (value : Option V) : Prop :=
  ((forall row, row ∈ rows -> cell row = none) ∧ value = none) ∨
    exists first, first ∈ rows ∧ cell first = value ∧ value ≠ none ∧
      forall other, other ∈ rows -> cell other ≠ none -> first.time ≤ other.time

/-- The cell of the latest of the rows that have one. -/
def IsLatest (cell : Bar (Option V) -> Option V) (rows : List (Bar (Option V)))
    (value : Option V) : Prop :=
  ((forall row, row ∈ rows -> cell row = none) ∧ value = none) ∨
    exists last, last ∈ rows ∧ cell last = value ∧ value ≠ none ∧
      forall other, other ∈ rows -> cell other ≠ none -> other.time ≤ last.time

variable [LinearOrder V] [AddMonoid V]

/-- A bar sums up the rows of a period, and is named by the earliest of them. -/
structure SumsUpPeriod (rows : List (Bar (Option V))) (bar : Bar (Option V)) : Prop where
  earliest : (exists first, first ∈ rows ∧ first.time = bar.time) ∧
    forall row, row ∈ rows -> bar.time ≤ row.time
  opens : IsEarliest (fun row => row.open_) rows bar.open_
  closes : IsLatest (fun row => row.close) rows bar.close
  high : forall value, bar.high = some value ↔
    (exists row, row ∈ rows ∧ row.high = some value) ∧
      forall row other, row ∈ rows -> row.high = some other -> other ≤ value
  low : forall value, bar.low = some value ↔
    (exists row, row ∈ rows ∧ row.low = some value) ∧
      forall row other, row ∈ rows -> row.low = some other -> value ≤ other
  volume : bar.volume = some (rows.filterMap (fun row => row.volume)).sum

/-- The bars of the periods of the kept rows, oldest first: the periods are
stretches of the rows, none of them empty, and two rows are in one of them if and
only if their dates are in one period of the timeframe. -/
structure IsPeriodBars (dates : EasternDates) (timeframe : String)
    (kept bars : List (Bar (Option V))) (parts : List (List (Bar (Option V)))) : Prop where
  rows : parts.flatten = kept
  nonempty : forall part, part ∈ parts -> part ≠ []
  together : forall part, part ∈ parts -> forall row, row ∈ part -> forall other, other ∈ kept ->
    (other ∈ part ↔ SamePeriod timeframe (dates.date row.time) (dates.date other.time))
  apart : parts.Pairwise (fun before after =>
    forall row, row ∈ before -> forall other, other ∈ after -> row.time < other.time)
  sumsUp : List.Forall₂ SumsUpPeriod parts bars
  ascending : bars.Pairwise (fun first second => first.time < second.time)
  volume : (bars.filterMap (fun bar => bar.volume)).sum =
    (kept.filterMap (fun row => row.volume)).sum

end Cells

/-! ## The aggregations over one period -/

section Period

variable {V : Type}

theorem isEarliest_head? (cell : Bar (Option V) -> Option V) {rows : List (Bar (Option V))}
    (ascending : Ascending Bar.time rows) : IsEarliest cell rows (present cell rows).head? := by
  induction rows with
  | nil => exact Or.inl ⟨by simp, rfl⟩
  | cons row rest ih =>
      rcases List.pairwise_cons.mp ascending with ⟨before, later⟩
      cases found : cell row with
      | some value =>
          right
          refine ⟨row, List.mem_cons_self, ?_, ?_, ?_⟩
          · simp [present, found]
          · simp [present, found]
          · intro other member _
            rcases List.mem_cons.mp member with rfl | tail
            · exact le_rfl
            · exact le_of_lt (before other tail)
      | none =>
          have skipped : present cell (row :: rest) = present cell rest :=
            List.filterMap_cons_none found
          rw [skipped]
          rcases ih later with ⟨absent, nothing⟩ | ⟨first, member, isCell, given, least⟩
          · refine Or.inl ⟨?_, nothing⟩
            intro other otherMem
            rcases List.mem_cons.mp otherMem with rfl | tail
            · exact found
            · exact absent other tail
          · refine Or.inr ⟨first, List.mem_cons_of_mem _ member, isCell, given, ?_⟩
            intro other otherMem has
            rcases List.mem_cons.mp otherMem with rfl | tail
            · exact absurd found has
            · exact least other tail has

theorem isLatest_getLast? (cell : Bar (Option V) -> Option V) {rows : List (Bar (Option V))}
    (ascending : Ascending Bar.time rows) : IsLatest cell rows (present cell rows).getLast? := by
  induction rows using List.reverseRecOn with
  | nil => exact Or.inl ⟨by simp, rfl⟩
  | append_singleton earlier row ih =>
      rcases List.pairwise_append.mp ascending with ⟨before, _, across⟩
      have upTo : forall other, other ∈ earlier -> other.time < row.time :=
        fun other member => across other member row (List.mem_singleton_self row)
      cases found : cell row with
      | some value =>
          right
          refine ⟨row, List.mem_append_right _ (List.mem_singleton_self row), ?_, ?_, ?_⟩
          · simp [present, found]
          · simp [present, found]
          · intro other member _
            rcases List.mem_append.mp member with head | last
            · exact le_of_lt (upTo other head)
            · rw [List.mem_singleton.mp last]
      | none =>
          have skipped : present cell (earlier ++ [row]) = present cell earlier := by
            rw [present, List.filterMap_append, List.filterMap_cons_none found, List.filterMap_nil,
              List.append_nil, present]
          rw [skipped]
          rcases ih before with ⟨absent, nothing⟩ | ⟨last, member, isCell, given, greatest⟩
          · refine Or.inl ⟨?_, nothing⟩
            intro other otherMem
            rcases List.mem_append.mp otherMem with head | tail
            · exact absent other head
            · rw [List.mem_singleton.mp tail]
              exact found
          · refine Or.inr ⟨last, List.mem_append_left _ member, isCell, given, ?_⟩
            intro other otherMem has
            rcases List.mem_append.mp otherMem with head | tail
            · exact greatest other head has
            · rw [List.mem_singleton.mp tail] at has
              exact absurd found has

variable [LinearOrder V] [AddMonoid V]

/-- The aggregations over the rows of a period sum them up. -/
theorem sumsUpPeriod_dailyBar {rows : List (Bar (Option V))} (nonempty : rows ≠ [])
    (ascending : Ascending Bar.time rows) : SumsUpPeriod rows (dailyBar rows) where
  earliest := dailyBar_time nonempty
  opens := isEarliest_head? _ ascending
  closes := isLatest_getLast? _ ascending
  high := by
    intro value
    change (present (fun bar => bar.high) rows).max? = some value ↔ _
    rw [List.max?_eq_some_iff]
    simp only [present, List.mem_filterMap, forall_exists_index, and_imp]
    exact and_congr_right fun _ => forall_comm
  low := by
    intro value
    change (present (fun bar => bar.low) rows).min? = some value ↔ _
    rw [List.min?_eq_some_iff]
    simp only [present, List.mem_filterMap, forall_exists_index, and_imp]
    exact and_congr_right fun _ => forall_comm
  volume := rfl

end Period

/-! ## The periods -/

section Periods

variable {V : Type} {dates : EasternDates} {timeframe : String}

/-- The number of the period of a bar. -/
def barPeriod (dates : EasternDates) (timeframe : String) (bar : Bar (Option V)) : Int :=
  periodNumber timeframe (dates.date bar.time)

theorem barPeriod_eq_iff (first second : Bar (Option V)) :
    barPeriod dates timeframe first = barPeriod dates timeframe second ↔
      SamePeriod timeframe (dates.date first.time) (dates.date second.time) :=
  periodNumber_eq_iff (dates.valid _) (dates.valid _)

theorem sorted_barPeriod (dates : EasternDates) (timeframe : String)
    {rows : List (Bar (Option V))} (ascending : Ascending Bar.time rows) :
    rows.Pairwise (fun first second =>
      barPeriod dates timeframe first ≤ barPeriod dates timeframe second) := by
  apply ascending.imp
  intro first second before
  exact periodNumber_mono (dates.valid _) (dates.valid _) (dates.monotone _ _ (le_of_lt before))

/-- Bars of an earlier period are earlier. -/
theorem time_lt_of_barPeriod_lt {first second : Bar (Option V)}
    (less : barPeriod dates timeframe first < barPeriod dates timeframe second) :
    first.time < second.time := by
  by_contra later
  have mono : barPeriod dates timeframe second ≤ barPeriod dates timeframe first :=
    periodNumber_mono (dates.valid _) (dates.valid _) (dates.monotone _ _ (not_lt.mp later))
  exact absurd less (not_lt.mpr mono)

variable [LinearOrder V] [AddMonoid V]

/-- The bars of the periods are made of the segments. -/
theorem periodBars_eq_segments (derived : timeframe ∈ dailyDerived) {period : Int -> GroupKey}
    (known : forall ts, periodOf dates.date timeframe ts = .ok (period ts))
    (rows : List (Bar (Option V)))
    (ascending : Ascending Bar.time ((segments (barPeriod dates timeframe) rows).map dailyBar)) :
    periodBars period rows = (segments (barPeriod dates timeframe) rows).map dailyBar := by
  have inSegment : forall row : Bar (Option V), inPeriod period rows (period row.time) =
      rows.filter (fun other =>
        decide (barPeriod dates timeframe other = barPeriod dates timeframe row)) := by
    intro row
    apply List.filter_congr
    intro other _
    rw [decide_eq_decide, barPeriod_eq_iff,
      ← groupKey_eq_iff derived (dates.valid _) (dates.valid _)]
    change _ ↔ periodOf dates.date timeframe other.time = periodOf dates.date timeframe row.time
    rw [known, known, Except.ok.injEq]
  apply (ascending_periodBars period rows).eq_of_mem_iff ascending
  intro bar
  rw [mem_periodBars, List.mem_map]
  simp only [mem_segments, List.mem_eraseDups, List.mem_map, exists_exists_and_eq_and, inSegment]

theorem sumsUp_segments {rows : List (Bar (Option V))} (ascending : Ascending Bar.time rows)
    {part : List (Bar (Option V))} (member : part ∈ segments (barPeriod dates timeframe) rows) :
    part ≠ [] ∧ SumsUpPeriod part (dailyBar part) := by
  rcases (mem_segments part).mp member with ⟨row, inRows, rfl⟩
  have nonempty : rows.filter (fun other =>
      decide (barPeriod dates timeframe other = barPeriod dates timeframe row)) ≠ [] :=
    List.ne_nil_of_mem (List.mem_filter.mpr ⟨inRows, decide_eq_true rfl⟩)
  exact ⟨nonempty, sumsUpPeriod_dailyBar nonempty
    (List.Pairwise.sublist List.filter_sublist ascending)⟩

omit [LinearOrder V] [AddMonoid V] in
theorem segments_apart (rows : List (Bar (Option V))) :
    (segments (barPeriod dates timeframe) rows).Pairwise (fun before after =>
      forall row, row ∈ before -> forall other, other ∈ after -> row.time < other.time) := by
  apply pairwise_segments.imp
  intro before after less row member other otherMem
  exact time_lt_of_barPeriod_lt (less row member other otherMem)

theorem ascending_segments {rows : List (Bar (Option V))} (ascending : Ascending Bar.time rows) :
    Ascending Bar.time ((segments (barPeriod dates timeframe) rows).map dailyBar) := by
  rw [Ascending, List.pairwise_map]
  apply List.Pairwise.imp_of_mem _ (segments_apart rows)
  intro before after beforeMem afterMem less
  rcases (sumsUp_segments ascending beforeMem).2.earliest.1 with ⟨row, member, time⟩
  rcases (sumsUp_segments ascending afterMem).2.earliest.1 with ⟨other, otherMem, otherTime⟩
  rw [← time, ← otherTime]
  exact less row member other otherMem

/-- No volume is lost. -/
theorem sum_volume_segments {rows : List (Bar (Option V))} (ascending : Ascending Bar.time rows) :
    (((segments (barPeriod dates timeframe) rows).map dailyBar).filterMap
        (fun bar => bar.volume)).sum = (rows.filterMap (fun row => row.volume)).sum := by
  have volumes := sum_sums (fun part : List (Bar (Option V)) => part.filterMap (fun row => row.volume))
    (segments (barPeriod dates timeframe) rows)
  have flattened := flatten_segments (sorted_barPeriod dates timeframe ascending)
  rw [List.flatMap_def, ← List.filterMap_flatten, flattened] at volumes
  rw [List.filterMap_map, ← volumes]
  rfl

/-- Daily-derived aggregation of any base frame: one bar for each week, month or
block of three days, made of the rows that arrived last for their timestamps. -/
theorem daily_periods (dates : EasternDates) {timeframe : String}
    (derived : timeframe ∈ dailyDerived) (df : DataFrame (Option V)) :
    exists bars parts, aggregate dates.date df timeframe = .ok bars ∧
      IsPeriodBars dates timeframe (normalize Bar.time df.arrivals) bars parts := by
  rcases exists_period derived with ⟨ofDate, everyDate⟩
  have known : forall ts, periodOf dates.date timeframe ts = .ok (ofDate (dates.date ts)) :=
    fun ts => everyDate (dates.date ts)
  have ascending : Ascending Bar.time (normalize Bar.time df.arrivals) := ascending_normalize _
  have flattened := flatten_segments (sorted_barPeriod dates timeframe ascending)
  refine ⟨(segments (barPeriod dates timeframe) (normalize Bar.time df.arrivals)).map dailyBar,
    segments (barPeriod dates timeframe) (normalize Bar.time df.arrivals), ?aggregated, ?spec⟩
  case aggregated =>
    rw [aggregate_arrivals, aggregate_daily derived known,
      periodBars_eq_segments derived known _ (ascending_segments ascending)]
  case spec =>
    exact
      { rows := flattened
        nonempty := fun part member => (sumsUp_segments ascending member).1
        together := by
          intro part member row inPart other inRows
          rcases (mem_segments part).mp member with ⟨first, _, rfl⟩
          have here : barPeriod dates timeframe row = barPeriod dates timeframe first :=
            of_decide_eq_true (List.mem_filter.mp inPart).2
          rw [List.mem_filter, decide_eq_true_iff, ← barPeriod_eq_iff, here]
          exact ⟨fun both => both.2.symm, fun same => ⟨inRows, same.symm⟩⟩
        apart := segments_apart _
        sumsUp := by
          rw [List.forall₂_map_right_iff, List.forall₂_same]
          intro part member
          exact (sumsUp_segments ascending member).2
        ascending := ascending_segments ascending
        volume := sum_volume_segments ascending }

end Periods

/-- New Year's Eve of 2025 and the day after it. -/
def newYearDates : EasternDates where
  date := fun ts => if ts < 86400 then ⟨2025, 12, 31⟩ else ⟨2026, 1, 1⟩
  valid := by
    intro ts
    split
    · exact ⟨by decide, by decide, by decide, by decide⟩
    · exact ⟨by decide, by decide, by decide, by decide⟩
  monotone := by
    intro before after order
    by_cases late : after < 86400
    · rw [if_pos late, if_pos (lt_of_le_of_lt order late)]
    · rw [if_neg late]
      by_cases early : before < 86400
      · rw [if_pos early]
        decide
      · rw [if_neg early]

/-- The week goes on over the end of the year, which the month does not. -/
theorem daily_periods_newYear :
    let df : DataFrame (Option Rat) := .ohlcv [(seedBar 86400 11).complete, (seedBar 0 10).complete]
    (exists bars parts, aggregate newYearDates.date df "1W" = .ok bars ∧ bars.length = 1 ∧
        IsPeriodBars newYearDates "1W" (normalize Bar.time df.arrivals) bars parts) ∧
      exists bars parts, aggregate newYearDates.date df "1M" = .ok bars ∧ bars.length = 2 ∧
        IsPeriodBars newYearDates "1M" (normalize Bar.time df.arrivals) bars parts := by
  intro df
  constructor
  · rcases daily_periods newYearDates (by decide : "1W" ∈ dailyDerived) df with
      ⟨bars, parts, aggregated, spec⟩
    have counted : (aggregate newYearDates.date df "1W").map List.length = .ok 1 := by decide +kernel
    rw [aggregated] at counted
    exact ⟨bars, parts, aggregated, Except.ok.inj counted, spec⟩
  · rcases daily_periods newYearDates (by decide : "1M" ∈ dailyDerived) df with
      ⟨bars, parts, aggregated, spec⟩
    have counted : (aggregate newYearDates.date df "1M").map List.length = .ok 2 := by decide +kernel
    rw [aggregated] at counted
    exact ⟨bars, parts, aggregated, Except.ok.inj counted, spec⟩

end HybridDataSvc
