import HybridDataSvc.Aggregate.Bars
import Mathlib.Data.Int.Order.Basic
import Mathlib.Algebra.Order.Ring.Unbundled.Rat
import Mathlib.Algebra.Ring.Rat

namespace HybridDataSvc

open Relational Series Transition

/-!
# Intraday bars are kept up to date by re-running

The writer aggregates the base series again in each cycle and upserts what
comes out, possibly from the bars at or after a cut-off only.  Intraday
buckets are windows of a fixed width, so a cut-off at a multiple of the width
cuts none of them, and the library's rule applies.
-/

variable {V : Type} [LinearOrder V] [AddMonoid V]

/-! ## Intraday timeframes -/

theorem mem_of_lookup_eq_some {timeframe : String} {width : Int}
    (known : intradaySeconds.lookup timeframe = some width) :
    (timeframe, width) ∈ intradaySeconds := by
  rcases List.lookup_eq_some_iff.mp known with ⟨before, after, equal, _⟩
  rw [equal]
  exact List.mem_append_right before List.mem_cons_self

theorem not_mem_nativeTfs {timeframe : String} {width : Int}
    (known : intradaySeconds.lookup timeframe = some width) : timeframe ∉ nativeTfs := by
  simp only [nativeTfs, List.mem_cons, List.not_mem_nil, or_false]
  rintro (rfl | rfl)
  · cases known
  · cases known

theorem width_pos {timeframe : String} {width : Int}
    (known : intradaySeconds.lookup timeframe = some width) : 0 < width := by
  have member := mem_of_lookup_eq_some known
  simp only [intradaySeconds, List.mem_cons, Prod.mk.injEq, List.not_mem_nil, or_false] at member
  omega

/-- `aggregate` derives the intraday buckets of a base series. -/
theorem aggregate_intraday (etDate : Int -> Date) {timeframe : String} {width : Int}
    (known : intradaySeconds.lookup timeframe = some width) (rows : List (Bar (Option V))) :
    aggregate etDate (.ohlcv rows) timeframe = .ok ((intradayBuckets width).derive rows) := by
  have derived : (intradayBuckets width).derive rows =
      bucketIntraday (normalize Bar.time rows) width := rfl
  rw [derived]
  simp only [aggregate, normalizeFrame, if_neg (not_mem_nativeTfs known), known]
  cases normalize Bar.time rows with
  | nil => rfl
  | cons row rest => rfl

/-- A multiple of the width cuts no bucket. -/
theorem boundary_of_dvd {width start : Int} (positive : 0 < width) (multiple : width ∣ start) :
    (intradayBuckets (V := V) width).Boundary start := by
  intro k other same within
  rcases multiple with ⟨m, rfl⟩
  have bucketsEq : k / width * width = other / width * width := same
  have below : m ≤ k / width := (Int.le_ediv_iff_mul_le positive).mpr (by rwa [Int.mul_comm])
  calc width * m = m * width := Int.mul_comm width m
    _ ≤ k / width * width := Int.mul_le_mul_of_nonneg_right below positive.le
    _ = other / width * width := bucketsEq
    _ ≤ other := Int.ediv_mul_le other positive.ne'

/-! ## Runs of the writer -/

/-- The bars of the base series that a run aggregates. -/
def aggregatedBars (rerun : Derivation.Rerun (Bar (Option V)) Int) : List (Bar (Option V)) :=
  match rerun.cutOff with
  | none => rerun.rows
  | some start => rerun.rows.filter (fun bar => decide (start ≤ bar.time))

theorem aggregatedBars_eq (width : Int) (rerun : Derivation.Rerun (Bar (Option V)) Int) :
    aggregatedBars rerun = (intradayBuckets width).since rerun.cutOff rerun.rows := by
  unfold aggregatedBars Derivation.since
  cases rerun.cutOff with
  | none => rfl
  | some start => exact List.filter_congr (fun bar _ => decide_eq_decide.mpr Iff.rfl)

/-- One run: aggregate and upsert. -/
def upsertAggregate (etDate : Int -> Date) (timeframe : String)
    (table : Table (Bar.time (F := Option V)))
    (rerun : Derivation.Rerun (Bar (Option V)) Int) :
    Except PyError (Table (Bar.time (F := Option V))) :=
  match aggregate etDate (.ohlcv (aggregatedBars rerun)) timeframe with
  | .error raised => .error raised
  | .ok bars => .ok (table.upsertAll bars)

/-- Runs one after the other. -/
def upsertAggregates (etDate : Int -> Date) (timeframe : String) :
    Table (Bar.time (F := Option V)) -> List (Derivation.Rerun (Bar (Option V)) Int) ->
      Except PyError (Table (Bar.time (F := Option V)))
  | table, [] => .ok table
  | table, rerun :: rest =>
    match upsertAggregate etDate timeframe table rerun with
    | .error raised => .error raised
    | .ok next => upsertAggregates etDate timeframe next rest

/-- The bar that a base series shows at a timestamp: the last one it has. -/
def barAtTime (rows : List (Bar (Option V))) (ts : Int) : Option (Bar (Option V)) :=
  Table.lastUnder Bar.time rows ts

/-- A growing chain of base series with the cut-offs of the runs over them:
each adds bars or replaces them, and a cut-off is a bucket boundary that is
not later than the oldest bar added or replaced. -/
def GrowingChain (width : Int) :
    List (Bar (Option V)) -> List (Derivation.Rerun (Bar (Option V)) Int) -> Prop
  | _, [] => True
  | before, rerun :: rest =>
    (forall ts, barAtTime before ts ≠ none -> barAtTime rerun.rows ts ≠ none) ∧
      (forall start, rerun.cutOff = some start ->
        width ∣ start ∧
          forall ts, barAtTime rerun.rows ts ≠ barAtTime before ts -> start ≤ ts) ∧
      GrowingChain width rerun.rows rest

omit [LinearOrder V] [AddMonoid V] in
/-- A series grows by the rows that arrive after it. -/
theorem GrowingChain.append {width : Int} {before arrived : List (Bar (Option V))}
    {cutOff : Option Int} {rest : List (Derivation.Rerun (Bar (Option V)) Int)}
    (cuts : forall start, cutOff = some start ->
      width ∣ start ∧ forall bar, bar ∈ arrived -> start ≤ bar.time)
    (chain : GrowingChain width (before ++ arrived) rest) :
    GrowingChain width before (⟨before ++ arrived, cutOff⟩ :: rest) := by
  refine ⟨?grows, ?cut, chain⟩
  case grows =>
    intro ts shown
    rw [barAtTime, Table.lastUnder_append]
    intro absent
    exact shown (Option.or_eq_none_iff.mp absent).2
  case cut =>
    intro start cut
    refine ⟨(cuts start cut).1, ?_⟩
    intro ts changed
    cases added : Table.lastUnder Bar.time arrived ts with
    | none =>
        rw [barAtTime, Table.lastUnder_append, added, Option.none_or] at changed
        exact absurd rfl changed
    | some bar =>
        have spec := Table.mem_of_lastUnder added
        rw [← spec.2]
        exact (cuts start cut).2 bar spec.1

/-- The last base series of a chain. -/
def newestSeries (first : List (Bar (Option V)))
    (later : List (Derivation.Rerun (Bar (Option V)) Int)) : List (Bar (Option V)) :=
  (later.getLast?.map (fun rerun => rerun.rows)).getD first

omit [LinearOrder V] [AddMonoid V] in
theorem newestSeries_cons (first : List (Bar (Option V)))
    (rerun : Derivation.Rerun (Bar (Option V)) Int)
    (rest : List (Derivation.Rerun (Bar (Option V)) Int)) :
    newestSeries first (rerun :: rest) = newestSeries rerun.rows rest := by
  cases rest with
  | nil => rfl
  | cons next rest => simp [newestSeries, List.getLast?_cons]

/-- The runs of the writer are runs of the derivation. -/
theorem upsertAggregates_eq (etDate : Int -> Date) {timeframe : String} {width : Int}
    (known : intradaySeconds.lookup timeframe = some width)
    (reruns : List (Derivation.Rerun (Bar (Option V)) Int)) (before : List (Bar (Option V)))
    (table : Table (Bar.time (F := Option V))) :
    upsertAggregates etDate timeframe table reruns =
        .ok (run (intradayBuckets width).upsertDerived ⟨before, table⟩ reruns).table ∧
      (run (intradayBuckets width).upsertDerived ⟨before, table⟩ reruns).rows =
        newestSeries before reruns := by
  induction reruns generalizing before table with
  | nil => exact ⟨rfl, rfl⟩
  | cons rerun rest ih =>
      have one : upsertAggregate etDate timeframe table rerun =
          .ok ((intradayBuckets width).upsertDerived ⟨before, table⟩ rerun).table := by
        simp only [upsertAggregate, aggregate_intraday etDate known, aggregatedBars_eq width]
        rfl
      rw [upsertAggregates, one, run_cons, newestSeries_cons]
      exact ih rerun.rows _

theorem along_of_growingChain {width : Int} (positive : 0 < width)
    (reruns : List (Derivation.Rerun (Bar (Option V)) Int)) (before : List (Bar (Option V)))
    (table : Table (Bar.time (F := Option V))) (chain : GrowingChain width before reruns) :
    Along (intradayBuckets width).upsertDerived
      (fun state rerun => (intradayBuckets width).Continues state.rows rerun) ⟨before, table⟩
      reruns := by
  induction reruns generalizing before table with
  | nil => trivial
  | cons rerun rest ih =>
      rcases chain with ⟨grows, cuts, later⟩
      refine ⟨⟨grows, ?_, ?_⟩, ih rerun.rows _ later⟩
      · intro start cutOff
        exact boundary_of_dvd positive (cuts start cutOff).1
      · intro start cutOff
        exact (cuts start cutOff).2

/-- Upserting the aggregates of a growing chain one after the other, each in
full or from a boundary that is not later than what has changed, leaves
exactly the aggregate of the last series. -/
theorem intraday_incremental (etDate : Int -> Date) {timeframe : String} {width : Int}
    (known : intradaySeconds.lookup timeframe = some width) (first : List (Bar (Option V)))
    (later : List (Derivation.Rerun (Bar (Option V)) Int))
    (chain : GrowingChain width first later) :
    exists table bars,
      upsertAggregates etDate timeframe Table.empty (⟨first, none⟩ :: later) = .ok table ∧
        aggregate etDate (.ohlcv (newestSeries first later)) timeframe = .ok bars ∧
        table.rows.Perm bars := by
  have empty : (intradayBuckets (V := V) width).UpToDate ⟨[], Table.empty⟩ := by
    intro bucket
    rfl
  have starts : GrowingChain width [] (⟨first, none⟩ :: later) := by
    refine ⟨fun ts impossible => absurd rfl impossible, ?_, chain⟩
    intro start cutOff
    cases cutOff
  have along := along_of_growingChain (width_pos known) _ [] Table.empty starts
  rcases upsertAggregates_eq etDate known (⟨first, none⟩ :: later) [] Table.empty with
    ⟨result, newest⟩
  refine ⟨_, _, result, aggregate_intraday etDate known _, ?_⟩
  have last := newest.trans (newestSeries_cons [] ⟨first, none⟩ later)
  exact ((intradayBuckets width).run_derive empty along).trans
    (List.Perm.of_eq (congrArg (intradayBuckets width).derive last))

/-- A bar of the first window that arrives late, and one that replaces a bar,
each aggregated from the boundary before it. -/
theorem intraday_incremental_late :
    let bar : Int -> Rat -> Bar (Option Rat) := fun time price =>
      { open_ := some price, high := some price, low := some price, close := some price,
        volume := some 1, time := time }
    let first := [bar 0 10, bar 600 12]
    let second := first ++ [bar 120 11]
    let third := second ++ [bar 600 9]
    let etDate : Int -> Date := fun _ => ⟨2026, 1, 1⟩
    exists table bars,
      upsertAggregates etDate "5" Table.empty
          [⟨first, none⟩, ⟨second, some 0⟩, ⟨third, some 600⟩] = .ok table ∧
        aggregate etDate (.ohlcv third) "5" = .ok bars ∧ table.rows.Perm bars := by
  intro bar first second third etDate
  refine intraday_incremental etDate (rfl : intradaySeconds.lookup "5" = some 300) first
    [⟨second, some 0⟩, ⟨third, some 600⟩] ?_
  refine GrowingChain.append ?_ (GrowingChain.append ?_ trivial)
  · rintro start ⟨⟩
    refine ⟨by decide, ?_⟩
    intro late member
    rw [List.mem_singleton.mp member]
    decide
  · rintro start ⟨⟩
    refine ⟨by decide, ?_⟩
    intro late member
    rw [List.mem_singleton.mp member]

end HybridDataSvc
