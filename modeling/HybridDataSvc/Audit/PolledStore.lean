import HybridDataSvc.Audit.BrokenSeries
import HybridDataSvc.Audit.InsertGrid
import HybridDataSvc.Cache.ManySeries
import Mathlib.Data.Set.Card

namespace HybridDataSvc

open Relational Transition Accumulation Series

/-!
# The audit of what the polling loop stores

In a store that timely calls alone have filled, every series is an interval of
what its source has.  What the audit counts is then a fact about the source: the
slots between the oldest and the newest stored bar for which it has no bar.
-/

/-- The slots from `first` to `last` at which the source has no bar. -/
def sourceHoles (S : Set Int) (secs first last : Int) : Set Int :=
  { ts | ts ∈ slots secs first last ∧ ts ∉ S }

theorem finite_sourceHoles (S : Set Int) (secs first last : Int) :
    (sourceHoles S secs first last).Finite :=
  (List.finite_toSet (slots secs first last)).subset (fun _ hole => hole.1)

/-- In an interval the slots without a member are those without one in the set. -/
theorem vacant_eq_ncard {S : Set Int} {secs first last : Int} {times : List Int}
    (positive : 0 < secs) (filled : Filled S { ts | ts ∈ times })
    (least : IsLeast { ts | ts ∈ times } first) (greatest : IsGreatest { ts | ts ∈ times } last) :
    vacant secs first last times = (sourceHoles S secs first last).ncard := by
  have same : sourceHoles S secs first last =
      (((slots secs first last).filter (fun slot => !decide (slot ∈ times))).toFinset : Set Int) := by
    ext ts
    rw [Finset.mem_coe, List.mem_toFinset, List.mem_filter, Bool.not_eq_true',
      decide_eq_false_iff_not]
    apply and_congr_right
    intro slot
    rw [not_iff_not]
    constructor
    · intro offered
      rcases (mem_slots positive ts).mp slot with ⟨k, rfl, below⟩
      have product : 0 ≤ (k : Int) * secs := Int.mul_nonneg (Int.natCast_nonneg k) positive.le
      exact filled.between first least.1 last greatest.1 _ offered (by omega) below
    · intro stored
      exact filled.subset stored
  rw [vacant, same, Set.ncard_coe_finset,
    List.toFinset_card_of_nodup ((nodup_slots positive).filter _)]

/-- A series on a grid without repetitions has as many members as slots that are
not vacant. -/
theorem length_add_vacant {secs first last : Int} {times : List Int} (positive : 0 < secs)
    (nodup : times.Nodup) (least : IsLeast { ts | ts ∈ times } first)
    (greatest : IsGreatest { ts | ts ∈ times } last)
    (onGrid : forall ts, ts ∈ times -> secs ∣ ts - first) :
    (times.length : Int) + vacant secs first last times = (last - first) / secs + 1 := by
  have inside : forall ts, ts ∈ times -> ts ∈ slots secs first last := by
    intro ts member
    exact mem_slots_of_dvd positive (least.2 member) (greatest.2 member) (onGrid ts member)
  have split := List.length_eq_length_filter_add (l := slots secs first last)
    (fun slot => decide (slot ∈ times))
  rw [length_taken positive inside, nodup.dedup] at split
  rw [← length_slots positive (greatest.2 least.1), vacant]
  omega

/-! ## The audit of one series -/

variable {F : Type}

namespace SeriesPoll

variable {sources : String -> String -> Set Int} {state : Polling F}

/-- All bars of a series are those of the default provider. -/
theorem AllAccumulated.seriesTimes_eq (invariant : AllAccumulated sources state)
    (symbol timeframe : String) :
    seriesTimes state.store symbol timeframe =
      bucketTimes state.store (defaultBucket symbol timeframe) := by
  apply congrArg (List.map BarRow.ts)
  apply List.filter_congr
  intro row member
  rw [← Bool.decide_and, decide_eq_decide]
  constructor
  · rintro ⟨rfl, rfl⟩
    rw [defaultBucket, ← invariant.provider row member]
  · intro named
    rw [named]
    exact ⟨rfl, rfl⟩

theorem AllAccumulated.storedTimes_eq (invariant : AllAccumulated sources state)
    (symbol timeframe : String) :
    state.store.storedTimes (defaultBucket symbol timeframe) =
      { ts | ts ∈ seriesTimes state.store symbol timeframe } := by
  rw [invariant.seriesTimes_eq, HybridDataSvc.storedTimes_eq]

theorem AllAccumulated.nodup_seriesTimes (invariant : AllAccumulated sources state)
    (symbol timeframe : String) : (seriesTimes state.store symbol timeframe).Nodup := by
  rw [invariant.seriesTimes_eq]
  exact nodup_bucketTimes state.store _

theorem AllAccumulated.filled (invariant : AllAccumulated sources state) {symbol timeframe : String}
    {secs : Int} (known : tfSecs timeframe = some secs) :
    Filled (sources symbol timeframe) { ts | ts ∈ seriesTimes state.store symbol timeframe } := by
  rw [← invariant.storedTimes_eq]
  exact (invariant.series symbol timeframe secs (tfSeconds_of_tfSecs known)).filled

/-- The bars of a source are on the grid of its timeframe, and so are the stored
ones on that of the oldest one. -/
theorem AllAccumulated.onGrid (invariant : AllAccumulated sources state)
    (grid : forall symbol timeframe ts, ts ∈ sources symbol timeframe ->
      tsAligned ts timeframe = .ok true) {symbol timeframe : String} {secs : Int}
    (audited : Audited state.store symbol timeframe secs) (ts : Int)
    (member : ts ∈ seriesTimes state.store symbol timeframe) :
    secs ∣ ts - minTs (seriesTimes state.store symbol timeframe) := by
  have filled : Filled (sources symbol timeframe) _ := invariant.filled audited.known
  have oldest := (isLeast_minTs audited.nonempty).1
  have known := tfSeconds_of_tfSecs audited.known
  have here := (tsAligned_iff_dvd known ts).mp (grid symbol timeframe ts (filled.subset member))
  have there := (tsAligned_iff_dvd known _).mp (grid symbol timeframe _ (filled.subset oldest))
  have difference := Int.dvd_sub here there
  rw [sub_sub_sub_cancel_right] at difference
  exact difference

/-- The row of the first query counts as many bars short as the source has holes. -/
theorem AllAccumulated.expected_eq (invariant : AllAccumulated sources state)
    (grid : forall symbol timeframe ts, ts ∈ sources symbol timeframe ->
      tsAligned ts timeframe = .ok true) {symbol timeframe : String} {secs : Int}
    (audited : Audited state.store symbol timeframe secs) :
    (seriesCombo state.store symbol timeframe secs).expected =
      (seriesCombo state.store symbol timeframe secs).actual +
        (sourceHoles (sources symbol timeframe) secs
          (minTs (seriesTimes state.store symbol timeframe))
          (maxTs (seriesTimes state.store symbol timeframe))).ncard := by
  have positive := tfSecs_pos audited.known
  have least := isLeast_minTs audited.nonempty
  have greatest := isGreatest_maxTs audited.nonempty
  have ordered := greatest.2 least.1
  have counted := length_add_vacant positive (invariant.nodup_seriesTimes symbol timeframe) least
    greatest (invariant.onGrid grid audited)
  rw [vacant_eq_ncard positive (invariant.filled audited.known) least greatest] at counted
  simp only [seriesCombo]
  rw [Int.tdiv_eq_ediv_of_nonneg (by omega), ← counted]

/-- What the first loop reports for a series. -/
theorem AllAccumulated.comboProblem_eq_some_iff (invariant : AllAccumulated sources state)
    (grid : forall symbol timeframe ts, ts ∈ sources symbol timeframe ->
      tsAligned ts timeframe = .ok true) {symbol timeframe : String} {secs : Int}
    (audited : Audited state.store symbol timeframe secs) (problem : Problem) :
    let holes := sourceHoles (sources symbol timeframe) secs
      (minTs (seriesTimes state.store symbol timeframe))
      (maxTs (seriesTimes state.store symbol timeframe))
    comboProblem (seriesCombo state.store symbol timeframe secs) = some problem ↔
      holes.Nonempty ∧ problem = ⟨comboName symbol timeframe, .gaps, holes.ncard⟩ := by
  intro holes
  have expected := invariant.expected_eq grid audited
  have finite := finite_sourceHoles (sources symbol timeframe) secs
    (minTs (seriesTimes state.store symbol timeframe))
    (maxTs (seriesTimes state.store symbol timeframe))
  rw [← Set.ncard_pos finite]
  change _ = _ + (holes.ncard : Int) at expected
  change _ ↔ 0 < holes.ncard ∧ _
  unfold comboProblem
  by_cases short : 0 < holes.ncard
  · rw [if_pos (by omega), and_iff_right short, expected, Option.some_inj, eq_comm,
      add_sub_cancel_left]
    rfl
  · rw [if_neg (by omega), if_neg (by omega)]
    exact iff_of_false (fun impossible => by cases impossible) (fun both => short both.1)

end SeriesPoll

/-! ## The report -/

/-- A problem of a store that holds intervals of the sources: a series with a hole
between its oldest and its newest stored bar, and the number of them. -/
def ReportsHoles (sources : String -> String -> Set Int) (store : Store F) (problem : Problem) :
    Prop :=
  exists symbol timeframe secs first last, tfSecs timeframe = some secs ∧
    IsLeast (store.storedTimes (defaultBucket symbol timeframe)) first ∧
    IsGreatest (store.storedTimes (defaultBucket symbol timeframe)) last ∧
    (sourceHoles (sources symbol timeframe) secs first last).Nonempty ∧
    problem = ⟨comboName symbol timeframe, .gaps,
      (sourceHoles (sources symbol timeframe) secs first last).ncard⟩

namespace SeriesPoll

variable {sources : String -> String -> Set Int} {state : Polling F}

/-- The second query finds nothing. -/
theorem AllAccumulated.offGridRows_eq_nil (invariant : AllAccumulated sources state)
    (grid : forall symbol timeframe ts, ts ∈ sources symbol timeframe ->
      tsAligned ts timeframe = .ok true) : offGridRows state.store = [] := by
  rw [offGridRows_eq_nil_iff]
  intro symbol timeframe secs audited ts member
  exact invariant.onGrid grid audited ts member

theorem AllAccumulated.withExtras_eq_zero (invariant : AllAccumulated sources state)
    (grid : forall symbol timeframe ts, ts ∈ sources symbol timeframe ->
      tsAligned ts timeframe = .ok true) : (auditIntegrity state.store).withExtras = 0 := by
  rw [auditIntegrity, auditReport, List.countP_eq_zero]
  intro row member
  rcases (mem_combos state.store row).mp member with ⟨symbol, timeframe, secs, audited, rfl⟩
  have expected := invariant.expected_eq grid audited
  rw [decide_eq_true_eq]
  omega

theorem AllAccumulated.mem_problems_iff (invariant : AllAccumulated sources state)
    (grid : forall symbol timeframe ts, ts ∈ sources symbol timeframe ->
      tsAligned ts timeframe = .ok true) (problem : Problem) :
    problem ∈ (auditIntegrity state.store).problems ↔
      ReportsHoles sources state.store problem := by
  simp only [auditIntegrity, auditReport, invariant.offGridRows_eq_nil grid, List.map_nil,
    List.append_nil, List.mem_filterMap]
  constructor
  · rintro ⟨row, member, reported⟩
    rcases (mem_combos state.store row).mp member with ⟨symbol, timeframe, secs, audited, rfl⟩
    have holes := (invariant.comboProblem_eq_some_iff grid audited problem).mp reported
    refine ⟨symbol, timeframe, secs, _, _, audited.known, ?_, ?_, holes⟩
    · rw [invariant.storedTimes_eq]
      exact isLeast_minTs audited.nonempty
    · rw [invariant.storedTimes_eq]
      exact isGreatest_maxTs audited.nonempty
  · rintro ⟨symbol, timeframe, secs, first, last, known, least, greatest, holes⟩
    rw [invariant.storedTimes_eq] at least greatest
    have audited : Audited state.store symbol timeframe secs :=
      ⟨known, List.ne_nil_of_mem least.1⟩
    refine ⟨_, (mem_combos state.store _).mpr ⟨symbol, timeframe, secs, audited, rfl⟩, ?_⟩
    rw [least.unique (isLeast_minTs audited.nonempty),
      greatest.unique (isGreatest_maxTs audited.nonempty)] at holes
    exact (invariant.comboProblem_eq_some_iff grid audited problem).mpr holes

end SeriesPoll

/-- After every run of timely calls for any series in any order, the audit finds no
bar too many and none off the grid, and what it reports are exactly the holes that
the sources themselves have between the oldest and the newest stored bar. -/
theorem audit_of_polled [PyFloat F] {sources : String -> String -> Set Int}
    (grid : forall symbol timeframe ts, ts ∈ sources symbol timeframe ->
      tsAligned ts timeframe = .ok true) (clock : Int) (polls : List (SeriesPoll F))
    (proper : Along SeriesPoll.step (SeriesPoll.Proper sources) ⟨Store.empty, clock⟩ polls) :
    let store := (run SeriesPoll.step ⟨Store.empty, clock⟩ polls).store
    (auditIntegrity store).offGridBars = 0 ∧ (auditIntegrity store).withExtras = 0 ∧
      forall problem, problem ∈ (auditIntegrity store).problems ↔
        ReportsHoles sources store problem := by
  intro store
  have invariant := SeriesPoll.run_allAccumulated grid proper
  refine ⟨?_, invariant.withExtras_eq_zero grid, invariant.mem_problems_iff grid⟩
  rw [auditIntegrity, auditReport, invariant.offGridRows_eq_nil grid]
  rfl

section Example

/-- The bars of two sources, of which the first one has none at 7200. -/
def listedSource (symbol timeframe : String) : List Int :=
  if symbol = "ADA" ∧ timeframe = "1h" then [0, 3600, 10800]
  else if symbol = "DOT" ∧ timeframe = "1h" then [0, 3600]
  else []

def listedSources (symbol timeframe : String) : Set Int := { ts | ts ∈ listedSource symbol timeframe }

theorem listedSources_aligned (symbol timeframe : String) (ts : Int)
    (member : ts ∈ listedSources symbol timeframe) : tsAligned ts timeframe = .ok true := by
  have onHours : forall hour : Int, hour ∈ [0, 3600, 10800] -> tsAligned hour "1h" = .ok true := by
    decide
  change ts ∈ listedSource symbol timeframe at member
  unfold listedSource at member
  by_cases ada : symbol = "ADA" ∧ timeframe = "1h"
  · rw [if_pos ada] at member
    rw [ada.2]
    exact onHours ts member
  · rw [if_neg ada] at member
    by_cases dot : symbol = "DOT" ∧ timeframe = "1h"
    · rw [if_pos dot] at member
      rw [dot.2]
      apply onHours ts
      simp only [List.mem_cons] at member ⊢
      tauto
    · rw [if_neg dot] at member
      cases member

def twoSeries : List (SeriesPoll Rat) :=
  [⟨"ADA", "1h", firstPoll⟩, ⟨"DOT", "1h", dotPoll⟩, ⟨"ADA", "1h", secondPoll⟩]

/-- The hour that the first source skips is the one problem of the store. -/
theorem audit_of_polled_two_series :
    let store := (run SeriesPoll.step ⟨Store.empty, 4000⟩ twoSeries).store
    (auditIntegrity store).problems = [⟨"ADA/1h", .gaps, 1⟩] ∧
      ReportsHoles listedSources store ⟨"ADA/1h", .gaps, 1⟩ := by
  intro store
  have answered : MostRecent (listedSources "ADA" "1h") 4000 10 [0, 3600] := by
    change MostRecent { ts : Int | ts ∈ [0, 3600, 10800] } 4000 10 [0, 3600]
    decide
  have other : MostRecent (listedSources "DOT" "1h") 8000 10 [0, 3600] := by
    change MostRecent { ts : Int | ts ∈ [0, 3600] } 8000 10 [0, 3600]
    decide
  have again : MostRecent (listedSources "ADA" "1h") 14000 4 [0, 3600, 10800] := by
    change MostRecent { ts : Int | ts ∈ [0, 3600, 10800] } 14000 4 [0, 3600, 10800]
    decide
  have refetched : MostRecent (listedSources "ADA" "1h") 14000 10 [0, 3600, 10800] := by
    change MostRecent { ts : Int | ts ∈ [0, 3600, 10800] } 14000 10 [0, 3600, 10800]
    decide
  have absent : getMeta (run SeriesPoll.step ⟨Store.empty, 4000⟩
      [⟨"ADA", "1h", firstPoll⟩]).store (defaultBucket "DOT" "1h") = none := by
    decide +kernel
  have cached : getMeta (run SeriesPoll.step ⟨Store.empty, 4000⟩
      [⟨"ADA", "1h", firstPoll⟩, ⟨"DOT", "1h", dotPoll⟩]).store (defaultBucket "ADA" "1h") =
        some { bucket := defaultBucket "ADA" "1h", lastBarTs := 0, barCount := 1,
               lastFetchedAt := 4000 } := by
    decide +kernel
  have hourly : tfSeconds "1h" = .ok 3600 := by decide
  have report := audit_of_polled listedSources_aligned 4000 twoSeries
    ⟨⟨3600, hourly, .cold rfl (by decide) (by decide) (answers_answerOnly answered)⟩,
      ⟨3600, hourly, .cold absent (by decide) (by decide) (answers_answerOnly other)⟩,
      ⟨3600, hourly, .warm cached (by decide) (by decide) (by decide) (by decide) (by decide)
        (by decide) (answers_answerOnly again) (answers_answerOnly refetched)⟩, trivial⟩
  have problems : (auditIntegrity store).problems = [⟨"ADA/1h", .gaps, 1⟩] := by decide +kernel
  refine ⟨problems, (report.2.2 _).mp ?_⟩
  rw [problems]
  exact List.mem_cons_self

end Example

end HybridDataSvc
