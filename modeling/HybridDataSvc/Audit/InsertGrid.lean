import HybridDataSvc.Audit.Coverage
import Mathlib.Algebra.Ring.Nat

namespace HybridDataSvc

open Relational Series

/-!
# The grid of the audit and the grid of the insert guard

The insert guard measures a timestamp from a fixed anchor, the audit from the
oldest bar of the symbol and the timeframe.  The two grids are one where that
bar is on the grid of the guard.  Where it is not, the audit counts the bars
that are off the grid of a bar that is off itself.
-/

variable {F : Type}

/-- `_ts_aligned` is false for the bar. -/
def offInsertGrid (row : BarRow F) : Bool :=
  decide (tsAligned row.ts row.bucket.timeframe = .ok false)

/-- The oldest bar of the series of a bar, of any provider. -/
def oldestTs (store : Store F) (row : BarRow F) : Int :=
  minTs (seriesTimes store row.bucket.symbol row.bucket.timeframe)

/-- The bar is off the grid of the oldest bar of its series. -/
def offOldestGrid (store : Store F) (row : BarRow F) : Bool :=
  ((tfSecs row.bucket.timeframe).map (fun secs =>
    decide ((row.ts - oldestTs store row).tmod secs ≠ 0))).getD false

/-- The oldest bar of its series is off the grid of the guard. -/
def misanchored (store : Store F) (row : BarRow F) : Bool :=
  decide (tsAligned (oldestTs store row) row.bucket.timeframe = .ok false)

/-- In the series whose oldest bar is off the grid of the guard, as many bars
are on the grid of the oldest bar as on that of the guard. -/
def AnchorsBalance (store : Store F) : Prop :=
  store.bars.rows.countP (fun row => misanchored store row && !offOldestGrid store row) =
    store.bars.rows.countP (fun row => misanchored store row && !offInsertGrid row)

/-! ## What the audit counts -/

theorem nodup_mins (store : Store F) :
    ((mins store).map (fun least => (least.symbol, least.timeframe))).Nodup := by
  have named : (mins store).map (fun least => (least.symbol, least.timeframe)) =
      (comboGroups store).map (fun group => (group.1.1, group.1.2.1)) := by
    rw [mins, List.map_map]
    rfl
  rw [named]
  refine List.pairwise_map.mpr (List.Pairwise.imp_of_mem ?_
    (List.pairwise_map.mp (nodup_groupBy comboColumns (joinTfSecs store.bars.rows))))
  intro first second firstMem secondMem different same
  have firstKnown := ((mem_comboGroups store first).mp firstMem).1
  have secondKnown := ((mem_comboGroups store second).mp secondMem).1
  have names := Prod.mk.inj same
  rw [← names.2] at secondKnown
  apply different
  exact Prod.ext names.1 (Prod.ext names.2 (Option.some_inj.mp (firstKnown.symm.trans secondKnown)))

/-- A bar of a known timeframe is joined with the oldest one of its series. -/
theorem joinMins_row (store : Store F) {row : BarRow F} (member : row ∈ store.bars.rows) :
    ((mins store).filter (fun least =>
        decide (least.symbol = row.bucket.symbol) &&
          decide (least.timeframe = row.bucket.timeframe))).map (fun least => (row, least)) =
      ((tfSecs row.bucket.timeframe).map (fun secs =>
        (row, MinRow.mk row.bucket.symbol row.bucket.timeframe secs (oldestTs store row)))).toList := by
  have pairs : (fun least : MinRow => decide (least.symbol = row.bucket.symbol) &&
      decide (least.timeframe = row.bucket.timeframe)) =
      fun least => decide ((least.symbol, least.timeframe) =
        (row.bucket.symbol, row.bucket.timeframe)) := by
    funext least
    rw [← Bool.decide_and, decide_eq_decide, Prod.mk.injEq]
  rw [pairs]
  cases known : tfSecs row.bucket.timeframe with
  | none =>
      rw [List.filter_eq_nil_iff.mpr]
      · rfl
      · intro least leastMem same
        rcases (mem_mins store least).mp leastMem with ⟨symbol, timeframe, secs, audited, rfl⟩
        have names := Prod.mk.inj (of_decide_eq_true same)
        have timeframeEq : timeframe = row.bucket.timeframe := names.2
        have found := audited.known
        rw [timeframeEq, known] at found
        cases found
  | some secs =>
      have listed : row.ts ∈ seriesTimes store row.bucket.symbol row.bucket.timeframe :=
        (mem_seriesTimes _ _ _ _).mpr
          ⟨row, (mem_seriesRows _ _ _ _).mpr ⟨member, rfl, rfl⟩, rfl⟩
      have audited : Audited store row.bucket.symbol row.bucket.timeframe secs :=
        ⟨known, List.ne_nil_of_mem listed⟩
      have least := (mem_mins store _).mpr ⟨_, _, _, audited, rfl⟩
      rw [filter_name_of_mem (nodup_mins store) least]
      rfl

theorem sum_map_cast (counts : List Nat) :
    (counts.map (fun count : Nat => (count : Int))).sum = (counts.sum : Int) := by
  induction counts with
  | nil => rfl
  | cons count rest ih =>
      rw [List.map_cons, List.sum_cons, List.sum_cons, ih]
      push_cast
      rfl

/-- The audit counts the bars off the grid of the oldest one. -/
theorem offGridBars_eq (store : Store F) :
    (auditIntegrity store).offGridBars =
      (store.bars.rows.countP (offOldestGrid store) : Int) := by
  have joined : joinMins store = store.bars.rows.filterMap (fun row =>
      (tfSecs row.bucket.timeframe).map (fun secs =>
        (row, MinRow.mk row.bucket.symbol row.bucket.timeframe secs (oldestTs store row)))) := by
    rw [joinMins, List.filterMap_eq_flatMap_toList]
    apply List.flatMap_congr
    intro row member
    exact joinMins_row store member
  have lengths := sum_length_groupBy offGridColumns ((joinMins store).filter offGrid)
  have counts : (offGridRows store).map OffGridRow.offGridCount =
      ((groupBy offGridColumns ((joinMins store).filter offGrid)).map (fun group =>
        group.2.length)).map (fun count : Nat => (count : Int)) := by
    rw [offGridRows, List.map_map, List.map_map]
    rfl
  change ((offGridRows store).map OffGridRow.offGridCount).sum = _
  rw [counts, sum_map_cast, lengths, ← List.countP_eq_length_filter, joined,
    List.countP_filterMap]
  refine congrArg (fun count : Nat => (count : Int)) (List.countP_congr ?_)
  intro row _
  rw [offOldestGrid, Option.map_map]
  exact Iff.rfl

/-! ## Where the grids agree -/

theorem tfSeconds_of_tfSecs {timeframe : String} {secs : Int} (known : tfSecs timeframe = some secs) :
    tfSeconds timeframe = .ok secs := by
  have found : tfSecondsTable.lookup timeframe = some secs := known
  rw [tfSeconds, found]

theorem tsAligned_of_unknown {timeframe : String} (unknown : tfSecs timeframe = none) (ts : Int) :
    tsAligned ts timeframe ≠ .ok false := by
  have absent : tfSecondsTable.lookup timeframe = none := unknown
  rw [tsAligned, tfSeconds, absent]
  intro impossible
  cases impossible

theorem tsAligned_false_iff {timeframe : String} {secs : Int}
    (known : tfSecs timeframe = some secs) (ts : Int) :
    tsAligned ts timeframe = .ok false ↔ ¬ secs ∣ ts - gridOffset timeframe := by
  rw [Int.dvd_iff_emod_eq_zero, tsAligned, tfSeconds_of_tfSecs known]
  constructor
  · intro off onGrid
    have differs := Except.ok.inj off
    rw [onGrid] at differs
    cases differs
  · intro off
    exact congrArg Except.ok (beq_false_of_ne off)

/-- The two grids agree about the bars of a series whose oldest bar is on the
grid of the guard. -/
theorem offOldestGrid_eq {store : Store F} {row : BarRow F}
    (anchored : misanchored store row = false) : offOldestGrid store row = offInsertGrid row := by
  have aligned := of_decide_eq_false anchored
  rw [offOldestGrid, offInsertGrid]
  cases known : tfSecs row.bucket.timeframe with
  | none =>
      rw [decide_eq_false (tsAligned_of_unknown known row.ts)]
      rfl
  | some secs =>
      rw [tsAligned_false_iff known, not_not] at aligned
      rw [Option.map_some, Option.getD_some, decide_eq_decide, tsAligned_false_iff known, Ne,
        ← Int.dvd_iff_tmod_eq_zero, not_iff_not]
      have shifted : row.ts - gridOffset row.bucket.timeframe =
          (row.ts - oldestTs store row) + (oldestTs store row - gridOffset row.bucket.timeframe) := by
        omega
      rw [shifted]
      exact (Int.dvd_add_left aligned).symm

/-! ## Counting -/

section Counting

variable {Row : Type} (rows : List Row) (condition first second : Row -> Bool)

theorem countP_add_countP :
    rows.countP first + rows.countP (fun row => condition row && !first row) =
      rows.countP condition + rows.countP (fun row => !condition row && first row) := by
  induction rows with
  | nil => rfl
  | cons row rest ih =>
      simp only [List.countP_cons]
      cases condition row <;> cases first row <;> simp <;> omega

/-- Counts of conditions that differ in some rows only are the same if their
complements there are. -/
theorem countP_eq_iff
    (agree : forall row, row ∈ rows -> condition row = false -> first row = second row) :
    rows.countP first = rows.countP second ↔
      rows.countP (fun row => condition row && !first row) =
        rows.countP (fun row => condition row && !second row) := by
  have elsewhere : rows.countP (fun row => !condition row && first row) =
      rows.countP (fun row => !condition row && second row) := by
    apply List.countP_congr
    intro row member
    cases met : condition row with
    | true => simp
    | false => simp [agree row member met]
  have firstParts := countP_add_countP rows condition first
  have secondParts := countP_add_countP rows condition second
  omega

end Counting

/-- The audit counts as many bars off the grid as the guard refuses, if and
only if the series whose oldest bar is off the grid balance. -/
theorem audit_agrees_iff (store : Store F) :
    (auditIntegrity store).offGridBars = (store.bars.rows.countP offInsertGrid : Int) ↔
      AnchorsBalance store := by
  rw [offGridBars_eq, Int.natCast_inj]
  exact countP_eq_iff store.bars.rows (misanchored store) (offOldestGrid store) offInsertGrid
    (fun _ _ anchored => offOldestGrid_eq anchored)

/-- They balance where no series begins off the grid. -/
theorem anchorsBalance_of_anchored {store : Store F}
    (anchored : forall row, row ∈ store.bars.rows -> misanchored store row = false) :
    AnchorsBalance store := by
  refine (countP_eq_iff store.bars.rows (misanchored store) (offOldestGrid store) offInsertGrid
    (fun _ _ here => offOldestGrid_eq here)).mp (List.countP_congr ?_)
  intro row member
  rw [offOldestGrid_eq (anchored row member)]

/-- A series of hours that is shifted by half an hour. -/
def shiftedStore : Store Rat where
  bars :=
    { rows :=
        [(seedBar 1800 10).toRow 9000 ⟨"BTC", "1h", "tradingview"⟩,
         (seedBar 5400 10).toRow 9000 ⟨"BTC", "1h", "tradingview"⟩]
      unique := by decide }
  cacheMeta := Table.empty

/-- The guard refuses both of its bars, the audit counts none. -/
theorem audit_misses_shifted :
    (forall row, row ∈ shiftedStore.bars.rows -> tfSecs row.bucket.timeframe ≠ none) ∧
      (auditIntegrity shiftedStore).offGridBars = 0 ∧
      shiftedStore.bars.rows.countP offInsertGrid = 2 ∧
      ¬ (auditIntegrity shiftedStore).offGridBars =
        (shiftedStore.bars.rows.countP offInsertGrid : Int) := by
  decide +kernel

end HybridDataSvc
