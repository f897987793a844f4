import HybridDataSvc.Cache.BarCache
import HybridDataSvc.Relational.Grouping
import HybridDataSvc.Series.Grid
import Mathlib.Algebra.Ring.Int.Defs

namespace HybridDataSvc

open Relational Series

/-!
# The integrity audit

`audit_integrity` reads the stored bars with two queries.  Both take the bars
of a symbol and a timeframe together, whatever their provider: the first one
compares their number with the number their first and last timestamp make
expect, the second one counts those off the grid of the first.
-/

/-- `_TF_SECS_VALUES`. -/
def tfSecsValues : List (String × Int) :=
  [("1", 60), ("3", 180), ("5", 300), ("15", 900), ("30", 1800),
   ("60", 3600), ("1h", 3600), ("2h", 7200), ("4h", 14400),
   ("D", 86400), ("1D", 86400), ("W", 604800), ("1W", 604800)]

/-- The seconds the audit takes for a timeframe. -/
def tfSecs (timeframe : String) : Option Int := tfSecsValues.lookup timeframe

inductive ProblemKind
  | gaps
  | extras
  | offGrid
  deriving DecidableEq, Repr

/-- An entry of `problems`. -/
structure Problem where
  combo : String
  kind : ProblemKind
  count : Int
  deriving DecidableEq, Repr

/-- `AuditReport`. -/
structure AuditReport where
  totalCombos : Nat
  gapFree : Nat
  withGaps : Nat
  withExtras : Nat
  offGridBars : Int
  totalBars : Int
  problems : List Problem
  deriving DecidableEq, Repr

/-- A row of the first query. -/
structure ComboRow where
  symbol : String
  timeframe : String
  secs : Int
  minTs : Int
  maxTs : Int
  actual : Int
  expected : Int
  deriving DecidableEq, Repr

/-- A row of `mins`. -/
structure MinRow where
  symbol : String
  timeframe : String
  secs : Int
  minTs : Int
  deriving DecidableEq, Repr

/-- A row of the second query. -/
structure OffGridRow where
  symbol : String
  timeframe : String
  offGridCount : Int
  deriving DecidableEq, Repr

section Queries

variable {F : Type}

/-- `bars b JOIN tf_secs t ON t.tf=b.timeframe`. -/
def joinTfSecs (rows : List (BarRow F)) : List (BarRow F × Int) :=
  rows.flatMap (fun row =>
    (tfSecsValues.filter (fun entry => decide (entry.1 = row.bucket.timeframe))).map (fun entry =>
      (row, entry.2)))

/-- The columns of `GROUP BY 1,2,3`. -/
def comboColumns (joined : BarRow F × Int) : String × String × Int :=
  (joined.1.bucket.symbol, joined.1.bucket.timeframe, joined.2)

def joinedTimes (rows : List (BarRow F × Int)) : List Int :=
  rows.map (fun joined => joined.1.ts)

/-- `MIN(b.ts)`. -/
def minTs (times : List Int) : Int := (times.min?).getD 0

/-- `MAX(b.ts)`. -/
def maxTs (times : List Int) : Int := (times.max?).getD 0

/-- The groups of both queries; a database gives them in any order. -/
def comboGroups (store : Store F) : List ((String × String × Int) × List (BarRow F × Int)) :=
  groupBy comboColumns (joinTfSecs store.bars.rows)

def comboRow (group : (String × String × Int) × List (BarRow F × Int)) : ComboRow :=
  let times := joinedTimes group.2
  { symbol := group.1.1
    timeframe := group.1.2.1
    secs := group.1.2.2
    minTs := minTs times
    maxTs := maxTs times
    actual := times.length
    expected := (maxTs times - minTs times).tdiv group.1.2.2 + 1 }

/-- `sql_combos`. -/
def combos (store : Store F) : List ComboRow := (comboGroups store).map comboRow

def minRow (group : (String × String × Int) × List (BarRow F × Int)) : MinRow :=
  { symbol := group.1.1
    timeframe := group.1.2.1
    secs := group.1.2.2
    minTs := minTs (joinedTimes group.2) }

/-- `mins`. -/
def mins (store : Store F) : List MinRow := (comboGroups store).map minRow

/-- `bars b JOIN mins m USING (symbol, timeframe)`. -/
def joinMins (store : Store F) : List (BarRow F × MinRow) :=
  store.bars.rows.flatMap (fun row =>
    ((mins store).filter (fun least =>
      decide (least.symbol = row.bucket.symbol) &&
        decide (least.timeframe = row.bucket.timeframe))).map (fun least => (row, least)))

/-- `((b.ts - m.min_ts) % m.secs) <> 0`. -/
def offGrid (joined : BarRow F × MinRow) : Bool :=
  decide ((joined.1.ts - joined.2.minTs).tmod joined.2.secs ≠ 0)

/-- The columns of `GROUP BY 1,2`. -/
def offGridColumns (joined : BarRow F × MinRow) : String × String :=
  (joined.1.bucket.symbol, joined.1.bucket.timeframe)

/-- `sql_off_grid`. -/
def offGridRows (store : Store F) : List OffGridRow :=
  (groupBy offGridColumns ((joinMins store).filter offGrid)).map (fun group =>
    { symbol := group.1.1, timeframe := group.1.2, offGridCount := group.2.length })

end Queries

/-- The `combo` of a problem. -/
def comboName (symbol timeframe : String) : String := symbol ++ "/" ++ timeframe

/-- What the first loop appends for a row of the first query. -/
def comboProblem (row : ComboRow) : Option Problem :=
  if row.actual < row.expected then
    some ⟨comboName row.symbol row.timeframe, .gaps, row.expected - row.actual⟩
  else if row.expected < row.actual then
    some ⟨comboName row.symbol row.timeframe, .extras, row.actual - row.expected⟩
  else none

/-- What the second loop appends for a row of the second query. -/
def offGridProblem (row : OffGridRow) : Problem :=
  ⟨comboName row.symbol row.timeframe, .offGrid, row.offGridCount⟩

/-- The report on the rows of the two queries. -/
def auditReport (combos : List ComboRow) (offGridRows : List OffGridRow) : AuditReport :=
  { totalCombos := combos.length
    gapFree := combos.countP (fun row => decide (row.expected = row.actual))
    withGaps := combos.countP (fun row => decide (row.actual < row.expected))
    withExtras := combos.countP (fun row => decide (row.expected < row.actual))
    offGridBars := (offGridRows.map OffGridRow.offGridCount).sum
    totalBars := (combos.map ComboRow.actual).sum
    problems := combos.filterMap comboProblem ++ offGridRows.map offGridProblem }

/-- `audit_integrity`. -/
def auditIntegrity {F : Type} (store : Store F) : AuditReport :=
  auditReport (combos store) (offGridRows store)

theorem comboProblem_eq_none_iff (row : ComboRow) :
    comboProblem row = none ↔ row.expected = row.actual := by
  unfold comboProblem
  split
  · simp; omega
  · split
    · simp; omega
    · simp; omega

theorem auditReport_problems_eq_nil_iff (combos : List ComboRow) (offGridRows : List OffGridRow) :
    (auditReport combos offGridRows).problems = [] ↔
      (forall row, row ∈ combos -> row.expected = row.actual) ∧ offGridRows = [] := by
  simp only [auditReport, List.append_eq_nil_iff, List.filterMap_eq_nil_iff, List.map_eq_nil_iff,
    comboProblem_eq_none_iff]

end HybridDataSvc
