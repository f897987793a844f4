import HybridDataSvc.Audit.Integrity

namespace HybridDataSvc

open Relational Series

/-!
# What the audit covers

The audit has nothing to report exactly when every symbol and timeframe
balances, the bars of all its providers taken together.  For bars of one
provider that is the absence of a missing bar, because no timestamp comes
twice; bars of several providers can make up for what each of them misses, and
can be too many where none of them misses any.
-/

variable {F : Type}

/-- The stored bars of a symbol and a timeframe, of every provider. -/
def seriesRows (store : Store F) (symbol timeframe : String) : List (BarRow F) :=
  store.bars.select (fun row =>
    decide (row.bucket.symbol = symbol) && decide (row.bucket.timeframe = timeframe))

def seriesTimes (store : Store F) (symbol timeframe : String) : List Int :=
  (seriesRows store symbol timeframe).map BarRow.ts

theorem mem_seriesRows (store : Store F) (symbol timeframe : String) (row : BarRow F) :
    row ∈ seriesRows store symbol timeframe ↔
      row ∈ store.bars.rows ∧ row.bucket.symbol = symbol ∧ row.bucket.timeframe = timeframe := by
  rw [seriesRows, Table.mem_select, Bool.and_eq_true, decide_eq_true_iff, decide_eq_true_iff]

theorem mem_seriesTimes (store : Store F) (symbol timeframe : String) (ts : Int) :
    ts ∈ seriesTimes store symbol timeframe ↔
      exists row, row ∈ seriesRows store symbol timeframe ∧ row.ts = ts :=
  List.mem_map

theorem tfSecs_pos {timeframe : String} {secs : Int} (known : tfSecs timeframe = some secs) :
    0 < secs := by
  have entries : forall entry, entry ∈ tfSecsValues -> 0 < entry.2 := by decide
  rcases List.lookup_eq_some_iff.mp known with ⟨before, after, split, _⟩
  exact entries (timeframe, secs) (split ▸ List.mem_append_right before List.mem_cons_self)

/-! ## The rows of the two queries -/

theorem joinTfSecs_cons (row : BarRow F) (rest : List (BarRow F)) :
    joinTfSecs (row :: rest) =
      ((tfSecs row.bucket.timeframe).map (fun secs => (row, secs))).toList ++ joinTfSecs rest := by
  have unique : (tfSecsValues.map Prod.fst).Nodup := by decide
  rw [joinTfSecs, List.flatMap_cons, filter_key_eq_lookup unique]
  apply congrArg (fun first => first ++ joinTfSecs rest)
  cases found : tfSecs row.bucket.timeframe with
  | none => rw [tfSecs] at found; rw [found]; rfl
  | some secs => rw [tfSecs] at found; rw [found]; rfl

theorem mem_joinTfSecs (rows : List (BarRow F)) (joined : BarRow F × Int) :
    joined ∈ joinTfSecs rows ↔
      joined.1 ∈ rows ∧ tfSecs joined.1.bucket.timeframe = some joined.2 := by
  induction rows with
  | nil => simp [joinTfSecs]
  | cons row rest ih =>
      rw [joinTfSecs_cons, List.mem_append, ih, Option.mem_toList,
        Option.map_eq_some_iff, List.mem_cons]
      constructor
      · rintro (⟨secs, known, rfl⟩ | ⟨member, known⟩)
        · exact ⟨Or.inl rfl, known⟩
        · exact ⟨Or.inr member, known⟩
      · rintro ⟨here | later, known⟩
        · left
          exact ⟨joined.2, here ▸ known, Prod.ext here.symm rfl⟩
        · exact Or.inr ⟨later, known⟩

/-- The group of a symbol and a timeframe holds the bars of every provider. -/
theorem times_of_group (symbol : String) {timeframe : String} {secs : Int}
    (known : tfSecs timeframe = some secs) (rows : List (BarRow F)) :
    joinedTimes ((joinTfSecs rows).filter (fun joined =>
        decide (comboColumns joined = (symbol, timeframe, secs)))) =
      (rows.filter (fun row =>
        decide (row.bucket.symbol = symbol) && decide (row.bucket.timeframe = timeframe))).map
          BarRow.ts := by
  induction rows with
  | nil => rfl
  | cons row rest ih =>
      rw [joinTfSecs_cons, List.filter_append, joinedTimes, List.map_append, ← joinedTimes,
        ← joinedTimes, ih, List.filter_cons]
      by_cases here : row.bucket.symbol = symbol ∧ row.bucket.timeframe = timeframe
      · rw [if_pos (by simpa using here), here.2, known, List.map_cons]
        simp [joinedTimes, comboColumns, here.1, here.2]
      · rw [if_neg (by simpa using here)]
        have none_ : ((tfSecs row.bucket.timeframe).map (fun secs => (row, secs))).toList.filter
            (fun joined => decide (comboColumns joined = (symbol, timeframe, secs))) = [] := by
          rw [List.filter_eq_nil_iff]
          intro joined member same
          rw [Option.mem_toList, Option.map_eq_some_iff] at member
          rcases member with ⟨other, _, rfl⟩
          have columns := of_decide_eq_true same
          simp only [comboColumns, Prod.mk.injEq] at columns
          exact here ⟨columns.1, columns.2.1⟩
        rw [none_]
        rfl

theorem mem_comboGroups (store : Store F)
    (group : (String × String × Int) × List (BarRow F × Int)) :
    group ∈ comboGroups store ↔
      tfSecs group.1.2.1 = some group.1.2.2 ∧
        seriesTimes store group.1.1 group.1.2.1 ≠ [] ∧
        group.2 = (joinTfSecs store.bars.rows).filter (fun joined =>
          decide (comboColumns joined = group.1)) := by
  rw [comboGroups, mem_groupBy, ← and_assoc]
  apply and_congr_left
  intro _
  rw [List.mem_map]
  constructor
  · rintro ⟨joined, member, named⟩
    rw [mem_joinTfSecs] at member
    rw [← named]
    refine ⟨member.2, ?_⟩
    apply List.ne_nil_of_mem
    exact (mem_seriesTimes _ _ _ _).mpr
      ⟨joined.1, (mem_seriesRows _ _ _ _).mpr ⟨member.1, rfl, rfl⟩, rfl⟩
  · rintro ⟨known, nonempty⟩
    rcases List.exists_mem_of_ne_nil _ nonempty with ⟨ts, member⟩
    rcases (mem_seriesTimes _ _ _ _).mp member with ⟨row, rowMem, _⟩
    have parts := (mem_seriesRows _ _ _ _).mp rowMem
    refine ⟨(row, group.1.2.2), (mem_joinTfSecs _ _).mpr ⟨parts.1, ?_⟩, ?_⟩
    · rw [parts.2.2]
      exact known
    · rw [comboColumns, parts.2.1, parts.2.2]

theorem isLeast_minTs {times : List Int} (nonempty : times ≠ []) :
    IsLeast { ts | ts ∈ times } (minTs times) := by
  cases found : times.min? with
  | none => exact absurd (List.min?_eq_none_iff.mp found) nonempty
  | some first =>
      rw [minTs, found]
      exact List.min?_eq_some_iff.mp found

theorem isGreatest_maxTs {times : List Int} (nonempty : times ≠ []) :
    IsGreatest { ts | ts ∈ times } (maxTs times) := by
  cases found : times.max? with
  | none => exact absurd (List.max?_eq_none_iff.mp found) nonempty
  | some last =>
      rw [maxTs, found]
      exact List.max?_eq_some_iff.mp found

/-- A series the audit groups. -/
structure Audited (store : Store F) (symbol timeframe : String) (secs : Int) : Prop where
  known : tfSecs timeframe = some secs
  nonempty : seriesTimes store symbol timeframe ≠ []

/-- The row of the first query for a series. -/
def seriesCombo (store : Store F) (symbol timeframe : String) (secs : Int) : ComboRow :=
  let times := seriesTimes store symbol timeframe
  { symbol := symbol
    timeframe := timeframe
    secs := secs
    minTs := minTs times
    maxTs := maxTs times
    actual := times.length
    expected := (maxTs times - minTs times).tdiv secs + 1 }

theorem mem_combos (store : Store F) (row : ComboRow) :
    row ∈ combos store ↔
      exists symbol timeframe secs, Audited store symbol timeframe secs ∧
        row = seriesCombo store symbol timeframe secs := by
  rw [combos, List.mem_map]
  constructor
  · rintro ⟨⟨⟨symbol, timeframe, secs⟩, rows⟩, member, rfl⟩
    rcases (mem_comboGroups store _).mp member with ⟨known, nonempty, grouped⟩
    refine ⟨symbol, timeframe, secs, ⟨known, nonempty⟩, ?_⟩
    have times : joinedTimes rows = seriesTimes store symbol timeframe := by
      rw [show rows = _ from grouped]
      exact times_of_group symbol known _
    simp only [comboRow, seriesCombo, times]
  · rintro ⟨symbol, timeframe, secs, audited, rfl⟩
    refine ⟨((symbol, timeframe, secs), (joinTfSecs store.bars.rows).filter (fun joined =>
      decide (comboColumns joined = (symbol, timeframe, secs)))),
      (mem_comboGroups store _).mpr ⟨audited.known, audited.nonempty, rfl⟩, ?_⟩
    have times := times_of_group symbol audited.known store.bars.rows
    simp only [comboRow, times]
    rfl

theorem mem_mins (store : Store F) (row : MinRow) :
    row ∈ mins store ↔
      exists symbol timeframe secs, Audited store symbol timeframe secs ∧
        row = ⟨symbol, timeframe, secs, minTs (seriesTimes store symbol timeframe)⟩ := by
  have same : mins store = (combos store).map (fun combo =>
      ⟨combo.symbol, combo.timeframe, combo.secs, combo.minTs⟩) := by
    rw [mins, combos, List.map_map]
    rfl
  rw [same, List.mem_map]
  constructor
  · rintro ⟨combo, member, rfl⟩
    rcases (mem_combos store combo).mp member with ⟨symbol, timeframe, secs, audited, rfl⟩
    exact ⟨symbol, timeframe, secs, audited, rfl⟩
  · rintro ⟨symbol, timeframe, secs, audited, rfl⟩
    exact ⟨_, (mem_combos store _).mpr ⟨symbol, timeframe, secs, audited, rfl⟩, rfl⟩

/-! ## A report without problems -/

/-- The first query finds as many bars as it expects. -/
theorem combos_expected_iff (store : Store F) :
    (forall row, row ∈ combos store -> row.expected = row.actual) ↔
      forall symbol timeframe secs, Audited store symbol timeframe secs ->
        ((seriesTimes store symbol timeframe).length : Int) =
          (maxTs (seriesTimes store symbol timeframe) -
            minTs (seriesTimes store symbol timeframe)) / secs + 1 := by
  have truncated : forall symbol timeframe secs, Audited store symbol timeframe secs ->
      (seriesCombo store symbol timeframe secs).expected =
        (maxTs (seriesTimes store symbol timeframe) -
          minTs (seriesTimes store symbol timeframe)) / secs + 1 := by
    intro symbol timeframe secs audited
    have ordered := (isGreatest_maxTs audited.nonempty).2 (isLeast_minTs audited.nonempty).1
    simp only [seriesCombo]
    rw [Int.tdiv_eq_ediv_of_nonneg (by omega)]
  constructor
  · intro all symbol timeframe secs audited
    have counted := all _ ((mem_combos store _).mpr ⟨symbol, timeframe, secs, audited, rfl⟩)
    rw [← truncated symbol timeframe secs audited, counted]
    rfl
  · intro all row member
    rcases (mem_combos store row).mp member with ⟨symbol, timeframe, secs, audited, rfl⟩
    rw [truncated symbol timeframe secs audited, ← all symbol timeframe secs audited]
    rfl

/-- The second query finds no bar. -/
theorem offGridRows_eq_nil_iff (store : Store F) :
    offGridRows store = [] ↔
      forall symbol timeframe secs, Audited store symbol timeframe secs ->
        forall ts, ts ∈ seriesTimes store symbol timeframe ->
          secs ∣ ts - minTs (seriesTimes store symbol timeframe) := by
  rw [offGridRows, List.map_eq_nil_iff, groupBy_eq_nil_iff, List.filter_eq_nil_iff]
  constructor
  · intro none_ symbol timeframe secs audited ts member
    rcases (mem_seriesTimes _ _ _ _).mp member with ⟨row, rowMem, rfl⟩
    have parts := (mem_seriesRows _ _ _ _).mp rowMem
    have joined : (row, ⟨symbol, timeframe, secs, minTs (seriesTimes store symbol timeframe)⟩) ∈
        joinMins store := by
      rw [joinMins, List.mem_flatMap]
      refine ⟨row, parts.1, List.mem_map.mpr ⟨_, List.mem_filter.mpr ⟨?_, ?_⟩, rfl⟩⟩
      · exact (mem_mins store _).mpr ⟨symbol, timeframe, secs, audited, rfl⟩
      · simp [parts.2.1, parts.2.2]
    have onGrid := none_ _ joined
    apply Int.dvd_of_tmod_eq_zero
    simpa [offGrid] using onGrid
  · intro all joined member off
    rw [joinMins, List.mem_flatMap] at member
    rcases member with ⟨row, rowMem, made⟩
    rcases List.mem_map.mp made with ⟨least, found, rfl⟩
    rcases List.mem_filter.mp found with ⟨leastMem, matches_⟩
    rcases (mem_mins store least).mp leastMem with ⟨symbol, timeframe, secs, audited, rfl⟩
    have names : symbol = row.bucket.symbol ∧ timeframe = row.bucket.timeframe := by
      simpa using matches_
    have onGrid := all symbol timeframe secs audited row.ts
      ((mem_seriesTimes _ _ _ _).mpr
        ⟨row, (mem_seriesRows _ _ _ _).mpr ⟨rowMem, names.1.symm, names.2.symm⟩, rfl⟩)
    have aligned := Int.tmod_eq_zero_of_dvd onGrid
    simp [offGrid, aligned] at off

theorem balanced_audited {store : Store F} {symbol timeframe : String} {secs : Int}
    (audited : Audited store symbol timeframe secs) :
    Balanced secs (seriesTimes store symbol timeframe) ↔
      (forall ts, ts ∈ seriesTimes store symbol timeframe ->
        secs ∣ ts - minTs (seriesTimes store symbol timeframe)) ∧
      ((seriesTimes store symbol timeframe).length : Int) =
        (maxTs (seriesTimes store symbol timeframe) -
          minTs (seriesTimes store symbol timeframe)) / secs + 1 :=
  balanced_iff_length (tfSecs_pos audited.known) (isLeast_minTs audited.nonempty)
    (isGreatest_maxTs audited.nonempty)

/-- There is nothing to report exactly when every symbol and timeframe balances. -/
theorem problems_eq_nil_iff (store : Store F) :
    (auditIntegrity store).problems = [] ↔
      forall symbol timeframe secs, tfSecs timeframe = some secs ->
        Balanced secs (seriesTimes store symbol timeframe) := by
  rw [auditIntegrity, auditReport_problems_eq_nil_iff, combos_expected_iff, offGridRows_eq_nil_iff]
  constructor
  · rintro ⟨expected, onGrid⟩ symbol timeframe secs known
    by_cases empty : seriesTimes store symbol timeframe = []
    · intro first last least _
      rw [empty] at least
      cases least.1
    · have audited : Audited store symbol timeframe secs := ⟨known, empty⟩
      exact (balanced_audited audited).mpr
        ⟨onGrid symbol timeframe secs audited, expected symbol timeframe secs audited⟩
  · intro balanced
    constructor
    · intro symbol timeframe secs audited
      exact ((balanced_audited audited).mp
        (balanced symbol timeframe secs audited.known)).2
    · intro symbol timeframe secs audited
      exact ((balanced_audited audited).mp
        (balanced symbol timeframe secs audited.known)).1

end HybridDataSvc
