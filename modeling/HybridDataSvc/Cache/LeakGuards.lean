import HybridDataSvc.Cache.GapFree

namespace HybridDataSvc

open Relational Accumulation

/-!
# What the drift guard and the overlap check cover

Two of the leak guards look at one bar and speak for a batch.  The drift
guard looks at the last closed row of the frame; the rows before it are
covered only by chance, and `UncheckedWithin` is what chance has to provide.
The overlap check looks at the bar the fetch returns at `last_bar_ts`, and
lets the batch pass when there is none.
-/

variable {F : Type}

/-- The timestamp is newer than everything stored in the bucket. -/
def IsNewer (store : Store F) (bucket : Bucket) (ts : Int) : Prop :=
  forall stored, stored ∈ store.storedTimes bucket -> stored < ts

/-- A row that is newer than the stored ones was brought by the batch. -/
theorem newer_row_of_commitRows {now : Int} {bucket : Bucket} {closed : List (Bar F)}
    {store : Store F} {row : BarRow F}
    (member : row ∈ (commitRows now bucket closed store).bars.rows) (own : row.bucket = bucket)
    (newer : IsNewer store bucket row.ts) :
    exists bar, lastAt closed bar.time = some bar ∧ row = bar.toRow now bucket := by
  have stored : (commitRows now bucket closed store).barAt bucket row.ts = some row :=
    (Store.barAt_eq_some_iff _ _ _ _).mpr ⟨member, own, rfl⟩
  rw [barAt_commitRows_self] at stored
  cases found : lastAt closed row.ts with
  | none =>
      rw [found, Option.map_none, Option.none_or] at stored
      have old := (Store.barAt_eq_some_iff _ _ _ _).mp stored
      exact absurd (newer row.ts ⟨row, old.1, own, rfl⟩) (Int.lt_irrefl _)
  | some bar =>
      rw [found, Option.map_some, Option.some_or] at stored
      have same := (mem_of_lastAt found).2
      exact ⟨bar, by rw [same]; exact found, (Option.some_inj.mp stored).symm⟩

/-- A fetch of `n` bars ends before it reaches back to `last_bar_ts`: it
returns `n` bars, all of them newer. -/
def FallsShort (fetch : Int -> Except PyError (DataFrame F)) (n lastBarTs : Int) : Prop :=
  exists rows, fetch n = .ok (.ohlcv rows) ∧ rows.length = n.toNat ∧
    forall bar, bar ∈ rows -> lastBarTs < bar.time

/-- An answer that has newer bars but not the one at `last_bar_ts` consists of
newer bars alone. -/
theorem fallsShort_of_absent {S : Set Int} {taken lastBarTs n : Int}
    {fetch : Int -> Except PyError (DataFrame F)} {rows : List (Bar F)}
    (fetched : fetch n = .ok (.ohlcv rows))
    (recent : MostRecent S taken n.toNat (rows.map Bar.time)) (inSource : lastBarTs ∈ S)
    (absent : lastBarTs ∉ rows.map Bar.time) {newer : Bar F} (member : newer ∈ rows)
    (later : lastBarTs < newer.time) : FallsShort fetch n lastBarTs := by
  have opened := (recent.elements newer.time (List.mem_map.mpr ⟨newer, member, rfl⟩)).2
  have before := Int.le_of_lt (Int.lt_of_lt_of_le later opened)
  have short := recent.missing lastBarTs inSource before absent
  refine ⟨rows, fetched, by simpa using short.1, ?_⟩
  intro bar barMem
  exact short.2 bar.time (List.mem_map.mpr ⟨bar, barMem, rfl⟩)

/-! ## The drift guard -/

/-- The row is the newest one stored in the bucket. -/
structure IsNewestRow (store : Store F) (bucket : Bucket) (row : BarRow F) : Prop where
  stored : row ∈ store.bars.rows
  own : row.bucket = bucket
  newest : forall other, other ∈ store.bars.rows -> other.bucket = bucket -> other.ts ≤ row.ts

/-- `_last_close` reads the close of the newest row. -/
theorem lastClose_of_newest {store : Store F} {bucket : Bucket} {row : BarRow F}
    (newest : IsNewestRow store bucket row) : lastClose store bucket = some row.close := by
  have listed : row ∈ store.bucketRows bucket :=
    (store.mem_bucketRows bucket row).mpr ⟨newest.stored, newest.own⟩
  unfold lastClose
  cases first : (orderByDesc BarRow.ts (store.bucketRows bucket)).head? with
  | none =>
      rw [(head?_orderByDesc_eq_none_iff _ _).mp first] at listed
      cases listed
  | some top =>
      have spec := head?_orderByDesc first
      have topParts := (store.mem_bucketRows bucket top).mp spec.1
      have sameTs := Int.le_antisymm (newest.newest top topParts.1 topParts.2) (spec.2 row listed)
      have same := store.bars.eq_of_key_eq topParts.1 newest.stored
        (Prod.ext (topParts.2.trans newest.own.symm) sameTs)
      rw [same, Option.map_some]

variable [PyFloat F]

/-- Every bar the call adds beyond the newest stored one is within the drift
bound of the close that was newest before the call. -/
def DriftCovered (env : InsertEnv) (df : DataFrame F) (bucket : Bucket) (store : Store F)
    (last : F) : Prop :=
  forall row, row ∈ (insertBars env df bucket store).store.bars.rows -> row.bucket = bucket ->
    IsNewer store bucket row.ts -> drift row.close last ≤ insertDriftReject

/-- If the guards let the frame through: the newer closed rows before the last
one, unless a later row rewrites them, are within the bound by themselves, and
the drift of the last one is a number. -/
def UncheckedWithin (env : InsertEnv) (df : DataFrame F) (bucket : Bucket) (store : Store F)
    (last : F) : Prop :=
  env.commits = true -> forall barSecs before fresh,
    AcceptedBatch env.now df bucket store barSecs (before ++ [fresh]) ->
      (forall bar, bar ∈ before -> IsNewer store bucket bar.time ->
        lastAt (before ++ [fresh]) bar.time = some bar ->
          drift bar.close last ≤ insertDriftReject) ∧
      (IsNewer store bucket fresh.time -> ¬ insertDriftReject < drift fresh.close last ->
        drift fresh.close last ≤ insertDriftReject)

/-- The drift guard has looked at the last row of a batch it let through. -/
theorem AcceptedBatch.last_within {now : Int} {df : DataFrame F} {bucket : Bucket}
    {store : Store F} {barSecs : Int} {before : List (Bar F)} {fresh : Bar F} {last : F}
    (accepted : AcceptedBatch now df bucket store barSecs (before ++ [fresh]))
    (cached : lastClose store bucket = some last) (positive : 0 < last) :
    ¬ insertDriftReject < drift fresh.close last := by
  intro exceeded
  have passed := accepted.driftPassed
  rw [cached] at passed
  simp [driftExceeded, positive, exceeded] at passed

/-- The drift guard covers the new bars of a frame exactly when the rows it
does not look at are within the bound by themselves. -/
theorem driftCovered_iff (env : InsertEnv) (df : DataFrame F) (bucket : Bucket) (store : Store F)
    (last : BarRow F) (newest : IsNewestRow store bucket last) (positive : 0 < last.close) :
    DriftCovered env df bucket store last.close ↔
      UncheckedWithin env df bucket store last.close := by
  constructor
  · intro covered commits barSecs before fresh accepted
    have result := insertBars_of_accepted accepted commits
    have brought : forall bar, lastAt (before ++ [fresh]) bar.time = some bar ->
        IsNewer store bucket bar.time -> drift bar.close last.close ≤ insertDriftReject := by
      intro bar survives newer
      have stored := barAt_commitRows_self env.now bucket (before ++ [fresh]) store bar.time
      rw [survives, Option.map_some, Option.some_or] at stored
      have member := ((Store.barAt_eq_some_iff _ _ _ _).mp stored).1
      exact covered (bar.toRow env.now bucket) (by rw [result]; exact member) rfl newer
    exact ⟨fun bar _ newer survives => brought bar survives newer,
      fun newer _ => brought fresh (lastAt_append_singleton before fresh) newer⟩
  · intro within row member own newer
    rcases insertBars_cases env df bucket store with
      unchanged | ⟨barSecs, closed, accepted, commits, result⟩
    · rw [unchanged.1] at member
      exact absurd (newer row.ts ⟨row, member, own, rfl⟩) (Int.lt_irrefl _)
    · rw [result] at member
      rcases newer_row_of_commitRows member own newer with ⟨bar, survives, rfl⟩
      -- the batch is taken apart into the row the guard looked at and those before it
      rcases List.eq_nil_or_concat closed with empty | ⟨before, fresh, split⟩
      · exact absurd empty accepted.nonempty
      · rw [List.concat_eq_append] at split
        subst split
        have parts := within commits barSecs before fresh accepted
        rcases List.mem_append.mp (mem_of_lastAt survives).1 with earlier | isLast
        · exact parts.1 bar earlier newer survives
        · have same := List.mem_singleton.mp isLast
          subst same
          exact parts.2 newer (accepted.last_within (lastClose_of_newest newest) positive)

/-- The row the following runs start from. -/
def seededRow : BarRow Rat := (seedBar 0 10).toRow 100000 (defaultBucket "ADA" "1h")

/-- The guarantee for one row that continues the stored close. -/
theorem driftCovered_iff_seeded :
    let store := seededStore [seedBar 0 10]
    IsNewestRow store (defaultBucket "ADA" "1h") seededRow ∧
      (DriftCovered ⟨110000, true⟩ (.ohlcv [seedBar 3600 11]) (defaultBucket "ADA" "1h") store 10 ↔
        UncheckedWithin ⟨110000, true⟩ (.ohlcv [seedBar 3600 11]) (defaultBucket "ADA" "1h") store
          10) := by
  intro store
  have newest : IsNewestRow store (defaultBucket "ADA" "1h") seededRow :=
    ⟨by decide +kernel, rfl, by decide +kernel⟩
  exact ⟨newest, driftCovered_iff _ _ _ store seededRow newest (by decide +kernel)⟩

/-- A row far off the stored close passes in front of one that continues it. -/
theorem drift_unchecked_row :
    let store := seededStore [seedBar 0 10]
    IsNewestRow store (defaultBucket "ADA" "1h") seededRow ∧
      ¬ DriftCovered ⟨110000, true⟩ (.ohlcv [seedBar 3600 1000, seedBar 7200 10])
        (defaultBucket "ADA" "1h") store 10 := by
  intro store
  refine ⟨⟨by decide +kernel, rfl, by decide +kernel⟩, ?_⟩
  intro covered
  have old : forall row, row ∈ store.bars.rows -> row.ts < 3600 := by decide +kernel
  have exceeds := covered ((seedBar 3600 1000).toRow 110000 (defaultBucket "ADA" "1h"))
    (by decide +kernel) rfl (by rintro ts ⟨row, member, _, rfl⟩; exact old row member)
  exact absurd exceeds (by decide +kernel)

/-! ## The overlap check -/

/-- The call stores a bar beyond the newest one recorded before it. -/
def StoresNewer (env : GetBarsEnv F) (symbol timeframe : String) (count : Int) (store : Store F)
    (lastBarTs : Int) : Prop :=
  exists row, row ∈ (getBars env symbol timeframe count store).written ∧ lastBarTs < row.ts

/-- The first fetch brought a bar at `last_bar_ts`, and its close was compared
with the cached one and found within the tolerance. -/
def OverlapCompared (env : GetBarsEnv F) (symbol timeframe : String) (count : Int)
    (store : Store F) (lastBarTs : Int) : Prop :=
  exists barSecs rows overlap cached,
    tfSeconds timeframe = .ok barSecs ∧
    env.fetch (fetchCount env.now lastBarTs barSecs count) = .ok (.ohlcv rows) ∧
    rows.find? (fun bar => decide (bar.time = lastBarTs)) = some overlap ∧
    store.barAt (defaultBucket symbol timeframe) lastBarTs = some cached ∧
    (cached.close == 0) = false ∧
    ¬ overlapTolerance <
      PyFloat.abs (overlap.close - cached.close) / PyFloat.abs cached.close

/-- The row at `last_bar_ts` holds what the second fetch brought for it. -/
def OverlapRewritten (env : GetBarsEnv F) (symbol timeframe : String) (count : Int)
    (store : Store F) (lastBarTs : Int) : Prop :=
  exists rows bar, env.refetch count = .ok (.ohlcv rows) ∧ bar ∈ rows ∧ bar.time = lastBarTs ∧
    (getBars env symbol timeframe count store).store.barAt (defaultBucket symbol timeframe)
      lastBarTs = some (bar.toRow env.insert.now (defaultBucket symbol timeframe))

/-- The check has nothing to compare: the cached row is missing or its close
is zero, the source has no bar there, or a fetch falls short of it. -/
inductive NothingToCompare (S : Set Int) (env : GetBarsEnv F) (symbol timeframe : String)
    (count : Int) (store : Store F) (lastBarTs : Int) : Prop
  | uncached (absent : store.barAt (defaultBucket symbol timeframe) lastBarTs = none)
  | zeroClose {cached : BarRow F}
      (stored : store.barAt (defaultBucket symbol timeframe) lastBarTs = some cached)
      (zero : (cached.close == 0) = true)
  | noSourceBar (absent : lastBarTs ∉ S)
  | fetchFallsShort {barSecs : Int} (known : tfSeconds timeframe = .ok barSecs)
      (short : FallsShort env.fetch (fetchCount env.now lastBarTs barSecs count) lastBarTs)
  | refetchFallsShort (short : FallsShort env.refetch count lastBarTs)

/-- The verdict `valid` on a fetch that does reach back is a comparison. -/
theorem compared_of_valid {store : Store F} {bucket : Bucket} {lastBarTs : Int}
    {rows : List (Bar F)} {overlap : Bar F} {cached : BarRow F}
    (valid : validateOverlap store bucket lastBarTs (.ohlcv rows) = .ok true)
    (found : rows.find? (fun bar => decide (bar.time = lastBarTs)) = some overlap)
    (stored : store.barAt bucket lastBarTs = some cached) (nonzero : (cached.close == 0) = false) :
    ¬ overlapTolerance <
      PyFloat.abs (overlap.close - cached.close) / PyFloat.abs cached.close := by
  intro exceeded
  simp only [validateOverlap, DataFrame.rows, found, stored, nonzero, Bool.false_eq_true, if_false,
    if_pos exceeded] at valid
  cases valid

/-- On the append path the verdict `valid` is a comparison, unless there was
nothing to compare. -/
theorem compared_of_append {S : Set Int} {taken : Int} {env : GetBarsEnv F}
    {symbol timeframe : String} {count : Int} {store : Store F} {lastBarTs barSecs : Int}
    {rows : List (Bar F)} (known : tfSeconds timeframe = .ok barSecs)
    (fetched : env.fetch (fetchCount env.now lastBarTs barSecs count) = .ok (.ohlcv rows))
    (valid : validateOverlap store (defaultBucket symbol timeframe) lastBarTs (.ohlcv rows) =
      .ok true)
    (recent : MostRecent S taken (fetchCount env.now lastBarTs barSecs count).toNat
      (rows.map Bar.time))
    (inSource : lastBarTs ∈ S) {fresh : Bar F} (member : fresh ∈ rows)
    (later : lastBarTs < fresh.time) :
    OverlapCompared env symbol timeframe count store lastBarTs ∨
      NothingToCompare S env symbol timeframe count store lastBarTs := by
  cases found : rows.find? (fun bar => decide (bar.time = lastBarTs)) with
  | none =>
      refine Or.inr (.fetchFallsShort known
        (fallsShort_of_absent fetched recent inSource ?_ member later))
      intro present
      rcases List.mem_map.mp present with ⟨bar, barMem, equal⟩
      have differs := List.find?_eq_none.mp found bar barMem
      exact differs (decide_eq_true equal)
  | some overlap =>
      cases stored : store.barAt (defaultBucket symbol timeframe) lastBarTs with
      | none => exact Or.inr (.uncached stored)
      | some cached =>
          cases zero : (cached.close == 0) with
          | true => exact Or.inr (.zeroClose stored zero)
          | false =>
              exact Or.inl ⟨barSecs, rows, overlap, cached, known, fetched, found, stored, zero,
                compared_of_valid valid found stored zero⟩

/-- A second fetch that brings a newer closed bar also brings the overlap bar,
unless it falls short of it; the overlap bar is older, so it is written too. -/
theorem rewritten_of_mismatch {S : Set Int} {retaken : Int} {env : GetBarsEnv F}
    {symbol timeframe : String} {count : Int} {store : Store F} {lastBarTs barSecs : Int}
    {rows closed : List (Bar F)} (refetched : env.refetch count = .ok (.ohlcv rows))
    (recent : MostRecent S retaken count.toNat (rows.map Bar.time)) (inSource : lastBarTs ∈ S)
    (closedEq : closed = closedBars barSecs env.insert.now rows)
    (result : (getBars env symbol timeframe count store).store =
      commitRows env.insert.now (defaultBucket symbol timeframe) closed store)
    {fresh : Bar F} (member : fresh ∈ closed) (later : lastBarTs < fresh.time) :
    OverlapRewritten env symbol timeframe count store lastBarTs ∨
      NothingToCompare S env symbol timeframe count store lastBarTs := by
  have freshParts := member
  rw [closedEq, mem_closedBars] at freshParts
  by_cases present : lastBarTs ∈ rows.map Bar.time
  · rcases List.mem_map.mp present with ⟨bar, barMem, barTime⟩
    have barClosed : bar ∈ closed := by
      rw [closedEq, mem_closedBars]
      exact ⟨barMem, by omega⟩
    have isSome := (lastAt_isSome_iff closed lastBarTs).mpr ⟨bar, barClosed, barTime⟩
    rcases Option.isSome_iff_exists.mp isSome with ⟨kept, keptAt⟩
    have keptParts := mem_of_lastAt keptAt
    have keptRow := keptParts.1
    rw [closedEq, mem_closedBars] at keptRow
    refine Or.inl ⟨rows, kept, refetched, keptRow.1, keptParts.2, ?_⟩
    rw [result, barAt_commitRows_self, keptAt, Option.map_some, Option.some_or]
  · exact Or.inr (.refetchFallsShort
      (fallsShort_of_absent refetched recent inSource present freshParts.1 later))

/-- A warm call that stores a newer bar has compared the overlap bar and found
it within the tolerance, or has rewritten it from the source, or had nothing
to compare. -/
theorem overlap_checked {S : Set Int} {taken retaken : Int} (env : GetBarsEnv F)
    (symbol timeframe : String) (count : Int) (store : Store F) (summary : MetaRow)
    (warm : getMeta store (defaultBucket symbol timeframe) = some summary)
    (answers : Answers S taken env.fetch) (reanswers : Answers S retaken env.refetch)
    (newer : StoresNewer env symbol timeframe count store summary.lastBarTs) :
    OverlapCompared env symbol timeframe count store summary.lastBarTs ∨
      OverlapRewritten env symbol timeframe count store summary.lastBarTs ∨
      NothingToCompare S env symbol timeframe count store summary.lastBarTs := by
  rcases newer with ⟨row, rowMem, later⟩
  rcases getBars_store_cases env symbol timeframe count store with
    unchanged | ⟨path, df, barSecs, closed, handed, accepted, commits, result, written⟩
  · rw [unchanged.2] at rowMem
    cases rowMem
  rw [written] at rowMem
  rcases List.mem_map.mp rowMem with ⟨fresh, freshMem, rfl⟩
  rcases accepted.rows with ⟨frameRows, frameEq, closedEq⟩
  by_cases inSource : summary.lastBarTs ∈ S
  · cases handed with
    | cold absent _ =>
        rw [warm] at absent
        cases absent
    | append cachedMeta known fetched valid someNew =>
        have sameSummary := Option.some_inj.mp (cachedMeta.symm.trans warm)
        subst sameSummary
        cases frameEq
        rw [closedEq, mem_closedBars, List.mem_filter] at freshMem
        rcases answers _ _ fetched with ⟨_, rowsEq, recent⟩
        cases rowsEq
        rcases compared_of_append known fetched valid recent inSource freshMem.1.1 later with
          compared | nothing
        · exact Or.inl compared
        · exact Or.inr (Or.inr nothing)
    | mismatch cachedMeta known fetched invalid refetched =>
        rcases reanswers _ _ refetched with ⟨_, rowsEq, recent⟩
        cases rowsEq
        cases frameEq
        exact Or.inr (rewritten_of_mismatch refetched recent inSource closedEq result freshMem later)
  · exact Or.inr (Or.inr (.noSourceBar inSource))

/-- The fetch is wide enough to reach the stored bar. -/
theorem overlap_checked_seeded :
    let store := seededStore [seedBar 0 10]
    let S : Set Int := { ts | ts ∈ [0, 100800, 104400] }
    let answer := answerOnly 3 [seedBar 0 10, seedBar 100800 12, seedBar 104400 12]
    let env : GetBarsEnv Rat :=
      { now := 110000, fetch := answer, refetch := answer, insert := ⟨110000, true⟩ }
    StoresNewer env "ADA" "1h" 3 store 0 ∧
      (OverlapCompared env "ADA" "1h" 3 store 0 ∨ OverlapRewritten env "ADA" "1h" 3 store 0 ∨
        NothingToCompare S env "ADA" "1h" 3 store 0) := by
  have recent : MostRecent { ts : Int | ts ∈ [0, 100800, 104400] } 110000 3 [0, 100800, 104400] := by
    decide
  intro store S answer env
  have newer : StoresNewer env "ADA" "1h" 3 store 0 :=
    ⟨(seedBar 104400 12).toRow 110000 (defaultBucket "ADA" "1h"), by decide +kernel, by decide⟩
  have answers : Answers S 110000 answer := answers_answerOnly recent
  exact ⟨newer, overlap_checked env "ADA" "1h" 3 store
    { bucket := defaultBucket "ADA" "1h", lastBarTs := 0, barCount := 1, lastFetchedAt := 100000 }
    (by decide +kernel) answers answers newer⟩

/-- After a downtime longer than `count` bars the capped fetch does not reach
the stored bar, and the new ones are appended without a comparison. -/
theorem overlap_not_reached :
    let store := seededStore [seedBar 0 10]
    let S : Set Int := { ts | ts ∈ [0, 100800, 104400] }
    let answer := answerOnly 2 [seedBar 100800 12, seedBar 104400 12]
    let env : GetBarsEnv Rat :=
      { now := 110000, fetch := answer, refetch := answer, insert := ⟨110000, true⟩ }
    Answers S 110000 answer ∧ StoresNewer env "ADA" "1h" 2 store 0 ∧
      ¬ (OverlapCompared env "ADA" "1h" 2 store 0 ∨ OverlapRewritten env "ADA" "1h" 2 store 0) := by
  have recent : MostRecent { ts : Int | ts ∈ [0, 100800, 104400] } 110000 2 [100800, 104400] := by
    decide
  intro store S answer env
  refine ⟨answers_answerOnly recent, ?_, ?_⟩
  · exact ⟨(seedBar 104400 12).toRow 110000 (defaultBucket "ADA" "1h"), by decide +kernel, by decide⟩
  · -- neither fetch brings a bar at the newest stored time
    have newerOnly : forall rows, answer 2 = .ok (.ohlcv rows) ->
        forall bar, bar ∈ rows -> bar.time ≠ 0 := by
      intro rows fetched
      cases fetched
      decide
    rintro (⟨barSecs, rows, overlap, _, known, fetched, found, _⟩ |
      ⟨rows, bar, refetched, barMem, barTime, _⟩)
    · have secs := Except.ok.inj (known.symm.trans (by decide : tfSeconds "1h" = .ok 3600))
      subst secs
      have atLast := List.find?_some found
      exact newerOnly rows fetched overlap (List.mem_of_find?_eq_some found)
        (of_decide_eq_true atLast)
    · exact newerOnly rows refetched bar barMem barTime

end HybridDataSvc
