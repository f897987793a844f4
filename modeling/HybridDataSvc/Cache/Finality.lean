import HybridDataSvc.Cache.GetBars
import HybridDataSvc.Backfill.FetchHistory

namespace HybridDataSvc

open Relational

/-!
# Forming bars

A source changes the values of a bar until the bar closes.  A fetcher returns
the values of its moment, while `_insert_bars` decides by a clock it reads
later which rows have closed.  A bar that closes between the two readings is
written with its provisional values; `NoneClosesBetween` excludes it, and
that is exactly what makes the three writing paths of `get_bars` and the
backfill store final bars only.  In the backfill every page has a moment of
its own.
-/

variable {F : Type}

/-- A source of bars: values that may change while a bar is forming, and the
values it has from its close on. -/
structure Source (F : Type) where
  provisional : Int -> Int -> Ohlcv F
  final : Int -> Ohlcv F

/-- The values of the bar at `ts` as they are at a moment. -/
def Source.asOf (source : Source F) (barSecs moment ts : Int) : Ohlcv F :=
  if moment < ts + barSecs then source.provisional ts moment else source.final ts

/-- The rows of a frame; a frame without columns has none. -/
def DataFrame.bars : DataFrame F -> List (Bar F)
  | .noColumns => []
  | .ohlcv rows => rows

/-- Every row of the frame has the values of the moment its time was fetched at. -/
def ValuedAt (source : Source F) (barSecs : Int) (fetchedAt : Int -> Int) (df : DataFrame F) :
    Prop :=
  forall bar, bar ∈ df.bars -> bar.toOhlcv = source.asOf barSecs (fetchedAt bar.time) bar.time

/-- The row's bar was closed at the moment it was fetched, so the row carries
the final values. -/
structure FinalRow (source : Source F) (barSecs moment : Int) (row : BarRow F) : Prop where
  closedWhenFetched : row.ts + barSecs ≤ moment
  carriesFinal : row.toOhlcv = source.final row.ts

/-- No bar of the frame closes after it was fetched and before the insert
reads its clock. -/
def NoneClosesBetween (barSecs : Int) (fetchedAt : Int -> Int) (now : Int) (df : DataFrame F) :
    Prop :=
  forall bar, bar ∈ df.bars -> bar.time + barSecs ≤ now -> bar.time + barSecs ≤ fetchedAt bar.time

variable [PyFloat F]

/-- The guards let a batch of the frame through and its transaction commits. -/
def Admitted (env : InsertEnv) (df : DataFrame F) (bucket : Bucket) (store : Store F) : Prop :=
  env.commits = true ∧ exists barSecs closed, AcceptedBatch env.now df bucket store barSecs closed

/-! ## One insert -/

theorem insertBars_final_iff {source : Source F} {barSecs : Int} {fetchedAt : Int -> Int}
    {env : InsertEnv} {df : DataFrame F} (bucket : Bucket) {store : Store F}
    (known : tfSeconds bucket.timeframe = .ok barSecs)
    (valued : ValuedAt source barSecs fetchedAt df) :
    (forall row, row ∈ (insertBars env df bucket store).written ->
        FinalRow source barSecs (fetchedAt row.ts) row) ↔
      (Admitted env df bucket store -> NoneClosesBetween barSecs fetchedAt env.now df) := by
  constructor
  · rintro final ⟨commits, otherSecs, closed, accepted⟩ bar member closedBy
    have secsEq := Except.ok.inj (accepted.known.symm.trans known)
    subst secsEq
    rw [insertBars_of_accepted accepted commits] at final
    rcases accepted.rows with ⟨rows, rfl, rfl⟩
    have inBatch := (mem_closedBars otherSecs env.now rows bar).mpr ⟨member, closedBy⟩
    exact (final _ (List.mem_map.mpr ⟨bar, inBatch, rfl⟩)).closedWhenFetched
  · intro noneCloses row member
    rcases insertBars_cases env df bucket store with
      unchanged | ⟨otherSecs, closed, accepted, commits, result⟩
    · rw [unchanged.2] at member
      cases member
    · have early := noneCloses ⟨commits, otherSecs, closed, accepted⟩
      have secsEq := Except.ok.inj (accepted.known.symm.trans known)
      subst secsEq
      rw [result] at member
      rcases List.mem_map.mp member with ⟨bar, inBatch, rfl⟩
      rcases accepted.rows with ⟨rows, rfl, rfl⟩
      have parts := (mem_closedBars otherSecs env.now rows bar).mp inBatch
      have closedWhenFetched := early bar parts.1 parts.2
      refine ⟨closedWhenFetched, ?_⟩
      have values := valued bar parts.1
      rw [Source.asOf, if_neg (Int.not_lt.mpr closedWhenFetched)] at values
      exact values

/-- A written row is a row of the frame. -/
theorem mem_written_insertBars {env : InsertEnv} {df : DataFrame F} {bucket : Bucket}
    {store : Store F} {row : BarRow F} (member : row ∈ (insertBars env df bucket store).written) :
    exists bar, bar ∈ df.bars ∧ row = bar.toRow env.now bucket := by
  rcases insertBars_cases env df bucket store with
    unchanged | ⟨barSecs, closed, accepted, _, result⟩
  · rw [unchanged.2] at member
    cases member
  · rw [result] at member
    rcases List.mem_map.mp member with ⟨bar, inBatch, equal⟩
    rcases accepted.rows with ⟨rows, rfl, rfl⟩
    exact ⟨bar, ((mem_closedBars barSecs env.now rows bar).mp inBatch).1, equal.symm⟩

/-! ## The paths of `get_bars` -/

/-- The moment of the frame a path hands over: only the rewrite after a
mismatch hands over the answer of the second fetch. -/
def fetchMoment (taken retaken : Int) : WritePath -> Int
  | .cold => taken
  | .append => taken
  | .mismatch => retaken

/-- A path hands over rows of the answer it fetched. -/
theorem HandsOver.valuedAt {env : GetBarsEnv F} {symbol timeframe : String} {count : Int}
    {store : Store F} {path : WritePath} {df : DataFrame F} {source : Source F}
    {barSecs taken retaken : Int}
    (handed : HandsOver env symbol timeframe count store path df)
    (valued : forall n answer, env.fetch n = .ok answer ->
      ValuedAt source barSecs (fun _ => taken) answer)
    (revalued : forall n answer, env.refetch n = .ok answer ->
      ValuedAt source barSecs (fun _ => retaken) answer) :
    ValuedAt source barSecs (fun _ => fetchMoment taken retaken path) df := by
  cases handed with
  | cold absent fetched => exact valued _ _ fetched
  | append warm known fetched valid someNew =>
      intro bar member
      exact valued _ _ fetched bar (List.mem_filter.mp member).1
  | mismatch warm known fetched invalid refetched => exact revalued _ _ refetched

theorem getBars_final_iff {source : Source F} {barSecs taken retaken : Int} {env : GetBarsEnv F}
    {symbol timeframe : String} {count : Int} {store : Store F}
    (known : tfSeconds timeframe = .ok barSecs)
    (valued : forall n answer, env.fetch n = .ok answer ->
      ValuedAt source barSecs (fun _ => taken) answer)
    (revalued : forall n answer, env.refetch n = .ok answer ->
      ValuedAt source barSecs (fun _ => retaken) answer) :
    (forall row, row ∈ (getBars env symbol timeframe count store).written ->
        exists path df, HandsOver env symbol timeframe count store path df ∧
          FinalRow source barSecs (fetchMoment taken retaken path) row) ↔
      forall path df, HandsOver env symbol timeframe count store path df ->
        Admitted env.insert df (defaultBucket symbol timeframe) store ->
          NoneClosesBetween barSecs (fun _ => fetchMoment taken retaken path) env.insert.now
            df := by
  constructor
  · intro final path df handed
    refine (insertBars_final_iff (defaultBucket symbol timeframe) known
      (handed.valuedAt valued revalued)).mp ?_
    intro row member
    rw [← getBars_written_of_handsOver handed] at member
    rcases final row member with ⟨other, otherDf, otherHanded, isFinal⟩
    rw [(handed.unique otherHanded).1] at isFinal
    exact isFinal
  · intro noneCloses row member
    rcases getBars_cases env symbol timeframe count store with unchanged | ⟨path, df, handed⟩
    · rw [unchanged.2] at member
      cases member
    · rw [getBars_written_of_handsOver handed] at member
      have final := (insertBars_final_iff (defaultBucket symbol timeframe) known
        (handed.valuedAt valued revalued)).mpr (noneCloses path df handed)
      exact ⟨path, df, handed, final row member⟩

/-! ## The backfill -/

/-- The moment of the last page that has a bar at a timestamp. -/
def pageMoment (moment : Nat -> Int) (pages : List (List (Bar F))) (ts : Int) : Int :=
  ((lastPageAt pages ts).map moment).getD 0

omit [PyFloat F] in
theorem pageMoment_of_lastPageAt {moment : Nat -> Int} {pages : List (List (Bar F))} {ts : Int}
    {number : Nat} (numbered : lastPageAt pages ts = some number) :
    pageMoment moment pages ts = moment number := by
  rw [pageMoment, numbered]
  rfl

/-- The endpoint answers request number `n` with the values of `moment n`. -/
def PagesValued (source : Source F) (barSecs : Int) (moment : Nat -> Int) (env : KlinesEnv F) :
    Prop :=
  forall number request klines, env.page number request = .ok klines ->
    forall kline, kline ∈ klines ->
      kline.toBar.toOhlcv = source.asOf barSecs (moment number) kline.toBar.time

theorem mem_backfillFrame {dbSymbol : String} {bars : List (Bar F)} {bar : Bar F}
    (member : bar ∈ (backfillFrame dbSymbol bars).bars) : bar ∈ bars := by
  unfold backfillFrame at member
  by_cases empty : (bars.filter (fun bar => isPlausible dbSymbol bar.close)).isEmpty = true
  · simp only [if_pos empty] at member
    cases member
  · simp only [if_neg empty] at member
    exact (List.mem_filter.mp member).1

/-- `write_bars` writes what `_insert_bars` writes of its frame, also when it
returns early for want of bars. -/
theorem writeBars_written (env : InsertEnv) (dbSymbol timeframe : String) (bars : List (Bar F))
    (store : Store F) :
    (writeBars env dbSymbol timeframe bars store).written =
      (insertBars env (backfillFrame dbSymbol bars) (defaultBucket dbSymbol timeframe)
        store).written := by
  cases bars with
  | cons bar rest => rfl
  | nil =>
      rcases insertBars_cases env (backfillFrame dbSymbol []) (defaultBucket dbSymbol timeframe)
          store with
        unchanged | ⟨_, _, accepted, _, _⟩
      · rw [unchanged.2]
        rfl
      · rcases accepted.rows with ⟨rows, impossible, _⟩
        cases impossible

/-- The frame a finished `fetch_history` leads to. -/
def historyFrame (dbSymbol : String) (total : Int) (pages : List (List (Bar F))) : DataFrame F :=
  backfillFrame dbSymbol (newestBars total pages.flatten)

theorem backfill_written {env : KlinesEnv F} {symbol timeframe : String} {total : Int}
    {pages : List (List (Bar F))} (fetched : historyPages env symbol timeframe total = .ok pages)
    (insert : InsertEnv) (dbSymbol : String) (store : Store F) :
    (backfill env insert symbol dbSymbol timeframe total store).written =
      (insertBars insert (historyFrame dbSymbol total pages) (defaultBucket dbSymbol timeframe)
        store).written := by
  simp only [backfill, fetchHistory, fetched]
  exact writeBars_written insert dbSymbol timeframe _ store

/-- A bar of the frame has the values of the moment of the last page with its
timestamp. -/
theorem historyFrame_valued {source : Source F} {barSecs : Int} {moment : Nat -> Int}
    {env : KlinesEnv F} {symbol timeframe dbSymbol : String} {total : Int}
    {pages : List (List (Bar F))} (fetched : historyPages env symbol timeframe total = .ok pages)
    (answered : PagesValued source barSecs moment env) {bar : Bar F}
    (member : bar ∈ (historyFrame dbSymbol total pages).bars) :
    exists number, lastPageAt pages bar.time = some number ∧
      bar.toOhlcv = source.asOf barSecs (moment number) bar.time := by
  rcases fetchHistory_answered fetched (mem_backfillFrame member) with
    ⟨number, request, klines, kline, numbered, answer, klineMem, rfl⟩
  exact ⟨number, numbered, answered number request klines answer kline klineMem⟩

theorem backfill_final_iff {source : Source F} {barSecs : Int} {moment : Nat -> Int}
    {env : KlinesEnv F} {insert : InsertEnv} {symbol dbSymbol timeframe : String} {total : Int}
    {store : Store F} (known : tfSeconds timeframe = .ok barSecs)
    (answered : PagesValued source barSecs moment env) :
    (forall row, row ∈ (backfill env insert symbol dbSymbol timeframe total store).written ->
        exists pages number, historyPages env symbol timeframe total = .ok pages ∧
          lastPageAt pages row.ts = some number ∧ FinalRow source barSecs (moment number) row) ↔
      forall pages, historyPages env symbol timeframe total = .ok pages ->
        Admitted insert (historyFrame dbSymbol total pages) (defaultBucket dbSymbol timeframe)
          store ->
          NoneClosesBetween barSecs (pageMoment moment pages) insert.now
            (historyFrame dbSymbol total pages) := by
  have exactInsert : forall pages, historyPages env symbol timeframe total = .ok pages ->
      ((forall row, row ∈ (backfill env insert symbol dbSymbol timeframe total store).written ->
          FinalRow source barSecs (pageMoment moment pages row.ts) row) ↔
        (Admitted insert (historyFrame dbSymbol total pages) (defaultBucket dbSymbol timeframe)
          store ->
          NoneClosesBetween barSecs (pageMoment moment pages) insert.now
            (historyFrame dbSymbol total pages))) := by
    intro pages fetched
    rw [backfill_written fetched]
    apply insertBars_final_iff (defaultBucket dbSymbol timeframe) known
    intro bar member
    rcases historyFrame_valued fetched answered member with ⟨number, numbered, values⟩
    rw [pageMoment_of_lastPageAt numbered]
    exact values
  constructor
  · intro final pages fetched
    apply (exactInsert pages fetched).mp
    intro row member
    rcases final row member with ⟨other, number, fetchedAgain, numbered, isFinal⟩
    have same := Except.ok.inj (fetchedAgain.symm.trans fetched)
    subst same
    rw [pageMoment_of_lastPageAt numbered]
    exact isFinal
  · intro noneCloses row member
    cases fetched : historyPages env symbol timeframe total with
    | error raised =>
        simp only [backfill, fetchHistory, fetched] at member
        cases member
    | ok pages =>
        have isFinal := (exactInsert pages fetched).mpr (noneCloses pages fetched) row member
        rw [backfill_written fetched] at member
        rcases mem_written_insertBars member with ⟨bar, inFrame, rfl⟩
        rcases historyFrame_valued fetched answered inFrame with ⟨number, numbered, _⟩
        rw [Bar.toRow_ts, pageMoment_of_lastPageAt numbered] at isFinal
        exact ⟨pages, number, rfl, numbered, isFinal⟩

/-- Every row that `get_bars` or a backfill writes was closed at the moment it
was fetched and carries its final values exactly when, unless the guards or
the database keep the frame out, none of its bars closes between that moment
and the clock reading of the insert. -/
theorem finalBars_iff (source : Source F) (timeframe : String) (barSecs : Int)
    (known : tfSeconds timeframe = .ok barSecs) :
    (forall (env : GetBarsEnv F) (symbol : String) (count : Int) (store : Store F)
        (taken retaken : Int),
      (forall n answer, env.fetch n = .ok answer ->
        ValuedAt source barSecs (fun _ => taken) answer) ->
      (forall n answer, env.refetch n = .ok answer ->
        ValuedAt source barSecs (fun _ => retaken) answer) ->
      ((forall row, row ∈ (getBars env symbol timeframe count store).written ->
          exists path df, HandsOver env symbol timeframe count store path df ∧
            FinalRow source barSecs (fetchMoment taken retaken path) row) ↔
        forall path df, HandsOver env symbol timeframe count store path df ->
          Admitted env.insert df (defaultBucket symbol timeframe) store ->
            NoneClosesBetween barSecs (fun _ => fetchMoment taken retaken path) env.insert.now
              df)) ∧
    forall (env : KlinesEnv F) (insert : InsertEnv) (symbol dbSymbol : String) (total : Int)
        (store : Store F) (moment : Nat -> Int),
      PagesValued source barSecs moment env ->
      ((forall row, row ∈ (backfill env insert symbol dbSymbol timeframe total store).written ->
          exists pages number, historyPages env symbol timeframe total = .ok pages ∧
            lastPageAt pages row.ts = some number ∧
            FinalRow source barSecs (moment number) row) ↔
        forall pages, historyPages env symbol timeframe total = .ok pages ->
          Admitted insert (historyFrame dbSymbol total pages) (defaultBucket dbSymbol timeframe)
            store ->
          NoneClosesBetween barSecs (pageMoment moment pages) insert.now
            (historyFrame dbSymbol total pages)) := by
  constructor
  · intro env symbol count store taken retaken valued revalued
    exact getBars_final_iff known valued revalued
  · intro env insert symbol dbSymbol total store moment answered
    exact backfill_final_iff known answered

/-- A bar fetched at its close and inserted a minute later is final. -/
theorem finalBars_iff_fetched_at_close :
    let source : Source Rat := ⟨fun _ _ => (seedBar 0 1).toOhlcv, fun _ => (seedBar 0 2).toOhlcv⟩
    let env : GetBarsEnv Rat :=
      { now := 3600, fetch := fun _ => .ok (.ohlcv [seedBar 0 2]),
        refetch := fun _ => .ok (.ohlcv [seedBar 0 2]), insert := ⟨3660, true⟩ }
    forall row, row ∈ (getBars env "ADA" "1h" 300 (Store.empty : Store Rat)).written ->
      exists path df, HandsOver env "ADA" "1h" 300 (Store.empty : Store Rat) path df ∧
        FinalRow source 3600 (fetchMoment 3600 3600 path) row := by
  intro source env
  have valued : forall (n : Int) (answer : DataFrame Rat), env.fetch n = .ok answer ->
      ValuedAt source 3600 (fun _ => 3600) answer := by
    intro n answer fetched bar member
    cases fetched
    rw [List.mem_singleton.mp member]
    rfl
  refine ((finalBars_iff source "1h" 3600 (by decide)).1 env "ADA" 300 Store.empty 3600 3600
    valued valued).mpr ?_
  intro path df handed _ bar member _
  have cold : HandsOver env "ADA" "1h" 300 (Store.empty : Store Rat) .cold (.ohlcv [seedBar 0 2]) :=
    .cold rfl rfl
  rcases cold.unique handed with ⟨rfl, rfl⟩
  rw [List.mem_singleton.mp member]
  decide

/-- A bar that is fetched one second before its close and inserted at its
close is stored with its provisional values. -/
theorem forming_bar_stored :
    let source : Source Rat := ⟨fun _ _ => (seedBar 0 1).toOhlcv, fun _ => (seedBar 0 2).toOhlcv⟩
    let env : GetBarsEnv Rat :=
      { now := 3599, fetch := fun _ => .ok (.ohlcv [seedBar 0 1]),
        refetch := fun _ => .ok (.ohlcv [seedBar 0 1]), insert := ⟨3600, true⟩ }
    ValuedAt source 3600 (fun _ => 3599) (.ohlcv [seedBar 0 1]) ∧
      ¬ forall row, row ∈ (getBars env "ADA" "1h" 300 (Store.empty : Store Rat)).written ->
        FinalRow source 3600 3599 row := by
  intro source env
  refine ⟨?_, ?_⟩
  · intro bar member
    rw [List.mem_singleton.mp member]
    rfl
  · intro final
    have row := final ((seedBar 0 1).toRow 3600 (defaultBucket "ADA" "1h")) (by decide +kernel)
    exact absurd row.closedWhenFetched (by decide)

end HybridDataSvc
