import HybridDataSvc.Cache.Metadata
import HybridDataSvc.Order.Accumulation

namespace HybridDataSvc

open Relational Transition Accumulation

/-!
# Gap-free accumulation

One bucket is filled by the polling loop from a source whose bars open at the
times `S`.  The source may leave holes in the grid and its prices are
arbitrary, so the overlap check and the three leak guards decide as they
like.  What is stored is nevertheless always an interval of `S`: a batch is
written whole or not at all, only its forming tail is cut off, and the number
of bars a warm call asks for reaches back to the newest stored bar even when
one more bar opens between the clock reading and the fetch.
-/

variable {F : Type}

/-- A fetcher that is asked at time `taken` returns the most recent bars of
`S` that have opened by then, as many as it is asked for, with any prices.
It may also raise. -/
def Answers (S : Set Int) (taken : Int) (fetch : Int -> Except PyError (DataFrame F)) : Prop :=
  forall n df, fetch n = .ok df ->
    exists rows, df = .ohlcv rows ∧ MostRecent S taken n.toNat (rows.map Bar.time)

/-- A source that answers one request and refuses every other. -/
def answerOnly (wanted : Int) (rows : List (Bar F)) (n : Int) : Except PyError (DataFrame F) :=
  if n = wanted then .ok (.ohlcv rows) else .error (.dataFetchError "timed out")

theorem answers_answerOnly {S : Set Int} {taken wanted : Int} {rows : List (Bar F)}
    (recent : MostRecent S taken wanted.toNat (rows.map Bar.time)) :
    Answers S taken (answerOnly wanted rows) := by
  intro n df fetched
  unfold answerOnly at fetched
  by_cases same : n = wanted
  · rw [if_pos same] at fetched
    cases fetched
    exact ⟨rows, rfl, by rw [same]; exact recent⟩
  · rw [if_neg same] at fetched
    cases fetched

/-- The bucket together with the last clock reading. -/
structure Polling (F : Type) where
  store : Store F
  clock : Int

/-- One call of `get_bars` for the bucket. -/
structure PollCall (F : Type) where
  count : Int
  env : GetBarsEnv F

/-- The timing of a call.  Clock readings do not go back.  A warm call asks
for at most `count` bars and takes its snapshots within one bar of the clock
reading that sized the request. -/
inductive Timely (S : Set Int) (barSecs : Int) (bucket : Bucket) (state : Polling F)
    (call : PollCall F) : Prop
  | cold {taken : Int} (absent : getMeta state.store bucket = none)
      (started : state.clock ≤ taken) (inserted : taken ≤ call.env.insert.now)
      (answers : Answers S taken call.env.fetch)
  | warm {summary : MetaRow} {taken retaken : Int}
      (cached : getMeta state.store bucket = some summary)
      (started : state.clock ≤ call.env.now) (fetched : call.env.now ≤ taken)
      (refetched : taken ≤ retaken) (prompt : retaken ≤ call.env.now + barSecs)
      (inserted : retaken ≤ call.env.insert.now)
      (wide : max 1 ((call.env.now - summary.lastBarTs) / barSecs) + 1 ≤ call.count)
      (answers : Answers S taken call.env.fetch) (reanswers : Answers S retaken call.env.refetch)

/-- The invariant: an interval of `S` whose newest bar is recorded and had
closed by the last clock reading. -/
structure Accumulated (S : Set Int) (barSecs : Int) (bucket : Bucket) (state : Polling F) :
    Prop where
  filled : Filled S (state.store.storedTimes bucket)
  cold : getMeta state.store bucket = none -> state.store.storedTimes bucket = ∅
  warm : forall summary, getMeta state.store bucket = some summary ->
    IsGreatest (state.store.storedTimes bucket) summary.lastBarTs ∧
      summary.lastBarTs + barSecs ≤ state.clock

/-- The times of a timeframe's grid are at least one bar apart. -/
theorem grid_spaced {timeframe : String} {barSecs : Int} (known : tfSeconds timeframe = .ok barSecs)
    {S : Set Int} (grid : forall x, x ∈ S -> tsAligned x timeframe = .ok true) :
    forall x, x ∈ S -> forall y, y ∈ S -> x < y -> x + barSecs ≤ y := by
  intro x xMem y yMem less
  have xGrid := (tsAligned_iff_dvd known x).mp (grid x xMem)
  have yGrid := (tsAligned_iff_dvd known y).mp (grid y yMem)
  have difference : barSecs ∣ y - x := by
    have both := Int.dvd_sub yGrid xGrid
    have cancel : y - gridOffset timeframe - (x - gridOffset timeframe) = y - x := by omega
    exact cancel ▸ both
  have step := Int.le_of_dvd (by omega : 0 < y - x) difference
  omega

/-- The request of a warm call is as large as the number of bars that can
have opened since the newest stored one, wherever in the allowed bar of time
the snapshot is taken. -/
theorem gap_reaches {now barSecs taken : Int} (lastBarTs : Int) (positive : 0 < barSecs)
    (prompt : taken ≤ now + barSecs) :
    (taken - lastBarTs) / barSecs ≤ max 1 ((now - lastBarTs) / barSecs) + 1 := by
  have later : (taken - lastBarTs) / barSecs ≤ (now - lastBarTs + barSecs) / barSecs :=
    Int.ediv_le_ediv positive (by omega)
  have oneMore : (now - lastBarTs + barSecs) / barSecs = (now - lastBarTs) / barSecs + 1 := by
    rw [Int.add_ediv_of_dvd_right (Int.dvd_refl barSecs), Int.ediv_self (Int.ne_of_gt positive)]
  have atLeast := Int.le_max_right 1 ((now - lastBarTs) / barSecs)
  omega

/-- A batch extends the interval, and its newest time is the newest of all. -/
def Extends (S : Set Int) (bucket : Bucket) (store : Store F) (closed : List (Bar F)) : Prop :=
  Filled S (store.storedTimes bucket ∪ batchTimes closed) ∧
    IsGreatest (store.storedTimes bucket ∪ batchTimes closed) (newestTime closed)

/-- The whole answer of a fetch that reaches back to the newest stored bar
extends the interval: the refetch after a mismatch. -/
theorem extends_of_window {S : Set Int} {barSecs now taken lastBarTs : Int} {n : Nat}
    {bucket : Bucket} {store : Store F} {rows : List (Bar F)}
    (filled : Filled S (store.storedTimes bucket))
    (greatest : IsGreatest (store.storedTimes bucket) lastBarTs)
    (recent : MostRecent S taken n (rows.map Bar.time))
    (lastClosed : lastBarTs + barSecs ≤ now) (lastOpened : lastBarTs ≤ taken)
    (reaches : forall x, x ∈ S -> lastBarTs < x -> x ≤ taken -> x ∈ rows.map Bar.time)
    (nonempty : closedBars barSecs now rows ≠ []) :
    Extends S bucket store (closedBars barSecs now rows) := by
  have downward : forall x y : Int, x ≤ y -> y + barSecs ≤ now -> x + barSecs ≤ now :=
    fun x y less closed => by omega
  have latest := isGreatest_newestTime nonempty
  refine ⟨?_, isGreatest_union_of_reaches greatest latest ?_⟩
  · rw [batchTimes_closedBars]
    exact filled.absorb_window greatest recent downward lastClosed lastOpened reaches
  · -- an answer that starts at or before the newest stored bar contains it
    rcases Int.le_total lastBarTs (newestTime (closedBars barSecs now rows)) with later | earlier
    · exact later
    · have inWindow := latest.1
      rw [batchTimes_closedBars] at inWindow
      have lastIn := recent.upward inWindow.1 (filled.subset greatest.1) earlier lastOpened
      have lastAdded : lastBarTs ∈ batchTimes (closedBars barSecs now rows) := by
        rw [batchTimes_closedBars]
        exact ⟨lastIn, lastClosed⟩
      exact latest.2 lastAdded

/-- So do the bars of such an answer that are newer than the stored ones: the
append path. -/
theorem extends_of_newer {S : Set Int} {barSecs now taken lastBarTs : Int} {n : Nat}
    {bucket : Bucket} {store : Store F} {rows : List (Bar F)}
    (filled : Filled S (store.storedTimes bucket))
    (greatest : IsGreatest (store.storedTimes bucket) lastBarTs)
    (recent : MostRecent S taken n (rows.map Bar.time))
    (reaches : forall x, x ∈ S -> lastBarTs < x -> x ≤ taken -> x ∈ rows.map Bar.time)
    (nonempty : closedBars barSecs now
      (rows.filter (fun bar => decide (lastBarTs < bar.time))) ≠ []) :
    Extends S bucket store (closedBars barSecs now
      (rows.filter (fun bar => decide (lastBarTs < bar.time)))) := by
  have downward : forall x y : Int, x ≤ y -> y + barSecs ≤ now -> x + barSecs ≤ now :=
    fun x y less closed => by omega
  have latest := isGreatest_newestTime nonempty
  have newer : forall ts,
      ts ∈ (rows.filter (fun bar => decide (lastBarTs < bar.time))).map Bar.time ↔
        ts ∈ rows.map Bar.time ∧ lastBarTs < ts := by
    intro ts
    simp only [List.mem_map, List.mem_filter, decide_eq_true_eq]
    constructor
    · rintro ⟨bar, ⟨member, later⟩, rfl⟩
      exact ⟨⟨bar, member, rfl⟩, later⟩
    · rintro ⟨⟨bar, member, rfl⟩, later⟩
      exact ⟨bar, ⟨member, later⟩, rfl⟩
  refine ⟨?_, isGreatest_union_of_reaches greatest latest ?_⟩
  · rw [batchTimes_closedBars]
    simp only [newer]
    exact filled.absorb_newer greatest recent downward reaches
  · have inFrame := latest.1
    rw [batchTimes_closedBars] at inFrame
    exact Int.le_of_lt ((newer _).mp inFrame.1).2

/-- Into an empty bucket the closed part of any answer may go. -/
theorem extends_of_cold {S : Set Int} {barSecs now taken : Int} {n : Nat} {bucket : Bucket}
    {store : Store F} {rows : List (Bar F)} (empty : store.storedTimes bucket = ∅)
    (recent : MostRecent S taken n (rows.map Bar.time))
    (nonempty : closedBars barSecs now rows ≠ []) :
    Extends S bucket store (closedBars barSecs now rows) := by
  have latest := isGreatest_newestTime nonempty
  unfold Extends
  rw [empty, Set.empty_union]
  refine ⟨?_, latest⟩
  rw [batchTimes_closedBars]
  exact recent.filled_below (fun x y less closed => by omega)

/-! ## The calls of one bucket -/

variable [PyFloat F]

/-- The effect of a call; its last clock reading is that of the insert. -/
def poll (symbol timeframe : String) (state : Polling F) (call : PollCall F) : Polling F where
  store := (getBars call.env symbol timeframe call.count state.store).store
  clock := call.env.insert.now

/-- A batch that is committed on one of the three paths extends the interval. -/
theorem handsOver_extends {symbol timeframe : String} {barSecs : Int}
    (known : tfSeconds timeframe = .ok barSecs) {S : Set Int}
    (grid : forall x, x ∈ S -> tsAligned x timeframe = .ok true) {state : Polling F}
    {call : PollCall F} (invariant : Accumulated S barSecs (defaultBucket symbol timeframe) state)
    (timely : Timely S barSecs (defaultBucket symbol timeframe) state call)
    {path : WritePath} {df : DataFrame F} {closed : List (Bar F)}
    (handed : HandsOver call.env symbol timeframe call.count state.store path df)
    (accepted : AcceptedBatch call.env.insert.now df (defaultBucket symbol timeframe) state.store
      barSecs closed) :
    Extends S (defaultBucket symbol timeframe) state.store closed := by
  have positive := tfSeconds_pos known
  have spaced := grid_spaced known grid
  have nonempty := accepted.nonempty
  rcases accepted.rows with ⟨rows, rfl, rfl⟩
  cases timely with
  | cold absent _ _ answers =>
      cases handed with
      | cold _ fetched =>
          rcases answers _ _ fetched with ⟨_, frameEq, recent⟩
          cases frameEq
          exact extends_of_cold (invariant.cold absent) recent nonempty
      | append warm _ _ _ _ =>
          rw [absent] at warm
          cases warm
      | mismatch warm _ _ _ _ =>
          rw [absent] at warm
          cases warm
  | @warm summary taken retaken cached started fetchedAt refetchedAt prompt inserted wide answers
      reanswers =>
      have before := invariant.warm summary cached
      have lastClosed := before.2
      have lastMem := invariant.filled.subset before.1.1
      cases handed with
      | cold absent _ =>
          rw [cached] at absent
          cases absent
      | @append other _ frameRows warm otherKnown fetched _ _ =>
          have sameSummary := Option.some_inj.mp (warm.symm.trans cached)
          have sameSecs := Except.ok.inj (otherKnown.symm.trans known)
          subst sameSummary sameSecs
          rcases answers _ _ fetched with ⟨_, frameEq, recent⟩
          cases frameEq
          refine extends_of_newer invariant.filled before.1 recent ?_ nonempty
          intro x xMem later bounded
          refine recent.reaches positive spaced lastMem ?_ xMem later bounded
          have enough := gap_reaches other.lastBarTs positive (Int.le_trans refetchedAt prompt)
          unfold fetchCount
          rw [Int.min_eq_left wide]
          omega
      | mismatch _ _ _ _ refetched =>
          rcases reanswers _ _ refetched with ⟨_, frameEq, recent⟩
          cases frameEq
          refine extends_of_window invariant.filled before.1 recent (by omega) (by omega) ?_ nonempty
          intro x xMem later bounded
          refine recent.reaches positive spaced lastMem ?_ xMem later bounded
          have enough := gap_reaches summary.lastBarTs positive prompt
          omega

/-- One timely call keeps the invariant. -/
theorem poll_accumulated {symbol timeframe : String} {barSecs : Int}
    (known : tfSeconds timeframe = .ok barSecs) {S : Set Int}
    (grid : forall x, x ∈ S -> tsAligned x timeframe = .ok true) (state : Polling F)
    (call : PollCall F) (invariant : Accumulated S barSecs (defaultBucket symbol timeframe) state)
    (timely : Timely S barSecs (defaultBucket symbol timeframe) state call) :
    Accumulated S barSecs (defaultBucket symbol timeframe) (poll symbol timeframe state call) := by
  rcases getBars_store_cases call.env symbol timeframe call.count state.store with
    unchanged | ⟨path, df, otherSecs, closed, handed, accepted, _, result, _⟩
  · -- nothing is written; only the clock moves on
    refine ⟨by rw [poll, unchanged.1]; exact invariant.filled,
      by rw [poll, unchanged.1]; exact invariant.cold, ?_⟩
    intro summary found
    rw [poll, unchanged.1] at found
    have before := invariant.warm summary found
    refine ⟨by rw [poll, unchanged.1]; exact before.1, ?_⟩
    change summary.lastBarTs + barSecs ≤ call.env.insert.now
    have moved := before.2
    cases timely with
    | cold absent _ _ _ =>
        rw [absent] at found
        cases found
    | warm _ started fetched refetched _ inserted _ _ _ => omega
  · have secsEq := Except.ok.inj (accepted.known.symm.trans known)
    subst secsEq
    have extended := handsOver_extends known grid invariant timely handed accepted
    have own := getMeta_commitRows call.env.insert.now (defaultBucket symbol timeframe)
      (defaultBucket symbol timeframe) closed state.store
    rw [if_pos rfl] at own
    refine ⟨?_, ?_, ?_⟩
    · rw [poll, result, storedTimes_commitRows_self]
      exact extended.1
    · intro absent
      rw [poll, result, own] at absent
      cases absent
    · intro summary found
      rw [poll, result, own] at found
      cases found
      rw [poll, result, storedTimes_commitRows_self]
      rcases (newestTime_spec accepted.nonempty).1 with ⟨bar, member, equal⟩
      exact ⟨extended.2, equal ▸ accepted.isClosed member⟩

end HybridDataSvc
