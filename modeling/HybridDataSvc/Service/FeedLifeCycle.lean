import HybridDataSvc.Service.Loop
import HybridDataSvc.Fetcher.Writers

namespace HybridDataSvc

open Relational Transition

/-!
# The life cycle of a feed

A feed row is inserted by the seeding or by a request, promoted by the writer
and disabled by an operator, and none of the four waits for another.  So the
machine below takes the seeding and a cycle apart: a seeding decides the
status of its rows one statement at a time and shows them when it commits,
and a cycle polls and promotes by rows it has read at its start.  Everything
else may happen in between.

`RowChange` says once what a step can do to the row of a series; the promises
about the life cycle are read off it.
-/

variable {F : Type} [PyFloat F]

/-! ## The machine -/

/-- The tables with the work in progress: the rows of an open seeding, the
targets of the current cycle that are still to be polled, and the target whose
fetch has shown a bar and which is to be promoted. -/
structure LifeState (F : Type) where
  writer : Writer F
  seeding : List FeedRecord
  targets : List FeedRow
  shown : Option FeedRow

namespace LifeState

def boot (primary : Feed) : LifeState F := ⟨Writer.boot primary, [], [], none⟩

/-- The row of a series. -/
def feedAt (state : LifeState F) (k : String × String) : Option FeedRecord :=
  state.writer.feeds.lookup k

def store (state : LifeState F) : Store F := state.writer.system.store

/-- No cycle is under way. -/
def Idle (state : LifeState F) : Prop := state.targets = [] ∧ state.shown = none

instance (state : LifeState F) : Decidable state.Idle :=
  decidable_of_iff (state.targets.isEmpty = true ∧ state.shown.isNone = true) <| by
    rw [List.isEmpty_iff, Option.isNone_iff_eq_none, Idle]

/-- The current cycle still polls or promotes the series. -/
def Polls (state : LifeState F) (k : String × String) : Prop :=
  exists target, (target ∈ state.targets ∨ state.shown = some target) ∧
    (target.storageSymbol, target.timeframe) = k

end LifeState

/-- One step: a statement or the end of a seeding, a request, an update by the
operator, a part of a cycle, a new process, or a call of `get_bars` elsewhere. -/
inductive LifeAction (F : Type)
  | seedInsert (now : Int) (feed : Feed)
  | seedCommit
  | create (now : Int) (commits : Bool) (asset : AssetRow) (timeframes : List String)
      (tvSymbol : String)
  | upsert (now : Int) (storageSymbol timeframe tvSymbol : String)
  | disable (now : Int) (selects : String × String -> Bool)
  | cycleStart
  | fetch (env : FetchEnv F)
  | promote (now : Int) (commits : Bool)
  | restart (primary : Feed)
  | getBars (symbol timeframe : String) (count : Int) (env : GetBarsEnv F)

/-- `UPDATE feeds SET status = 'inactive'`, with any condition on the series. -/
def disableFeeds (now : Int) (selects : String × String -> Bool) (feeds : Table FeedRecord.key) :
    Table FeedRecord.key :=
  feeds.updateWhere (fun row => selects row.key)
    (fun row => { row with status := .inactive, updatedAt := now }) (fun _ => rfl)

theorem lookup_disableFeeds (now : Int) (selects : String × String -> Bool)
    (feeds : Table FeedRecord.key) (k : String × String) :
    (disableFeeds now selects feeds).lookup k =
      (feeds.lookup k).map (fun row =>
        if selects row.key then { row with status := .inactive, updatedAt := now } else row) :=
  Table.lookup_updateWhere feeds _ _ _ k

namespace LifeAction

/-- The state after one step. -/
def step (cfg : FetcherConfig F) (state : LifeState F) : LifeAction F -> LifeState F
  | .seedInsert now feed =>
      { state with seeding := state.seeding ++ [FeedsRepo.seedRow now state.store feed] }
  | .seedCommit =>
      { state with
        writer := { state.writer with feeds := state.writer.feeds.insertNewAll state.seeding }
        seeding := [] }
  | .create now commits asset timeframes tvSymbol =>
      { state with
        writer := state.writer.withCatalog
          (AssetsRepo.createWithFeeds now commits asset timeframes tvSymbol state.writer.db).2 }
  | .upsert now storageSymbol timeframe tvSymbol =>
      { state with
        writer := { state.writer with
          feeds := FeedsRepo.upsert now storageSymbol timeframe tvSymbol .pending
            state.writer.feeds } }
  | .disable now selects =>
      { state with
        writer := { state.writer with feeds := disableFeeds now selects state.writer.feeds } }
  | .cycleStart =>
      if state.Idle then
        { state with targets := FeedsRepo.pollingTargets state.writer.feeds }
      else state
  | .fetch env =>
      match state.shown, state.targets with
      | none, row :: rest =>
          let fetched := fetchTarget cfg env row state.writer
          { state with
            writer := fetched.2
            targets := rest
            shown := if fetched.1 then some row else none }
      | _, _ => state
  | .promote now commits =>
      match state.shown with
      | some row =>
          { state with writer := promoteTarget now commits row state.writer, shown := none }
      | none => state
  | .restart primary =>
      -- an open seeding is rolled back, the rest of the cycle is lost
      { writer := { state.writer with
          system := { state.writer.system with fetcher := DataFetcher.init primary } }
        seeding := [], targets := [], shown := none }
  | .getBars symbol timeframe count env =>
      { state with
        writer := state.writer.withStore
          (HybridDataSvc.getBars env symbol timeframe count state.store).store }

/-- A step of the operator, not of the code. -/
def ByOperator : LifeAction F -> Prop
  | .disable _ _ => True
  | _ => False

end LifeAction

/-! ## The machine takes the steps of the code -/

/-- The statements of a seeding and its commit, with nothing in between, are
`seed_from_env`. -/
theorem run_seeding (cfg : FetcherConfig F) (now : Int) (envFeeds : List Feed)
    (state : LifeState F) :
    (run (LifeAction.step cfg) { state with seeding := [] }
        (envFeeds.map (LifeAction.seedInsert now) ++ [.seedCommit])).writer.feeds =
      (FeedsRepo.seedFromEnv now envFeeds state.writer.db).2.feeds := by
  have inserted : forall (feeds : List Feed) (seeding : List FeedRecord),
      run (LifeAction.step cfg) { state with seeding := seeding }
        (feeds.map (LifeAction.seedInsert now)) =
      { state with seeding := seeding ++ feeds.map (FeedsRepo.seedRow now state.store) } := by
    intro feeds
    induction feeds with
    | nil =>
        intro seeding
        rw [List.map_nil, List.map_nil, List.append_nil, run_nil]
    | cons feed rest ih =>
        intro seeding
        rw [List.map_cons, run_cons, List.map_cons, List.append_cons]
        exact ih _
  rw [run_append, inserted, List.nil_append]
  rfl

/-- A fetch and a promotion poll the next target. -/
theorem run_polling (cfg : FetcherConfig F) (env : FeedRow -> TargetEnv F) (writer : Writer F)
    (seeding : List FeedRecord) (row : FeedRow) (rest : List FeedRow) :
    run (LifeAction.step cfg) ⟨writer, seeding, row :: rest, none⟩
        [.fetch (env row).fetch, .promote (env row).markNow (env row).markCommits] =
      ⟨pollTarget cfg env writer row, seeding, rest, none⟩ := by
  cases shows : (fetchTarget cfg (env row).fetch row writer).1 with
  | false => simp [LifeAction.step, pollTarget, shows]
  | true => simp [LifeAction.step, pollTarget, shows]

/-- The steps of a cycle with nothing in between. -/
def cycleActions (env : FeedRow -> TargetEnv F) (targets : List FeedRow) : List (LifeAction F) :=
  targets.flatMap (fun row =>
    [.fetch (env row).fetch, .promote (env row).markNow (env row).markCommits])

/-- A cycle with nothing in between is a round of the main loop. -/
theorem run_cycle (cfg : FetcherConfig F) (pollIntervalS : Rat) (env : CycleEnv F)
    (writer : Writer F) (seeding : List FeedRecord) :
    run (LifeAction.step cfg) ⟨writer, seeding, [], none⟩
        (.cycleStart :: cycleActions env.target (FeedsRepo.pollingTargets writer.feeds)) =
      ⟨(pollCycle cfg pollIntervalS env writer).2, seeding, [], none⟩ := by
  have polled : forall (targets : List FeedRow) (current : Writer F),
      run (LifeAction.step cfg) ⟨current, seeding, targets, none⟩
        (cycleActions env.target targets) =
      ⟨targets.foldl (pollTarget cfg env.target) current, seeding, [], none⟩ := by
    intro targets
    induction targets with
    | nil =>
        intro current
        rfl
    | cons row rest ih =>
        intro current
        rw [cycleActions, List.flatMap_cons, run_append, run_polling]
        exact ih _
  rw [run_cons, LifeAction.step, if_pos ⟨rfl, rfl⟩]
  exact polled _ writer

/-! ## Stored bars -/

/-- The store has a bar of the series. -/
def HasBar (store : Store F) (k : String × String) : Prop :=
  exists row, row ∈ store.bars.rows ∧ row.bucket.symbol = k.1 ∧ row.bucket.timeframe = k.2

theorem HasBar.getBars {store : Store F} {k : String × String} (stored : HasBar store k)
    (env : GetBarsEnv F) (symbol timeframe : String) (count : Int) :
    HasBar (getBars env symbol timeframe count store).store k := by
  rcases stored with ⟨row, member, sameSymbol, sameTimeframe⟩
  have kept : row.ts ∈ (HybridDataSvc.getBars env symbol timeframe count
      store).store.storedTimes row.bucket := getBars_keeps_times ⟨row, member, rfl, rfl⟩
  rcases kept with ⟨later, laterMember, sameBucket, _⟩
  exact ⟨later, laterMember, by rw [sameBucket, sameSymbol], by rw [sameBucket, sameTimeframe]⟩

omit [PyFloat F] in
/-- A read that returns a bar finds it in the store. -/
theorem hasBar_of_readBars {store : Store F} {symbol timeframe : String} {count : Int}
    {rows : List (Bar F)}
    (reads : readBars store (defaultBucket symbol timeframe) count = .ok (.ohlcv rows))
    (nonempty : rows ≠ []) : HasBar store (symbol, timeframe) := by
  rcases List.exists_mem_of_ne_nil rows nonempty with ⟨bar, member⟩
  unfold readBars at reads
  by_cases negative : count < 0
  · rw [if_pos negative] at reads
    cases reads
  · rw [if_neg negative] at reads
    cases reads
    rcases List.mem_map.mp member with ⟨row, rowMember, _⟩
    have inBucket := List.mem_of_mem_take (List.mem_reverse.mp rowMember)
    have found := (Store.mem_bucketRows store _ row).mp ((mem_orderByDesc _ _ row).mp inBucket)
    exact ⟨row, found.1, by rw [found.2]; rfl, by rw [found.2]; rfl⟩

omit [PyFloat F] in
/-- The test of the seeding: a summary row means a stored bar. -/
theorem hasBar_of_hasBars {store : Store F} (agrees : MetadataAgrees store)
    {symbol timeframe : String} (summary : FeedsRepo.hasBars store symbol timeframe = true) :
    HasBar store (symbol, timeframe) := by
  rcases (FeedsRepo.hasBars_iff store symbol timeframe).mp summary with ⟨provider, present⟩
  rcases (agrees.present _).mp present with ⟨row, member, sameBucket⟩
  exact ⟨row, member, by rw [sameBucket], by rw [sameBucket]⟩

/-- A fetch whose frame shows a bar leaves one in the store. -/
theorem hasBar_of_fetchTarget {cfg : FetcherConfig F} {env : FetchEnv F} {row : FeedRow}
    {writer : Writer F} (shows : (fetchTarget cfg env row writer).1 = true) :
    HasBar (fetchTarget cfg env row writer).2.system.store (row.storageSymbol, row.timeframe) := by
  simp only [fetchTarget] at shows ⊢
  cases outcome : (DataFetcher.fetch cfg env (feedRowToFeed row) writer.system).outcome with
  | error raised =>
      rw [outcome] at shows
      cases shows
  | ok df =>
      rw [outcome] at shows
      cases df with
      | noColumns => cases shows
      | ohlcv rows =>
          apply hasBar_of_readBars (fetch_reads outcome)
          rintro rfl
          cases shows

/-! ## What a step does to a row -/

/-- The row of a series before and after a step, over the store after it. -/
inductive RowChange (store : Store F) (k : String × String) (byOperator : Prop) :
    Option FeedRecord -> Option FeedRecord -> Prop
  | none (row : Option FeedRecord) : RowChange store k byOperator row row
  | added {row : FeedRecord} (bars : row.status = .active -> HasBar store k) :
      RowChange store k byOperator none (some row)
  | rewritten {old new : FeedRecord} (same : new.status = old.status) :
      RowChange store k byOperator (some old) (some new)
  | promoted {old new : FeedRecord} (pending : old.status = .pending)
      (active : new.status = .active) (bars : HasBar store k) :
      RowChange store k byOperator (some old) (some new)
  | disabled {old new : FeedRecord} (operator : byOperator) (inactive : new.status = .inactive) :
      RowChange store k byOperator (some old) (some new)

/-- What the steps rely on: the summaries agree with the bars, and a series
that is active, is seeded as active or is about to be promoted has a bar. -/
structure LifeInv (state : LifeState F) : Prop where
  agrees : MetadataAgrees state.store
  active : forall k row, state.feedAt k = some row -> row.status = .active ->
    HasBar state.store k
  seeding : forall row, row ∈ state.seeding -> row.status = .active ->
    HasBar state.store row.key
  shown : forall row, state.shown = some row ->
    HasBar state.store (row.storageSymbol, row.timeframe)

/-- A step changes the bar tables by one call of `get_bars`, if at all. -/
theorem step_store_cases (cfg : FetcherConfig F) (state : LifeState F) (action : LifeAction F) :
    (LifeAction.step cfg state action).store = state.store ∨
      exists env symbol timeframe count, (LifeAction.step cfg state action).store =
        (getBars env symbol timeframe count state.store).store := by
  cases action with
  | cycleStart =>
      left
      unfold LifeAction.step
      by_cases idle : state.Idle
      · simp only [if_pos idle]
        rfl
      · simp only [if_neg idle]
  | fetch env =>
      simp only [LifeAction.step]
      split
      · next row rest _ _ =>
          rcases fetch_store_cases cfg env (feedRowToFeed row) state.writer.system with
            unchanged | called
          · exact Or.inl unchanged
          · exact Or.inr ⟨_, _, _, _, called⟩
      · exact Or.inl rfl
  | promote now commits =>
      left
      simp only [LifeAction.step]
      split
      · next row _ =>
          rcases promoteTarget_cases now commits row state.writer with same | promoted
          · simp only [LifeState.store, same]
          · simp only [LifeState.store, promoted]
      · rfl
  | getBars symbol timeframe count env => exact Or.inr ⟨env, symbol, timeframe, count, rfl⟩
  | _ => exact Or.inl rfl

theorem HasBar.step {state : LifeState F} {k : String × String} (stored : HasBar state.store k)
    (cfg : FetcherConfig F) (action : LifeAction F) :
    HasBar (LifeAction.step cfg state action).store k := by
  rcases step_store_cases cfg state action with same | ⟨env, symbol, timeframe, count, called⟩
  · rw [same]
    exact stored
  · rw [called]
    exact stored.getBars env symbol timeframe count

section RowChange

variable {store : Store F} {k : String × String} {byOperator : Prop}

omit [PyFloat F] in
/-- Rows that give way to the ones that are there, and are active only with a
bar. -/
theorem rowChange_insertNewAll (feeds : Table FeedRecord.key) {batch : List FeedRecord}
    (bars : forall row, row ∈ batch -> row.status = .active -> HasBar store row.key) :
    RowChange store k byOperator (feeds.lookup k) ((feeds.insertNewAll batch).lookup k) := by
  rw [Table.lookup_insertNewAll]
  cases stored : feeds.lookup k with
  | some old => exact .none _
  | none =>
      cases first : Table.firstUnder FeedRecord.key batch k with
      | none => exact .none _
      | some row =>
          have spec := Table.mem_of_firstUnder first
          refine .added ?_
          rw [← spec.2]
          exact bars row spec.1

omit [PyFloat F] in
theorem rowChange_createWithFeeds (now : Int) (commits : Bool) (asset : AssetRow)
    (timeframes : List String) (tvSymbol : String) (db : Database F) :
    RowChange store k byOperator (db.feeds.lookup k)
      ((AssetsRepo.createWithFeeds now commits asset timeframes tvSymbol db).2.feeds.lookup k) := by
  cases commits with
  | false => exact .none _
  | true =>
      cases existing : db.assets.lookup asset.symbol with
      | some found =>
          simp only [AssetsRepo.createWithFeeds, existing, if_true]
          exact .none _
      | none =>
          simp only [AssetsRepo.createWithFeeds, existing, if_true]
          apply rowChange_insertNewAll db.feeds
          intro row member active
          rcases List.mem_map.mp member with ⟨timeframe, _, rfl⟩
          cases active

omit [PyFloat F] in
theorem rowChange_upsert (now : Int) (storageSymbol timeframe tvSymbol : String)
    (feeds : Table FeedRecord.key) :
    RowChange store k byOperator (feeds.lookup k)
      ((FeedsRepo.upsert now storageSymbol timeframe tvSymbol .pending feeds).lookup k) := by
  rw [FeedsRepo.lookup_upsert]
  by_cases same : k = (storageSymbol, timeframe)
  · rw [if_pos same]
    cases feeds.lookup k with
    | none => exact .added (fun impossible => by cases impossible)
    | some old => exact .rewritten rfl
  · rw [if_neg same]
    exact .none _

omit [PyFloat F] in
theorem rowChange_disableFeeds (now : Int) (selects : String × String -> Bool)
    (feeds : Table FeedRecord.key) (operator : byOperator) :
    RowChange store k byOperator (feeds.lookup k)
      ((disableFeeds now selects feeds).lookup k) := by
  rw [lookup_disableFeeds]
  cases feeds.lookup k with
  | none => exact .none _
  | some old =>
      rw [Option.map_some]
      by_cases selected : selects old.key = true
      · rw [if_pos selected]
        exact .disabled operator rfl
      · rw [if_neg selected]
        exact .none _

omit [PyFloat F] in
/-- A promotion concerns the series it is for, and its status at the time of
the update. -/
theorem rowChange_markActive (now : Int) (storageSymbol timeframe : String)
    (feeds : Table FeedRecord.key) (bars : HasBar store (storageSymbol, timeframe)) :
    RowChange store k byOperator (feeds.lookup k)
      ((FeedsRepo.markActive now storageSymbol timeframe feeds).lookup k) := by
  rw [FeedsRepo.lookup_markActive]
  cases stored : feeds.lookup k with
  | none => exact .none _
  | some old =>
      rw [Option.map_some]
      by_cases promoted : FeedsRepo.promotable storageSymbol timeframe old = true
      · rw [if_pos promoted]
        simp only [FeedsRepo.promotable, Bool.and_eq_true, decide_eq_true_eq] at promoted
        have oldKey := Table.key_of_lookup stored
        rw [FeedRecord.key, promoted.1.1, promoted.1.2] at oldKey
        rw [oldKey] at bars
        exact .promoted promoted.2 rfl bars
      · rw [if_neg promoted]
        exact .none _

end RowChange

/-- The inversion of a step, for the row of one series. -/
theorem step_rowChange (cfg : FetcherConfig F) {state : LifeState F} (inv : LifeInv state)
    (action : LifeAction F) (k : String × String) :
    RowChange state.store k action.ByOperator (state.feedAt k)
      ((LifeAction.step cfg state action).feedAt k) := by
  cases action with
  | seedCommit => exact rowChange_insertNewAll state.writer.feeds inv.seeding
  | create now commits asset timeframes tvSymbol =>
      exact rowChange_createWithFeeds now commits asset timeframes tvSymbol state.writer.db
  | upsert now storageSymbol timeframe tvSymbol =>
      exact rowChange_upsert now storageSymbol timeframe tvSymbol state.writer.feeds
  | disable now selects => exact rowChange_disableFeeds now selects state.writer.feeds trivial
  | cycleStart =>
      unfold LifeAction.step
      by_cases idle : state.Idle
      · simp only [if_pos idle]
        exact .none _
      · simp only [if_neg idle]
        exact .none _
  | fetch env =>
      simp only [LifeAction.step]
      split <;> exact .none _
  | promote now commits =>
      simp only [LifeAction.step]
      split
      · next row shown =>
          rcases promoteTarget_cases now commits row state.writer with same | promoted
          · simp only [LifeState.feedAt, same]
            exact .none _
          · simp only [LifeState.feedAt, promoted]
            exact rowChange_markActive now row.storageSymbol row.timeframe state.writer.feeds
              (inv.shown row shown)
      · exact .none _
  | _ => exact .none _

/-! ## The invariant along runs -/

omit [PyFloat F] in
theorem lifeInv_boot (primary : Feed) : LifeInv (LifeState.boot primary : LifeState F) where
  agrees := metadataAgrees_empty
  active := by
    intro k row impossible
    cases impossible
  seeding := by
    intro row impossible
    cases impossible
  shown := by
    intro row impossible
    cases impossible

/-- The rows of an open seeding are decided by the store of their statement. -/
theorem step_seeding (cfg : FetcherConfig F) {state : LifeState F} (inv : LifeInv state)
    (action : LifeAction F) {row : FeedRecord}
    (member : row ∈ (LifeAction.step cfg state action).seeding) (active : row.status = .active) :
    HasBar state.store row.key := by
  cases action with
  | seedInsert now feed =>
      rcases List.mem_append.mp member with before | added
      · exact inv.seeding row before active
      · rw [List.mem_singleton.mp added] at active ⊢
        cases bars : FeedsRepo.hasBars state.store feed.symbol feed.timeframe with
        | true => exact hasBar_of_hasBars inv.agrees bars
        | false => simp [FeedsRepo.seedRow, bars] at active
  | seedCommit => cases member
  | restart primary => cases member
  | cycleStart =>
      unfold LifeAction.step at member
      by_cases idle : state.Idle
      · rw [if_pos idle] at member
        exact inv.seeding row member active
      · rw [if_neg idle] at member
        exact inv.seeding row member active
  | fetch env =>
      simp only [LifeAction.step] at member
      split at member <;> exact inv.seeding row member active
  | promote now commits =>
      simp only [LifeAction.step] at member
      split at member <;> exact inv.seeding row member active
  | _ => exact inv.seeding row member active

/-- The target to be promoted was there before, or its fetch has just shown a
bar. -/
theorem step_shown (cfg : FetcherConfig F) {state : LifeState F} (inv : LifeInv state)
    (action : LifeAction F) {row : FeedRow}
    (shown : (LifeAction.step cfg state action).shown = some row) :
    HasBar (LifeAction.step cfg state action).store (row.storageSymbol, row.timeframe) := by
  cases action with
  | fetch env =>
      simp only [LifeAction.step] at shown ⊢
      split at shown
      · next target rest noneShown targets =>
          by_cases shows : (fetchTarget cfg env target state.writer).1 = true
          · rw [if_pos shows, Option.some_inj] at shown
            rw [← shown]
            exact hasBar_of_fetchTarget shows
          · rw [if_neg shows] at shown
            cases shown
      · exact inv.shown row shown
  | promote now commits =>
      simp only [LifeAction.step] at shown
      split at shown
      · cases shown
      · next none_shown =>
          rw [none_shown] at shown
          cases shown
  | restart primary => cases shown
  | cycleStart =>
      have before : state.shown = some row := by
        unfold LifeAction.step at shown
        by_cases idle : state.Idle
        · rw [if_pos idle] at shown
          exact shown
        · rw [if_neg idle] at shown
          exact shown
      exact (inv.shown row before).step cfg .cycleStart
  | getBars symbol timeframe count env =>
      exact (inv.shown row shown).step cfg (.getBars symbol timeframe count env)
  | _ => exact inv.shown row shown

theorem step_lifeInv (cfg : FetcherConfig F) (state : LifeState F) (action : LifeAction F)
    (inv : LifeInv state) : LifeInv (LifeAction.step cfg state action) where
  agrees := by
    rcases step_store_cases cfg state action with same | ⟨env, symbol, timeframe, count, called⟩
    · rw [same]
      exact inv.agrees
    · rw [called]
      exact step_metadataAgrees state.store (.getBars symbol timeframe count env) inv.agrees
  active := by
    intro k row found active
    have change := step_rowChange cfg inv action k
    rw [found] at change
    refine HasBar.step ?_ cfg action
    generalize before : state.feedAt k = old at change
    cases change with
    | none => exact inv.active k row before active
    | added bars => exact bars active
    | rewritten same => exact inv.active k _ before (same.symm.trans active)
    | promoted pending _ bars => exact bars
    | disabled operator inactive =>
        rw [inactive] at active
        cases active
  seeding := fun _ member active => (step_seeding cfg inv action member active).step cfg action
  shown := fun _ shown => step_shown cfg inv action shown

theorem run_lifeInv (cfg : FetcherConfig F) (primary : Feed) (actions : List (LifeAction F)) :
    LifeInv (run (LifeAction.step cfg) (LifeState.boot primary) actions) :=
  invariant_run_always (LifeAction.step cfg) (step_lifeInv cfg) (lifeInv_boot primary) actions

/-- A row that is there stays, with its status unless the code promotes it or
the operator disables it. -/
theorem step_keeps_row (cfg : FetcherConfig F) {state : LifeState F} (inv : LifeInv state)
    (action : LifeAction F) {k : String × String} {row : FeedRecord}
    (found : state.feedAt k = some row) :
    exists later, (LifeAction.step cfg state action).feedAt k = some later ∧
      (later.status = row.status ∨ (row.status = .pending ∧ later.status = .active) ∨
        (action.ByOperator ∧ later.status = .inactive)) := by
  have change := step_rowChange cfg inv action k
  rw [found] at change
  generalize after : (LifeAction.step cfg state action).feedAt k = new at change
  cases change with
  | none => exact ⟨row, rfl, Or.inl rfl⟩
  | rewritten same => exact ⟨_, rfl, Or.inl same⟩
  | promoted pending active _ => exact ⟨_, rfl, Or.inr (Or.inl ⟨pending, active⟩)⟩
  | disabled operator inactive => exact ⟨_, rfl, Or.inr (Or.inr ⟨operator, inactive⟩)⟩

theorem run_keeps_row (cfg : FetcherConfig F) {state : LifeState F} (inv : LifeInv state)
    {k : String × String} {row : FeedRecord} (found : state.feedAt k = some row)
    (later : List (LifeAction F)) :
    exists after, (run (LifeAction.step cfg) state later).feedAt k = some after := by
  induction later generalizing state row with
  | nil => exact ⟨row, found⟩
  | cons action rest ih =>
      rcases step_keeps_row cfg inv action found with ⟨next, stays, _⟩
      exact ih (step_lifeInv cfg state action inv) stays

/-! ## Disabled feeds -/

/-- The series is disabled. -/
def Disabled (state : LifeState F) (k : String × String) : Prop :=
  exists row, state.feedAt k = some row ∧ row.status = .inactive

theorem step_disabled (cfg : FetcherConfig F) {state : LifeState F} (inv : LifeInv state)
    (action : LifeAction F) {k : String × String} (disabled : Disabled state k) :
    Disabled (LifeAction.step cfg state action) k := by
  rcases disabled with ⟨row, found, inactive⟩
  rcases step_keeps_row cfg inv action found with
    ⟨later, stays, same | ⟨pending, _⟩ | ⟨_, still⟩⟩
  · exact ⟨later, stays, same.trans inactive⟩
  · rw [inactive] at pending
    cases pending
  · exact ⟨later, stays, still⟩

theorem run_disabled (cfg : FetcherConfig F) {state : LifeState F} (inv : LifeInv state)
    {k : String × String} (disabled : Disabled state k) (later : List (LifeAction F)) :
    Disabled (run (LifeAction.step cfg) state later) k := by
  induction later generalizing state with
  | nil => exact disabled
  | cons action rest ih =>
      exact ih (step_lifeInv cfg state action inv) (step_disabled cfg inv action disabled)

/-- A cycle does not read a disabled row, so no step makes one of its targets. -/
theorem step_not_polls (cfg : FetcherConfig F) {state : LifeState F} (action : LifeAction F)
    {k : String × String} (disabled : Disabled state k) (unpolled : ¬ state.Polls k) :
    ¬ (LifeAction.step cfg state action).Polls k := by
  rintro ⟨target, polled, same⟩
  cases action with
  | cycleStart =>
      unfold LifeAction.step at polled
      by_cases idle : state.Idle
      · simp only [if_pos idle] at polled
        rcases polled with listed | shown
        · rcases (FeedsRepo.mem_pollingTargets _ _).mp listed with ⟨row, member, rfl, status⟩
          rcases disabled with ⟨found, foundAt, inactive⟩
          have stored : state.feedAt k = some row :=
            (Table.lookup_eq_some_iff state.writer.feeds k row).mpr ⟨member, same⟩
          rw [stored, Option.some_inj] at foundAt
          rw [← foundAt] at inactive
          exact status inactive
        · exact unpolled ⟨target, Or.inr shown, same⟩
      · simp only [if_neg idle] at polled
        exact unpolled ⟨target, polled, same⟩
  | fetch env =>
      simp only [LifeAction.step] at polled
      split at polled
      · next row rest _ targets =>
          refine unpolled ⟨target, Or.inl ?_, same⟩
          rw [targets]
          rcases polled with later | shown
          · exact List.mem_cons_of_mem row later
          · by_cases shows : (fetchTarget cfg env row state.writer).1 = true
            · rw [if_pos shows, Option.some_inj] at shown
              rw [shown]
              exact List.mem_cons_self
            · rw [if_neg shows] at shown
              cases shown
      · exact unpolled ⟨target, polled, same⟩
  | promote now commits =>
      simp only [LifeAction.step] at polled
      split at polled
      · rcases polled with listed | shown
        · exact unpolled ⟨target, Or.inl listed, same⟩
        · cases shown
      · exact unpolled ⟨target, polled, same⟩
  | restart primary =>
      rcases polled with listed | shown
      · cases listed
      · cases shown
  | _ => exact unpolled ⟨target, polled, same⟩

theorem run_not_polls (cfg : FetcherConfig F) {state : LifeState F} (inv : LifeInv state)
    {k : String × String} (disabled : Disabled state k) (unpolled : ¬ state.Polls k)
    (later : List (LifeAction F)) : ¬ (run (LifeAction.step cfg) state later).Polls k := by
  induction later generalizing state with
  | nil => exact unpolled
  | cons action rest ih =>
      exact ih (step_lifeInv cfg state action inv) (step_disabled cfg inv action disabled)
        (step_not_polls cfg action disabled unpolled)

omit [PyFloat F] in
theorem LifeState.Idle.not_polls {state : LifeState F} (idle : state.Idle)
    (k : String × String) : ¬ state.Polls k := by
  rintro ⟨target, listed | shown, _⟩
  · rw [idle.1] at listed
    cases listed
  · rw [idle.2] at shown
    cases shown

/-- In every state of every run: a row stays for good; the code leaves each
status or promotes it from pending to active; a disabled row stays disabled
and no cycle that starts after that polls it; and an active row has a bar. -/
theorem feed_life_cycle (cfg : FetcherConfig F) (primary : Feed) (actions : List (LifeAction F)) :
    let state := run (LifeAction.step cfg) (LifeState.boot primary) actions
    (forall k row, state.feedAt k = some row -> forall later,
      exists after, (run (LifeAction.step cfg) state later).feedAt k = some after) ∧
    (forall action : LifeAction F, ¬ action.ByOperator ->
      forall k row, state.feedAt k = some row ->
        exists after, (LifeAction.step cfg state action).feedAt k = some after ∧
          (after.status = row.status ∨ (row.status = .pending ∧ after.status = .active))) ∧
    (forall k, Disabled state k ->
      (forall later, Disabled (run (LifeAction.step cfg) state later) k) ∧
      forall middle, (run (LifeAction.step cfg) state middle).Idle ->
        forall later, ¬ (run (LifeAction.step cfg) state (middle ++ later)).Polls k) ∧
    forall k row, state.feedAt k = some row -> row.status = .active -> HasBar state.store k := by
  intro state
  have inv : LifeInv state := run_lifeInv cfg primary actions
  refine ⟨?rows, ?changes, ?inactive, inv.active⟩
  case rows =>
    intro k row found later
    exact run_keeps_row cfg inv found later
  case changes =>
    intro action code k row found
    rcases step_keeps_row cfg inv action found with ⟨after, stays, same | promoted | ⟨operator, _⟩⟩
    · exact ⟨after, stays, Or.inl same⟩
    · exact ⟨after, stays, Or.inr promoted⟩
    · exact absurd operator code
  case inactive =>
    intro k disabled
    refine ⟨run_disabled cfg inv disabled, ?_⟩
    intro middle idle later
    have middleInv : LifeInv (run (LifeAction.step cfg) state middle) :=
      invariant_run_always (LifeAction.step cfg) (step_lifeInv cfg) inv middle
    rw [run_append]
    exact run_not_polls cfg middleInv (run_disabled cfg inv disabled middle) (idle.not_polls k) later

end HybridDataSvc
