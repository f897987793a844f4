import HybridDataSvc.Cache.Runs

namespace HybridDataSvc

open Relational Transition

/-!
# The rows of `bars`

Every row that any sequence of writes can leave in `bars` has passed the
guards of `_insert_bars` for its own symbol and timeframe and was closed when
it was written.  A write never removes a key, never touches another bucket
and, if it raises, changes nothing; only `invalidate` removes rows.
-/

variable {F : Type} [PyFloat F]

/-- What the guards and the closed-bar filter establish about a stored row. -/
structure SoundRow (row : BarRow F) : Prop where
  inBand : isPlausible row.bucket.symbol row.close = true
  aligned : tsAligned row.ts row.bucket.timeframe = .ok true
  closed : exists barSecs, tfSeconds row.bucket.timeframe = .ok barSecs ∧
    row.ts + barSecs ≤ row.fetchedAt

/-- Every row of `bars` is sound. -/
def SoundBars (store : Store F) : Prop := forall row, row ∈ store.bars.rows -> SoundRow row

theorem soundBars_empty : SoundBars (Store.empty : Store F) := by
  intro row member
  cases member

theorem AcceptedBatch.soundRow {now : Int} {df : DataFrame F} {bucket : Bucket} {store : Store F}
    {barSecs : Int} {closed : List (Bar F)}
    (accepted : AcceptedBatch now df bucket store barSecs closed) {bar : Bar F}
    (member : bar ∈ closed) : SoundRow (bar.toRow now bucket) where
  inBand := accepted.inBand bar member
  aligned := accepted.aligned bar member
  closed := ⟨barSecs, accepted.known, accepted.isClosed member⟩

theorem step_soundBars (store : Store F) (action : CacheAction F) (sound : SoundBars store) :
    SoundBars (CacheAction.step store action) := by
  rcases CacheAction.step_cases store action with
    unchanged | ⟨bucket, df, env, barSecs, closed, _, accepted, _, result⟩ |
      ⟨symbol, timeframe, _, result⟩
  · rw [unchanged]
    exact sound
  · rw [result]
    intro row member
    rcases mem_bars_commitRows member with ⟨bar, barMem, rfl⟩ | old
    · exact accepted.soundRow barMem
    · exact sound row old
  · rw [result]
    intro row member
    exact sound row ((mem_bars_invalidate _ store row).mp member).1

/-- A closed bar that is outside the band of its symbol or off the grid makes
`_insert_bars` refuse the whole frame. -/
theorem insertBars_unchanged_of_violation {env : InsertEnv} {rows : List (Bar F)} {bucket : Bucket}
    {store : Store F} {barSecs : Int} {bar : Bar F}
    (known : tfSeconds bucket.timeframe = .ok barSecs)
    (member : bar ∈ closedBars barSecs env.now rows)
    (violation : isPlausible bucket.symbol bar.close = false ∨
      tsAligned bar.time bucket.timeframe ≠ .ok true) :
    (insertBars env (.ohlcv rows) bucket store).store = store := by
  rcases insertBars_cases env (.ohlcv rows) bucket store with
    unchanged | ⟨otherSecs, closed, accepted, _, _⟩
  · exact unchanged.1
  · have secsEq := Except.ok.inj (accepted.known.symm.trans known)
    rcases accepted.rows with ⟨frameRows, frameEq, closedEq⟩
    cases frameEq
    rw [← secsEq, ← closedEq] at member
    rcases violation with outOfBand | misaligned
    · rw [accepted.inBand bar member] at outOfBand
      cases outOfBand
    · exact absurd (accepted.aligned bar member) misaligned

/-- The two tables show the same rows of a bucket. -/
def SameBucket (before after : Store F) (bucket : Bucket) : Prop :=
  after.bucketRows bucket = before.bucketRows bucket ∧ getMeta after bucket = getMeta before bucket

/-- A raise out of `get_bars` comes before any write, unless it is the
final read that fails. -/
theorem getBars_unchanged_of_raise {env : GetBarsEnv F} {symbol timeframe : String} {count : Int}
    {store : Store F} {raised : PyError} (readable : 0 ≤ count)
    (raises : (getBars env symbol timeframe count store).outcome = .error raised) :
    (getBars env symbol timeframe count store).store = store := by
  rcases getBars_cases env symbol timeframe count store with unchanged | ⟨path, df, handed⟩
  · exact unchanged.1
  · rcases getBars_of_handsOver handed with ⟨fetches, result⟩
    rw [result] at raises ⊢
    rcases insertBars_cases env.insert df (defaultBucket symbol timeframe) store with
      unchanged | ⟨barSecs, closed, _, _, inserted⟩
    · exact unchanged.1
    · have reads : ¬ count < 0 := Int.not_lt.mpr readable
      simp only [insertAndRead, inserted, readBars, if_neg reads] at raises
      cases raises

theorem getBars_keeps_times {env : GetBarsEnv F} {symbol timeframe : String} {count : Int}
    {store : Store F} {bucket : Bucket} {ts : Int} (stored : ts ∈ store.storedTimes bucket) :
    ts ∈ (getBars env symbol timeframe count store).store.storedTimes bucket := by
  rcases getBars_store_cases env symbol timeframe count store with
    unchanged | ⟨_, _, _, closed, _, _, _, result, _⟩
  · rw [unchanged.1]
    exact stored
  · rw [result]
    by_cases same : bucket = defaultBucket symbol timeframe
    · subst same
      exact (mem_storedTimes_commitRows_self _ _ closed store ts).mpr (Or.inl stored)
    · exact (mem_storedTimes_commitRows_of_ne same _ closed store ts).mpr stored

theorem getBars_sameBucket_of_ne {symbol timeframe : String} {bucket : Bucket}
    (different : bucket ≠ defaultBucket symbol timeframe) (env : GetBarsEnv F) (count : Int)
    (store : Store F) :
    SameBucket store (getBars env symbol timeframe count store).store bucket := by
  rcases getBars_store_cases env symbol timeframe count store with
    unchanged | ⟨_, _, _, closed, _, _, _, result, _⟩
  · rw [unchanged.1]
    exact ⟨rfl, rfl⟩
  · rw [result]
    refine ⟨bucketRows_commitRows_of_ne different _ closed store, ?_⟩
    rw [getMeta_commitRows, if_neg different]

/-- A call that raises leaves both tables exactly as they were; one that
returns keeps every stored key and every other bucket.  Reads are taken not
to fail, which for `LIMIT` means a count that is not negative. -/
theorem getBars_never_destroys (env : GetBarsEnv F) (symbol timeframe : String) (count : Int)
    (store : Store F) (readable : 0 ≤ count) :
    (forall raised, (getBars env symbol timeframe count store).outcome = .error raised ->
        (getBars env symbol timeframe count store).store = store) ∧
      forall df, (getBars env symbol timeframe count store).outcome = .ok df ->
        (forall bucket ts, ts ∈ store.storedTimes bucket ->
          ts ∈ (getBars env symbol timeframe count store).store.storedTimes bucket) ∧
        forall bucket, bucket ≠ defaultBucket symbol timeframe ->
          SameBucket store (getBars env symbol timeframe count store).store bucket := by
  refine ⟨fun raised => getBars_unchanged_of_raise readable, fun df _ => ⟨?_, ?_⟩⟩
  · intro bucket ts stored
    exact getBars_keeps_times stored
  · intro bucket different
    exact getBars_sameBucket_of_ne different env count store

/-- The overlap close differs and the second fetch fails: the call raises and
the seeded bar is still there. -/
theorem getBars_never_destroys_failing_refetch :
    let env : GetBarsEnv Rat :=
      { now := 110000, fetch := fun _ => .ok (.ohlcv [seedBar 0 11, seedBar 3600 11]),
        refetch := fun _ => .error (.dataFetchError "timed out"), insert := ⟨110000, true⟩ }
    let store := seededStore [seedBar 0 10]
    (getBars env "ADA" "1h" 300 store).outcome = .error (.dataFetchError "timed out") ∧
      (getBars env "ADA" "1h" 300 store).store = store := by
  intro env store
  have raises : (getBars env "ADA" "1h" 300 store).outcome =
      .error (.dataFetchError "timed out") := by decide +kernel
  exact ⟨raises, (getBars_never_destroys env "ADA" "1h" 300 store (by decide)).1 _ raises⟩

end HybridDataSvc
