import HybridDataSvc.Cache.Runs

namespace HybridDataSvc

open Relational Transition

/-!
# The summary rows of `cache_meta`

A summary row is written by the transaction that writes the bars, so as long
as writes follow one another it exists exactly for the buckets with bars, and
its count is the number of those bars.  Its `last_bar_ts` is different: it is
overwritten from the newest time of the batch, not of the table.  It always
names a stored bar, but it is the newest one only while every batch reaches
at least as far as what is already stored; `ReachesNewest` is that condition,
and it is exact.
-/

variable {F : Type}

/-- The summary rows agree with the table they summarise. -/
structure MetadataAgrees (store : Store F) : Prop where
  present : forall bucket, (getMeta store bucket).isSome = true ↔
    exists row, row ∈ store.bars.rows ∧ row.bucket = bucket
  counted : forall bucket summary, getMeta store bucket = some summary ->
    summary.barCount = (store.bucketRows bucket).length
  stored : forall bucket summary, getMeta store bucket = some summary ->
    summary.lastBarTs ∈ store.storedTimes bucket

theorem metadataAgrees_empty : MetadataAgrees (Store.empty : Store F) where
  present := by
    intro bucket
    simp [getMeta, Store.empty]
  counted := by
    intro bucket summary impossible
    cases impossible
  stored := by
    intro bucket summary impossible
    cases impossible

theorem exists_row_iff_storedTimes (store : Store F) (bucket : Bucket) :
    (exists row, row ∈ store.bars.rows ∧ row.bucket = bucket) ↔
      (store.storedTimes bucket).Nonempty := by
  constructor
  · rintro ⟨row, member, equal⟩
    exact ⟨row.ts, row, member, equal, rfl⟩
  · rintro ⟨ts, row, member, equal, _⟩
    exact ⟨row, member, equal⟩

/-- A batch leaves the time it records as the newest of the batch stored. -/
theorem newestTime_mem_storedTimes {closed : List (Bar F)} (nonempty : closed ≠ []) (now : Int)
    (bucket : Bucket) (store : Store F) :
    newestTime closed ∈ (commitRows now bucket closed store).storedTimes bucket := by
  rcases (newestTime_spec nonempty).1 with ⟨bar, member, equal⟩
  exact (mem_storedTimes_commitRows_self now bucket closed store _).mpr
    (Or.inr ⟨bar, member, equal⟩)

theorem commitRows_metadataAgrees {closed : List (Bar F)} (nonempty : closed ≠ []) (now : Int)
    (bucket : Bucket) {store : Store F} (agrees : MetadataAgrees store) :
    MetadataAgrees (commitRows now bucket closed store) where
  present := by
    intro other
    rw [exists_row_iff_storedTimes, getMeta_commitRows]
    by_cases same : other = bucket
    · subst same
      rw [if_pos rfl]
      exact ⟨fun _ => ⟨_, newestTime_mem_storedTimes nonempty now other store⟩, fun _ => rfl⟩
    · rw [if_neg same, agrees.present other, exists_row_iff_storedTimes]
      rw [storedTimes_commitRows_of_ne same]
  counted := by
    intro other summary found
    rw [getMeta_commitRows] at found
    by_cases same : other = bucket
    · rw [if_pos same] at found
      cases found
      rw [same]
    · rw [if_neg same] at found
      rw [bucketRows_commitRows_of_ne same]
      exact agrees.counted other summary found
  stored := by
    intro other summary found
    rw [getMeta_commitRows] at found
    by_cases same : other = bucket
    · rw [if_pos same] at found
      cases found
      rw [same]
      exact newestTime_mem_storedTimes nonempty now bucket store
    · rw [if_neg same] at found
      rw [mem_storedTimes_commitRows_of_ne same]
      exact agrees.stored other summary found

theorem invalidate_metadataAgrees (bucket : Bucket) {store : Store F}
    (agrees : MetadataAgrees store) : MetadataAgrees (invalidate bucket store) where
  present := by
    intro other
    rw [getMeta_invalidate]
    by_cases same : other = bucket
    · rw [if_pos same]
      constructor
      · intro impossible
        cases impossible
      · rintro ⟨row, member, equal⟩
        exact absurd (equal.trans same) ((mem_bars_invalidate bucket store row).mp member).2
    · rw [if_neg same, agrees.present other]
      constructor
      · rintro ⟨row, member, equal⟩
        exact ⟨row, (mem_bars_invalidate bucket store row).mpr
          ⟨member, fun clash => same (equal.symm.trans clash)⟩, equal⟩
      · rintro ⟨row, member, equal⟩
        exact ⟨row, ((mem_bars_invalidate bucket store row).mp member).1, equal⟩
  counted := by
    intro other summary found
    rw [getMeta_invalidate] at found
    by_cases same : other = bucket
    · rw [if_pos same] at found
      cases found
    · rw [if_neg same] at found
      rw [bucketRows_invalidate_of_ne same]
      exact agrees.counted other summary found
  stored := by
    intro other summary found
    rw [getMeta_invalidate] at found
    by_cases same : other = bucket
    · rw [if_pos same] at found
      cases found
    · rw [if_neg same] at found
      exact (mem_storedTimes_invalidate bucket other store _).mpr
        ⟨same, agrees.stored other summary found⟩

/-! ## When `last_bar_ts` is the newest stored bar -/

/-- `last_bar_ts` is `MAX(ts)` over the bucket's rows in `bars`. -/
def LastIsNewest (store : Store F) : Prop :=
  forall bucket summary, getMeta store bucket = some summary ->
    IsGreatest (store.storedTimes bucket) summary.lastBarTs

/-- For a batch the condition is exact. -/
theorem lastIsNewest_commitRows_iff {closed : List (Bar F)} (nonempty : closed ≠ []) (now : Int)
    (bucket : Bucket) {store : Store F} (newest : LastIsNewest store) :
    LastIsNewest (commitRows now bucket closed store) ↔
      forall ts, ts ∈ store.storedTimes bucket -> exists bar, bar ∈ closed ∧ ts ≤ bar.time := by
  have spec := newestTime_spec nonempty
  constructor
  · intro after ts stored
    have own := getMeta_commitRows now bucket bucket closed store
    rw [if_pos rfl] at own
    have upper := (after bucket _ own).2
      ((mem_storedTimes_commitRows_self now bucket closed store ts).mpr (Or.inl stored))
    rcases spec.1 with ⟨bar, member, equal⟩
    exact ⟨bar, member, equal ▸ upper⟩
  · intro reaches other summary found
    rw [getMeta_commitRows] at found
    by_cases same : other = bucket
    · rw [if_pos same] at found
      cases found
      subst same
      refine ⟨newestTime_mem_storedTimes nonempty now other store, ?_⟩
      intro ts stored
      rcases (mem_storedTimes_commitRows_self now other closed store ts).mp stored with
        old | ⟨bar, member, equal⟩
      · rcases reaches ts old with ⟨bar, member, later⟩
        exact Int.le_trans later (spec.2 bar member)
      · exact equal ▸ spec.2 bar member
    · rw [if_neg same] at found
      rw [storedTimes_commitRows_of_ne same]
      exact newest other summary found

theorem lastIsNewest_invalidate (bucket : Bucket) {store : Store F} (newest : LastIsNewest store) :
    LastIsNewest (invalidate bucket store) := by
  intro other summary found
  rw [getMeta_invalidate] at found
  by_cases same : other = bucket
  · rw [if_pos same] at found
    cases found
  · rw [if_neg same] at found
    have times : (invalidate bucket store).storedTimes other = store.storedTimes other := by
      ext ts
      rw [mem_storedTimes_invalidate]
      exact ⟨fun both => both.2, fun stored => ⟨same, stored⟩⟩
    rw [times]
    exact newest other summary found

/-! ## Runs of writes -/

variable [PyFloat F]

theorem step_metadataAgrees (store : Store F) (action : CacheAction F)
    (agrees : MetadataAgrees store) : MetadataAgrees (CacheAction.step store action) := by
  rcases CacheAction.step_cases store action with
    unchanged | ⟨bucket, df, env, barSecs, closed, _, accepted, _, result⟩ |
      ⟨symbol, timeframe, _, result⟩
  · rw [unchanged]
    exact agrees
  · rw [result]
    exact commitRows_metadataAgrees accepted.nonempty env.now bucket agrees
  · rw [result]
    exact invalidate_metadataAgrees _ agrees

/-- If the guards let the frame through, some closed bar of it is at least as
new as every stored bar of the bucket. -/
def BatchReachesNewest (env : InsertEnv) (df : DataFrame F) (bucket : Bucket) (store : Store F) :
    Prop :=
  env.commits = true -> forall barSecs closed,
    AcceptedBatch env.now df bucket store barSecs closed ->
      forall ts, ts ∈ store.storedTimes bucket -> exists bar, bar ∈ closed ∧ ts ≤ bar.time

/-- The condition on one write: only the refetch after an overlap mismatch and
a direct `_insert_bars` can bring a batch that ends before the stored bars. -/
def ReachesNewest (store : Store F) : CacheAction F -> Prop
  | .getBars symbol timeframe count env =>
      forall df, HandsOver env symbol timeframe count store .mismatch df ->
        BatchReachesNewest env.insert df (defaultBucket symbol timeframe) store
  | .insertBars bucket df env => BatchReachesNewest env df bucket store
  | .invalidate _ _ _ => True

/-- A cold bucket has no bar to fall behind, and appended bars are newer than
the last one; so a batch falls behind only on the two paths that
`ReachesNewest` looks at. -/
theorem reachesNewest_iff_batch {store : Store F} (agrees : MetadataAgrees store)
    (newest : LastIsNewest store) (action : CacheAction F) :
    ReachesNewest store action ↔
      forall bucket df env, CacheAction.Submits store action bucket df env ->
        BatchReachesNewest env df bucket store := by
  constructor
  · intro reaches bucket df env submitted
    cases submitted with
    | insertBars => exact reaches
    | @getBars symbol timeframe count env path df handed =>
        cases handed with
        | cold absent fetched =>
            intro _ barSecs closed accepted ts stored
            have present := (exists_row_iff_storedTimes store _).mpr ⟨ts, stored⟩
            have warm := (agrees.present _).mpr present
            rw [absent] at warm
            cases warm
        | @append summary barSecs rows warm known fetched valid someNew =>
            intro _ otherSecs closed accepted ts stored
            rcases accepted.rows with ⟨frameRows, frameEq, closedEq⟩
            cases frameEq
            rcases List.exists_mem_of_ne_nil closed accepted.nonempty with ⟨bar, member⟩
            have inFrame := member
            rw [closedEq, mem_closedBars, List.mem_filter] at inFrame
            have upper := (newest _ summary warm).2 stored
            exact ⟨bar, member, Int.le_trans upper (Int.le_of_lt (of_decide_eq_true inFrame.1.2))⟩
        | mismatch warm known fetched invalid refetched =>
            exact reaches df (.mismatch warm known fetched invalid refetched)
  · intro batches
    cases action with
    | getBars symbol timeframe count env =>
        intro df handed
        exact batches _ df env.insert (.getBars handed)
    | insertBars bucket df env => exact batches bucket df env .insertBars
    | invalidate symbol timeframe commits => trivial

theorem step_lastIsNewest_iff {store : Store F} (agrees : MetadataAgrees store)
    (newest : LastIsNewest store) (action : CacheAction F) :
    LastIsNewest (CacheAction.step store action) ↔ ReachesNewest store action := by
  rw [reachesNewest_iff_batch agrees newest]
  constructor
  · intro after bucket df env submitted commits barSecs closed accepted
    rw [CacheAction.step_of_submits submitted accepted commits] at after
    exact (lastIsNewest_commitRows_iff accepted.nonempty env.now bucket newest).mp after
  · intro batches
    rcases CacheAction.step_cases store action with
      unchanged | ⟨bucket, df, env, barSecs, closed, submitted, accepted, commits, result⟩ |
        ⟨symbol, timeframe, _, result⟩
    · rw [unchanged]
      exact newest
    · rw [result]
      exact (lastIsNewest_commitRows_iff accepted.nonempty env.now bucket newest).mpr
        (batches bucket df env submitted commits barSecs closed accepted)
    · rw [result]
      exact lastIsNewest_invalidate _ newest

/-- No write of the run moves the `last_bar_ts` of a bucket back.  A bucket
that `invalidate` empties has no `last_bar_ts` afterwards. -/
def NeverBackwards (actions : List (CacheAction F)) : Prop :=
  forall earlier action, earlier ++ [action] <+: actions ->
    forall bucket before after,
      getMeta (run CacheAction.step Store.empty earlier) bucket = some before ->
      getMeta (run CacheAction.step Store.empty (earlier ++ [action])) bucket = some after ->
      before.lastBarTs ≤ after.lastBarTs

/-- A step only adds times to a bucket whose summary it keeps. -/
theorem step_keeps_times (store : Store F) (action : CacheAction F) {bucket : Bucket}
    (warm : (getMeta (CacheAction.step store action) bucket).isSome = true) {ts : Int}
    (stored : ts ∈ store.storedTimes bucket) :
    ts ∈ (CacheAction.step store action).storedTimes bucket := by
  rcases CacheAction.step_cases store action with
    unchanged | ⟨target, df, env, barSecs, closed, _, _, _, result⟩ |
      ⟨symbol, timeframe, _, result⟩
  · rw [unchanged]
    exact stored
  · rw [result]
    by_cases same : bucket = target
    · subst same
      exact (mem_storedTimes_commitRows_self env.now bucket closed store ts).mpr (Or.inl stored)
    · exact (mem_storedTimes_commitRows_of_ne same env.now closed store ts).mpr stored
  · rw [result, getMeta_invalidate] at warm
    rw [result, mem_storedTimes_invalidate]
    refine ⟨?_, stored⟩
    intro same
    rw [if_pos same] at warm
    cases warm

end HybridDataSvc
