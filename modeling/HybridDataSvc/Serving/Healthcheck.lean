import HybridDataSvc.Cache.StoredBars
import HybridDataSvc.Serving.ProviderPrecedence

namespace HybridDataSvc

open Relational Transition

/-!
# The health of the container

`healthcheck.py` is what Docker runs to see whether the cache is warm.  It reads
the count that the last write has left in the summary, and no write but an
`invalidate` of the series can make that less.
-/

variable {F : Type}

namespace Healthcheck

/-- `SYMBOL` and `TIMEFRAME`. -/
def bucket (env : String -> Option String) : Bucket :=
  defaultBucket ((env "SYMBOL").getD "BTC/USDT:USDT") ((env "TIMEFRAME").getD "1h")

/-- `main`, the exit code.  The query may raise. -/
def main (env : String -> Option String) (database : Except PyError (Store F)) : Int :=
  match database with
  | .error _ => 1
  | .ok store =>
    match getMeta store (bucket env) with
    | none => 1
    | some summary => if 200 ≤ summary.barCount then 0 else 1

theorem main_eq_zero_iff (env : String -> Option String) (store : Store F) :
    main env (.ok store) = 0 ↔ 200 ≤ barCount store (bucket env) := by
  rw [barCount, main]
  cases getMeta store (bucket env) with
  | none => simp
  | some summary => simp

end Healthcheck

/-- The count that the summary has is that of the stored bars. -/
theorem barCount_of_agrees {store : Store F} (agrees : MetadataAgrees store) (bucket : Bucket) :
    barCount store bucket = (store.bucketRows bucket).length := by
  rw [barCount]
  cases found : getMeta store bucket with
  | none =>
      have without : store.bucketRows bucket = [] := by
        apply List.eq_nil_iff_forall_not_mem.mpr
        intro row member
        have present := (agrees.present bucket).mpr ⟨row, (store.mem_bucketRows _ row).mp member⟩
        rw [found] at present
        cases present
      rw [without]
      rfl
  | some summary => exact agrees.counted bucket summary found

/-- There are at least as many bars as times that are stored. -/
theorem length_le_bucketRows {store : Store F} {bucket : Bucket} {times : List Int}
    (different : times.Nodup) (stored : forall ts, ts ∈ times -> ts ∈ store.storedTimes bucket) :
    times.length ≤ (store.bucketRows bucket).length := by
  have inside : times ⊆ (store.bucketRows bucket).map BarRow.ts := by
    intro ts member
    rcases stored ts member with ⟨row, rowMem, own, same⟩
    exact List.mem_map.mpr ⟨row, (store.mem_bucketRows bucket row).mpr ⟨rowMem, own⟩, same⟩
  have shorter := (List.subperm_of_subset different inside).length_le
  rw [List.length_map] at shorter
  exact shorter

/-! ## Later writes -/

variable [PyFloat F]

/-- A write that is no `invalidate` of the bucket keeps its bars. -/
theorem CacheAction.step_storedTimes_subset {action : CacheAction F} {bucket : Bucket}
    (kept : forall symbol timeframe, action = .invalidate symbol timeframe true ->
      bucket ≠ defaultBucket symbol timeframe) (store : Store F) :
    store.storedTimes bucket ⊆ (CacheAction.step store action).storedTimes bucket := by
  intro ts stored
  rcases CacheAction.step_cases store action with
    unchanged | ⟨target, df, env, barSecs, closed, _, _, _, result⟩ |
      ⟨symbol, timeframe, invalidates, result⟩
  · rw [unchanged]
    exact stored
  · rw [result]
    by_cases same : bucket = target
    · subst same
      exact (mem_storedTimes_commitRows_self env.now bucket closed store ts).mpr (Or.inl stored)
    · exact (mem_storedTimes_commitRows_of_ne same env.now closed store ts).mpr stored
  · rw [result, mem_storedTimes_invalidate]
    exact ⟨kept symbol timeframe invalidates, stored⟩

/-- So do many of them. -/
theorem CacheAction.run_storedTimes_subset {later : List (CacheAction F)} {bucket : Bucket}
    (kept : forall symbol timeframe, .invalidate symbol timeframe true ∈ later ->
      bucket ≠ defaultBucket symbol timeframe) (store : Store F) :
    store.storedTimes bucket ⊆ (run CacheAction.step store later).storedTimes bucket := by
  induction later generalizing store with
  | nil => exact fun ts stored => stored
  | cons action rest ih =>
      intro ts stored
      have here : forall symbol timeframe, action = .invalidate symbol timeframe true ->
          bucket ≠ defaultBucket symbol timeframe := by
        intro symbol timeframe same
        exact kept symbol timeframe (same ▸ List.mem_cons_self)
      apply ih (fun symbol timeframe member => kept symbol timeframe (List.mem_cons_of_mem _ member))
      exact CacheAction.step_storedTimes_subset here store stored

omit [PyFloat F] in
/-- `HealthCheck` says that a series of the default provider with enough bars is ready. -/
theorem healthCheck_ready {store : Store F} (agrees : MetadataAgrees store)
    {symbol timeframe requested : String} {minBars : Int}
    (named : requested = "" ∨ requested = defaultProvider) (positive : 0 < barCount store
      (defaultBucket symbol timeframe))
    (enough : BarServiceServicer.orDefault minBars 200 ≤
      barCount store (defaultBucket symbol timeframe)) :
    exists response, BarServiceServicer.healthCheck store ⟨symbol, timeframe, minBars, requested⟩ =
      .ok response ∧ response.ready = true := by
  have stored : HasBars store symbol timeframe defaultProvider := by
    rw [barCount_of_agrees agrees] at positive
    rcases List.exists_mem_of_length_pos positive with ⟨row, member⟩
    exact ⟨row, (store.mem_bucketRows _ row).mp member⟩
  have resolved : BarServiceServicer.resolve store symbol timeframe requested =
      .ok defaultProvider := by
    rcases named with rfl | rfl
    · exact resolve_of_defaultBars agrees stored
    · exact resolve_listed store _ _ List.mem_cons_self
  simp only [BarServiceServicer.healthCheck, resolved]
  exact ⟨_, rfl, decide_eq_true enough⟩

/-- In every reachable state the check passes exactly when 200 bars of the series are
stored.  It goes on to pass after all later writes as long as none of them
invalidates the series, and the service then says that the series is ready, whether
it is asked for the provider or for none, for up to 200 bars. -/
theorem health_sticks (env : String -> Option String) (actions later : List (CacheAction F))
    (kept : forall symbol timeframe, .invalidate symbol timeframe true ∈ later ->
      Healthcheck.bucket env ≠ defaultBucket symbol timeframe) :
    let store := run CacheAction.step Store.empty actions
    let after := run CacheAction.step store later
    (Healthcheck.main env (.ok store) = 0 ↔
        200 ≤ (store.bucketRows (Healthcheck.bucket env)).length) ∧
      (Healthcheck.main env (.ok store) = 0 ->
        Healthcheck.main env (.ok after) = 0 ∧
          forall requested, requested = "" ∨ requested = defaultProvider ->
            forall minBars, minBars ≤ 200 -> exists response,
              BarServiceServicer.healthCheck after
                  ⟨(Healthcheck.bucket env).symbol, (Healthcheck.bucket env).timeframe, minBars,
                    requested⟩ = .ok response ∧
                response.ready = true) := by
  intro store after
  have agrees : MetadataAgrees store :=
    invariant_run_always CacheAction.step step_metadataAgrees metadataAgrees_empty actions
  have agreesAfter : MetadataAgrees after :=
    invariant_run_always CacheAction.step step_metadataAgrees agrees later
  have exactly : Healthcheck.main env (.ok store) = 0 ↔
      200 ≤ (store.bucketRows (Healthcheck.bucket env)).length := by
    rw [Healthcheck.main_eq_zero_iff, barCount_of_agrees agrees]
  refine ⟨exactly, ?_⟩
  intro healthy
  have enough : 200 ≤ barCount after (Healthcheck.bucket env) := by
    rw [barCount_of_agrees agreesAfter]
    exact (exactly.mp healthy).trans
      (Store.length_bucketRows_le (CacheAction.run_storedTimes_subset kept store))
  refine ⟨(Healthcheck.main_eq_zero_iff env after).mpr enough, ?_⟩
  intro requested named minBars few
  have asked : BarServiceServicer.orDefault minBars 200 ≤ 200 := by
    rw [BarServiceServicer.orDefault]
    split
    · exact le_rfl
    · exact few
  have counted : (200 : Int) ≤ barCount after (Healthcheck.bucket env) := by omega
  exact healthCheck_ready agreesAfter named (by omega : 0 < barCount after (Healthcheck.bucket env))
    (asked.trans counted)

section Example

/-- 200 hours in one batch. -/
def warmHours : List (Bar Rat) :=
  (List.range 200).map (fun (hour : Nat) => seedBar (hour * 3600) 10)

def warmUp : CacheAction Rat :=
  .insertBars (defaultBucket "ADA" "1h") (.ohlcv warmHours) ⟨1000000, true⟩

theorem warmHours_accepted :
    AcceptedBatch 1000000 (.ohlcv warmHours) (defaultBucket "ADA" "1h") Store.empty 3600 warmHours where
  known := by decide
  rows := ⟨warmHours, rfl, by decide +kernel⟩
  nonempty := by decide +kernel
  inBand := by decide +kernel
  driftPassed := by decide +kernel
  aligned := by decide +kernel

/-- The batch is stored as it is. -/
theorem warmUp_stored : 200 ≤ ((run CacheAction.step Store.empty [warmUp]).bucketRows
    (defaultBucket "ADA" "1h")).length := by
  have times : warmHours.map Bar.time =
      (List.range 200).map (fun (hour : Nat) => (hour : Int) * 3600) := by
    rw [warmHours, List.map_map]
    rfl
  have different : (warmHours.map Bar.time).Nodup := by
    rw [times]
    apply List.nodup_range.map
    intro first second same
    dsimp only at same
    omega
  have submitted : CacheAction.Submits Store.empty warmUp (defaultBucket "ADA" "1h")
      (.ohlcv warmHours) ⟨1000000, true⟩ := .insertBars
  have written := CacheAction.step_of_submits submitted warmHours_accepted rfl
  have stored : forall ts, ts ∈ warmHours.map Bar.time ->
      ts ∈ (CacheAction.step Store.empty warmUp).storedTimes (defaultBucket "ADA" "1h") := by
    intro ts member
    rw [written, storedTimes_commitRows_self]
    exact Or.inr (List.mem_map.mp member)
  have enough := length_le_bucketRows different stored
  rw [run_cons, run_nil]
  rw [times, List.length_map, List.length_range] at enough
  exact enough

/-- The container of this series is healthy, and stays so when another one is
invalidated. -/
theorem health_sticks_other_invalidated :
    Healthcheck.main (fun name => if name = "SYMBOL" then some "ADA" else none)
      (.ok (run CacheAction.step (run CacheAction.step Store.empty [warmUp])
        [.invalidate "DOT" "1h" true])) = 0 := by
  have health := health_sticks (fun name => if name = "SYMBOL" then some "ADA" else none) [warmUp]
    [.invalidate "DOT" "1h" true]
    (by
      intro symbol timeframe member
      cases List.mem_singleton.mp member
      decide)
  exact (health.2 (health.1.mpr warmUp_stored)).1

end Example

end HybridDataSvc
