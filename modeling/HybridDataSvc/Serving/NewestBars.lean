import HybridDataSvc.Serving.ProviderPrecedence
import HybridDataSvc.Series.Newest

namespace HybridDataSvc

open Relational Series

/-!
# Reads return the newest bars

Both reading handlers order by the timestamp, descending, and turn the rows
round.  What they answer is the end of the ascending series of the bucket, cut
to the clamped limit, and a client that reads a range backwards from answer to
answer sees every bar of it once.
-/

variable {F : Type}

/-- The stored bars of a bucket in a range, oldest first. -/
def storedBars (store : Store F) (bucket : Bucket) (fromTs toTs : Int) : List (Bar F) :=
  (sortBy BarRow.ts ((store.bucketRows bucket).filter
    (fun row => decide (fromTs ≤ row.ts) && decide (row.ts ≤ toTs)))).map BarRow.toBar

/-- The count that `GetRecentBars` reads. -/
def effectiveCount (count : Int) : Int :=
  max 1 (min (BarServiceServicer.orDefault count 300) maxBars)

/-- The limit that `GetBarsInRange` reads. -/
def effectiveLimit (limit : Int) : Int :=
  max 1 (min (BarServiceServicer.orDefault limit maxBars) maxBars)

theorem effectiveLimit_pos (limit : Int) : 0 < effectiveLimit limit := by
  unfold effectiveLimit
  omega

/-- An effective count is taken as it is where it is a limit. -/
theorem effectiveLimit_effectiveCount (count : Int) :
    effectiveLimit (effectiveCount count) = effectiveCount count := by
  have low : 1 ≤ effectiveCount count := le_max_left _ _
  have high : effectiveCount count ≤ maxBars := by
    have most : (1 : Int) ≤ maxBars := by decide
    exact max_le most (min_le_right _ _)
  have given : BarServiceServicer.orDefault (effectiveCount count) maxBars = effectiveCount count := by
    apply if_neg
    omega
  rw [effectiveLimit, given, min_eq_left high, max_eq_right low]

/-! ## The stored bars of a range -/

section Stored

variable (store : Store F) (bucket : Bucket)

theorem nodup_filter_ts (condition : BarRow F -> Bool) :
    (((store.bucketRows bucket).filter condition).map BarRow.ts).Nodup :=
  (store.nodup_bucketRows_ts bucket).sublist (List.filter_sublist.map BarRow.ts)

theorem mem_storedBars (fromTs toTs : Int) (bar : Bar F) :
    bar ∈ storedBars store bucket fromTs toTs ↔
      exists row, row ∈ store.bars.rows ∧ row.bucket = bucket ∧ fromTs ≤ row.ts ∧ row.ts ≤ toTs ∧
        row.toBar = bar := by
  rw [storedBars, List.mem_map]
  simp only [mem_sortBy, List.mem_filter, Store.mem_bucketRows, Bool.and_eq_true,
    decide_eq_true_eq, and_assoc]

theorem ascending_storedBars (fromTs toTs : Int) :
    Ascending Bar.time (storedBars store bucket fromTs toTs) :=
  List.pairwise_map.mpr (ascending_sortBy (nodup_filter_ts store bucket _))

/-- A shorter range. -/
theorem storedBars_before (fromTs toTs first : Int) (inside : first ≤ toTs) :
    storedBars store bucket fromTs (first - 1) =
      (storedBars store bucket fromTs toTs).filter (fun bar => decide (bar.time < first)) := by
  rw [storedBars, storedBars, List.filter_map, ← sortBy_filter (nodup_filter_ts store bucket _),
    List.filter_filter]
  congr 2
  apply List.filter_congr
  intro row _
  change (decide (fromTs ≤ row.ts) && decide (row.ts ≤ first - 1)) =
    (decide (row.ts < first) && (decide (fromTs ≤ row.ts) && decide (row.ts ≤ toTs)))
  rw [Bool.eq_iff_iff]
  simp only [Bool.and_eq_true, decide_eq_true_eq]
  omega

/-- A range that leaves nothing out. -/
theorem storedBars_all {fromTs toTs : Int} (all : forall row, row ∈ store.bucketRows bucket ->
    fromTs ≤ row.ts ∧ row.ts ≤ toTs) :
    storedBars store bucket fromTs toTs =
      (sortBy BarRow.ts (store.bucketRows bucket)).map BarRow.toBar := by
  rw [storedBars, List.filter_eq_self.mpr]
  intro row member
  rw [decide_eq_true (all row member).1, decide_eq_true (all row member).2]
  rfl

/-- `get_bars_in_range` returns the end of the stored bars. -/
theorem getBarsInRange_eq (fromTs toTs : Int) {limit : Int} (positive : 0 < limit) :
    getBarsInRange store bucket fromTs toTs limit =
      ((storedBars store bucket fromTs toTs).rtake limit.toNat,
        decide (limit.toNat < (storedBars store bucket fromTs toTs).length)) := by
  unfold getBarsInRange
  by_cases reversed : toTs < fromTs
  · have nothing : storedBars store bucket fromTs toTs = [] := by
      apply List.eq_nil_iff_forall_not_mem.mpr
      intro bar member
      rcases (mem_storedBars store bucket fromTs toTs bar).mp member with ⟨row, -, -, low, high, -⟩
      omega
    rw [if_pos reversed, nothing]
    simp
  · rw [if_neg reversed]
    have unique := nodup_filter_ts store bucket
      (fun row => decide (fromTs ≤ row.ts) && decide (row.ts ≤ toTs))
    unfold storedBars
    generalize (store.bucketRows bucket).filter
      (fun row => decide (fromTs ≤ row.ts) && decide (row.ts ≤ toTs)) = rows at unique
    have length : (sortBy BarRow.ts rows).length = rows.length := List.length_insertionSort _ _
    have orderedLength : (orderByDesc BarRow.ts rows).length = rows.length :=
      List.length_insertionSort _ _
    have kept : (((orderByDesc BarRow.ts rows).take (limit.toNat + 1)).take limit.toNat).reverse =
        (sortBy BarRow.ts rows).rtake limit.toNat := by
      rw [List.take_take, min_eq_left (Nat.le_succ _), reverse_take_orderByDesc unique]
    dsimp only
    rw [kept, List.rtake, List.rtake, List.map_drop, List.length_map, length, List.length_take,
      orderedLength]
    congr 2
    rw [eq_iff_iff]
    omega

/-- `_read_bars` does so for the whole bucket. -/
theorem readBars_eq {count : Int} (positive : 0 < count) :
    readBars store bucket count =
      .ok (.ohlcv (((sortBy BarRow.ts (store.bucketRows bucket)).map BarRow.toBar).rtake
        count.toNat)) := by
  rw [readBars, if_neg (not_lt.mpr positive.le)]
  dsimp only
  rw [reverse_take_orderByDesc (store.nodup_bucketRows_ts bucket), List.rtake, List.rtake,
    List.map_drop, List.length_map]

end Stored

/-! ## The answers -/

/-- An answer is the end of some bars, cut to a limit, and says whether that
leaves bars out. -/
structure IsNewest (limit : Nat) (bars : List (Bar F)) (response : BarsResponse F) : Prop where
  suffix : response.bars <:+ bars
  length : response.bars.length = min limit bars.length
  truncated : response.truncated = true ↔ limit < bars.length
  ascending : Ascending Bar.time response.bars

section Answers

variable {store : Store F} {symbol timeframe requested provider : String}
  (resolved : BarServiceServicer.resolve store symbol timeframe requested = .ok provider)

include resolved

theorem getBarsInRange_resolved (fromTs toTs limit : Int) :
    let stored := storedBars store ⟨symbol, timeframe, provider⟩ fromTs toTs
    let most := (effectiveLimit limit).toNat
    BarServiceServicer.getBarsInRange store ⟨symbol, timeframe, fromTs, toTs, limit, requested⟩ =
      .ok { bars := stored.rtake most, truncated := decide (most < stored.length) } := by
  intro stored most
  have answer := getBarsInRange_eq store ⟨symbol, timeframe, provider⟩ fromTs toTs
    (effectiveLimit_pos limit)
  rw [effectiveLimit] at answer
  simp only [BarServiceServicer.getBarsInRange, resolved, answer]
  rfl

theorem getRecentBars_resolved (count : Int) :
    let stored := (sortBy BarRow.ts (store.bucketRows ⟨symbol, timeframe, provider⟩)).map BarRow.toBar
    BarServiceServicer.getRecentBars store ⟨symbol, timeframe, count, requested⟩ =
      .ok { bars := stored.rtake (effectiveCount count).toNat, truncated := false } := by
  intro stored
  have positive : 0 < effectiveCount count := by
    rw [← effectiveLimit_effectiveCount]
    exact effectiveLimit_pos _
  have answer := readBars_eq store ⟨symbol, timeframe, provider⟩ positive
  rw [effectiveCount] at answer
  simp only [BarServiceServicer.getRecentBars, resolved, answer, DataFrame.rows]
  rfl

end Answers

/-! ## Reading a range backwards -/

/-- A client that reads a range from its end, and the answers it has got, the
last one first. -/
structure BackWalk (F : Type) where
  toTs : Int
  pages : List (List (Bar F))
  finished : Bool

namespace BackWalk

def start (toTs : Int) : BackWalk F := ⟨toTs, [], false⟩

/-- The next request ends one second before the first bar of the answer. -/
def step (store : Store F) (request : GetBarsInRangeRequest) (walk : BackWalk F) : BackWalk F :=
  if walk.finished then walk
  else
    match BarServiceServicer.getBarsInRange store { request with toTs := walk.toTs } with
    | .error _ => { walk with finished := true }
    | .ok response =>
      { toTs := (response.bars.head?.map (fun first => first.time - 1)).getD walk.toTs,
        pages := response.bars :: walk.pages, finished := !response.truncated }

/-- The walk after some requests. -/
def after (store : Store F) (request : GetBarsInRangeRequest) (count : Nat) : BackWalk F :=
  Nat.iterate (step store request) count (start request.toTs)

/-- What is left and what has been returned are the bars of the range. -/
structure Inv (store : Store F) (bucket : Bucket) (request : GetBarsInRangeRequest)
    (walk : BackWalk F) : Prop where
  running : walk.finished = false ->
    storedBars store bucket request.fromTs walk.toTs ++ walk.pages.flatten =
      storedBars store bucket request.fromTs request.toTs
  finished : walk.finished = true ->
    walk.pages.flatten = storedBars store bucket request.fromTs request.toTs
  full : walk.finished = false -> forall page, page ∈ walk.pages ->
    page.length = (effectiveLimit request.limit).toNat
  inside : walk.finished = false -> walk.toTs = request.toTs ∨ request.fromTs ≤ walk.toTs

variable {store : Store F} {symbol timeframe requested provider : String}
  {fromTs toTs limit : Int}

theorem inv_start (bucket : Bucket) (request : GetBarsInRangeRequest) :
    Inv store bucket request (start request.toTs) where
  running := fun _ => List.append_nil _
  finished := by
    intro impossible
    cases impossible
  full := by
    intro _ page member
    cases member
  inside := fun _ => Or.inl rfl

theorem step_of_finished {request : GetBarsInRangeRequest} {walk : BackWalk F}
    (finished : walk.finished = true) : walk.step store request = walk := if_pos finished

section Resolved

variable (resolved : BarServiceServicer.resolve store symbol timeframe requested = .ok provider)

include resolved

variable (fromTs toTs limit) in
/-- A request while the client goes on. -/
theorem step_of_running {walk : BackWalk F} (running : walk.finished = false) :
    let stored := storedBars store ⟨symbol, timeframe, provider⟩ fromTs walk.toTs
    let most := (effectiveLimit limit).toNat
    walk.step store ⟨symbol, timeframe, fromTs, toTs, limit, requested⟩ =
      { toTs := ((stored.rtake most).head?.map (fun first => first.time - 1)).getD walk.toTs,
        pages := stored.rtake most :: walk.pages,
        finished := !decide (most < stored.length) } := by
  intro stored most
  have answer := getBarsInRange_resolved resolved fromTs walk.toTs limit
  unfold step
  rw [if_neg (by simp [running])]
  simp only [answer]
  rfl

theorem inv_step {walk : BackWalk F}
    (inv : Inv store ⟨symbol, timeframe, provider⟩
      ⟨symbol, timeframe, fromTs, toTs, limit, requested⟩ walk) :
    Inv store ⟨symbol, timeframe, provider⟩ ⟨symbol, timeframe, fromTs, toTs, limit, requested⟩
      (walk.step store ⟨symbol, timeframe, fromTs, toTs, limit, requested⟩) := by
  cases finished : walk.finished with
  | true =>
      rw [step_of_finished finished]
      exact inv
  | false =>
      have positive : 0 < (effectiveLimit limit).toNat := by
        have pos := effectiveLimit_pos limit
        omega
      have whole := inv.running finished
      have full := inv.full finished
      rw [step_of_running fromTs toTs limit resolved finished]
      dsimp only at whole full ⊢
      have ascending := ascending_storedBars store ⟨symbol, timeframe, provider⟩ fromTs walk.toTs
      have members := mem_storedBars store ⟨symbol, timeframe, provider⟩ fromTs walk.toTs
      have before := storedBars_before store ⟨symbol, timeframe, provider⟩ fromTs walk.toTs
      generalize storedBars store ⟨symbol, timeframe, provider⟩ fromTs walk.toTs = stored
        at whole ascending members before ⊢
      generalize limited : (effectiveLimit limit).toNat = most at positive full ⊢
      by_cases more : most < stored.length
      · rcases exists_head_rtake positive more with ⟨first, head⟩
        have firstMem : first ∈ stored :=
          (rtake_suffix stored most).subset (List.mem_of_head? head)
        have left := filter_before_rtake ascending head
        rcases (members first).mp firstMem with ⟨row, -, -, -, high, rfl⟩
        rw [← before row.toBar.time high] at left
        -- a bar is left, and it is not before the range
        have older : exists bar, bar ∈ stored.rdrop most := by
          apply List.exists_mem_of_ne_nil
          apply List.ne_nil_of_length_pos
          rw [length_rdrop]
          omega
        rw [head, decide_eq_true more, Option.map_some, Option.getD_some]
        exact
          { running := by
              intro _
              simp only [left, List.flatten_cons]
              rw [← List.append_assoc, rdrop_append_rtake]
              exact whole
            finished := fun impossible => Bool.noConfusion impossible
            full := by
              intro _ page member
              change page.length = (effectiveLimit limit).toNat
              rw [limited]
              rcases List.mem_cons.mp member with rfl | earlier
              · rw [length_rtake, min_eq_left more.le]
              · exact full page earlier
            inside := by
              intro _
              right
              rcases older with ⟨bar, member⟩
              rw [← left] at member
              rcases (mem_storedBars store _ fromTs _ bar).mp member with ⟨other, -, -, low, top, -⟩
              exact low.trans top }
      · have all : stored.rtake most = stored := rtake_of_length_le (not_lt.mp more)
        rw [decide_eq_false more, all]
        exact
          { running := fun impossible => Bool.noConfusion impossible
            finished := fun _ => whole
            full := fun impossible => Bool.noConfusion impossible
            inside := fun impossible => Bool.noConfusion impossible }

variable (fromTs toTs limit) in
theorem inv_after (count : Nat) :
    Inv store ⟨symbol, timeframe, provider⟩ ⟨symbol, timeframe, fromTs, toTs, limit, requested⟩
      (after store ⟨symbol, timeframe, fromTs, toTs, limit, requested⟩ count) := by
  induction count with
  | zero => exact inv_start _ _
  | succ count ih =>
      rw [after, Function.iterate_succ_apply']
      exact inv_step resolved ih

/-- A client that goes on has got an answer to every request. -/
theorem length_pages (count : Nat)
    (running : (after store ⟨symbol, timeframe, fromTs, toTs, limit, requested⟩ count).finished =
      false) :
    (after store ⟨symbol, timeframe, fromTs, toTs, limit, requested⟩ count).pages.length = count := by
  induction count with
  | zero => rfl
  | succ count ih =>
      rw [after, Function.iterate_succ_apply'] at running ⊢
      cases before : (after store ⟨symbol, timeframe, fromTs, toTs, limit, requested⟩ count).finished with
      | true =>
          rw [← after, step_of_finished before, before] at running
          cases running
      | false =>
          rw [← after, step_of_running fromTs toTs limit resolved before, List.length_cons, ih before]

/-- As every answer but the last one is full, there are not many. -/
theorem finished_after :
    let stored := storedBars store ⟨symbol, timeframe, provider⟩ fromTs toTs
    (after store ⟨symbol, timeframe, fromTs, toTs, limit, requested⟩
      (stored.length / (effectiveLimit limit).toNat + 1)).finished = true := by
  intro stored
  by_contra unfinished
  have running := eq_false_of_ne_true unfinished
  have pages := length_pages resolved _ running
  have inv := inv_after fromTs toTs limit resolved
    (stored.length / (effectiveLimit limit).toNat + 1)
  have positive : 0 < (effectiveLimit limit).toNat := by
    have pos := effectiveLimit_pos limit
    omega
  generalize after store ⟨symbol, timeframe, fromTs, toTs, limit, requested⟩
    (stored.length / (effectiveLimit limit).toNat + 1) = walk at running pages inv
  have returned : walk.pages.flatten.length = walk.pages.length * (effectiveLimit limit).toNat := by
    rw [List.length_flatten, List.map_congr_left (inv.full running), List.map_const',
      List.sum_replicate_nat]
  have whole := congrArg List.length (inv.running running)
  rw [List.length_append, returned, pages] at whole
  have few : (stored.length / (effectiveLimit limit).toNat + 1) * (effectiveLimit limit).toNat ≤
      stored.length := by
    have total : stored.length = _ := whole.symm
    omega
  have fewer := (Nat.le_div_iff_mul_le positive).mpr few
  omega

end Resolved

end BackWalk

/-- What the two handlers answer for a series from its provider. -/
structure ReadsNewest (store : Store F) (symbol timeframe requested provider : String) : Prop where
  inRange : forall fromTs toTs limit, exists response,
    BarServiceServicer.getBarsInRange store
        ⟨symbol, timeframe, fromTs, toTs, limit, requested⟩ = .ok response ∧
      IsNewest (effectiveLimit limit).toNat
        (storedBars store ⟨symbol, timeframe, provider⟩ fromTs toTs) response
  recent : forall count fromTs toTs,
    (forall row, row ∈ store.bucketRows ⟨symbol, timeframe, provider⟩ ->
      fromTs ≤ row.ts ∧ row.ts ≤ toTs) ->
    exists recent response,
      BarServiceServicer.getRecentBars store ⟨symbol, timeframe, count, requested⟩ = .ok recent ∧
      BarServiceServicer.getBarsInRange store
        ⟨symbol, timeframe, fromTs, toTs, effectiveCount count, requested⟩ = .ok response ∧
      effectiveLimit (effectiveCount count) = effectiveCount count ∧
      recent.bars = response.bars
  -- the client never asks for an end before the range
  backwards : forall fromTs toTs limit,
    let stored := storedBars store ⟨symbol, timeframe, provider⟩ fromTs toTs
    let walk := BackWalk.after store ⟨symbol, timeframe, fromTs, toTs, limit, requested⟩
    (walk (stored.length / (effectiveLimit limit).toNat + 1)).finished = true ∧
      forall count,
        ((walk count).finished = true -> (walk count).pages.flatten = stored) ∧
        ((walk count).finished = false ->
          (walk count).toTs = toTs ∨ fromTs ≤ (walk count).toTs)

theorem readsNewest_of_resolve {store : Store F} {symbol timeframe requested provider : String}
    (resolved : BarServiceServicer.resolve store symbol timeframe requested = .ok provider) :
    ReadsNewest store symbol timeframe requested provider where
  inRange := by
    intro fromTs toTs limit
    refine ⟨_, getBarsInRange_resolved resolved fromTs toTs limit, ?_⟩
    exact
      { suffix := rtake_suffix _ _
        length := length_rtake _ _
        truncated := decide_eq_true_iff
        ascending := (ascending_storedBars store _ fromTs toTs).sublist
          (rtake_suffix _ _).sublist }
  recent := by
    intro count fromTs toTs all
    have stored := storedBars_all store ⟨symbol, timeframe, provider⟩ all
    refine ⟨_, _, getRecentBars_resolved resolved count,
      getBarsInRange_resolved resolved fromTs toTs (effectiveCount count),
      effectiveLimit_effectiveCount count, ?_⟩
    dsimp only
    rw [stored, effectiveLimit_effectiveCount]
  backwards := by
    intro fromTs toTs limit stored walk
    refine ⟨BackWalk.finished_after resolved, ?_⟩
    intro count
    have inv := BackWalk.inv_after fromTs toTs limit resolved count
    exact ⟨inv.finished, inv.inside⟩

end HybridDataSvc
