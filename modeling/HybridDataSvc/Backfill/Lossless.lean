import HybridDataSvc.Backfill.FetchHistory
import HybridDataSvc.Series.Newest

namespace HybridDataSvc

open Relational Series

/-!
# The backfill loses nothing

The loop of `fetch_history` ends after at most as many requests as bars are
asked for, whatever the endpoint answers.  Against an endpoint that serves a
fixed history, newest first, its pages are consecutive stretches of that
history, and together they are the newest bars that were asked for.
-/

variable {F : Type}

/-! ## The loop ends -/

/-- An execution of the loop, with its number of requests; the last argument
is what the loop leaves. -/
inductive PagesRun (env : KlinesEnv F) (symbol interval : String) (total : Int) :
    Nat -> Nat -> Int -> Nat -> Except PyError (List (List (Kline F))) -> Prop
  | enough {index : Nat} {cursor : Int} {held : Nat} (complete : ¬ (held : Int) < total) :
      PagesRun env symbol interval total 0 index cursor held (.ok [])
  | raised {index : Nat} {cursor : Int} {held : Nat} {raised : PyError} (missing : (held : Int) < total)
      (answered : env.page index ⟨symbol, interval, cursor, min maxPerCall (total - held)⟩ =
        .error raised) :
      PagesRun env symbol interval total 1 index cursor held (.error raised)
  | empty {index : Nat} {cursor : Int} {held : Nat} (missing : (held : Int) < total)
      (answered : env.page index ⟨symbol, interval, cursor, min maxPerCall (total - held)⟩ =
        .ok []) :
      PagesRun env symbol interval total 1 index cursor held (.ok [])
  | short {index : Nat} {cursor : Int} {held : Nat} {oldest : Kline F} {later : List (Kline F)}
      (missing : (held : Int) < total)
      (answered : env.page index ⟨symbol, interval, cursor, min maxPerCall (total - held)⟩ =
        .ok (oldest :: later))
      (last : ((oldest :: later).length : Int) < min maxPerCall (total - held)) :
      PagesRun env symbol interval total 1 index cursor held (.ok [oldest :: later])
  | next {requests index : Nat} {cursor : Int} {held : Nat} {oldest : Kline F}
      {later : List (Kline F)} {result : Except PyError (List (List (Kline F)))}
      (missing : (held : Int) < total)
      (answered : env.page index ⟨symbol, interval, cursor, min maxPerCall (total - held)⟩ =
        .ok (oldest :: later))
      (full : ¬ ((oldest :: later).length : Int) < min maxPerCall (total - held))
      (rest : PagesRun env symbol interval total requests (index + 1) (oldest.openTime - 1)
        (held + (oldest :: later).length) result) :
      PagesRun env symbol interval total (requests + 1) index cursor held
        (result.map ((oldest :: later) :: ·))

/-- The loop ends, with one request or less for each missing bar. -/
theorem exists_pagesRun (env : KlinesEnv F) (symbol interval : String) (total : Int)
    {fuel : Nat} (index : Nat) (cursor : Int) {held : Nat} (enough : total ≤ held + fuel) :
    exists requests : Nat, requests ≤ max 0 (total - held) ∧
      PagesRun env symbol interval total requests index cursor held
        (fetchPages env symbol interval total fuel index cursor held) := by
  induction fuel generalizing index cursor held with
  | zero =>
      have complete : ¬ (held : Int) < total := by omega
      exact ⟨0, by omega, .enough complete⟩
  | succ fuel ih =>
      unfold fetchPages
      by_cases missing : (held : Int) < total
      · simp only [if_pos missing]
        split
        · next raised answered => exact ⟨1, by omega, .raised missing answered⟩
        · next answered => exact ⟨1, by omega, .empty missing answered⟩
        · next oldest later answered =>
            by_cases last : ((oldest :: later).length : Int) < min maxPerCall (total - held)
            · rw [if_pos last]
              exact ⟨1, by omega, .short missing answered last⟩
            · rw [if_neg last]
              have grown : total ≤ ((held + (oldest :: later).length : Nat) : Int) + fuel := by
                simp only [List.length_cons]
                omega
              rcases ih (index + 1) (oldest.openTime - 1) grown with ⟨requests, few, rest⟩
              refine ⟨requests + 1, ?_, ?_⟩
              · simp only [List.length_cons] at few
                omega
              · have run := PagesRun.next missing answered last rest
                cases result : fetchPages env symbol interval total fuel (index + 1)
                    (oldest.openTime - 1) (held + (oldest :: later).length) with
                | error raised =>
                    rw [result] at run
                    exact run
                | ok pages =>
                    rw [result] at run
                    exact run
      · rw [if_neg missing]
        exact ⟨0, by omega, .enough missing⟩

/-! ## An endpoint with a history -/

/-- The klines an endpoint has for a symbol and an interval.  No two of them
open in the same second. -/
structure KlineHistory (F : Type) where
  klines : List (Kline F)
  ascending : Ascending (fun kline => kline.openTime / 1000) klines

namespace KlineHistory

/-- Klines that open a second apart, as those of every interval do. -/
def ofApart (klines : List (Kline F))
    (apart : klines.Pairwise (fun first second => first.openTime + 1000 ≤ second.openTime)) :
    KlineHistory F where
  klines := klines
  ascending := by
    refine apart.imp ?_
    intro first second before
    change first.openTime / 1000 < second.openTime / 1000
    omega

/-- The klines that open at or before an end. -/
def available (history : KlineHistory F) (endTime : Int) : List (Kline F) :=
  history.klines.filter (fun kline => decide (kline.openTime ≤ endTime))

/-- The newest klines that open at or before an end, as many as the limit
says. -/
def answer (history : KlineHistory F) (endTime limit : Int) : List (Kline F) :=
  (history.available endTime).rtake limit.toNat

theorem openTime_ascending (history : KlineHistory F) (endTime : Int) :
    Ascending Kline.openTime (history.available endTime) := by
  refine (history.ascending.sublist List.filter_sublist).imp ?_
  intro first second before
  by_contra notBefore
  exact absurd before (not_lt.mpr (Int.ediv_le_ediv (by decide) (not_lt.mp notBefore)))

/-- What is available before the first kline of an answer is what the answer
leaves. -/
theorem available_before (history : KlineHistory F) {endTime : Int} {count : Nat}
    {oldest : Kline F} (head : ((history.available endTime).rtake count).head? = some oldest) :
    history.available (oldest.openTime - 1) = (history.available endTime).rdrop count := by
  rw [← filter_before_rtake (history.openTime_ascending endTime) head, available, available,
    List.filter_filter]
  have listed := (rtake_suffix _ _).subset (List.mem_of_head? head)
  have inside : oldest.openTime ≤ endTime := of_decide_eq_true (List.mem_filter.mp listed).2
  apply List.filter_congr
  intro kline _
  rw [Bool.eq_iff_iff]
  simp only [Bool.and_eq_true, decide_eq_true_eq]
  omega

/-- A full page, after what is still wanted of the klines before it. -/
theorem rtake_before (history : KlineHistory F) {endTime : Int} {count wanted : Nat}
    {oldest : Kline F} {later : List (Kline F)}
    (page : (history.available endTime).rtake count = oldest :: later) (within : count ≤ wanted) :
    (history.available (oldest.openTime - 1)).rtake (wanted - count) ++ oldest :: later =
      (history.available endTime).rtake wanted := by
  have head : ((history.available endTime).rtake count).head? = some oldest := by
    rw [page]
    rfl
  rw [history.available_before head, ← page]
  exact rtake_rdrop_append _ _ within

end KlineHistory

/-- The endpoint serves a history for every symbol and interval. -/
def serving (histories : String -> String -> KlineHistory F) (clockMs : Int) : KlinesEnv F where
  clockMs := clockMs
  page := fun _ request =>
    .ok ((histories request.symbol request.interval).answer request.endTime request.limit)

section Serving

variable (histories : String -> String -> KlineHistory F) (clockMs : Int)
  (symbol interval : String) (total : Int)

/-- From a cursor on, the pages of the loop are the newest of what is available
there, page by page backwards. -/
theorem fetchPages_serving {fuel : Nat} (index : Nat) (cursor : Int) {held : Nat}
    (enough : total ≤ held + fuel) :
    exists pages,
      fetchPages (serving histories clockMs) symbol interval total fuel index cursor held =
        .ok pages ∧
      pages.reverse.flatten =
        ((histories symbol interval).available cursor).rtake (total - held).toNat := by
  induction fuel generalizing index cursor held with
  | zero =>
      have nothing : (total - held).toNat = 0 := by omega
      refine ⟨[], rfl, ?_⟩
      rw [nothing, List.rtake_zero]
      rfl
  | succ fuel ih =>
      unfold fetchPages
      by_cases missing : (held : Int) < total
      · simp only [if_pos missing]
        generalize limited : min maxPerCall (total - held) = limit
        have positive : 0 < limit := by
          have most : (0 : Int) < maxPerCall := by decide
          omega
        have within : limit.toNat ≤ (total - held).toNat := by omega
        have answered : (serving histories clockMs).page index ⟨symbol, interval, cursor, limit⟩ =
            .ok (((histories symbol interval).available cursor).rtake limit.toNat) := rfl
        simp only [answered]
        have size := length_rtake ((histories symbol interval).available cursor) limit.toNat
        cases page : ((histories symbol interval).available cursor).rtake limit.toNat with
        | nil =>
            rw [page, List.length_nil] at size
            have exhausted : (histories symbol interval).available cursor = [] := by
              apply List.eq_nil_of_length_eq_zero
              omega
            refine ⟨[], rfl, ?_⟩
            rw [exhausted, List.rtake_nil]
            rfl
        | cons oldest later =>
            rw [page] at size
            by_cases last : ((oldest :: later).length : Int) < limit
            · simp only [if_pos last]
              have few : ((histories symbol interval).available cursor).length ≤ limit.toNat := by
                omega
              refine ⟨_, rfl, ?_⟩
              rw [← page, rtake_of_length_le few, rtake_of_length_le (few.trans within)]
              simp
            · simp only [if_neg last]
              have filled : (oldest :: later).length = limit.toNat := by omega
              have grown : total ≤ ((held + (oldest :: later).length : Nat) : Int) + fuel := by
                simp only [List.length_cons]
                omega
              rcases ih (index + 1) (oldest.openTime - 1) grown with ⟨pages, fetched, flatten⟩
              have count : (total - ((held + (oldest :: later).length : Nat) : Int)).toNat =
                  (total - held).toNat - limit.toNat := by
                rw [filled]
                omega
              rw [fetched]
              refine ⟨_, rfl, ?_⟩
              rw [List.reverse_cons, List.flatten_append, List.flatten_singleton, flatten, count]
              exact (histories symbol interval).rtake_before page within
      · have nothing : (total - held).toNat = 0 := by omega
        rw [if_neg missing]
        refine ⟨[], rfl, ?_⟩
        rw [nothing, List.rtake_zero]
        rfl

end Serving

/-! ## The bars of the history -/

/-- The newest bars of bars with different times. -/
theorem newestBars_of_perm {total : Int} {bars ordered : List (Bar F)}
    (ascending : Ascending Bar.time ordered) (same : forall bar, bar ∈ bars ↔ bar ∈ ordered)
    (unique : (bars.map Bar.time).Nodup) (few : ordered.length ≤ total.toNat) :
    newestBars total bars = ordered := by
  have sorted : sortBy Bar.time (uniqueBars bars).rows = ordered := by
    apply (ascending_sortBy (uniqueBars bars).unique).eq_of_mem_iff ascending
    intro bar
    rw [mem_sortBy, uniqueBars, Table.mem_upsertAll, ← same,
      Table.lastUnder_eq_some_iff unique]
    simp
  have dropped := rtake_of_length_le few
  rw [← sorted] at dropped ⊢
  exact dropped

theorem fetchHistory_eq (env : KlinesEnv F) (symbol : String) {timeframe interval : String}
    (supported : tfToBinance.lookup timeframe = some interval) (total : Int) :
    fetchHistory env symbol timeframe total =
      (fetchPages env symbol interval total total.toNat 0 env.clockMs 0).map
        (fun pages => newestBars total (pages.map (List.map Kline.toBar)).flatten) := by
  unfold fetchHistory historyPages
  rw [supported]
  cases fetched : fetchPages env symbol interval total total.toNat 0 env.clockMs 0 with
  | error raised =>
      simp only [fetched]
      rfl
  | ok pages =>
      simp only [fetched]
      rfl

theorem ascending_toBar (history : KlineHistory F) (endTime : Int) (count : Nat) :
    Ascending Bar.time (((history.available endTime).rtake count).map Kline.toBar) := by
  apply List.pairwise_map.mpr
  exact history.ascending.sublist ((rtake_suffix _ _).sublist.trans List.filter_sublist)

/-- From a server with a history the newest of its klines are fetched. -/
theorem fetchHistory_serving (histories : String -> String -> KlineHistory F) (clockMs : Int)
    (symbol : String) {timeframe interval : String}
    (supported : tfToBinance.lookup timeframe = some interval) (total : Int) :
    fetchHistory (serving histories clockMs) symbol timeframe total =
      .ok ((((histories symbol interval).available clockMs).rtake total.toNat).map
        Kline.toBar) := by
  generalize known : (histories symbol interval).available clockMs = available
  have enough : total ≤ ((0 : Nat) : Int) + total.toNat := by omega
  rcases fetchPages_serving histories clockMs symbol interval total 0 clockMs enough with
    ⟨pages, fetched, flatten⟩
  have count : (total - ((0 : Nat) : Int)).toNat = total.toNat := by omega
  rw [count, known] at flatten
  have times := ascending_toBar (histories symbol interval) clockMs total.toNat
  rw [known] at times
  have permuted : ((pages.map (List.map Kline.toBar)).flatten).Perm
      ((available.rtake total.toNat).map Kline.toBar) := by
    rw [← flatten, List.map_flatten, List.map_reverse]
    exact (List.reverse_perm _).symm.flatten
  have unique : ((pages.map (List.map Kline.toBar)).flatten.map Bar.time).Nodup := by
    apply (permuted.map Bar.time).nodup_iff.mpr
    exact List.pairwise_map.mpr (times.imp ne_of_lt)
  have few : ((available.rtake total.toNat).map Kline.toBar).length ≤ total.toNat := by
    rw [List.length_map, length_rtake]
    exact min_le_left _ _
  have fetched' : fetchPages (serving histories clockMs) symbol interval total total.toNat 0
      (serving histories clockMs).clockMs 0 = .ok pages := fetched
  rw [fetchHistory_eq _ _ supported, fetched']
  change Except.ok (newestBars total (pages.map (List.map Kline.toBar)).flatten) = _
  rw [newestBars_of_perm times (fun bar => permuted.mem_iff) unique few]

/-- For every number of bars, supported timeframe and endpoint: the loop ends
after at most as many requests as bars are asked for; and if the endpoint
serves a history, `fetch_history` returns the newest bars that open at or
before its clock, as many as were asked for or all there are, in strictly
ascending order. -/
theorem backfill_lossless (symbol : String) {timeframe interval : String}
    (supported : tfToBinance.lookup timeframe = some interval) (total : Int) :
    (forall env : KlinesEnv F, exists requests result, requests ≤ total.toNat ∧
      PagesRun env symbol interval total requests 0 env.clockMs 0 result ∧
      fetchHistory env symbol timeframe total =
        result.map (fun pages => newestBars total (pages.map (List.map Kline.toBar)).flatten)) ∧
    forall (histories : String -> String -> KlineHistory F) (clockMs : Int),
      let available := (histories symbol interval).available clockMs
      exists bars, fetchHistory (serving histories clockMs) symbol timeframe total = .ok bars ∧
        bars = (available.rtake total.toNat).map Kline.toBar ∧
        bars.length = min total.toNat available.length ∧
        Ascending Bar.time bars := by
  constructor
  · intro env
    have enough : total ≤ ((0 : Nat) : Int) + total.toNat := by omega
    rcases exists_pagesRun env symbol interval total 0 env.clockMs enough with
      ⟨requests, few, run⟩
    exact ⟨requests, _, by omega, run, fetchHistory_eq env symbol supported total⟩
  · intro histories clockMs available
    refine ⟨_, fetchHistory_serving histories clockMs symbol supported total, rfl, ?_,
      ascending_toBar _ _ _⟩
    rw [List.length_map, length_rtake]

/-- A kline that opens in an hour. -/
def hourKline (hour : Int) : Kline Rat where
  openTime := hour * 3600000
  open_ := 10
  high := 11
  low := 9
  close := 10
  volume := 1

/-- Three hours are asked for, of four that are there and one to come. -/
theorem backfill_lossless_three :
    let history : KlineHistory Rat :=
      .ofApart [hourKline 1, hourKline 2, hourKline 3, hourKline 4, hourKline 5] (by decide)
    exists bars, fetchHistory (serving (fun _ _ => history) 15000000) "BTCUSDT" "1h" 3 = .ok bars ∧
      bars.map Bar.time = [7200, 10800, 14400] := by
  intro history
  have supported : tfToBinance.lookup "1h" = some "1h" := rfl
  have lossless := (backfill_lossless "BTCUSDT" supported 3).2 (fun _ _ => history) 15000000
  rcases lossless with ⟨bars, fetched, equal, -, -⟩
  refine ⟨bars, fetched, ?_⟩
  rw [equal]
  decide +kernel

end HybridDataSvc
