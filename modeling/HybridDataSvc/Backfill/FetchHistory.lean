import HybridDataSvc.Cache.InsertBars

namespace HybridDataSvc

open Relational

/-!
# The backfill command

`fetch_history` walks backwards through the pages of a klines endpoint until
it has enough bars, and `write_bars` puts them into the cache through
`_insert_bars`.  The endpoint is a function of the number of the request and
of the request itself, so it may change its mind between two pages.  The loop
is recursive on a bound for its iterations; `fetchPages_add_fuel` shows that
the number of bars asked for is such a bound.
-/

variable {F : Type}

/-- `_MAX_PER_CALL`. -/
def maxPerCall : Int := 1000

/-- `_TF_TO_BINANCE`. -/
def tfToBinance : List (String × String) :=
  [("1", "1m"), ("3", "3m"), ("5", "5m"), ("15", "15m"), ("30", "30m"),
   ("60", "1h"), ("1h", "1h"), ("2h", "2h"), ("4h", "4h"),
   ("D", "1d"), ("1D", "1d"), ("W", "1w"), ("1W", "1w")]

/-- The fields of a kline that are read; `openTime` is in milliseconds. -/
structure Kline (F : Type) extends Ohlcv F where
  openTime : Int
  deriving DecidableEq, Repr

/-- The dictionary `fetch_history` makes of a kline. -/
def Kline.toBar (kline : Kline F) : Bar F := { kline.toOhlcv with time := kline.openTime / 1000 }

/-- The query of `_fetch_klines_page`. -/
structure PageRequest where
  symbol : String
  interval : String
  endTime : Int
  limit : Int
  deriving DecidableEq, Repr

/-- The surroundings of `fetch_history`: its clock in milliseconds and the
answers of the endpoint, counted from the first request. -/
structure KlinesEnv (F : Type) where
  clockMs : Int
  page : Nat -> PageRequest -> Except PyError (List (Kline F))

/-- The loop of `fetch_history`: request number `index` ends at `cursor`, and
`held` bars have been collected.  The result lists the pages. -/
def fetchPages (env : KlinesEnv F) (symbol interval : String) (total : Int) :
    Nat -> Nat -> Int -> Nat -> Except PyError (List (List (Kline F)))
  | 0, _, _, _ => .ok []
  | fuel + 1, index, cursor, held =>
    if held < total then
      let limit := min maxPerCall (total - held)
      match env.page index
          { symbol := symbol, interval := interval, endTime := cursor, limit := limit } with
      | .error raised => .error raised
      | .ok [] => .ok []
      | .ok (oldest :: later) =>
        let klines := oldest :: later
        if klines.length < limit then .ok [klines]
        else
          match fetchPages env symbol interval total fuel (index + 1) (oldest.openTime - 1)
              (held + klines.length) with
          | .error raised => .error raised
          | .ok pages => .ok (klines :: pages)
    else .ok []

/-- The pages of a whole `fetch_history`, as bars. -/
def historyPages (env : KlinesEnv F) (symbol timeframe : String) (total : Int) :
    Except PyError (List (List (Bar F))) :=
  match tfToBinance.lookup timeframe with
  | none => .error (.backfillError ("Unsupported timeframe: " ++ pyRepr timeframe))
  | some interval =>
    match fetchPages env symbol interval total total.toNat 0 env.clockMs 0 with
    | .error raised => .error raised
    | .ok pages => .ok (pages.map (List.map Kline.toBar))

/-- The dictionary `unique`: the last bar of each timestamp. -/
def uniqueBars (bars : List (Bar F)) : Table (Bar.time (F := F)) := Table.empty.upsertAll bars

/-- `out[-total_bars:]` of the bars in the order of their times. -/
def newestBars (total : Int) (bars : List (Bar F)) : List (Bar F) :=
  let out := (uniqueBars bars).rows.insertionSort (fun first second => first.time ≤ second.time)
  out.drop (out.length - total.toNat)

/-- `fetch_history`. -/
def fetchHistory (env : KlinesEnv F) (symbol timeframe : String) (total : Int) :
    Except PyError (List (Bar F)) :=
  match historyPages env symbol timeframe total with
  | .error raised => .error raised
  | .ok pages => .ok (newestBars total pages.flatten)

section Write

variable [PyFloat F]

/-- The frame `write_bars` builds; without a plausible bar it has no columns. -/
def backfillFrame (dbSymbol : String) (bars : List (Bar F)) : DataFrame F :=
  let kept := bars.filter (fun bar => isPlausible dbSymbol bar.close)
  if kept.isEmpty then .noColumns else .ohlcv kept

/-- `write_bars`. -/
def writeBars (env : InsertEnv) (dbSymbol timeframe : String) (bars : List (Bar F))
    (store : Store F) : CallResult F Nat :=
  if bars.isEmpty then { outcome := .ok 0, store := store, written := [] }
  else
    let bucket := defaultBucket dbSymbol timeframe
    let inserted := insertBars env (backfillFrame dbSymbol bars) bucket store
    { outcome :=
        match inserted.outcome with
        | .error raised => .error raised
        | .ok () => .ok (barCount inserted.store bucket)
      store := inserted.store
      written := inserted.written }

/-- `write_bars(fetch_history(...))`. -/
def backfill (env : KlinesEnv F) (insert : InsertEnv) (symbol dbSymbol timeframe : String)
    (total : Int) (store : Store F) : CallResult F Nat :=
  match fetchHistory env symbol timeframe total with
  | .error raised => { outcome := .error raised, store := store, written := [] }
  | .ok bars => writeBars insert dbSymbol timeframe bars store

end Write

/-! ## The loop -/

/-- Every page that does not end the loop brings at least one bar, so more
iterations than missing bars make no difference. -/
theorem fetchPages_add_fuel (env : KlinesEnv F) (symbol interval : String) (total : Int)
    (extra fuel index : Nat) (cursor : Int) (held : Nat) (enough : total ≤ held + fuel) :
    fetchPages env symbol interval total (fuel + extra) index cursor held =
      fetchPages env symbol interval total fuel index cursor held := by
  induction fuel generalizing index cursor held with
  | zero =>
      have done : ¬ (held : Int) < total := by omega
      cases extra with
      | zero => rfl
      | succ more => simp only [fetchPages, if_neg done]
  | succ fuel ih =>
      rw [Nat.succ_add_eq_add_succ, Nat.add_succ]
      unfold fetchPages
      by_cases missing : (held : Int) < total
      · simp only [if_pos missing]
        split
        · rfl
        · rfl
        · next oldest later _ =>
            rw [ih (index + 1) (oldest.openTime - 1) (held + (oldest :: later).length)
              (by simp only [List.length_cons]; omega)]
      · simp only [if_neg missing]

/-- Page number `index` of the loop is what the endpoint answered to some
request with that number. -/
theorem fetchPages_answered {env : KlinesEnv F} {symbol interval : String} {total : Int}
    {fuel index : Nat} {cursor : Int} {held : Nat} {pages : List (List (Kline F))}
    (fetched : fetchPages env symbol interval total fuel index cursor held = .ok pages)
    {number : Nat} {page : List (Kline F)} (listed : pages[number]? = some page) :
    exists request, env.page (index + number) request = .ok page := by
  induction fuel generalizing index cursor held pages number with
  | zero =>
      cases fetched
      cases listed
  | succ fuel ih =>
      unfold fetchPages at fetched
      split at fetched
      · simp only at fetched
        split at fetched
        · cases fetched
        · cases fetched
          cases listed
        · next oldest later answered =>
            split at fetched
            · cases fetched
              cases number with
              | zero =>
                  cases listed
                  exact ⟨_, answered⟩
              | succ number => cases listed
            · split at fetched
              · cases fetched
              · next rest restFetched =>
                  cases fetched
                  cases number with
                  | zero =>
                      cases listed
                      exact ⟨_, answered⟩
                  | succ number =>
                      rcases ih restFetched listed with ⟨request, again⟩
                      exact ⟨request, by rw [← Nat.succ_add_eq_add_succ]; exact again⟩
      · cases fetched
        cases listed

/-! ## Where a bar of the history comes from -/

/-- The number of the last page that has a bar at a timestamp. -/
def lastPageAt : List (List (Bar F)) -> Int -> Option Nat
  | [], _ => none
  | page :: rest, ts =>
    match lastPageAt rest ts with
    | some number => some (number + 1)
    | none => if page.any (fun bar => decide (bar.time = ts)) then some 0 else none

theorem lastPageAt_isSome_iff (pages : List (List (Bar F))) (ts : Int) :
    (lastPageAt pages ts).isSome = true ↔ exists bar, bar ∈ pages.flatten ∧ bar.time = ts := by
  induction pages with
  | nil => simp [lastPageAt]
  | cons first rest ih =>
      have here : first.any (fun bar => decide (bar.time = ts)) = true ↔
          exists bar, bar ∈ first ∧ bar.time = ts := by
        simp
      simp only [List.flatten_cons, List.mem_append, or_and_right, exists_or, ← ih, ← here]
      cases later : lastPageAt rest ts with
      | some number => simp [lastPageAt, later]
      | none => simp [lastPageAt, later]

/-- The bar that survives in the dictionary is on the last page that has its
timestamp. -/
theorem lastUnder_flatten {pages : List (List (Bar F))} {ts : Int} {bar : Bar F}
    (found : Table.lastUnder Bar.time pages.flatten ts = some bar) :
    exists number page, lastPageAt pages ts = some number ∧ pages[number]? = some page ∧
      bar ∈ page := by
  induction pages with
  | nil => cases found
  | cons first rest ih =>
      rw [List.flatten_cons, Table.lastUnder_append] at found
      cases later : Table.lastUnder Bar.time rest.flatten ts with
      | some survivor =>
          rw [later, Option.some_or] at found
          rcases ih (later.trans found) with ⟨number, page, numbered, listed, member⟩
          refine ⟨number + 1, page, ?_, listed, member⟩
          simp only [lastPageAt, numbered]
      | none =>
          rw [later, Option.none_or] at found
          have own := Table.mem_of_lastUnder found
          refine ⟨0, first, ?_, rfl, own.1⟩
          have noLater : lastPageAt rest ts = none := by
            rw [← Option.not_isSome_iff_eq_none, lastPageAt_isSome_iff,
              ← Table.lastUnder_isSome_iff, later]
            exact Bool.false_ne_true
          have here : first.any (fun bar => decide (bar.time = ts)) = true :=
            List.any_eq_true.mpr ⟨bar, own.1, decide_eq_true own.2⟩
          simp only [lastPageAt, noLater, here, if_true]

theorem mem_newestBars {total : Int} {bars : List (Bar F)} {bar : Bar F}
    (member : bar ∈ newestBars total bars) :
    Table.lastUnder Bar.time bars bar.time = some bar := by
  have inTable := (List.perm_insertionSort _ _).mem_iff.mp (List.mem_of_mem_drop member)
  rcases (Table.mem_upsertAll Table.empty bars bar).mp inTable with last | ⟨impossible, _⟩
  · exact last
  · cases impossible

/-- A bar of the history is a kline of the last page that has its timestamp. -/
theorem fetchHistory_answered {env : KlinesEnv F} {symbol timeframe : String} {total : Int}
    {pages : List (List (Bar F))} (fetched : historyPages env symbol timeframe total = .ok pages)
    {bar : Bar F} (member : bar ∈ newestBars total pages.flatten) :
    exists number request klines kline, lastPageAt pages bar.time = some number ∧
      env.page number request = .ok klines ∧ kline ∈ klines ∧ bar = kline.toBar := by
  rcases lastUnder_flatten (mem_newestBars member) with ⟨number, page, numbered, listed, inPage⟩
  unfold historyPages at fetched
  cases supported : tfToBinance.lookup timeframe with
  | none =>
      rw [supported] at fetched
      cases fetched
  | some interval =>
      rw [supported] at fetched
      simp only at fetched
      cases looped : fetchPages env symbol interval total total.toNat 0 env.clockMs 0 with
      | error raised =>
          rw [looped] at fetched
          cases fetched
      | ok answers =>
          rw [looped] at fetched
          cases fetched
          rw [List.getElem?_map] at listed
          rcases Option.map_eq_some_iff.mp listed with ⟨klines, klinesListed, rfl⟩
          rcases fetchPages_answered looped klinesListed with ⟨request, answered⟩
          rcases List.mem_map.mp inPage with ⟨kline, klineMem, equal⟩
          rw [Nat.zero_add] at answered
          exact ⟨number, request, klines, kline, numbered, answered, klineMem, equal.symm⟩

end HybridDataSvc
