import HybridDataSvc.Rest.BarRoutes

namespace HybridDataSvc

namespace Rest

/-!
# What the bar routes answer with

Every way a request to one of the two routes can end, for every answer of the two
RPCs.  Three of them are no documented answer: the first RPC fails with another
status than `NOT_FOUND`, the catalog gives a currency that the quote does not take,
and an end of the range is no `int64`.
-/

variable {F : Type}

/-- An exception that is answered with a status of the documentation. -/
inductive Documented : RouteError -> Prop
  | httpException {status : Nat} {error message : String} {headers : List (String × String)}
      (listed : status ∈ [400, 404, 503]) :
      Documented (.httpException status error message headers)

/-- The request is answered with 503. -/
def Answers503 {Body : Type} (outcome : Except RouteError Body) : Prop :=
  exists error message headers, outcome = .error (.httpException 503 error message headers)

/-- The RPC has not reached the server, or got no answer in time. -/
def IsTransport (code : Option StatusCode) : Prop :=
  code = none ∨ code = some .unavailable ∨ code = some .deadlineExceeded

/-- What the two routes owe to a client, given the status with which each of the
RPCs they make has failed, if it has. -/
structure AnswersRight {Body : Type} (profile bars : Option (Option StatusCode))
    (outcome : Except RouteError Body) : Prop where
  documented : forall raised, outcome = .error raised -> Documented raised
  profileDown : forall code, profile = some code -> IsTransport code -> Answers503 outcome
  barsDown : forall code, bars = some code -> IsTransport code -> Answers503 outcome

/-- The status of an RPC that has failed. -/
def failure {Message : Type} : Except (Option StatusCode) Message -> Option (Option StatusCode)
  | .error code => some code
  | .ok _ => none

theorem not_documented {raised : RouteError} (escapes : forall status error message headers,
    raised ≠ .httpException status error message headers) : ¬ Documented raised := by
  rintro ⟨_⟩
  exact escapes _ _ _ _ rfl

theorem answers503_translateRpcError {Body : Type} (code : Option StatusCode) :
    Answers503 (.error (translateRpcError (.rpcError code)) : Except RouteError Body) :=
  ⟨_, _, _, rfl⟩

/-- An answer that is not made of a failed RPC. -/
theorem answersRight_of_none {Body : Type} {outcome : Except RouteError Body}
    (documented : forall raised, outcome = .error raised -> Documented raised) :
    AnswersRight none none outcome :=
  ⟨documented, fun _ impossible => (by cases impossible), fun _ impossible => (by cases impossible)⟩

theorem answersRight_of_bars {Body : Type} (code : Option StatusCode) :
    AnswersRight none (some code)
      (.error (translateRpcError (.rpcError code)) : Except RouteError Body) where
  documented := by
    intro raised same
    cases same
    exact .httpException (by decide)
  profileDown := fun _ impossible => (by cases impossible)
  barsDown := fun _ _ _ => answers503_translateRpcError code

/-- The first RPC is answered right exactly when it says that there is no such symbol. -/
theorem answersRight_of_profile_iff {Body : Type} (symbol : String) (code : Option StatusCode) :
    AnswersRight (some code) none
        (.error (if code = some .notFound then unknownSymbol symbol else .rpcError code) :
          Except RouteError Body) ↔
      code = some .notFound := by
  by_cases notFound : code = some .notFound
  · rw [if_pos notFound]
    refine iff_of_true ⟨?_, ?_, fun _ impossible => (by cases impossible)⟩ notFound
    · intro raised same
      cases same
      exact .httpException (by decide)
    · rintro other same transport
      cases same
      rw [notFound] at transport
      rcases transport with impossible | impossible | impossible <;> cases impossible
  · rw [if_neg notFound]
    refine iff_of_false ?_ notFound
    intro right
    exact not_documented (fun _ _ _ _ impossible => by cases impossible) (right.documented _ rfl)

section Routes

variable (stubs : Stubs F)

/-- The first RPC fails, and not because the symbol is unknown. -/
def ProfileFails (symbol : String) : Prop :=
  exists code, stubs.getProfile symbol = .error code ∧ code ≠ some .notFound

/-- The RPC for the bars of a quote. -/
def recentBars (message : AssetMessage) (timeframe : Timeframe) :
    Except (Option StatusCode) (BarsResponse F) :=
  stubs.getRecentBars ⟨message.storageSymbol, restToStorage timeframe.value, 1, ""⟩

/-- There is a bar to quote, in a currency that is not three characters long. -/
def CurrencyRefused (symbol : String) (timeframe : Timeframe) : Prop :=
  exists message response, stubs.getProfile symbol = .ok message ∧
    recentBars stubs message timeframe = .ok response ∧ response.bars ≠ [] ∧
    message.currency.length ≠ 3

/-- The symbol is known, and an end of the range does not fit its field. -/
def RangeRefused (symbol : String) (fromTs toTs : Int) : Prop :=
  (exists message, stubs.getProfile symbol = .ok message) ∧
    ¬ (fitsInt64 fromTs = true ∧ fitsInt64 toTs = true)

/-- The RPC for the bars of a range. -/
def rangeBars (message : AssetMessage) (interval : Timeframe) (fromTs toTs : Int) :
    Except (Option StatusCode) (BarsResponse F) :=
  stubs.getBarsInRange ⟨message.storageSymbol, restToStorage interval.value, fromTs, toTs,
    maxHistoricalBars, ""⟩

/-- How the RPCs of a quote have failed: the second one is made after the first. -/
def quoteFailures (symbol : String) (timeframe : Timeframe) :
    Option (Option StatusCode) × Option (Option StatusCode) :=
  match stubs.getProfile symbol with
  | .error code => (some code, none)
  | .ok message => (none, failure (recentBars stubs message timeframe))

/-- How the RPCs of a range have failed: a bad range makes none, and the second one
is made with a range that fits. -/
def historicalFailures (symbol : String) (fromTs toTs : Int) (interval : Timeframe) :
    Option (Option StatusCode) × Option (Option StatusCode) :=
  if toTs ≤ fromTs then (none, none)
  else
    match stubs.getProfile symbol with
    | .error code => (some code, none)
    | .ok message =>
      (none, if fitsInt64 fromTs && fitsInt64 toTs then
        failure (rangeBars stubs message interval fromTs toTs) else none)

theorem getAssetProfile_of_error {symbol : String} {code : Option StatusCode}
    (failed : stubs.getProfile symbol = .error code) :
    stubs.getAssetProfile symbol =
      if code = some .notFound then .ok none else .error (.rpcError code) := by
  rw [Stubs.getAssetProfile, failed]

theorem getAssetProfile_of_ok {symbol : String} {message : AssetMessage}
    (known : stubs.getProfile symbol = .ok message) :
    stubs.getAssetProfile symbol = .ok (some (BarServiceClient.assetMessageToRow message)) := by
  rw [Stubs.getAssetProfile, known]

theorem storageSymbol_assetMessageToRow (message : AssetMessage) :
    (BarServiceClient.assetMessageToRow message).storageSymbol = message.storageSymbol := rfl

theorem not_profileFails_of_ok {symbol : String} {message : AssetMessage}
    (known : stubs.getProfile symbol = .ok message) : ¬ ProfileFails stubs symbol := by
  rintro ⟨code, failed, _⟩
  rw [known] at failed
  cases failed

/-- A quote after the first RPC. -/
theorem getQuote_of_known (now : Int) {symbol : String} (timeframe : Timeframe)
    (maxAgeSeconds : Int) {message : AssetMessage}
    (known : stubs.getProfile symbol = .ok message) :
    getQuote stubs now symbol timeframe maxAgeSeconds =
      match recentBars stubs message timeframe with
      | .error code => .error (translateRpcError (.rpcError code))
      | .ok response =>
        match response.bars.getLast? with
        | none => .error (noData symbol timeframe)
        | some bar =>
          newQuote message.symbol timeframe bar.close message.currency bar.time
            (decide (maxAgeSeconds < now - bar.time)) := by
  have looked := getAssetProfile_of_ok stubs known
  cases answer : recentBars stubs message timeframe with
  | error code =>
      rw [recentBars] at answer
      simp only [getQuote, looked, storageSymbol_assetMessageToRow, Stubs.latestBar, answer]
  | ok response =>
      rw [recentBars] at answer
      cases newest : response.bars.getLast? with
      | none =>
          simp only [getQuote, looked, storageSymbol_assetMessageToRow, Stubs.latestBar,
            answer, newest]
      | some bar =>
          simp only [getQuote, looked, storageSymbol_assetMessageToRow, Stubs.latestBar,
            answer, newest]
          rfl

/-- The response of a quote takes a currency of three characters. -/
theorem newQuote_answers_iff (symbol : String) (timeframe : Timeframe) (price : F)
    (currency : String) (ts : Int) (stale : Bool) :
    AnswersRight none none (newQuote symbol timeframe price currency ts stale) ↔
      currency.length = 3 := by
  by_cases length : currency.length = 3
  · rw [newQuote_of_length length]
    exact iff_of_true (answersRight_of_none (fun _ equal => by cases equal)) length
  · rw [newQuote_of_not_length length]
    refine iff_of_false ?_ length
    intro right
    exact not_documented (fun _ _ _ _ impossible => by cases impossible)
      (right.documented _ rfl)

theorem getQuote_answers_iff (now : Int) (symbol : String) (timeframe : Timeframe)
    (maxAgeSeconds : Int) :
    AnswersRight (quoteFailures stubs symbol timeframe).1 (quoteFailures stubs symbol timeframe).2
        (getQuote stubs now symbol timeframe maxAgeSeconds) ↔
      ¬ ProfileFails stubs symbol ∧ ¬ CurrencyRefused stubs symbol timeframe := by
  cases profile : stubs.getProfile symbol with
  | error code =>
      have outcome : getQuote stubs now symbol timeframe maxAgeSeconds =
          .error (if code = some .notFound then unknownSymbol symbol else .rpcError code) := by
        rw [getQuote, getAssetProfile_of_error stubs profile]
        by_cases notFound : code = some .notFound
        · simp only [if_pos notFound]
        · simp only [if_neg notFound]
      rw [outcome, quoteFailures, profile, answersRight_of_profile_iff]
      simp [ProfileFails, CurrencyRefused, profile]
  | ok message =>
      rw [and_iff_right (not_profileFails_of_ok stubs profile), quoteFailures, profile,
        getQuote_of_known stubs now timeframe maxAgeSeconds profile]
      cases answer : recentBars stubs message timeframe with
      | error code =>
          refine iff_of_true ?_ ?_
          · simp only [failure, answer]
            exact answersRight_of_bars code
          · simp [CurrencyRefused, profile, answer]
      | ok response =>
          have refused : CurrencyRefused stubs symbol timeframe ↔
              response.bars ≠ [] ∧ message.currency.length ≠ 3 := by
            simp [CurrencyRefused, profile, answer]
          rw [refused]
          simp only [failure, answer]
          cases newest : response.bars.getLast? with
          | none =>
              refine iff_of_true (answersRight_of_none ?_) ?_
              · intro raised equal
                cases equal
                exact .httpException (by decide)
              · rintro ⟨some, _⟩
                exact some (List.getLast?_eq_none_iff.mp newest)
          | some bar =>
              have some : response.bars ≠ [] := by
                intro empty
                rw [empty] at newest
                cases newest
              rw [and_iff_right some, not_not]
              exact newQuote_answers_iff _ _ _ _ _ _

theorem int64Field_of_fits {value : Int} (fits : fitsInt64 value = true) :
    int64Field value = .ok value := by
  rw [int64Field, if_pos fits]

/-- A range that does not fit raises before the RPC is made. -/
theorem barsInRange_of_not_fits (storageSymbol timeframe : String) {fromTs toTs : Int}
    (limit : Int) (large : ¬ (fitsInt64 fromTs = true ∧ fitsInt64 toTs = true)) :
    exists message, stubs.barsInRange storageSymbol timeframe fromTs toTs limit =
      .error (.valueError message) := by
  by_cases start : fitsInt64 fromTs = true
  · have stop : ¬ fitsInt64 toTs = true := fun fits => large ⟨start, fits⟩
    refine ⟨"Value out of range: " ++ toString toTs, ?_⟩
    rw [Stubs.barsInRange, int64Field_of_fits start, int64Field, if_neg stop]
  · refine ⟨"Value out of range: " ++ toString fromTs, ?_⟩
    rw [Stubs.barsInRange, int64Field, if_neg start]

/-- A range after the first RPC. -/
theorem getHistorical_of_known {symbol : String} {fromTs toTs : Int} (interval : Timeframe)
    (order : ¬ toTs ≤ fromTs) (fits : fitsInt64 fromTs = true ∧ fitsInt64 toTs = true)
    {message : AssetMessage} (known : stubs.getProfile symbol = .ok message) :
    getHistorical stubs symbol fromTs toTs interval =
      match rangeBars stubs message interval fromTs toTs with
      | .error code => .error (translateRpcError (.rpcError code))
      | .ok response =>
        .ok ⟨message.symbol, interval, response.bars,
          if response.truncated then some true else none⟩ := by
  have looked := getAssetProfile_of_ok stubs known
  cases answer : rangeBars stubs message interval fromTs toTs with
  | error code =>
      rw [rangeBars] at answer
      simp only [getHistorical, if_neg order, looked, storageSymbol_assetMessageToRow,
        Stubs.barsInRange, int64Field_of_fits fits.1, int64Field_of_fits fits.2, answer]
  | ok response =>
      rw [rangeBars] at answer
      simp only [getHistorical, if_neg order, looked, storageSymbol_assetMessageToRow,
        Stubs.barsInRange, int64Field_of_fits fits.1, int64Field_of_fits fits.2, answer]
      rfl

theorem getHistorical_of_not_fits {symbol : String} {fromTs toTs : Int} (interval : Timeframe)
    (order : ¬ toTs ≤ fromTs) (large : ¬ (fitsInt64 fromTs = true ∧ fitsInt64 toTs = true))
    {message : AssetMessage} (known : stubs.getProfile symbol = .ok message) :
    exists text, getHistorical stubs symbol fromTs toTs interval = .error (.valueError text) := by
  rcases barsInRange_of_not_fits stubs message.storageSymbol (restToStorage interval.value)
    maxHistoricalBars large with ⟨text, raises⟩
  refine ⟨text, ?_⟩
  simp only [getHistorical, if_neg order, getAssetProfile_of_ok stubs known,
    storageSymbol_assetMessageToRow, raises]
  rfl

theorem getHistorical_answers_iff (symbol : String) (fromTs toTs : Int) (interval : Timeframe) :
    AnswersRight (historicalFailures stubs symbol fromTs toTs interval).1
        (historicalFailures stubs symbol fromTs toTs interval).2
        (getHistorical stubs symbol fromTs toTs interval) ↔
      toTs ≤ fromTs ∨ (¬ ProfileFails stubs symbol ∧ ¬ RangeRefused stubs symbol fromTs toTs) := by
  by_cases bad : toTs ≤ fromTs
  · rw [getHistorical, historicalFailures, if_pos bad, if_pos bad]
    refine iff_of_true (answersRight_of_none ?_) (Or.inl bad)
    intro raised same
    cases same
    exact .httpException (by decide)
  rw [or_iff_right bad, historicalFailures, if_neg bad]
  cases profile : stubs.getProfile symbol with
  | error code =>
      have outcome : getHistorical stubs symbol fromTs toTs interval =
          .error (if code = some .notFound then unknownSymbol symbol else .rpcError code) := by
        rw [getHistorical, if_neg bad, getAssetProfile_of_error stubs profile]
        by_cases notFound : code = some .notFound
        · simp only [if_pos notFound]
        · simp only [if_neg notFound]
      rw [outcome, answersRight_of_profile_iff]
      simp [ProfileFails, RangeRefused, profile]
  | ok message =>
      have refused : RangeRefused stubs symbol fromTs toTs ↔
          ¬ (fitsInt64 fromTs = true ∧ fitsInt64 toTs = true) :=
        and_iff_right ⟨message, profile⟩
      rw [and_iff_right (not_profileFails_of_ok stubs profile), refused, not_not]
      by_cases fits : fitsInt64 fromTs = true ∧ fitsInt64 toTs = true
      · refine iff_of_true ?_ fits
        rw [getHistorical_of_known stubs interval bad fits profile]
        simp only [fits.1, fits.2, Bool.and_self, if_true]
        cases answer : rangeBars stubs message interval fromTs toTs with
        | error code => exact answersRight_of_bars code
        | ok response => exact answersRight_of_none (fun _ equal => by cases equal)
      · refine iff_of_false ?_ fits
        intro right
        rcases getHistorical_of_not_fits stubs interval bad fits profile with ⟨text, raises⟩
        exact not_documented (fun _ _ _ _ impossible => by cases impossible)
          (right.documented _ raises)

end Routes

/-- For all answers of the RPCs and all parameters: a quote is answered right exactly
when the first RPC succeeds or finds no symbol, and there is no bar or the currency
is one; a range exactly when it is bad, or the same holds of the first RPC and the
range of a known symbol fits its fields. -/
theorem bar_routes_answer_iff (stubs : Stubs F) (symbol : String) (timeframe : Timeframe) :
    (forall now maxAgeSeconds,
      AnswersRight (quoteFailures stubs symbol timeframe).1
          (quoteFailures stubs symbol timeframe).2
          (getQuote stubs now symbol timeframe maxAgeSeconds) ↔
        ¬ ProfileFails stubs symbol ∧ ¬ CurrencyRefused stubs symbol timeframe) ∧
      forall fromTs toTs,
        AnswersRight (historicalFailures stubs symbol fromTs toTs timeframe).1
            (historicalFailures stubs symbol fromTs toTs timeframe).2
            (getHistorical stubs symbol fromTs toTs timeframe) ↔
          toTs ≤ fromTs ∨
            (¬ ProfileFails stubs symbol ∧ ¬ RangeRefused stubs symbol fromTs toTs) :=
  ⟨fun now maxAgeSeconds => getQuote_answers_iff stubs now symbol timeframe maxAgeSeconds,
    fun fromTs toTs => getHistorical_answers_iff stubs symbol fromTs toTs timeframe⟩

/-- A catalog with one asset and a bar of it, in a currency. -/
def cardanoStubs (currency : String) : Stubs Rat where
  getProfile _ := .ok
    { symbol := "BINANCE:ADAUSDT", storageSymbol := "ADA", name := "Cardano",
      exchange := "BINANCE", currency := currency, assetClass := "CRYPTO", assetSubclass := "",
      isin := "", country := "" }
  getRecentBars _ := .ok ⟨[seedBar 3600 10], false⟩
  getBarsInRange _ := .ok ⟨[seedBar 3600 10], false⟩

/-- A server that cannot be reached. -/
def unreachableStubs : Stubs Rat where
  getProfile _ := .error (some .unavailable)
  getRecentBars _ := .error (some .unavailable)
  getBarsInRange _ := .error (some .unavailable)

/-- An unreachable server gives no 503, a range up to 2 ^ 63 and a currency of four
letters no answer of the documentation. -/
theorem bar_routes_escape :
    let symbol := "BINANCE:ADAUSDT"
    getQuote unreachableStubs 7200 symbol .h1 3600 = .error (.rpcError (some .unavailable)) ∧
      ¬ AnswersRight (some (some .unavailable)) none
        (getQuote unreachableStubs 7200 symbol .h1 3600) ∧
      getHistorical (cardanoStubs "USD") symbol 0 (2 ^ 63) .h1 =
        .error (.valueError "Value out of range: 9223372036854775808") ∧
      ¬ AnswersRight none none (getHistorical (cardanoStubs "USD") symbol 0 (2 ^ 63) .h1) ∧
      getQuote (cardanoStubs "USDT") 7200 symbol .h1 3600 =
        .error (.validationError "Quote" "currency") ∧
      ¬ AnswersRight none none (getQuote (cardanoStubs "USDT") 7200 symbol .h1 3600) := by
  intro symbol
  have escapes : forall {Body : Type} {profile bars : Option (Option StatusCode)}
      {outcome : Except RouteError Body} {raised : RouteError}, outcome = .error raised ->
      ¬ Documented raised -> ¬ AnswersRight profile bars outcome :=
    fun same undocumented right => undocumented (right.documented _ same)
  have down : getQuote unreachableStubs 7200 symbol .h1 3600 =
      .error (.rpcError (some .unavailable)) := by decide +kernel
  have large : getHistorical (cardanoStubs "USD") symbol 0 (2 ^ 63) .h1 =
      .error (.valueError "Value out of range: 9223372036854775808") := by decide +kernel
  have currency : getQuote (cardanoStubs "USDT") 7200 symbol .h1 3600 =
      .error (.validationError "Quote" "currency") := by decide +kernel
  exact ⟨down, escapes down (not_documented (fun _ _ _ _ impossible => by cases impossible)),
    large, escapes large (not_documented (fun _ _ _ _ impossible => by cases impossible)),
    currency, escapes currency (not_documented (fun _ _ _ _ impossible => by cases impossible))⟩

end Rest

end HybridDataSvc
