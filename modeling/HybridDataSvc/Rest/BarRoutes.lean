import HybridDataSvc.Rest.Auth
import HybridDataSvc.Rest.CatalogRoutes
import HybridDataSvc.Serving.BarService
import Mathlib.Algebra.Group.Int.Defs

namespace HybridDataSvc

open AssetServiceServicer

/-!
# The bar routes

`/v1/quote/{symbol}` and `/v1/historical/{symbol}`.  Both look the symbol up with
one RPC and read bars with another, and both wrap the second call only: an error
of the first one other than `NOT_FOUND` leaves the handler as it is, and so do the
two errors that are raised here, a field of the request that is out of range and a
field of the answer that the response model refuses.
-/

variable {F : Type}

/-! ## Timeframes -/

/-- `Timeframe`. -/
inductive Timeframe
  | m1
  | m3
  | m5
  | m15
  | m30
  | h1
  | h2
  | h4
  | d1
  | w1
  deriving DecidableEq, Repr

def Timeframe.value : Timeframe -> String
  | .m1 => "1m"
  | .m3 => "3m"
  | .m5 => "5m"
  | .m15 => "15m"
  | .m30 => "30m"
  | .h1 => "1h"
  | .h2 => "2h"
  | .h4 => "4h"
  | .d1 => "1D"
  | .w1 => "1W"

/-- `_REST_TO_STORAGE`. -/
def restToStorageTable : List (String × String) :=
  [("1m", "1"), ("3m", "3"), ("5m", "5"), ("15m", "15"), ("30m", "30")]

/-- `rest_to_storage`. -/
def restToStorage (restTimeframe : String) : String :=
  (restToStorageTable.lookup restTimeframe).getD restTimeframe

/-! ## The client -/

def StatusCode.name : StatusCode -> String
  | .cancelled => "CANCELLED"
  | .unknown => "UNKNOWN"
  | .invalidArgument => "INVALID_ARGUMENT"
  | .deadlineExceeded => "DEADLINE_EXCEEDED"
  | .notFound => "NOT_FOUND"
  | .alreadyExists => "ALREADY_EXISTS"
  | .permissionDenied => "PERMISSION_DENIED"
  | .resourceExhausted => "RESOURCE_EXHAUSTED"
  | .failedPrecondition => "FAILED_PRECONDITION"
  | .aborted => "ABORTED"
  | .outOfRange => "OUT_OF_RANGE"
  | .unimplemented => "UNIMPLEMENTED"
  | .internal => "INTERNAL"
  | .unavailable => "UNAVAILABLE"
  | .dataLoss => "DATA_LOSS"
  | .unauthenticated => "UNAUTHENTICATED"

/-- The RPCs of the bar routes.  One that fails raises an `RpcError` with the code it
has, if it has one. -/
structure Stubs (F : Type) where
  getProfile : String -> Except (Option StatusCode) AssetMessage
  getRecentBars : GetRecentBarsRequest -> Except (Option StatusCode) (BarsResponse F)
  getBarsInRange : GetBarsInRangeRequest -> Except (Option StatusCode) (BarsResponse F)

/-- A value that a field of type `int64` takes. -/
def fitsInt64 (value : Int) : Bool := decide (-2 ^ 63 ≤ value) && decide (value < 2 ^ 63)

/-- The assignment of an `int64` field. -/
def int64Field (value : Int) : Except RouteError Int :=
  if fitsInt64 value then .ok value
  else .error (.valueError ("Value out of range: " ++ toString value))

namespace Stubs

variable (stubs : Stubs F)

/-- `get_asset_profile`. -/
def getAssetProfile (tvSymbol : String) : Except RouteError (Option ClientAssetRow) :=
  match stubs.getProfile tvSymbol with
  | .error code => if code = some .notFound then .ok none else .error (.rpcError code)
  | .ok message => .ok (some (BarServiceClient.assetMessageToRow message))

/-- `latest_bar`. -/
def latestBar (storageSymbol timeframe : String) : Except RouteError (Option (Bar F)) :=
  match stubs.getRecentBars ⟨storageSymbol, timeframe, 1, ""⟩ with
  | .error code => .error (.rpcError code)
  | .ok response => .ok response.bars.getLast?

/-- `bars_in_range`. -/
def barsInRange (storageSymbol timeframe : String) (fromTs toTs limit : Int) :
    Except RouteError (List (Bar F) × Bool) :=
  match int64Field fromTs with
  | .error raised => .error raised
  | .ok fromField =>
    match int64Field toTs with
    | .error raised => .error raised
    | .ok toField =>
      match stubs.getBarsInRange ⟨storageSymbol, timeframe, fromField, toField, limit, ""⟩ with
      | .error code => .error (.rpcError code)
      | .ok response => .ok (response.bars, response.truncated)

end Stubs

/-! ## The routes -/

/-- `Quote`. -/
structure QuoteModel (F : Type) where
  symbol : String
  timeframe : Timeframe
  price : F
  currency : String
  ts : Int
  stale : Bool
  deriving DecidableEq, Repr

/-- `HistoricalResponse`. -/
structure HistoricalModel (F : Type) where
  symbol : String
  interval : Timeframe
  bars : List (Bar F)
  truncated : Option Bool
  deriving DecidableEq, Repr

namespace Rest

def unknownSymbol (symbol : String) : RouteError :=
  .httpException 404 "unknown_symbol" (symbol ++ " is not in the configured feed list") []

def noData (symbol : String) (timeframe : Timeframe) : RouteError :=
  .httpException 503 "no_data" ("No bars available for " ++ symbol ++ "@" ++ timeframe.value) []

def badRange : RouteError :=
  .httpException 400 "bad_range" "\x60from\x60 must be strictly less than \x60to\x60" []

/-- `except grpc.RpcError` around the bars of both routes. -/
def translateRpcError : RouteError -> RouteError
  | .rpcError code =>
    .httpException 503 "grpc_unavailable"
      ("BarService unreachable: " ++ (code.map StatusCode.name).getD "UNKNOWN") []
  | raised => raised

/-- `Quote(...)`. -/
def newQuote (symbol : String) (timeframe : Timeframe) (price : F) (currency : String) (ts : Int)
    (stale : Bool) : Except RouteError (QuoteModel F) :=
  if constrLength 3 currency then .ok ⟨symbol, timeframe, price, currency, ts, stale⟩
  else .error (.validationError "Quote" "currency")

theorem newQuote_of_length {currency : String} (length : currency.length = 3) (symbol : String)
    (timeframe : Timeframe) (price : F) (ts : Int) (stale : Bool) :
    newQuote symbol timeframe price currency ts stale =
      .ok ⟨symbol, timeframe, price, currency, ts, stale⟩ := by
  rw [newQuote, if_pos (by rw [constrLength, decide_eq_true length])]

theorem newQuote_of_not_length {currency : String} (length : currency.length ≠ 3)
    (symbol : String) (timeframe : Timeframe) (price : F) (ts : Int) (stale : Bool) :
    newQuote symbol timeframe price currency ts stale =
      .error (.validationError "Quote" "currency") := by
  rw [newQuote, if_neg]
  rw [constrLength, decide_eq_false length]
  exact Bool.false_ne_true

/-- `get_quote`, with the whole second it reads from the clock. -/
def getQuote (stubs : Stubs F) (now : Int) (symbol : String) (timeframe : Timeframe)
    (maxAgeSeconds : Int) : Except RouteError (QuoteModel F) :=
  match stubs.getAssetProfile symbol with
  | .error raised => .error raised
  | .ok none => .error (unknownSymbol symbol)
  | .ok (some asset) =>
    match stubs.latestBar asset.storageSymbol (restToStorage timeframe.value) with
    | .error raised => .error (translateRpcError raised)
    | .ok none => .error (noData symbol timeframe)
    | .ok (some bar) =>
      newQuote asset.symbol timeframe bar.close asset.currency bar.time
        (decide (maxAgeSeconds < now - bar.time))

/-- `_MAX_BARS` of the route. -/
def maxHistoricalBars : Int := 5000

/-- `get_historical`. -/
def getHistorical (stubs : Stubs F) (symbol : String) (fromTs toTs : Int) (interval : Timeframe) :
    Except RouteError (HistoricalModel F) :=
  if toTs ≤ fromTs then .error badRange
  else
    match stubs.getAssetProfile symbol with
    | .error raised => .error raised
    | .ok none => .error (unknownSymbol symbol)
    | .ok (some asset) =>
      match stubs.barsInRange asset.storageSymbol (restToStorage interval.value) fromTs toTs
          maxHistoricalBars with
      | .error raised => .error (translateRpcError raised)
      | .ok (rows, truncated) =>
        .ok ⟨asset.symbol, interval, rows, if truncated then some true else none⟩

end Rest

/-! ## The server behind the client -/

def GrpcError.code : GrpcError -> StatusCode
  | .invalidArgument _ => .invalidArgument
  | .internal _ => .internal
  | .unknown _ => .unknown

/-- The stubs of a client that reaches the server on a database. -/
def stubsOf (db : Database F) : Stubs F where
  getProfile symbol :=
    match AssetServiceServicer.getProfile symbol db with
    | .invalidArgument _ => .error (some .invalidArgument)
    | .notFound _ => .error (some .notFound)
    | .found message => .ok message
  getRecentBars request :=
    match BarServiceServicer.getRecentBars db.store request with
    | .error status => .error (some status.code)
    | .ok response => .ok response
  getBarsInRange request :=
    match BarServiceServicer.getBarsInRange db.store request with
    | .error status => .error (some status.code)
    | .ok response => .ok response

end HybridDataSvc
