import HybridDataSvc.Cache.BarCache

namespace HybridDataSvc

open Relational

/-!
# The bar service

The three reading handlers of `grpc_server/service.py`, with the functions of
`db/cache.py` they call.  Each one first resolves the provider of the
requested series and then reads that provider's bucket alone.  Resolution
looks at `cache_meta`, the bars are read from `bars`.
-/

/-- `PROVIDER_PRECEDENCE`. -/
def providerPrecedence : List String := ["tradingview", "yahoo"]

/-- The status a handler of the gRPC server ends with, other than `OK`. -/
inductive GrpcError
  | invalidArgument (details : String)
  | internal (details : String)
  | unknown (raised : PyError)
  deriving DecidableEq, Repr

/-- `_MAX_BARS`. -/
def maxBars : Int := 5000

structure GetRecentBarsRequest where
  symbol : String
  timeframe : String
  count : Int
  provider : String

structure GetBarsInRangeRequest where
  symbol : String
  timeframe : String
  fromTs : Int
  toTs : Int
  limit : Int
  provider : String

structure HealthRequest where
  symbol : String
  timeframe : String
  minBars : Int
  provider : String

structure BarsResponse (F : Type) where
  bars : List (Bar F)
  truncated : Bool
  deriving DecidableEq, Repr

structure HealthResponse where
  ready : Bool
  barsAvailable : Nat
  lastBarTs : Int
  deriving DecidableEq, Repr

section Reads

variable {F : Type}

/-- `SELECT provider FROM cache_meta WHERE symbol=%s AND timeframe=%s`. -/
def presentProviders (store : Store F) (symbol timeframe : String) : List String :=
  (store.cacheMeta.select (fun row =>
    decide (row.bucket.symbol = symbol) && decide (row.bucket.timeframe = timeframe))).map
      (fun row => row.bucket.provider)

/-- `resolve_provider`. -/
def resolveProvider (store : Store F) (symbol timeframe requested : String) :
    Except PyError String :=
  if requested ≠ "" then
    if requested ∈ providerPrecedence then .ok requested
    else
      .error (.valueError ("unknown provider " ++ pyRepr requested ++ "; valid: " ++
        ", ".intercalate providerPrecedence))
  else
    let present := presentProviders store symbol timeframe
    .ok ((providerPrecedence.find? (fun provider => decide (provider ∈ present))).getD
      defaultProvider)

/-- `get_bars_in_range`: the newest `limit` bars of the range, oldest first,
and whether there were more.  The handler calls it with a positive limit. -/
def getBarsInRange (store : Store F) (bucket : Bucket) (fromTs toTs limit : Int) :
    List (Bar F) × Bool :=
  if toTs < fromTs then ([], false)
  else
    let inRange := (store.bucketRows bucket).filter
      (fun row => decide (fromTs ≤ row.ts) && decide (row.ts ≤ toTs))
    let rows := (orderByDesc BarRow.ts inRange).take (limit.toNat + 1)
    ((rows.take limit.toNat).reverse.map BarRow.toBar, decide (limit < rows.length))

/-! ## The handlers -/

namespace BarServiceServicer

/-- `_resolve`: an unknown provider ends the call. -/
def resolve (store : Store F) (symbol timeframe requested : String) : Except GrpcError String :=
  match resolveProvider store symbol timeframe requested with
  | .ok provider => .ok provider
  | .error (.valueError message) => .error (.invalidArgument message)
  | .error raised => .error (.unknown raised)

/-- `value or default` on an integer field, which is 0 when it is not set. -/
def orDefault (value default : Int) : Int := if value = 0 then default else value

/-- `GetRecentBars`. -/
def getRecentBars (store : Store F) (request : GetRecentBarsRequest) :
    Except GrpcError (BarsResponse F) :=
  let count := max 1 (min (orDefault request.count 300) maxBars)
  match resolve store request.symbol request.timeframe request.provider with
  | .error status => .error status
  | .ok provider =>
    match readBars store ⟨request.symbol, request.timeframe, provider⟩ count with
    | .error raised => .error (.unknown raised)
    | .ok df =>
      match df.rows with
      | .error raised => .error (.unknown raised)
      | .ok bars => .ok { bars := bars, truncated := false }

/-- `GetBarsInRange`. -/
def getBarsInRange (store : Store F) (request : GetBarsInRangeRequest) :
    Except GrpcError (BarsResponse F) :=
  let limit := max 1 (min (orDefault request.limit maxBars) maxBars)
  match resolve store request.symbol request.timeframe request.provider with
  | .error status => .error status
  | .ok provider =>
    let answer := HybridDataSvc.getBarsInRange store ⟨request.symbol, request.timeframe, provider⟩
      request.fromTs request.toTs limit
    .ok { bars := answer.1, truncated := answer.2 }

/-- `HealthCheck`. -/
def healthCheck (store : Store F) (request : HealthRequest) : Except GrpcError HealthResponse :=
  let minBars := orDefault request.minBars 200
  match resolve store request.symbol request.timeframe request.provider with
  | .error status => .error status
  | .ok provider =>
    let bucket : Bucket := ⟨request.symbol, request.timeframe, provider⟩
    let count := barCount store bucket
    .ok { ready := decide (minBars ≤ count), barsAvailable := count,
          lastBarTs := (latestBarTs store bucket).getD 0 }

end BarServiceServicer

end Reads

end HybridDataSvc
