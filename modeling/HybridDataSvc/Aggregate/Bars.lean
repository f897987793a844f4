import HybridDataSvc.Cache.Schema
import HybridDataSvc.Series.Derived
import HybridDataSvc.Aggregate.Calendar
import Mathlib.Algebra.Group.Defs

namespace HybridDataSvc

open Series

/-!
# Derived timeframes

`aggregate.py`.  A cell of a price column is a value or missing, which is what
pandas reads a NaN as; the aggregations skip missing cells.  The intraday
buckets are fixed windows of seconds, the daily ones follow the calendar of
New York, whose dates come in as a function of the timestamp.
-/

/-- `NATIVE_TFS`. -/
def nativeTfs : List String := ["1", "1D"]

/-- `INTRADAY_SECONDS`. -/
def intradaySeconds : List (String × Int) :=
  [("5", 300), ("15", 900), ("30", 1800), ("1h", 3600), ("2h", 7200), ("4h", 14400), ("8h", 28800)]

/-- `DAILY_DERIVED`. -/
def dailyDerived : List String := ["3D", "1W", "1M"]

section Columns

variable {V : Type}

/-- The values of a column, without the missing ones. -/
def present (column : Bar (Option V) -> Option V) (rows : List (Bar (Option V))) : List V :=
  rows.filterMap column

/-- The aggregations of `_AGG` over the rows of one bucket. -/
def aggColumns [LinearOrder V] [AddMonoid V] (rows : List (Bar (Option V))) : Ohlcv (Option V) where
  open_ := (present (fun bar => bar.open_) rows).head?
  high := (present (fun bar => bar.high) rows).max?
  low := (present (fun bar => bar.low) rows).min?
  close := (present (fun bar => bar.close) rows).getLast?
  volume := some (present (fun bar => bar.volume) rows).sum

/-- `_normalize`. -/
def normalizeFrame (df : DataFrame (Option V)) : List (Bar (Option V)) :=
  match df with
  | .noColumns => []
  | .ohlcv rows => normalize Bar.time rows

variable [LinearOrder V] [AddMonoid V]

/-! ## Intraday -/

/-- The buckets of `_bucket_intraday`: windows of `width` seconds, named by
their first one. -/
def intradayBuckets (width : Int) :
    Derivation (Bar (Option V)) Int Int (Bar (Option V)) where
  key := Bar.time
  bucket := fun ts => ts / width * width
  make := fun time rows => { aggColumns rows with time := time }
  outKey := Bar.time
  outKey_make := fun _ _ => rfl

/-- `_bucket_intraday`. -/
def bucketIntraday (rows : List (Bar (Option V))) (width : Int) : List (Bar (Option V)) :=
  (intradayBuckets width).ofNormalized rows

/-! ## Daily -/

/-- What `group_key` returns: a pair, or the ordinal a block of days starts with. -/
inductive GroupKey
  | pair (year part : Int)
  | block (ordinal : Int)
  deriving DecidableEq, Repr

/-- `group_key`. -/
def groupKey (timeframe : String) (date : Date) : Except PyError GroupKey :=
  if timeframe = "1W" then .ok (.pair date.isoWeek.1 date.isoWeek.2)
  else if timeframe = "1M" then .ok (.pair date.year date.month)
  else if timeframe = "3D" then .ok (.block (date.toordinal - date.toordinal % 3))
  else .error (.valueError ("unknown daily-derived timeframe " ++ pyRepr timeframe))

/-- The rows of one group, named by the earliest of them. -/
def dailyBar (rows : List (Bar (Option V))) : Bar (Option V) :=
  { aggColumns rows with time := ((rows.map Bar.time).min?).getD 0 }

/-- `_bucket_daily`, with the US/Eastern date of a timestamp. -/
def bucketDaily (etDate : Int -> Date) (rows : List (Bar (Option V))) (timeframe : String) :
    Except PyError (List (Bar (Option V))) :=
  match rows.mapM (fun row => groupKey timeframe (etDate row.time)) with
  | .error raised => .error raised
  | .ok keys =>
    let keyed := keys.zip rows
    let grouped := keys.eraseDups.map (fun k =>
      dailyBar ((keyed.filter (fun row => decide (row.1 = k))).map Prod.snd))
    .ok (sortBy Bar.time grouped)

/-! ## `aggregate` -/

/-- `aggregate`. -/
def aggregate (etDate : Int -> Date) (dfBase : DataFrame (Option V)) (timeframe : String) :
    Except PyError (List (Bar (Option V))) :=
  let df := normalizeFrame dfBase
  if timeframe ∈ nativeTfs then .ok df
  else if df.isEmpty then .ok []
  else
    match intradaySeconds.lookup timeframe with
    | some width => .ok (bucketIntraday df width)
    | none =>
      if timeframe ∈ dailyDerived then bucketDaily etDate df timeframe
      else .error (.valueError ("unknown timeframe " ++ pyRepr timeframe))

end Columns

end HybridDataSvc
