import HybridDataSvc.Discovery.TvEndpoint
import HybridDataSvc.Fetcher.DataFetcher
import HybridDataSvc.Text.Python

namespace HybridDataSvc

open JsonText NumberText

/-!
# The output of the `tv` command

`_parse_tv_json`, `_tv_fetch` and a step of `_tv_switch` on what a `tv` command comes
to.  The output is the text of another program: the value at its beginning is read, and
nothing says that this is an object, or that its `bars` are a list of objects.
-/

/-- What `subprocess.run` of a `tv` command comes to. -/
inductive TvRun
  | completed (returncode : Int) (stdout stderr : String)
  | timedOut
  | notFound
  deriving DecidableEq, Repr

/-- The value of a column in a row; nothing for `NaN` where the bar lacks it. -/
abbrev Cell := Option Json

/-- An object of the payload. -/
abbrev Record := List (CodePoints × Json)

/-- A `pd.DataFrame`: those of its column labels that are texts, and its rows. -/
structure BarFrame where
  columns : List CodePoints
  rows : List Record

def BarFrame.column (frame : BarFrame) (name : String) : List Cell :=
  frame.rows.map (fun row => field row name)

/-- What the fetcher calls of pandas, with the class of the exception where it raises:
`pd.DataFrame(bars)`, `column.iloc[0] > 1e12`, `column // 1000` and
`column.astype(int)`. -/
structure Pandas where
  dataFrame : Json -> Except String BarFrame
  exceeds : List Cell -> Except String Bool
  thousandths : List Cell -> Except String (List Cell)
  astypeInt : List Cell -> Except String (List Int)

/-- What is left open of Python: how deep `json` can nest, and the texts of messages
that show a value or say where a text is broken. -/
structure PythonRuntime where
  maxDepth : Nat
  pyStr : Json -> String
  showLabels : List CodePoints -> String
  nonJson : String -> Int -> String -> String -> String
  emptyStdout : String -> Int -> String -> String

namespace TvCli

section Functions

variable (runtime : PythonRuntime) (pandas : Pandas)

/-- `raw_decode` of a stripped text. -/
def decode (stdout : String) : Except Fault (Json × List Char) :=
  rawDecode ⟨true, some maxIntDigits, some runtime.maxDepth⟩ (PyText.strip stdout).toList

/-- `_parse_tv_json`. -/
def parseTvJson (context : String) (returncode : Int) (stdout stderr : String) :
    Except PyError Json :=
  if PyText.strip stdout = "" then
    .error (.dataFetchError (runtime.emptyStdout context returncode stderr))
  else
    match decode runtime stdout with
    | .ok (payload, _) => .ok payload
    | .error .tooManyDigits => .error (.other "ValueError")
    | .error .tooDeep => .error (.other "RecursionError")
    | .error _ => .error (.dataFetchError (runtime.nonJson context returncode stdout stderr))

/-- `type(value).__name__`. -/
def typeName : Json -> String
  | .null => "NoneType"
  | .bool _ => "bool"
  | .number numeral => if numeral.isWhole then "int" else "float"
  | .constant _ => "float"
  | .string _ => "str"
  | .array _ => "list"
  | .object _ => "dict"

/-- `value.get`, which only an object has. -/
def members : Json -> Except PyError Record
  | .object members => .ok members
  | value => .error (.attributeError (pyRepr (typeName value) ++ " object has no attribute 'get'"))

/-- The payload, of which the first thing asked is `get`. -/
def payloadMembers (context : String) (returncode : Int) (stdout stderr : String) :
    Except PyError Record := do
  let payload ← parseTvJson runtime context returncode stdout stderr
  members payload

/-- `members.get(name)` counts as true. -/
def truthyMember (members : Record) (name : String) : Bool :=
  ((field members name).map Discovery.Python.truthy).getD false

/-- An exception of pandas. -/
def raising {Value : Type} : Except String Value -> Except PyError Value
  | .ok value => .ok value
  | .error typeName => .error (.other typeName)

/-- The columns that are asked for besides `time`. -/
def priceColumns : List String := ["open", "high", "low", "close", "volume"]

/-- The time column in seconds: the first time tells whether all are milliseconds. -/
def convertTimes (cells : List Cell) : Except PyError (List Int) := do
  let milliseconds ← raising (pandas.exceeds cells)
  let seconds ← if milliseconds then raising (pandas.thousandths cells) else pure cells
  raising (pandas.astypeInt seconds)

/-- A row of `df[["time", "open", "high", "low", "close", "volume"]]`. -/
def rowBar (row : Record) (time : Int) : Bar Cell :=
  { time := time, open_ := field row "open", high := field row "high", low := field row "low",
    close := field row "close", volume := field row "volume" }

/-- The rest of `_tv_fetch` on the bars of the payload. -/
def barsFrame (bars : Json) : Except PyError (List (Bar Cell)) := do
  let df ← raising (pandas.dataFrame bars)
  if codePoints "time" ∉ df.columns then
    throw (.dataFetchError ("Unexpected bar schema — columns: " ++ runtime.showLabels df.columns))
  let times ← convertTimes pandas (df.column "time")
  let missing := (priceColumns.map codePoints).filter (fun name => name ∉ df.columns)
  if missing ≠ [] then
    throw (.dataFetchError ("Missing columns in bar data: " ++ runtime.showLabels missing))
  return List.zipWith rowBar df.rows times

/-- The rest of `_tv_fetch` on the payload. -/
def ohlcvBars (payload : Record) : Except PyError (List (Bar Cell)) := do
  if !truthyMember payload "success" then
    throw (.dataFetchError ("tv CLI reported failure: " ++ runtime.pyStr (.object payload)))
  if !truthyMember payload "bars" then
    throw (.dataFetchError "tv CLI returned empty bars array")
  barsFrame runtime pandas ((field payload "bars").getD (.array []))

/-- The arguments of `tv ohlcv`. -/
def ohlcvCommand (tvCli : String) (count : Int) : List String :=
  [tvCli, "ohlcv", "-n", toString (min count 500)]

/-- `_tv_fetch`. -/
def tvFetch (tvCli : String) (count : Int) : TvRun -> Except PyError (List (Bar Cell))
  | .timedOut =>
    .error (.dataFetchError
      ("tv CLI timed out: " ++ " ".intercalate (ohlcvCommand tvCli count)))
  | .notFound =>
    .error (.dataFetchError ("tv CLI not found at " ++ pyRepr tvCli ++
      ". Ensure tradingview-mcp is installed and `tv` is on PATH."))
  | .completed returncode stdout stderr => do
    if returncode ≠ 0 then
      throw (.dataFetchError
        ("tv CLI failed (exit " ++ toString returncode ++ "): " ++ PyText.strip stderr))
    let payload ← payloadMembers runtime "ohlcv" returncode stdout stderr
    ohlcvBars runtime pandas payload

/-- A round of the loop of `_tv_switch`. -/
def switchStep (tvCli subcmd arg : String) : TvRun -> Except PyError Unit
  | .timedOut =>
    .error (.dataFetchError ("tv " ++ subcmd ++ " switch timed out for " ++ pyRepr arg))
  | .notFound => .error (.fileNotFoundError tvCli)
  | .completed returncode stdout stderr => do
    if returncode ≠ 0 then
      throw (.dataFetchError ("tv " ++ subcmd ++ " switch failed: " ++ PyText.strip stderr))
    let payload ← payloadMembers runtime subcmd returncode stdout stderr
    if !truthyMember payload "success" then
      throw (.dataFetchError
        ("tv " ++ subcmd ++ " returned failure: " ++ runtime.pyStr (.object payload)))

end Functions

/-! ## A switch of the chart -/

/-- How the fetcher sees a switch command, and whether it took effect. -/
def outcomeOf (runtime : PythonRuntime) (subcmd : String) (tookEffect : Bool) :
    TvRun -> SwitchOutcome
  | .timedOut => .timedOut tookEffect
  | .notFound => .notFound
  | .completed returncode stdout stderr =>
    if returncode ≠ 0 then .exited (PyText.strip stderr) tookEffect
    else
      match parseTvJson runtime subcmd returncode stdout stderr with
      | .error (.dataFetchError message) => .unparsable message tookEffect
      | .error (.other typeName) => .unreadable typeName tookEffect
      -- no other exception, see `parseTvJson_error`
      | .error _ => .notFound
      | .ok (.object payload) =>
        if truthyMember payload "success" then .succeeded
        else .refused (runtime.pyStr (.object payload)) tookEffect
      | .ok value => .notAnObject (typeName value) tookEffect

theorem parseTvJson_error {runtime : PythonRuntime} {context stdout stderr : String}
    {returncode : Int} {raised : PyError}
    (fails : parseTvJson runtime context returncode stdout stderr = .error raised) :
    (exists message, raised = .dataFetchError message) ∨ exists name, raised = .other name := by
  unfold parseTvJson at fails
  split at fails
  · cases fails
    exact Or.inl ⟨_, rfl⟩
  · split at fails <;> cases fails
    · exact Or.inr ⟨_, rfl⟩
    · exact Or.inr ⟨_, rfl⟩
    · exact Or.inl ⟨_, rfl⟩

/-- A step of `_tv_switch` raises what its outcome raises. -/
theorem switchStep_eq (runtime : PythonRuntime) (tvCli subcmd arg : String) (tookEffect : Bool)
    (run : TvRun) :
    switchStep runtime tvCli subcmd arg run =
      ((outcomeOf runtime subcmd tookEffect run).raised tvCli subcmd arg).elim (.ok ())
        Except.error := by
  cases run with
  | timedOut => rfl
  | notFound => rfl
  | completed returncode stdout stderr =>
      by_cases exited : returncode = 0
      · simp only [switchStep, outcomeOf, payloadMembers, ne_eq, exited, not_true, if_false]
        cases parsed : parseTvJson runtime subcmd 0 stdout stderr with
        | error raised =>
            rcases parseTvJson_error parsed with ⟨message, rfl⟩ | ⟨name, rfl⟩
            · rfl
            · rfl
        | ok payload =>
            cases payload with
            | object members =>
                cases success : truthyMember members "success" <;>
                  simp [success, SwitchOutcome.raised, TvCli.members, bind, Except.bind] <;> rfl
            | _ => rfl
      · simp only [switchStep, outcomeOf, ne_eq, exited, not_false_iff, if_true]
        rfl

/-- `_tv_switch` is its two steps. -/
theorem tvSwitch_eq (runtime : PythonRuntime) (tvCli : String) (feed : Feed)
    (symbolTook timeframeTook : Bool) (symbolRun timeframeRun : TvRun) (chart : Chart) :
    (tvSwitch tvCli feed (outcomeOf runtime "symbol" symbolTook symbolRun)
        (outcomeOf runtime "timeframe" timeframeTook timeframeRun) chart).1 =
      (do switchStep runtime tvCli "symbol" feed.tvSymbol symbolRun
          switchStep runtime tvCli "timeframe" (tvTimeframe feed.timeframe) timeframeRun) := by
  rw [switchStep_eq runtime tvCli "symbol" feed.tvSymbol symbolTook,
    switchStep_eq runtime tvCli "timeframe" _ timeframeTook]
  unfold tvSwitch
  cases (outcomeOf runtime "symbol" symbolTook symbolRun).raised tvCli "symbol" feed.tvSymbol with
  | some raised => rfl
  | none =>
      dsimp only
      cases (outcomeOf runtime "timeframe" timeframeTook timeframeRun).raised tvCli "timeframe"
          (tvTimeframe feed.timeframe) with
      | some raised => rfl
      | none => rfl

end TvCli

end HybridDataSvc
