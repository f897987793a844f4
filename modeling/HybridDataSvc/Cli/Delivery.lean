import HybridDataSvc.Cli.Router
import HybridDataSvc.Fetcher.CliErrors
import HybridDataSvc.Fetcher.PartialOutput

namespace HybridDataSvc
namespace Cli

open JsonText PipedOutput PyText TvCli

/-!
# From a handler to the fetcher

A handler of the `tv` command comes to a result, the process writes it into a
pipe, and `subprocess.run` of the fetcher reads the pipe to its end.  Since the
process waits for the end of its write, the schedule of all this does not
matter.  Without the wait the output may break off anywhere.
-/

/-- The process and its pipes after some moves. -/
def after (capacity : Nat) (ending : Ending UInt8) (moves : List Move) : State UInt8 :=
  Transition.run (step capacity ending) (start ending) moves

/-- What `subprocess.run` returns in the end; nothing for a `UnicodeDecodeError`. -/
def completedRun (state : State UInt8) : Option TvRun := do
  let code ← state.exited
  let stdout ← captured (state.channel .stdout).received
  let stderr ← captured (state.channel .stderr).received
  return .completed code stdout stderr

/-- What a handler has to say, as the fetcher should see it. -/
def Outcome.shown : Outcome -> TvRun
  | .resolves result => .completed 0 (String.ofList (jsonText result ++ ['\n'])) ""
  | .throws thrown =>
    .completed (exitCode thrown) "" (String.ofList (jsonText (errorValue thrown) ++ ['\n']))

/-! ## The texts of the router -/

theorem solid_not_isSpace {c : Char} (solid : Solid c) : isSpace c = false := by
  unfold Solid at solid
  simp only [isSpace, Bool.or_eq_false_iff, Bool.and_eq_false_iff, decide_eq_false_iff_not,
    beq_eq_false_iff_ne]
  omega

theorem legible_jsonText (value : JsValue) : Legible (jsonText value) := by
  unfold jsonText stringify
  cases known : serialize 2 0 value with
  | none => exact legible_of_solid (solid_of_all rfl)
  | some text => exact legible_serialize value known

theorem bounded_jsonText (value : JsValue) : Bounded (jsonText value) := by
  unfold jsonText stringify
  cases known : serialize 2 0 value with
  | none => exact bounded_of_solid (by decide) (solid_of_all rfl)
  | some text => exact bounded_serialize known

/-- There is no carriage return in what the router writes as JSON. -/
theorem no_return_jsonText (value : JsValue) : '\r' ∉ jsonText value ++ ['\n'] := by
  intro here
  have legible := (legible_jsonText value).append (Legible.cons (Or.inl rfl) legible_nil)
  rcases legible '\r' here with impossible | impossible
  · exact absurd impossible (by decide)
  · exact absurd impossible (by decide)

theorem dropWhile_of_bounded {text : List Char} (bounded : Bounded text) (more : List Char) :
    (text ++ more).dropWhile isSpace = text ++ more := by
  rcases bounded.begins with ⟨c, rest, begins, solid⟩
  rw [begins]
  exact List.dropWhile_cons_of_neg (by rw [solid_not_isSpace solid]; exact Bool.false_ne_true)

theorem trim_of_bounded {text : List Char} (bounded : Bounded text) : trim isSpace text = text := by
  rcases bounded.ends with ⟨front, d, ends, solid⟩
  have first := dropWhile_of_bounded bounded []
  have last : text.reverse.dropWhile isSpace = text.reverse := by
    rw [ends, List.reverse_append]
    exact List.dropWhile_cons_of_neg (by rw [solid_not_isSpace solid]; exact Bool.false_ne_true)
  rw [List.append_nil] at first
  rw [trim, first, last, List.reverse_reverse]

/-- The line break after a text comes off, and nothing else. -/
theorem trim_bounded {text : List Char} (bounded : Bounded text) :
    trim isSpace (text ++ ['\n']) = text := by
  have padded : trim isSpace ([] ++ text ++ ['\n']) = trim isSpace text := trim_pad text (List.forall_mem_nil _)
    (List.forall_mem_singleton.mpr (by decide : isSpace '\n' = true))
  rw [List.nil_append, trim_of_bounded bounded] at padded
  exact padded

theorem strip_jsonText (value : JsValue) :
    strip (String.ofList (jsonText value ++ ['\n'])) = String.ofList (jsonText value) := by
  rw [strip, String.toList_ofList, trim_bounded (bounded_jsonText value)]

/-- Python can read what JavaScript writes, up to a height. -/
theorem holds_tvDialect {runtime : PythonRuntime} {height : Nat} (nests : height ≤ runtime.maxDepth) :
    (tvDialect runtime).Holds height := by
  refine ⟨?_, ?_⟩
  · intro limit limited
    cases limited
    decide
  · intro limit limited
    cases limited
    exact nests

/-- The result of a handler is what the fetcher parses, and all of it. -/
theorem readToEnd_jsonText {runtime : PythonRuntime} {value : JsValue} {known : Json}
    (nests : value.height ≤ runtime.maxDepth) (back : value.readBack = some known) :
    ReadToEnd runtime (String.ofList (jsonText value ++ ['\n'])) known := by
  unfold ReadToEnd
  rw [String.toList_ofList, trim_bounded (bounded_jsonText value)]
  rcases serialize_cases 2 0 value with ⟨-, unknown⟩ | ⟨text, known', written, back'⟩
  · rw [unknown] at back
    cases back
  · have shown : jsonText value = text := by rw [jsonText, stringify, written]; rfl
    rcases rawDecode_stringify (holds_tvDialect nests) written with ⟨found, same, read⟩
    rw [back] at same
    cases same
    rw [shown]
    exact read

/-! ## What arrives -/

theorem captured_nil : captured [] = some "" := @captured_encodeUtf8 [] List.not_mem_nil

/-- The process that has waited for its write, when all is read. -/
theorem received_writeAndExit {capacity : Nat} {stream : Stream} {text : List Char} {code : Int}
    {moves : List Move} (complete : Complete (after capacity (writeAndExit stream text code) moves)) :
    (after capacity (writeAndExit stream text code) moves).exited = some code ∧
      forall other, ((after capacity (writeAndExit stream text code) moves).channel other).received =
        onStream stream (text ++ ['\n']) other := by
  refine ⟨(received_of_complete complete stream).1, fun other => ?_⟩
  by_cases same : other = stream
  · subst same
    exact (received_of_complete complete other).2.2 rfl
  · have begins := (received_of_complete complete other).2.1
    have nothing : (writeAndExit stream text code).text other = [] := if_neg same
    rw [nothing] at begins
    rw [onStream, if_neg same]
    exact List.prefix_nil.mp begins

/-- Whatever the schedule, the fetcher sees what the handler has come to. -/
theorem completedRun_execute {capacity : Nat} {outcome : Outcome} {moves : List Move}
    (complete : Complete (after capacity (execute outcome) moves)) :
    completedRun (after capacity (execute outcome) moves) = some outcome.shown := by
  cases outcome with
  | resolves result =>
      rcases received_writeAndExit complete with ⟨exited, received⟩
      have out := captured_encodeUtf8 (no_return_jsonText result)
      unfold completedRun execute
      rw [exited, received, received, onStream, onStream, if_pos rfl, if_neg (by decide), out,
        captured_nil]
      rfl
  | throws thrown =>
      rcases received_writeAndExit complete with ⟨exited, received⟩
      have err := captured_encodeUtf8 (no_return_jsonText (errorValue thrown))
      unfold completedRun execute handleError
      rw [exited, received, received, onStream, onStream, if_pos rfl, if_neg (by decide), err,
        captured_nil]
      rfl

/-! ## What the fetcher makes of it -/

section Fetcher

variable (runtime : PythonRuntime) (pandas : Pandas) (tvCli : String)

/-- The payload of a handler's result, or what is wrong with it. -/
def payloadOf (context : String) (result : JsValue) : Except PyError Record :=
  match result.readBack with
  | some known => members known
  | none =>
    .error (.dataFetchError
      (runtime.nonJson context 0 (String.ofList (jsonText result ++ ['\n'])) ""))

/-- `_tv_fetch`, by what the handler of `tv ohlcv` comes to. -/
def Outcome.fetched : Outcome -> Except PyError (List (Bar Cell))
  | .resolves result => do
    let payload ← payloadOf runtime "ohlcv" result
    ohlcvBars runtime pandas payload
  | .throws thrown =>
    .error (.dataFetchError ("tv CLI failed (exit " ++ toString (exitCode thrown) ++ "): " ++
      String.ofList (jsonText (errorValue thrown))))

/-- A round of `_tv_switch`, by what the handler comes to. -/
def Outcome.switched (subcmd : String) : Outcome -> Except PyError Unit
  | .resolves result => do
    let payload ← payloadOf runtime subcmd result
    if !truthyMember payload "success" then
      throw (.dataFetchError
        ("tv " ++ subcmd ++ " returned failure: " ++ runtime.pyStr (.object payload)))
  | .throws thrown =>
    .error (.dataFetchError ("tv " ++ subcmd ++ " switch failed: " ++
      String.ofList (jsonText (errorValue thrown))))

/-- Python can nest as deep as the result. -/
def Outcome.Nests : Outcome -> Prop
  | .resolves result => result.height ≤ runtime.maxDepth
  | .throws _ => True

variable {runtime pandas tvCli}

theorem payloadMembers_shown {result : JsValue} (nests : result.height ≤ runtime.maxDepth)
    (context : String) :
    payloadMembers runtime context 0 (String.ofList (jsonText result ++ ['\n'])) "" =
      payloadOf runtime context result := by
  unfold payloadOf payloadMembers
  cases back : result.readBack with
  | some known =>
      have parsed : parseTvJson runtime context 0 (String.ofList (jsonText result ++ ['\n'])) "" =
          .ok known := by
        refine parseTvJson_eq_ok_iff.mpr ⟨[], ?_⟩
        rw [dialect_decode]
        exact readToEnd_jsonText nests back
      rw [parsed]
      rfl
  | none =>
      have shown : jsonText result = "undefined".toList := by
        rcases serialize_cases 2 0 result with ⟨unwritten, -⟩ | ⟨text, known, -, back'⟩
        · rw [jsonText, stringify, unwritten]
          rfl
        · rw [back] at back'
          cases back'
      have stripped : PyText.strip (String.ofList (jsonText result ++ ['\n'])) = "undefined" := by
        rw [strip_jsonText, shown]
        exact String.ofList_toList
      have malformed : decode runtime (String.ofList (jsonText result ++ ['\n'])) =
          .error .malformed := by
        rw [decode, stripped]
        rfl
      unfold parseTvJson
      rw [stripped, if_neg (by decide), malformed]
      rfl

theorem exitCode_ne_zero (thrown : Thrown) : exitCode thrown ≠ 0 := by
  unfold exitCode
  split <;> decide

theorem tvFetch_shown {outcome : Outcome} (nests : outcome.Nests runtime) (count : Int) :
    tvFetch runtime pandas tvCli count outcome.shown = outcome.fetched runtime pandas := by
  cases outcome with
  | resolves result =>
      rw [Outcome.shown, tvFetch_completed, payloadMembers_shown nests]
      rfl
  | throws thrown =>
      simp only [Outcome.shown, tvFetch, if_pos (exitCode_ne_zero thrown), strip_jsonText]
      rfl

theorem switchStep_shown {outcome : Outcome} (nests : outcome.Nests runtime) (subcmd arg : String) :
    switchStep runtime tvCli subcmd arg outcome.shown = outcome.switched runtime subcmd := by
  cases outcome with
  | resolves result =>
      simp only [Outcome.shown, switchStep, ne_eq, not_true, if_false, payloadMembers_shown nests]
      rfl
  | throws thrown =>
      simp only [Outcome.shown, switchStep, if_pos (exitCode_ne_zero thrown), strip_jsonText]
      rfl

/-- The router waits for its write, so that on every schedule the fetcher makes
of a command what its handler has come to; and no schedule blocks it. -/
theorem fetch_of_handler (pandas : Pandas) (tvCli : String) {capacity : Nat} (room : 0 < capacity)
    {outcome : Outcome} (nests : outcome.Nests runtime) (count : Int) (moves : List Move) :
    (Complete (after capacity (execute outcome) moves) ->
      exists seen, completedRun (after capacity (execute outcome) moves) = some seen ∧
        tvFetch runtime pandas tvCli count seen = outcome.fetched runtime pandas ∧
        forall subcmd arg,
          switchStep runtime tvCli subcmd arg seen = outcome.switched runtime subcmd) ∧
    exists more, Complete (after capacity (execute outcome) (moves ++ more)) := by
  refine ⟨?_, ?_⟩
  · intro complete
    exact ⟨outcome.shown, completedRun_execute complete, tvFetch_shown nests count,
      switchStep_shown nests⟩
  · rcases exists_complete room (execute outcome) (after capacity (execute outcome) moves) with
      ⟨more, complete⟩
    refine ⟨more, ?_⟩
    unfold after at complete ⊢
    rw [Transition.run_append]
    exact complete

/-- From the command of `_tv_fetch` to its bars: the last command that was
registered as `ohlcv` handles it, its option with the short `n` has the count that
was asked for, and what its handler comes to is what is fetched, on every schedule. -/
theorem fetch_through_router {capacity : Nat} {Handler : Type}
    (invalid : String × OptionConfig -> Thrown)
    {handle : Handler -> Values -> List String -> Option Outcome}
    {history : List (String × Command Handler)} {cmd : Command Handler} {name : String}
    {outcome : Outcome} {count : Int} (node : String)
    (registered_last : history.reverse.lookup "ohlcv" = some cmd) (plain : cmd.subcommands = none)
    (valid : forall option, option ∈ cmd.options.getD [] -> isValidOption option = true)
    (short : findLongOptionForShort (withHelp (cmd.options.getD [])) 'n' = name)
    (takes : isStringOption (withHelp (cmd.options.getD [])) name = true)
    (named : name ≠ "__proto__" ∧ name ≠ "help")
    (settles : handle cmd.handler [(name, .text (toString (min count 500)))] [] = some outcome)
    (nests : outcome.Nests runtime) :
    exists end_, ending handle (run invalid (registered history) (node :: ohlcvCommand tvCli count)) =
        some end_ ∧
      forall moves, Complete (after capacity end_ moves) ->
        exists seen, completedRun (after capacity end_ moves) = some seen ∧
          tvFetch runtime pandas tvCli count seen = outcome.fetched runtime pandas := by
  have parsed := parseArgs_count invalid (withHelp_valid valid) short takes named.1
    (toString (min count 500))
  have other : ("help" == name) = false := beq_false_of_ne (Ne.symm named.2)
  have noHelp : helpWanted [(name, .text (toString (min count 500)))] = false := by
    simp only [helpWanted, List.lookup_cons, other, List.lookup_nil]
  refine ⟨execute outcome, ?_, ?_⟩
  · rw [ohlcvCommand, run_of_lookup (by decide) ((lookup_registered history "ohlcv").trans registered_last)
      plain, runParsed, parsed]
    simp only [noHelp, Bool.false_eq_true, if_false, ending, settles, Option.map_some]
  · intro moves complete
    exact ⟨outcome.shown, completedRun_execute complete, tvFetch_shown nests count⟩

end Fetcher

/-- The result of a handler that has read one bar. -/
def shownBars : JsValue :=
  let one : JsValue := .number (.ofNat 1 (by decide))
  .object [(JsString.ofText "success", .bool true),
    (JsString.ofText "bars", .array [.object [
      (JsString.ofText "time", .number (.ofNat 3600 (by decide))), (JsString.ofText "open", one),
      (JsString.ofText "high", one), (JsString.ofText "low", one), (JsString.ofText "close", one),
      (JsString.ofText "volume", one)]])]

theorem shownBars_nests : shownBars.height ≤ silentRuntime.maxDepth := by
  simp only [shownBars, JsValue.height, heightMembers, heightItems, silentRuntime]
  decide

/-- The bar that it has read. -/
def readBar : Bar Cell :=
  { time := 3600, open_ := some (whole 1), high := some (whole 1), low := some (whole 1),
    close := some (whole 1), volume := some (whole 1) }

theorem readBack_shownBars :
    shownBars.readBack = some (.object [(codePoints "success", .bool true),
      (codePoints "bars", .array [.object [(codePoints "time", whole 3600),
        (codePoints "open", whole 1), (codePoints "high", whole 1), (codePoints "low", whole 1),
        (codePoints "close", whole 1), (codePoints "volume", whole 1)]])]) := by
  simp only [shownBars, JsValue.readBack, readBackMembers, readBackItems, JsNumber.numeral_ofNat]
  rfl

theorem fetched_shownBars :
    (Outcome.resolves shownBars).fetched silentRuntime wholePandas = .ok [readBar] := by
  simp only [Outcome.fetched, payloadOf, readBack_shownBars]
  rfl

theorem switched_shownBars (subcmd : String) :
    (Outcome.resolves shownBars).switched silentRuntime subcmd = .ok () := by
  simp only [Outcome.switched, payloadOf, readBack_shownBars]
  rfl

theorem fetch_of_handler_bars :
    exists moves seen, Complete (after 4096 (execute (.resolves shownBars)) moves) ∧
      completedRun (after 4096 (execute (.resolves shownBars)) moves) = some seen ∧
      tvFetch silentRuntime wholePandas "tv" 500 seen = .ok [readBar] ∧
      switchStep silentRuntime "tv" "symbol" "BTC" seen = .ok () := by
  have room : 0 < 4096 := by decide
  have nests : (Outcome.resolves shownBars).Nests silentRuntime := shownBars_nests
  rcases (fetch_of_handler wholePandas "tv" room nests 500 []).2 with ⟨moves, complete⟩
  rcases (fetch_of_handler wholePandas "tv" room nests 500 ([] ++ moves)).1 complete with
    ⟨seen, known, fetched, switched⟩
  exact ⟨[] ++ moves, seen, complete, known, fetched.trans fetched_shownBars,
    (switched "symbol" "BTC").trans (switched_shownBars "symbol")⟩

/-- A command that reads bars, as many as it is told. -/
def barsCommand : Command Unit :=
  ⟨"Bars", some [("count", ⟨"string", some "n", some "Number of bars"⟩),
    ("summary", ⟨"boolean", some "s", none⟩)], (), none⟩

theorem fetch_through_router_bars :
    let handle := fun (_ : Unit) (values : Values) (positionals : List String) =>
      if values = [("count", .text "366")] ∧ positionals = [] then some (.resolves shownBars) else none
    exists end_, ending handle
        (run (fun _ => ⟨[], []⟩) (registered [("ohlcv", barsCommand)])
          ("node" :: ohlcvCommand "tv" 366)) = some end_ ∧
      forall moves, Complete (after 1 end_ moves) ->
        exists seen, completedRun (after 1 end_ moves) = some seen ∧
          tvFetch silentRuntime wholePandas "tv" 366 seen = .ok [readBar] := by
  intro handle
  have nests : (Outcome.resolves shownBars).Nests silentRuntime := shownBars_nests
  have valid : forall option, option ∈ barsCommand.options.getD [] -> isValidOption option = true := by
    decide
  have settles : handle barsCommand.handler [("count", .text (toString (min (366 : Int) 500)))] [] =
      some (.resolves shownBars) := if_pos (by decide)
  have last : ([("ohlcv", barsCommand)] : List (String × Command Unit)).reverse.lookup "ohlcv" =
      some barsCommand := rfl
  have reads := @fetch_through_router silentRuntime wholePandas "tv" 1 Unit (fun _ => ⟨[], []⟩)
    handle [("ohlcv", barsCommand)] barsCommand "count" (.resolves shownBars) 366 "node" last rfl
    valid (by decide) (by decide) (by decide) settles nests
  rcases reads with ⟨end_, ends, reads⟩
  refine ⟨end_, ends, fun moves complete => ?_⟩
  rcases reads moves complete with ⟨seen, known, fetched⟩
  exact ⟨seen, known, fetched.trans fetched_shownBars⟩

/-! ## Without the wait -/

/-- An ending whose exit does not wait, as `console.log` and then `process.exit`. -/
def impatient (ending : Ending UInt8) : Ending UInt8 := { ending with awaits := none }

/-- All that arrives of a result in the end. -/
def Arrives (capacity : Nat) (result : JsValue) (cut : List UInt8) : Prop :=
  exists moves, let state := after capacity (impatient (execute (.resolves result))) moves
    Complete state ∧ state.exited = some 0 ∧ (state.channel .stdout).received = cut ∧
      (state.channel .stderr).received = []

theorem arrives_iff {capacity : Nat} (room : 0 < capacity) (result : JsValue) (cut : List UInt8) :
    Arrives capacity result cut ↔ cut <+: encodeUtf8 (jsonText result ++ ['\n']) := by
  constructor
  · rintro ⟨moves, complete, -, received, -⟩
    have begins := (received_of_complete complete .stdout).2.1
    rw [← received]
    exact begins
  · intro begins
    have parts : forall stream, (if stream = Stream.stdout then cut else []) <+:
        (impatient (execute (.resolves result))).text stream := by
      intro stream
      cases stream with
      | stdout => exact begins
      | stderr => exact List.prefix_rfl
    rcases exists_complete_received room rfl parts with ⟨moves, complete, exited, received⟩
    exact ⟨moves, complete, exited, received .stdout, received .stderr⟩

/-- A beginning of the line has all of the text, or loses some of it. -/
theorem strip_part_eq_iff {text part : List Char} (bounded : Bounded text)
    (begins : part <+: text ++ ['\n']) :
    strip (String.ofList part) = String.ofList text ↔ text <+: part := by
  rw [strip, String.ofList_inj, String.toList_ofList]
  constructor
  · intro same
    have inside := trim_prefix_of_prefix begins (dropWhile_of_bounded bounded ['\n'])
    rwa [same] at inside
  · intro covers
    rcases List.prefix_concat_iff.mp begins with rfl | shorter
    · exact trim_bounded bounded
    · rw [← covers.eq_of_length_le shorter.length_le]
      exact trim_of_bounded bounded

/-- An error of the fetcher that says nothing of the payload: a
`DataFetchError`, or a `ValueError` of a number that has lost its end. -/
def Rejected {Value : Type} (result : Except PyError Value) : Prop :=
  (exists message, result = .error (.dataFetchError message)) ∨ result = .error (.other "ValueError")

theorem rejected_error {Value : Type} {raised : PyError}
    (kind : (exists message, raised = .dataFetchError message) ∨ raised = .other "ValueError") :
    Rejected (.error raised : Except PyError Value) := by
  rcases kind with ⟨message, rfl⟩ | rfl
  · exact Or.inl ⟨message, rfl⟩
  · exact Or.inr rfl

section Loss

variable {runtime : PythonRuntime} {pandas : Pandas} {tvCli : String}

/-- Without the wait a result may break off anywhere, but it is not taken for
another one: the fetcher makes of what arrives either what the handler has come
to, or, unless all of the JSON has arrived, an error. -/
theorem fetch_of_arrival (pandas : Pandas) (tvCli : String) {capacity : Nat} (room : 0 < capacity)
    {result : JsValue} {payload : Record} (nests : result.height ≤ runtime.maxDepth) (back : result.readBack = some (.object payload))
    (count : Int) (cut : List UInt8) :
    (Arrives capacity result cut ↔ cut <+: encodeUtf8 (jsonText result ++ ['\n'])) ∧
    (Arrives capacity result cut -> forall part, captured cut = some part ->
      (encodeUtf8 (jsonText result) <+: cut ∧
        tvFetch runtime pandas tvCli count (.completed 0 part "") =
          (Outcome.resolves result).fetched runtime pandas ∧
        forall subcmd arg, switchStep runtime tvCli subcmd arg (.completed 0 part "") =
          (Outcome.resolves result).switched runtime subcmd) ∨
      (¬ encodeUtf8 (jsonText result) <+: cut ∧
        Rejected (tvFetch runtime pandas tvCli count (.completed 0 part "")) ∧
        forall subcmd arg,
          Rejected (switchStep runtime tvCli subcmd arg (.completed 0 part "")))) := by
  refine ⟨arrives_iff room result cut, ?_⟩
  intro arrives part known
  have begins := (arrives_iff room result cut).mp arrives
  rcases captured_prefix (no_return_jsonText result) begins known with ⟨inside, bytes⟩
  have bounded := bounded_jsonText result
  have covers := strip_part_eq_iff bounded inside
  rw [String.ofList_toList] at covers
  have whole := readToEnd_jsonText nests back
  by_cases all : jsonText result <+: part.toList
  · have found : forall context, payloadMembers runtime context 0 part "" = .ok payload := by
      intro context
      refine payloadMembers_eq_ok_iff.mpr (parseTvJson_eq_ok_iff.mpr ⟨[], ?_⟩)
      rw [decode, covers.mpr all, ← strip_jsonText, ← decode, dialect_decode]
      exact whole
    have own : forall context, payloadOf runtime context result = .ok payload := by
      intro context
      rw [payloadOf, back]
      rfl
    refine Or.inl ⟨?_, ?_, ?_⟩
    · rw [bytes]
      exact encodeUtf8_prefix all
    · rw [tvFetch_completed, found, Outcome.fetched, own]
    · intro subcmd arg
      simp only [switchStep, ne_eq, not_true, if_false, found, Outcome.switched, own]
  · have broken : strip part ≠ strip (String.ofList (jsonText result ++ ['\n'])) := by
      rw [strip_jsonText]
      exact fun same => all (covers.mp same)
    have failed : forall context, exists raised,
        payloadMembers runtime context 0 part "" = .error raised ∧
          ((exists message, raised = .dataFetchError message) ∨ raised = .other "ValueError") := by
      intro context
      have line : part.toList <+: (String.ofList (jsonText result ++ ['\n'])).toList := by
        rw [String.toList_ofList]
        exact inside
      rcases parseTvJson_of_cut context 0 "" whole
        (object_ne_number payload) line broken with ⟨message, error⟩ | ⟨error, -⟩
      · exact ⟨_, payloadMembers_of_error error, Or.inl ⟨message, rfl⟩⟩
      · exact ⟨_, payloadMembers_of_error error, Or.inr rfl⟩
    refine Or.inr ⟨?_, ?_, ?_⟩
    · rw [bytes]
      intro here
      have begins := prefix_of_encodeUtf8_prefix here
      exact all begins
    · rcases failed "ohlcv" with ⟨raised, error, kind⟩
      rw [tvFetch_completed, error]
      exact rejected_error kind
    · intro subcmd arg
      rcases failed subcmd with ⟨raised, error, kind⟩
      simp only [switchStep, ne_eq, not_true, if_false, error]
      exact rejected_error kind

end Loss

/-- All but the line break arrives, and the bar is read; or a brace arrives, and none is. -/
theorem fetch_of_arrival_bars :
    (Arrives 4096 shownBars (encodeUtf8 (jsonText shownBars)) ∧
      tvFetch silentRuntime wholePandas "tv" 500
        (.completed 0 (String.ofList (jsonText shownBars)) "") = .ok [readBar]) ∧
      Arrives 4096 shownBars (encodeUtf8 ['\x7b']) ∧
      Rejected (tvFetch silentRuntime wholePandas "tv" 500 (.completed 0 "\x7b" "")) := by
  have room : 0 < 4096 := by decide
  have found := fetch_of_arrival wholePandas "tv" room shownBars_nests readBack_shownBars 500
  have text : exists rest, jsonText shownBars = '\x7b' :: '\n' :: rest := by
    simp only [jsonText, shownBars, stringify, serialize, serializeMembers]
    exact ⟨_, rfl⟩
  rcases text with ⟨rest, text⟩
  have whole_ : encodeUtf8 (jsonText shownBars) <+: encodeUtf8 (jsonText shownBars ++ ['\n']) :=
    encodeUtf8_prefix (List.prefix_append _ _)
  have brace : encodeUtf8 ['\x7b'] <+: encodeUtf8 (jsonText shownBars ++ ['\n']) := by
    apply encodeUtf8_prefix
    rw [text]
    exact ⟨_, rfl⟩
  have all := (found (encodeUtf8 (jsonText shownBars))).1.mpr whole_
  have some := (found (encodeUtf8 ['\x7b'])).1.mpr brace
  refine ⟨⟨all, ?_⟩, some, ?_⟩
  · have plain : '\r' ∉ jsonText shownBars := fun here =>
      no_return_jsonText shownBars (List.mem_append_left _ here)
    rcases (found (encodeUtf8 (jsonText shownBars))).2 all _ (captured_encodeUtf8 plain) with
      ⟨-, fetched, -⟩ | ⟨broken, -⟩
    · exact fetched.trans fetched_shownBars
    · exact absurd List.prefix_rfl broken
  · rcases (found (encodeUtf8 ['\x7b'])).2 some "\x7b" (captured_encodeUtf8 (by decide)) with
      ⟨covers, -⟩ | ⟨-, rejected, -⟩
    · have impossible := prefix_of_encodeUtf8_prefix covers
      rw [text] at impossible
      have short := impossible.length_le
      simp at short
    · exact rejected

end Cli
end HybridDataSvc
