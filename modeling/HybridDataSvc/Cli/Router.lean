import HybridDataSvc.Discovery.NodeProbe
import HybridDataSvc.Process.PipedOutput
import HybridDataSvc.Text.Captured
import HybridDataSvc.Text.Stringify
import Mathlib.Data.List.Induction

namespace HybridDataSvc
namespace Cli

open JsonText PipedOutput PyText
open Discovery.Node (foldUnit)

/-!
# The router of the `tv` command

`cli_router.js`: a command line is answered by a text of help, by a complaint,
or by the handler of a command.  What a handler comes to is written as JSON,
its result to `stdout` and its error to `stderr`, and the process exits when
this has been written.  All other texts are followed by the exit at once.
-/

/-- What is thrown: `err.message`, empty if there is none, and `String(err)`. -/
structure Thrown where
  message : JsString
  shown : JsString
  deriving DecidableEq, Repr

/-- An option; `multiple` and `default` of `parseArgs` are left unset. -/
structure OptionConfig where
  type : String
  short : Option String
  description : Option String
  deriving DecidableEq, Repr

abbrev Options := List (String × OptionConfig)

structure Subcommand (Handler : Type) where
  description : String
  options : Option Options
  handler : Handler

structure Command (Handler : Type) where
  description : String
  options : Option Options
  handler : Handler
  subcommands : Option (List (String × Subcommand Handler))

/-- The registered commands, in the order of their first registration. -/
abbrev Commands (Handler : Type) := List (String × Command Handler)

/-- The value of an option: `true`, or the text that was given with it. -/
inductive ArgValue
  | flag
  | text (value : String)
  deriving DecidableEq, Repr

/-- `values` of `parseArgs`. -/
abbrev Values := List (String × ArgValue)

/-- What becomes of a command line. -/
inductive Dispatch (Handler : Type)
  | quits (stdout stderr : List String) (code : Int)
  | fails (thrown : Thrown)
  | executes (handler : Handler) (values : Values) (positionals : List String)

/-- What becomes of a handler. -/
inductive Outcome
  | resolves (result : JsValue)
  | throws (thrown : Thrown)

/-! ## The arguments

`parseArgs` of `node:util`, not strict and with positionals.  The characters of
arguments are taken to be single UTF-16 units.
-/

/-- `findLongOptionForShort`. -/
def findLongOptionForShort (options : Options) (short : Char) : String :=
  match options.find? (fun o => o.2.short == some (String.ofList [short])) with
  | some o => o.1
  | none => String.ofList [short]

/-- The option takes a text. -/
def isStringOption (options : Options) (name : String) : Bool :=
  (options.lookup name).any (fun config => config.type == "string")

/-- `-abc` as `-a`, `-b` and `-c`; an option in it that takes a text has the rest. -/
def expandGroup (options : Options) : List Char -> List (List Char)
  | [] => []
  | short :: rest =>
    if isStringOption options (findLongOptionForShort options short) then ['-' :: short :: rest]
    else ['-', short] :: expandGroup options rest

inductive Token
  | option (name : String) (value : Option String)
  | positional (value : String)
  deriving DecidableEq, Repr

/-- An option that takes a text has the next argument, whatever that is. -/
def takesNext (options : Options) (name : String) (rest : List (List Char)) :
    Token × List (List Char) :=
  if isStringOption options name then
    match rest with
    | value :: others => (.option name (some (String.ofList value)), others)
    | [] => (.option name none, [])
  else (.option name none, rest)

/-- `argsToTokens`.  A group is expanded into arguments that are no groups, so that
the characters of all arguments bound the rounds. -/
def argsToTokens (options : Options) : Nat -> List (List Char) -> List Token
  | 0, _ => []
  | _ + 1, [] => []
  | _ + 1, ['-', '-'] :: rest => rest.map (fun arg => .positional (String.ofList arg))
  | fuel + 1, ('-' :: '-' :: c :: more) :: rest =>
    -- an equals sign counts from the second character of the name on
    if '=' ∈ more then
      let named := (c :: more).span (fun d => d != '=')
      .option (String.ofList named.1) (some (String.ofList (named.2.drop 1))) ::
        argsToTokens options fuel rest
    else
      let (token, others) := takesNext options (String.ofList (c :: more)) rest
      token :: argsToTokens options fuel others
  | fuel + 1, ['-', short] :: rest =>
    let (token, others) := takesNext options (findLongOptionForShort options short) rest
    token :: argsToTokens options fuel others
  | fuel + 1, ('-' :: short :: more) :: rest =>
    let name := findLongOptionForShort options short
    if isStringOption options name then
      .option name (some (String.ofList more)) :: argsToTokens options fuel rest
    else argsToTokens options fuel (expandGroup options (short :: more) ++ rest)
  | fuel + 1, arg :: rest => .positional (String.ofList arg) :: argsToTokens options fuel rest

/-- `storeOption`. -/
def storeOption (name : String) (value : Option String) (values : Values) : Values :=
  if name = "__proto__" then values
  else
    let stored := match value with
      | some text => ArgValue.text text
      | none => .flag
    if (values.lookup name).isSome then
      values.map (fun entry => if entry.1 = name then (name, stored) else entry)
    else values ++ [(name, stored)]

/-- The tokens, one after the other. -/
def storeTokens : List Token -> Values × List String -> Values × List String
  | [], stored => stored
  | .option name value :: rest, (values, positionals) =>
    storeTokens rest (storeOption name value values, positionals)
  | .positional value :: rest, (values, positionals) =>
    storeTokens rest (values, positionals ++ [value])

/-- `text.length`, in UTF-16 units. -/
def jsLength (text : String) : Nat := (JsString.ofText text).length

/-- A configuration that `parseArgs` takes. -/
def isValidOption (option : String × OptionConfig) : Bool :=
  (option.2.type == "string" || option.2.type == "boolean") &&
    option.2.short.all (fun short => jsLength short == 1)

/-- `parseArgs`, with the error of Node for an option that it does not take. -/
def parseArgs (invalid : String × OptionConfig -> Thrown) (args : List String) (options : Options) :
    Except Thrown (Values × List String) :=
  match options.find? (fun o => !isValidOption o) with
  | some refused => .error (invalid refused)
  | none =>
    let letters := args.map String.toList
    .ok (storeTokens (argsToTokens options (letters.flatten.length + letters.length) letters)
      ([], []))

/-- `values.help` counts as true. -/
def helpWanted (values : Values) : Bool :=
  match values.lookup "help" with
  | none => false
  | some .flag => true
  | some (.text value) => value != ""

section Functions

variable {Handler : Type}

/-- `commands.set(name, config)`. -/
def register : Commands Handler -> String -> Command Handler -> Commands Handler
  | [], name, config => [(name, config)]
  | (other, known) :: rest, name, config =>
    if other = name then (name, config) :: rest else (other, known) :: register rest name config

def padEnd (width : Nat) (text : String) : String :=
  text ++ String.ofList (List.replicate (width - jsLength text) ' ')

/-- A line of help on an option. -/
def optionLine (entry : String × OptionConfig) : String :=
  let flag :=
    match entry.2.short with
    | none => "    --" ++ entry.1
    | some short => if short = "" then "    --" ++ entry.1 else "-" ++ short ++ ", --" ++ entry.1
  "  " ++ padEnd 20 flag ++ entry.2.description.getD ""

def optionLines (options : Options) : List String :=
  if options = [] then [] else "\nOptions:" :: options.map optionLine

/-- `printHelp`. -/
def printHelp (commands : Commands Handler) : List String :=
  let maxLen := (commands.map (fun c => jsLength c.1)).foldl max 0
  let line := fun (c : String × Command Handler) =>
    "  " ++ padEnd (maxLen + 2) c.1 ++ c.2.description ++
      match c.2.subcommands with
      | some subs => "  [" ++ ", ".intercalate (subs.map (fun s => s.1)) ++ "]"
      | none => ""
  ["Usage: tv <command> [options]\n", "Commands:"] ++ commands.map line ++
    ["\nRun \"tv <command> --help\" for command-specific options.", "\nDISCLAIMER",
      "  Not affiliated with TradingView Inc. or Anthropic, PBC.",
      "  Use subject to TradingView's Terms of Use: tradingview.com/policies"]

/-- `printCommandHelp`. -/
def printCommandHelp (name : String) (cmd : Command Handler) : List String :=
  (match cmd.subcommands with
    | some subs =>
      ["Usage: tv " ++ name ++ " <subcommand> [options]\n", "Subcommands:"] ++
        subs.map (fun s => "  " ++ padEnd 12 s.1 ++ s.2.description)
    | none => ["Usage: tv " ++ name ++ " [options]\n", cmd.description]) ++
    optionLines (cmd.options.getD [])

/-- The help on a subcommand. -/
def printSubcommandHelp (name subName : String) (sub : Subcommand Handler) : List String :=
  ["Usage: tv " ++ name ++ " " ++ subName ++ " [options]\n", sub.description] ++
    optionLines (sub.options.getD [])

/-- The options of a command, and `help` unless it is one of them. -/
def withHelp (options : Options) : Options :=
  match options.lookup "help" with
  | some own => ("help", own) :: options.filter (fun o => o.1 ≠ "help")
  | none => ("help", ⟨"boolean", some "h", none⟩) :: options

def isHelp (arg : String) : Bool := arg == "--help" || arg == "-h"

/-- The rest of the arguments, for a command or a subcommand. -/
def runParsed (invalid : String × OptionConfig -> Thrown) (args : List String) (options : Options)
    (help : List String) (handler : Handler) : Dispatch Handler :=
  match parseArgs invalid args (withHelp options) with
  | .error thrown => .fails thrown
  | .ok (values, positionals) =>
    if helpWanted values then .quits help [] 0 else .executes handler values positionals

/-- `run`. -/
def run (invalid : String × OptionConfig -> Thrown) (commands : Commands Handler)
    (argv : List String) : Dispatch Handler :=
  match argv.drop 2 with
  | [] => .quits (printHelp commands) [] 0
  | cmdName :: rest =>
    if isHelp cmdName then .quits (printHelp commands) [] 0
    else
      match commands.lookup cmdName with
      | none =>
        .quits [] ["Unknown command: " ++ cmdName, "Run \"tv --help\" for a list of commands."] 1
      | some cmd =>
        match cmd.subcommands with
        | none =>
          runParsed invalid rest (cmd.options.getD []) (printCommandHelp cmdName cmd) cmd.handler
        | some subs =>
          match rest with
          | [] => .quits (printCommandHelp cmdName cmd) [] 0
          | subName :: args =>
            if subName = "" ∨ isHelp subName then .quits (printCommandHelp cmdName cmd) [] 0
            else
              match subs.lookup subName with
              | none =>
                .quits (printCommandHelp cmdName cmd)
                  ["Unknown subcommand: " ++ cmdName ++ " " ++ subName] 1
              | some sub =>
                runParsed invalid args (sub.options.getD [])
                  (printSubcommandHelp cmdName subName sub) sub.handler

/-- A text on a stream, as bytes. -/
def onStream (stream : Stream) (text : List Char) (other : Stream) : List UInt8 :=
  if other = stream then encodeUtf8 text else []

/-- `writeAndExit`. -/
def writeAndExit (stream : Stream) (text : List Char) (code : Int) : Ending UInt8 :=
  ⟨onStream stream (text ++ ['\n']), code, some stream⟩

/-- `JSON.stringify(value, null, 2)` in front of a line break. -/
def jsonText (value : JsValue) : List Char := (stringify 2 value).getD "undefined".toList

/-- `/CDP|connection|ECONNREFUSED|not running/i.test(message)`. -/
def isConnectionFailure (message : JsString) : Bool :=
  ["cdp", "connection", "econnrefused", "not running"].any (fun word =>
    Discovery.occursIn (codePoints word) (message.map (fun unit => foldUnit unit.toNat)))

def errorMessage (thrown : Thrown) : JsString :=
  if thrown.message = [] then thrown.shown else thrown.message

def exitCode (thrown : Thrown) : Int := if isConnectionFailure (errorMessage thrown) then 2 else 1

/-- `{ success: false, error: message }`. -/
def errorValue (thrown : Thrown) : JsValue :=
  .object [(JsString.ofText "success", .bool false),
    (JsString.ofText "error", .string (errorMessage thrown))]

/-- `handleError`. -/
def handleError (thrown : Thrown) : Ending UInt8 :=
  writeAndExit .stderr (jsonText (errorValue thrown)) (exitCode thrown)

/-- `execute`, of what the handler comes to. -/
def execute : Outcome -> Ending UInt8
  | .resolves result => writeAndExit .stdout (jsonText result) 0
  | .throws thrown => handleError thrown

/-- Lines of the console, and the exit after them. -/
def quit (stdout stderr : List String) (code : Int) : Ending UInt8 :=
  let lines := fun (texts : List String) => encodeUtf8 (texts.flatMap (fun t => t.toList ++ ['\n']))
  ⟨fun stream => match stream with | .stdout => lines stdout | .stderr => lines stderr, code, none⟩

/-- The end of the process, unless a handler never settles. -/
def ending (handle : Handler -> Values -> List String -> Option Outcome) :
    Dispatch Handler -> Option (Ending UInt8)
  | .quits stdout stderr code => some (quit stdout stderr code)
  | .fails thrown => some (handleError thrown)
  | .executes handler values positionals => (handle handler values positionals).map execute

end Functions

/-! ## Commands by their names -/

section Register

variable {Handler : Type}

theorem lookup_register (commands : Commands Handler) (name : String) (config : Command Handler)
    (other : String) :
    (register commands name config).lookup other =
      if other = name then some config else commands.lookup other := by
  induction commands with
  | nil =>
      by_cases same : other = name
      · simp [register, same]
      · have differs : (other == name) = false := beq_false_of_ne same
        simp [register, same, List.lookup_cons, differs]
  | cons entry rest ih =>
      rcases entry with ⟨known, own⟩
      by_cases here : known = name
      · by_cases same : other = name
        · simp [register, here, same]
        · have differs : (other == name) = false := beq_false_of_ne same
          simp [register, here, same, List.lookup_cons, differs]
      · by_cases same : other = known
        · subst same
          simp [register, here]
        · have differs : (other == known) = false := beq_false_of_ne same
          simp only [register, if_neg here, List.lookup_cons, differs]
          exact ih

/-- The commands after some registrations. -/
def registered (history : List (String × Command Handler)) : Commands Handler :=
  history.foldl (fun commands entry => register commands entry.1 entry.2) []

/-- The last registration of a name counts. -/
theorem lookup_registered (history : List (String × Command Handler)) (name : String) :
    (registered history).lookup name = history.reverse.lookup name := by
  induction history using List.reverseRecOn with
  | nil => rfl
  | append_singleton earlier entry ih =>
      rcases entry with ⟨known, own⟩
      rw [registered, List.foldl_append, List.foldl_cons, List.foldl_nil, ← registered,
        lookup_register, List.reverse_append, List.reverse_singleton, List.singleton_append, ih]
      by_cases same : name = known
      · simp [same]
      · have differs : (name == known) = false := beq_false_of_ne same
        simp [same, List.lookup_cons, differs]

/-- A command without subcommands gets the rest of the arguments. -/
theorem run_of_lookup {invalid : String × OptionConfig -> Thrown} {commands : Commands Handler}
    {node script name : String} {args : List String} {cmd : Command Handler}
    (noHelp : isHelp name = false) (known : commands.lookup name = some cmd)
    (plain : cmd.subcommands = none) :
    run invalid commands (node :: script :: name :: args) =
      runParsed invalid args (cmd.options.getD []) (printCommandHelp name cmd) cmd.handler := by
  simp only [run, List.drop_succ_cons, List.drop_zero, noHelp, known, plain, Bool.false_eq_true,
    if_false]

end Register

/-! ## A count -/

section Count

variable {options : Options}

theorem withHelp_valid (valid : forall option, option ∈ options -> isValidOption option = true) :
    forall option, option ∈ withHelp options -> isValidOption option = true := by
  unfold withHelp
  cases known : options.lookup "help" with
  | none =>
      refine List.forall_mem_cons.mpr ⟨?_, valid⟩
      decide
  | some own =>
      have listed : ("help", own) ∈ options := by
        rcases List.lookup_eq_some_iff.mp known with ⟨before, after, rfl, -⟩
        exact List.mem_append_right _ List.mem_cons_self
      refine List.forall_mem_cons.mpr ⟨valid _ listed, ?_⟩
      exact fun option listed => valid option (List.mem_filter.mp listed).1

/-- `-n` and a text, where `n` is short for an option that takes one: the option has the
text, even one that begins with a minus sign. -/
theorem parseArgs_count (invalid : String × OptionConfig -> Thrown) {name : String}
    (valid : forall option, option ∈ options -> isValidOption option = true)
    (short : findLongOptionForShort options 'n' = name)
    (takes : isStringOption options name = true) (named : name ≠ "__proto__") (count : String) :
    parseArgs invalid ["-n", count] options = .ok ([(name, .text count)], []) := by
  have none : options.find? (fun o => !isValidOption o) = none := by
    refine List.find?_eq_none.mpr (fun option listed => ?_)
    rw [valid option listed]
    exact Bool.false_ne_true
  have next : takesNext options name [count.toList] = (.option name (some count), []) := by
    rw [takesNext, if_pos takes, String.ofList_toList]
  have fuel : exists n, (["-n", count].map String.toList).flatten.length +
      (["-n", count].map String.toList).length = n + 2 := ⟨_, rfl⟩
  rcases fuel with ⟨n, fuel⟩
  have tokens : argsToTokens options (n + 2) (["-n", count].map String.toList) =
      [.option name (some count)] := by
    change argsToTokens options (n + 1 + 1) [['-', 'n'], count.toList] = _
    rw [argsToTokens]
    · simp only [short, next, argsToTokens]
    · decide
  simp only [parseArgs, none, fuel, tokens, storeTokens, storeOption, if_neg named]
  rfl

end Count

end Cli
end HybridDataSvc
