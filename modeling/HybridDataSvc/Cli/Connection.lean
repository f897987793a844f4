import HybridDataSvc.Cli.Router
import HybridDataSvc.Discovery.Sticky
import HybridDataSvc.Interaction.Program

namespace HybridDataSvc
namespace Connection

open Interaction Interaction.Program Discovery JsonText NumberText
open Cli (Thrown)
open Discovery.Node (foldUnit isPage)

/-!
# The connection of the `tv` command

`connection.js` keeps a client, its target and the endpoint that was
discovered.  A client that does not answer is replaced, in five attempts with
longer and longer pauses; after a failed attempt the endpoint is discovered
anew.  The port, the browser and the clock are the surroundings, and may answer
anything at any time.  The calls of a command come one after the other.
-/

abbrev Endpoint := CodePoints × Double

inductive Domain
  | runtime
  | page
  | dom
  deriving DecidableEq, Repr

/-- The arguments of `Runtime.evaluate`. -/
structure Request where
  expression : String
  returnByValue : Bool
  awaitPromise : Bool
  deriving DecidableEq, Repr

/-- The answer of `Runtime.evaluate`: `result.value`, and of `exceptionDetails`
the description or else the text. -/
structure Evaluated where
  value : Option Json
  exception : Option (Option JsString)

/-- What `connection.js` calls. -/
inductive Command (Client : Type)
  | discoverCdp
  | fetchList (endpoint : Endpoint)
  | cdp (endpoint : Endpoint) (target : Option Json)
  | enable (client : Client) (domain : Domain)
  | evaluate (client : Client) (request : Request)
  | close (client : Client)
  | setTimeout (milliseconds : Nat)

variable {Client : Type}

@[reducible] def Answer : Command Client -> Type
  | .discoverCdp => Except Thrown Endpoint
  | .fetchList _ => Except Thrown Json
  | .cdp _ _ => Except Thrown Client
  | .enable _ _ => Except Thrown Unit
  | .evaluate _ _ => Except Thrown Evaluated
  | .close _ => Except Thrown Unit
  | .setTimeout _ => Unit

/-- A part of the module. -/
abbrev Js (Client : Type) := Program (Command Client) Answer

abbrev call (command : Command Client) : Js Client (Answer command) := request command

/-- What has happened. -/
abbrev Happened (Client : Type) := Event (@Answer Client)

/-- The variables of the module. -/
structure Session (Client : Type) where
  client : Option Client
  targetInfo : Option Json
  cdpEndpoint : Option Endpoint

def Session.initial : Session Client := ⟨none, none, none⟩

/-- `new Error(message)`. -/
def newError (message : JsString) : Thrown := ⟨message, JsString.ofText "Error: " ++ message⟩

/-! ## The target -/

/-- `pattern.test(t.url)`, of a pattern without regard to case; nothing when it raises. -/
def testUrl (runtimes : Runtimes) (pattern : CodePoints) (target : Json) : Option Bool :=
  match Node.property target "url" with
  | none => some (occursIn pattern ((codePoints "undefined").map foldUnit))
  | some url => (Node.string runtimes url).map (fun text => occursIn pattern (text.map foldUnit))

/-- `targets.find(t => t.type === 'page' && pattern.test(t.url))`; nothing when it raises. -/
def findTarget (runtimes : Runtimes) (pattern : CodePoints) : List Json -> Option (Option Json)
  | [] => some none
  | .null :: _ => none
  | target :: rest =>
    if isPage target then
      match testUrl runtimes pattern target with
      | none => none
      | some true => some (some target)
      | some false => findTarget runtimes pattern rest
    else findTarget runtimes pattern rest

/-- `findChartTarget`, of the list of targets. -/
def findChartTarget (runtimes : Runtimes) : Json -> Option (Option Json)
  | .array targets =>
    match findTarget runtimes (codePoints "tradingview.com/chart") targets with
    | none => none
    | some (some target) => some (some target)
    | some none => findTarget runtimes (codePoints "tradingview") targets
  | _ => none

/-! ## The connection -/

/-- `getEndpoint`. -/
def getEndpoint (session : Session Client) : Js Client (Except Thrown Endpoint × Session Client) :=
  match session.cdpEndpoint with
  | some endpoint => return (.ok endpoint, session)
  | none => do
    match ← call .discoverCdp with
    | .error thrown => return (.error thrown, session)
    | .ok endpoint => return (.ok endpoint, { session with cdpEndpoint := some endpoint })

/-- The domains are enabled one after the other. -/
def enableAll (client : Client) : List Domain -> Js Client (Except Thrown Unit)
  | [] => return .ok ()
  | domain :: rest => do
    match ← call (.enable client domain) with
    | .error thrown => return .error thrown
    | .ok () => enableAll client rest

def noChartTarget : Thrown :=
  newError (JsString.ofText "No TradingView chart target found. Is TradingView open with a chart?")

/-- A round of the loop of `connect` without its `catch`; `findRaises` is the
error of a list that cannot be searched. -/
def attempt (runtimes : Runtimes) (findRaises : Json -> Thrown) (session : Session Client) :
    Js Client (Except Thrown Client × Session Client) := do
  match ← getEndpoint session with
  | (.error thrown, session) => return (.error thrown, session)
  | (.ok endpoint, session) =>
    match ← call (.fetchList endpoint) with
    | .error thrown => return (.error thrown, session)
    | .ok targets =>
      match findChartTarget runtimes targets with
      | none => return (.error (findRaises targets), session)
      | some none => return (.error noChartTarget, session)
      | some (some target) =>
        match ← call (.cdp endpoint (Node.property target "id")) with
        | .error thrown => return (.error thrown, { session with targetInfo := some target })
        | .ok client =>
          let session := { session with targetInfo := some target, client := some client }
          match ← enableAll client [.runtime, .page, .dom] with
          | .error thrown => return (.error thrown, session)
          | .ok () => return (.ok client, session)

/-- The pause after an attempt. -/
def delay (attempt : Nat) : Nat := min (500 * 2 ^ attempt) 30000

def connectionFailed (lastError : Thrown) : Thrown :=
  newError (JsString.ofText "CDP connection failed after 5 attempts: " ++ lastError.message)

/-- The loop of `connect`, after some attempts. -/
def attempts (runtimes : Runtimes) (findRaises : Json -> Thrown) :
    Nat -> Nat -> Thrown -> Session Client -> Js Client (Except Thrown Client × Session Client)
  | _, 0, lastError, session => return (.error (connectionFailed lastError), session)
  | tried, left + 1, _, session => do
    match ← attempt runtimes findRaises session with
    | (.ok client, session) => return (.ok client, session)
    | (.error thrown, session) =>
      call (.setTimeout (delay tried))
      attempts runtimes findRaises (tried + 1) left thrown { session with cdpEndpoint := none }

/-- `connect`, with its five attempts. -/
def connect (runtimes : Runtimes) (findRaises : Json -> Thrown) (session : Session Client) :
    Js Client (Except Thrown Client × Session Client) :=
  attempts runtimes findRaises 0 5 ⟨JsString.ofText "undefined", []⟩ session

/-- `getClient`. -/
def getClient (runtimes : Runtimes) (findRaises : Json -> Thrown) (session : Session Client) :
    Js Client (Except Thrown Client × Session Client) :=
  match session.client with
  | none => connect runtimes findRaises session
  | some client => do
    match ← call (.evaluate client ⟨"1", true, false⟩) with
    | .ok _ => return (.ok client, session)
    | .error _ =>
      connect runtimes findRaises { session with client := none, targetInfo := none }

/-- `getTargetInfo`. -/
def getTargetInfo (runtimes : Runtimes) (findRaises : Json -> Thrown) (session : Session Client) :
    Js Client (Except Thrown (Option Json) × Session Client) :=
  match session.targetInfo with
  | some target => return (.ok (some target), session)
  | none => do
    match ← getClient runtimes findRaises session with
    | (.error thrown, session) => return (.error thrown, session)
    | (.ok _, session) => return (.ok session.targetInfo, session)

/-- `evaluate`, whose options are at most `awaitPromise`. -/
def evaluate (runtimes : Runtimes) (findRaises : Json -> Thrown) (expression : String)
    (awaitPromise : Option Bool) (session : Session Client) :
    Js Client (Except Thrown (Option Json) × Session Client) := do
  match ← getClient runtimes findRaises session with
  | (.error thrown, session) => return (.error thrown, session)
  | (.ok client, session) =>
    match ← call (.evaluate client ⟨expression, true, awaitPromise.getD false⟩) with
    | .error thrown => return (.error thrown, session)
    | .ok answer =>
      match answer.exception with
      | none => return (.ok answer.value, session)
      | some shown =>
        let message := shown.getD (JsString.ofText "Unknown evaluation error")
        return (.error (newError (JsString.ofText "JS evaluation error: " ++ message)), session)

/-- `disconnect`. -/
def disconnect (session : Session Client) : Js Client (Unit × Session Client) :=
  match session.client with
  | none => return ((), session)
  | some client => do
    let _ ← call (.close client)
    return ((), { session with client := none, targetInfo := none })

/-! ## One attempt -/

def pauseOf : Command Client -> Option Nat
  | .setTimeout milliseconds => some milliseconds
  | _ => none

/-- The pauses of a run. -/
def pauses (events : List (Happened Client)) : List Nat :=
  events.filterMap (fun event => pauseOf event.1)

/-- No pause, and nothing that is done to a client that is held. -/
def Quiet (event : Happened Client) : Prop :=
  match event.1 with
  | .setTimeout _ => False
  | .evaluate _ _ => False
  | .close _ => False
  | _ => True

/-- A domain of the client could not be enabled. -/
def EnableFails (client : Client) (events : List (Happened Client)) : Prop :=
  exists domain thrown, ⟨.enable client domain, .error thrown⟩ ∈ events

/-- A client could not be opened. -/
def Refused (events : List (Happened Client)) : Prop :=
  exists endpoint id thrown, ⟨.cdp endpoint id, .error thrown⟩ ∈ events

theorem Refused.later {events : List (Happened Client)} (refused : Refused events)
    (earlier : List (Happened Client)) : Refused (earlier ++ events) := by
  rcases refused with ⟨endpoint, id, thrown, here⟩
  exact ⟨endpoint, id, thrown, List.mem_append_right _ here⟩

theorem Refused.earlier {events : List (Happened Client)} (refused : Refused events)
    (later : List (Happened Client)) : Refused (events ++ later) := by
  rcases refused with ⟨endpoint, id, thrown, here⟩
  exact ⟨endpoint, id, thrown, List.mem_append_left _ here⟩

theorem EnableFails.later {client : Client} {events : List (Happened Client)}
    (failed : EnableFails client events) (earlier : List (Happened Client)) :
    EnableFails client (earlier ++ events) := by
  rcases failed with ⟨domain, thrown, here⟩
  exact ⟨domain, thrown, List.mem_append_right _ here⟩

theorem pauses_append (first second : List (Happened Client)) :
    pauses (first ++ second) = pauses first ++ pauses second := List.filterMap_append

theorem pauses_of_quiet {events : List (Happened Client)}
    (quiet : forall event, event ∈ events -> Quiet event) : pauses events = [] := by
  refine List.filterMap_eq_nil_iff.mpr (fun event member => ?_)
  have silent := quiet event member
  unfold Quiet at silent
  split at silent
  · exact silent.elim
  · exact silent.elim
  · exact silent.elim
  · rename_i noPause _ _
    unfold pauseOf
    split
    · rename_i milliseconds same
      exact absurd same (noPause milliseconds)
    · rfl

/-- The events by which a client of a target comes to be ready. -/
def opening (endpoint : Endpoint) (target : Json) (client : Client) : List (Happened Client) :=
  [⟨.cdp endpoint (Node.property target "id"), .ok client⟩, ⟨.enable client .runtime, .ok ()⟩,
    ⟨.enable client .page, .ok ()⟩, ⟨.enable client .dom, .ok ()⟩]

/-- What was asked for an endpoint: nothing where one is remembered. -/
def Asked (session : Session Client) (endpoint : Endpoint) (events : List (Happened Client)) :
    Prop :=
  (session.cdpEndpoint = some endpoint ∧ events = []) ∨
    (session.cdpEndpoint = none ∧ events = [⟨.discoverCdp, .ok endpoint⟩])

/-- An attempt that has come to its end: the target is found in the list of the
endpoint, and its client has its domains enabled. -/
structure Connects (runtimes : Runtimes) (session after : Session Client) (client : Client)
    (events : List (Happened Client)) (endpoint : Endpoint) (target : Json) : Prop where
  events_eq : exists asked targets, Asked session endpoint asked ∧
    findChartTarget runtimes targets = some (some target) ∧
    events = asked ++ ⟨.fetchList endpoint, .ok targets⟩ :: opening endpoint target client
  after_eq : after = ⟨some client, some target, some endpoint⟩

/-- What events that come to nothing leave of a session: its client and its target, as far as
a client could be opened for that, or a client that is not ready. -/
def Leaves (session after : Session Client) (events : List (Happened Client)) : Prop :=
  (after.client = session.client ∧ (after.targetInfo = session.targetInfo ∨ Refused events)) ∨
    exists client, after.client = some client ∧ EnableFails client events

/-- An attempt that has failed. -/
structure Fails (session after : Session Client) (events : List (Happened Client)) : Prop where
  quiet : forall event, event ∈ events -> Quiet event
  discovers : session.cdpEndpoint = none -> exists answer rest, events = ⟨.discoverCdp, answer⟩ :: rest
  leaves : Leaves session after events

theorem path_getEndpoint {session after : Session Client} {events : List (Happened Client)}
    {result : Except Thrown Endpoint} (path : Path (getEndpoint session) events (result, after)) :
    (exists endpoint, result = .ok endpoint ∧ after = { session with cdpEndpoint := some endpoint } ∧
      Asked session endpoint events) ∨
    (exists thrown, result = .error thrown ∧ after = session ∧ session.cdpEndpoint = none ∧
      events = [⟨.discoverCdp, .error thrown⟩]) := by
  unfold getEndpoint at path
  cases known : session.cdpEndpoint with
  | some endpoint =>
      rw [known] at path
      rcases (path_pure_iff _).mp path with ⟨rfl, same⟩
      cases same
      refine Or.inl ⟨endpoint, rfl, ?_, Or.inl ⟨known, rfl⟩⟩
      rw [← known]
  | none =>
      rw [known] at path
      simp only [path_bind_iff, path_request_iff] at path
      rcases path with ⟨_, answer, _, rfl, rfl, path⟩
      cases answer with
      | error thrown =>
          rcases (path_pure_iff _).mp path with ⟨rfl, same⟩
          cases same
          exact Or.inr ⟨thrown, rfl, rfl, rfl, rfl⟩
      | ok endpoint =>
          rcases (path_pure_iff _).mp path with ⟨rfl, same⟩
          cases same
          exact Or.inl ⟨endpoint, rfl, rfl, Or.inr ⟨known, rfl⟩⟩

theorem path_enableAll {client : Client} {domains : List Domain} {events : List (Happened Client)}
    {result : Except Thrown Unit} (path : Path (enableAll client domains) events result) :
    (forall event, event ∈ events -> Quiet event) ∧
      ((result = .ok () ∧ events = domains.map (fun domain => ⟨.enable client domain, .ok ()⟩)) ∨
        (exists thrown, result = .error thrown ∧ EnableFails client events)) := by
  induction domains generalizing events with
  | nil =>
      rcases (path_pure_iff _).mp path with ⟨rfl, rfl⟩
      exact ⟨List.forall_mem_nil _, Or.inl ⟨rfl, rfl⟩⟩
  | cons domain rest ih =>
      simp only [enableAll, path_bind_iff, path_request_iff] at path
      rcases path with ⟨_, answer, later, rfl, rfl, path⟩
      cases answer with
      | error thrown =>
          rcases (path_pure_iff _).mp path with ⟨rfl, rfl⟩
          exact ⟨List.forall_mem_singleton.mpr trivial,
            Or.inr ⟨thrown, rfl, domain, thrown, List.mem_cons_self⟩⟩
      | ok done =>
          rcases ih path with ⟨quiet, ⟨rfl, rfl⟩ | ⟨thrown, rfl, failed⟩⟩
          · exact ⟨List.forall_mem_cons.mpr ⟨trivial, quiet⟩, Or.inl ⟨rfl, rfl⟩⟩
          · exact ⟨List.forall_mem_cons.mpr ⟨trivial, quiet⟩,
              Or.inr ⟨thrown, rfl, failed.later [_]⟩⟩

theorem Asked.quiet {session : Session Client} {endpoint : Endpoint}
    {events : List (Happened Client)} (asked : Asked session endpoint events) :
    forall event, event ∈ events -> Quiet event := by
  rcases asked with ⟨_, rfl⟩ | ⟨_, rfl⟩
  · exact List.forall_mem_nil _
  · exact List.forall_mem_singleton.mpr trivial

/-- What comes after the endpoint does not make up for a failure. -/
theorem Asked.fails {session after : Session Client} {asked later : List (Happened Client)}
    {endpoint : Endpoint} (opened : Asked session endpoint asked)
    (quiet : forall event, event ∈ later -> Quiet event) (leaves : Leaves session after later) :
    Fails session after (asked ++ later) := by
  refine ⟨List.forall_mem_append.mpr ⟨opened.quiet, quiet⟩, ?_, leaves.imp ?_ ?_⟩
  · intro unknown
    rcases opened with ⟨known, rfl⟩ | ⟨_, rfl⟩
    · rw [known] at unknown
      cases unknown
    · exact ⟨_, later, rfl⟩
  · exact And.imp_right (Or.imp_right (fun refused => refused.later asked))
  · rintro ⟨client, held, failed⟩
    exact ⟨client, held, failed.later asked⟩

/-- An attempt succeeds or fails. -/
theorem path_attempt {runtimes : Runtimes} {findRaises : Json -> Thrown}
    {session after : Session Client} {events : List (Happened Client)}
    {result : Except Thrown Client}
    (path : Path (attempt runtimes findRaises session) events (result, after)) :
    (exists client endpoint target, result = .ok client ∧
      Connects runtimes session after client events endpoint target) ∨
    (exists thrown, result = .error thrown ∧ Fails session after events) := by
  rw [attempt, path_bind_iff] at path
  rcases path with ⟨first, ⟨found, known⟩, later, rfl, opened, path⟩
  rcases path_getEndpoint opened with ⟨endpoint, rfl, rfl, asked⟩ | ⟨thrown, rfl, rfl, unknown, rfl⟩
  · simp only [path_bind_iff, path_request_iff] at path
    rcases path with ⟨_, listed, rest, rfl, rfl, path⟩
    have listing : Quiet (⟨.fetchList endpoint, listed⟩ : Happened Client) := trivial
    have one := List.forall_mem_singleton.mpr listing
    cases listed with
    | error thrown =>
        rcases (path_pure_iff _).mp path with ⟨rfl, same⟩
        cases same
        exact Or.inr ⟨thrown, rfl, asked.fails one (Or.inl ⟨rfl, Or.inl rfl⟩)⟩
    | ok targets =>
        cases search : findChartTarget runtimes targets with
        | none =>
            simp only [search] at path
            rcases (path_pure_iff _).mp path with ⟨rfl, same⟩
            cases same
            exact Or.inr ⟨_, rfl, asked.fails one (Or.inl ⟨rfl, Or.inl rfl⟩)⟩
        | some chosen =>
            cases chosen with
            | none =>
                simp only [search] at path
                rcases (path_pure_iff _).mp path with ⟨rfl, same⟩
                cases same
                exact Or.inr ⟨_, rfl, asked.fails one (Or.inl ⟨rfl, Or.inl rfl⟩)⟩
            | some target =>
                simp only [search, path_bind_iff, path_request_iff] at path
                rcases path with ⟨_, opened, last, rfl, rfl, path⟩
                have connecting : Quiet (⟨.cdp endpoint (Node.property target "id"), opened⟩ :
                    Happened Client) := trivial
                have two := List.forall_mem_append.mpr
                  ⟨one, List.forall_mem_singleton.mpr connecting⟩
                cases opened with
                | error thrown =>
                    rcases (path_pure_iff _).mp path with ⟨rfl, same⟩
                    cases same
                    exact Or.inr ⟨thrown, rfl, asked.fails two
                      (Or.inl ⟨rfl, Or.inr ⟨endpoint, Node.property target "id", thrown, by simp⟩⟩)⟩
                | ok client =>
                    simp only [path_bind_iff] at path
                    rcases path with ⟨enabling, done, final, rfl, enabled, path⟩
                    rcases path_enableAll enabled with
                      ⟨quiet, ⟨rfl, rfl⟩ | ⟨thrown, rfl, failed⟩⟩
                    · rcases (path_pure_iff _).mp path with ⟨rfl, same⟩
                      cases same
                      exact Or.inl ⟨client, endpoint, target, rfl,
                        ⟨first, targets, asked, search, rfl⟩, rfl⟩
                    · rcases (path_pure_iff _).mp path with ⟨rfl, same⟩
                      cases same
                      rw [List.append_nil]
                      refine Or.inr ⟨thrown, rfl, asked.fails ?_ (Or.inr ⟨client, rfl, ?_⟩)⟩
                      · exact List.forall_mem_append.mpr ⟨one,
                          List.forall_mem_cons.mpr ⟨connecting, quiet⟩⟩
                      · exact failed.later [_, _]
  · rcases (path_pure_iff _).mp path with ⟨rfl, same⟩
    cases same
    exact Or.inr ⟨thrown, rfl, List.forall_mem_singleton.mpr trivial, fun _ => ⟨_, _, rfl⟩,
      Or.inl ⟨rfl, Or.inl rfl⟩⟩

/-! ## Five attempts -/

/-- The run begins with a discovery. -/
def Discovers (events : List (Happened Client)) : Prop :=
  exists answer rest, events = ⟨.discoverCdp, answer⟩ :: rest

/-- After a pause the endpoint is discovered anew, or nothing comes. -/
def AsksAnew (events : List (Happened Client)) : Prop :=
  forall before milliseconds after, events = before ++ ⟨.setTimeout milliseconds, ()⟩ :: after ->
    after = [] ∨ Discovers after

theorem asksAnew_of_quiet {events : List (Happened Client)}
    (quiet : forall event, event ∈ events -> Quiet event) : AsksAnew events := by
  rintro before milliseconds after rfl
  exact (quiet ⟨.setTimeout milliseconds, ()⟩ (by simp)).elim

theorem AsksAnew.round {round later : List (Happened Client)} {milliseconds : Nat}
    (quiet : forall event, event ∈ round -> Quiet event) (anew : AsksAnew later)
    (starts : later = [] ∨ Discovers later) :
    AsksAnew (round ++ ⟨.setTimeout milliseconds, ()⟩ :: later) := by
  intro before other after split
  rcases List.append_eq_append_iff.mp split with ⟨inside, rfl, same⟩ | ⟨inside, rfl, same⟩
  · cases inside with
    | nil =>
        cases same
        exact starts
    | cons head rest =>
        cases same
        exact anew rest other after rfl
  · cases inside with
    | nil =>
        cases same
        exact starts
    | cons head rest =>
        cases same
        exact (quiet ⟨.setTimeout other, ()⟩ (by simp)).elim

theorem Connects.quiet {runtimes : Runtimes} {session after : Session Client} {client : Client}
    {events : List (Happened Client)} {endpoint : Endpoint} {target : Json}
    (connects : Connects runtimes session after client events endpoint target) :
    forall event, event ∈ events -> Quiet event := by
  rcases connects.events_eq with ⟨asked, targets, opened, _, rfl⟩
  refine List.forall_mem_append.mpr ⟨opened.quiet, ?_⟩
  simp [opening, Quiet]

theorem Connects.discovers {runtimes : Runtimes} {session after : Session Client} {client : Client}
    {events : List (Happened Client)} {endpoint : Endpoint} {target : Json}
    (connects : Connects runtimes session after client events endpoint target)
    (unknown : session.cdpEndpoint = none) : Discovers events := by
  rcases connects.events_eq with ⟨asked, targets, ⟨known, _⟩ | ⟨_, rfl⟩, _, rfl⟩
  · rw [unknown] at known
    cases known
  · exact ⟨_, _, rfl⟩

/-- A pause, or a quiet event. -/
def Waits (event : Happened Client) : Prop :=
  Quiet event ∨ exists milliseconds, event = ⟨.setTimeout milliseconds, ()⟩

/-- Attempts that have failed one after the other, each with its pause: how many, what
happened in them, and the session after the last. -/
inductive FailedRounds (runtimes : Runtimes) (findRaises : Json -> Thrown) :
    Nat -> Session Client -> Nat -> List (Happened Client) -> Session Client -> Prop
  | nil {tried : Nat} {session : Session Client} :
      FailedRounds runtimes findRaises tried session 0 [] session
  | round {tried count : Nat} {session between after : Session Client} {thrown : Thrown}
      {first events : List (Happened Client)}
      (fails : Path (attempt runtimes findRaises session) first (.error thrown, between))
      (rest : FailedRounds runtimes findRaises (tried + 1) { between with cdpEndpoint := none }
        count events after) :
      FailedRounds runtimes findRaises tried session (count + 1)
        (first ++ ⟨.setTimeout (delay tried), ()⟩ :: events) after

/-- The loop: some attempts that fail, and then one that connects or the end. -/
theorem path_attempts {runtimes : Runtimes} {findRaises : Json -> Thrown} {tried left : Nat}
    {lastError : Thrown} {session after : Session Client} {events : List (Happened Client)}
    {result : Except Thrown Client}
    (path : Path (attempts runtimes findRaises tried left lastError session) events (result, after)) :
    (exists failed earlier last client start endpoint target, failed < left ∧ result = .ok client ∧
      events = earlier ++ last ∧
      FailedRounds runtimes findRaises tried session failed earlier start ∧
      Connects runtimes start after client last endpoint target) ∨
    (exists thrown, result = .error (connectionFailed thrown) ∧
      FailedRounds runtimes findRaises tried session left events after) := by
  induction left generalizing tried lastError session events with
  | zero =>
      rcases (path_pure_iff _).mp path with ⟨rfl, same⟩
      cases same
      exact Or.inr ⟨lastError, rfl, .nil⟩
  | succ left ih =>
      rw [attempts, path_bind_iff] at path
      rcases path with ⟨round, ⟨found, between⟩, later, rfl, tried', path⟩
      cases found with
      | ok client =>
          rcases path_attempt tried' with ⟨other, endpoint, target, same, connects⟩ | ⟨thrown, same, _⟩
          · cases same
            rcases (path_pure_iff _).mp path with ⟨rfl, same⟩
            cases same
            rw [List.append_nil]
            exact Or.inl ⟨0, [], round, client, session, endpoint, target, Nat.succ_pos left, rfl,
              rfl, .nil, connects⟩
          · cases same
      | error thrown =>
          simp only [path_bind_iff, path_request_iff] at path
          rcases path with ⟨_, _, rest, rfl, rfl, path⟩
          rcases ih path with ⟨failed, earlier, last, client, start, endpoint, target, fewer, rfl, rfl,
            rounds, connects⟩ | ⟨last, rfl, rounds⟩
          · exact Or.inl ⟨failed + 1, _, last, client, start, endpoint, target,
              Nat.succ_lt_succ fewer, rfl, by simp, .round tried' rounds, connects⟩
          · exact Or.inr ⟨last, rfl, .round tried' rounds⟩

section Rounds

variable {runtimes : Runtimes} {findRaises : Json -> Thrown} {tried count : Nat}
  {session after : Session Client} {events : List (Happened Client)}

theorem fails_of_path {thrown : Thrown}
    (path : Path (attempt runtimes findRaises session) events (.error thrown, after)) :
    Fails session after events := by
  rcases path_attempt path with ⟨client, endpoint, target, same, _⟩ | ⟨_, _, fails⟩
  · cases same
  · exact fails

theorem FailedRounds.pauses_eq
    (rounds : FailedRounds runtimes findRaises tried session count events after) :
    pauses events = (List.range' tried count).map delay := by
  induction rounds with
  | nil => rfl
  | round fails rest ih =>
      rw [pauses_append, pauses_of_quiet (fails_of_path fails).quiet, List.range'_succ,
        List.map_cons, ← ih]
      rfl

theorem FailedRounds.waits
    (rounds : FailedRounds runtimes findRaises tried session count events after) :
    forall event, event ∈ events -> Waits event := by
  induction rounds with
  | nil => exact List.forall_mem_nil _
  | round fails rest ih =>
      exact List.forall_mem_append.mpr
        ⟨fun event member => Or.inl ((fails_of_path fails).quiet event member),
          List.forall_mem_cons.mpr ⟨Or.inr ⟨_, rfl⟩, ih⟩⟩

/-- What follows on the rounds begins with a discovery, unless nothing has failed. -/
theorem FailedRounds.forgets
    (rounds : FailedRounds runtimes findRaises tried session count events after) :
    (count = 0 ∧ events = [] ∧ after = session) ∨ after.cdpEndpoint = none := by
  induction rounds with
  | nil => exact Or.inl ⟨rfl, rfl, rfl⟩
  | round fails rest ih =>
      rcases ih with ⟨-, -, rfl⟩ | forgot
      · exact Or.inr rfl
      · exact Or.inr forgot

theorem FailedRounds.discovers {last : List (Happened Client)}
    (rounds : FailedRounds runtimes findRaises tried session count events after)
    (unknown : session.cdpEndpoint = none)
    (starts : after.cdpEndpoint = none -> last = [] ∨ Discovers last) :
    events ++ last = [] ∨ Discovers (events ++ last) := by
  cases rounds with
  | nil => exact starts unknown
  | round fails rest =>
      rcases (fails_of_path fails).discovers unknown with ⟨answer, more, rfl⟩
      exact Or.inr ⟨answer, _, rfl⟩

theorem FailedRounds.asksAnew {last : List (Happened Client)}
    (rounds : FailedRounds runtimes findRaises tried session count events after)
    (quiet : forall event, event ∈ last -> Quiet event)
    (starts : after.cdpEndpoint = none -> last = [] ∨ Discovers last) :
    AsksAnew (events ++ last) := by
  induction rounds with
  | nil => exact asksAnew_of_quiet quiet
  | round fails rest ih =>
      rw [List.append_assoc, List.cons_append]
      exact AsksAnew.round (fails_of_path fails).quiet (ih starts) (rest.discovers rfl starts)

theorem FailedRounds.leaves
    (rounds : FailedRounds runtimes findRaises tried session count events after) :
    Leaves session after events := by
  induction rounds with
  | nil => exact Or.inl ⟨rfl, Or.inl rfl⟩
  | @round tried count session between after thrown first events fails rest ih =>
      rcases ih with ⟨same, target⟩ | ⟨client, held, failed⟩
      · rcases (fails_of_path fails).leaves with ⟨kept, info⟩ | ⟨client, here, failed⟩
        · refine Or.inl ⟨same.trans kept, ?_⟩
          rcases target with target | refused
          · rcases info with info | refused
            · exact Or.inl (target.trans info)
            · exact Or.inr (refused.earlier _)
          · exact Or.inr ((refused.later [_]).later first)
        · refine Or.inr ⟨client, same.trans here, ?_⟩
          rcases failed with ⟨domain, thrown, member⟩
          exact ⟨domain, thrown, List.mem_append_left _ member⟩
      · exact Or.inr ⟨client, held, (failed.later [_]).later first⟩

end Rounds

/-- `connect` on every path.  After every pause it discovers the endpoint anew.
Where it returns a client, some attempts have failed with a pause each, and the
last one made the client of a chart of the endpoint ready; where it raises, five
attempts have failed, with longer pauses than `_tv_switch` waits for the command. -/
theorem connect_path {runtimes : Runtimes} {findRaises : Json -> Thrown}
    {session after : Session Client} {events : List (Happened Client)}
    {result : Except Thrown Client}
    (path : Path (connect runtimes findRaises session) events (result, after)) :
    AsksAnew events ∧
      ((exists client failed earlier start asked endpoint targets target, failed < 5 ∧
          result = .ok client ∧ FailedRounds runtimes findRaises 0 session failed earlier start ∧
          pauses events = [500, 1000, 2000, 4000, 8000].take failed ∧
          Asked start endpoint asked ∧ findChartTarget runtimes targets = some (some target) ∧
          events = earlier ++ asked ++
            ⟨.fetchList endpoint, .ok targets⟩ :: opening endpoint target client ∧
          after = ⟨some client, some target, some endpoint⟩) ∨
        (exists thrown, result = .error (connectionFailed thrown) ∧
          FailedRounds runtimes findRaises 0 session 5 events after ∧
          pauses events = [500, 1000, 2000, 4000, 8000] ∧ 15000 < (pauses events).sum ∧
          after.cdpEndpoint = none)) := by
  rcases path_attempts path with ⟨failed, earlier, last, client, start, endpoint, target, fewer, rfl,
    rfl, rounds, connects⟩ | ⟨thrown, rfl, rounds⟩
  · refine ⟨rounds.asksAnew connects.quiet (fun unknown => Or.inr (connects.discovers unknown)), ?_⟩
    have paused := pauses_of_quiet connects.quiet
    rcases connects.events_eq with ⟨asked, targets, opened, chosen, rfl⟩
    refine Or.inl ⟨client, failed, earlier, start, asked, endpoint, targets, target, fewer, rfl,
      rounds, ?_, opened, chosen, by rw [List.append_assoc], connects.after_eq⟩
    rw [pauses_append, rounds.pauses_eq, paused, List.append_nil]
    have every : forall rounds, rounds < 5 ->
        (List.range' 0 rounds).map delay = [500, 1000, 2000, 4000, 8000].take rounds := by decide
    exact every failed fewer
  · have anew := rounds.asksAnew (List.forall_mem_nil _) (fun _ => Or.inl rfl)
    rw [List.append_nil] at anew
    have all : pauses events = [500, 1000, 2000, 4000, 8000] := rounds.pauses_eq
    refine ⟨anew, Or.inr ⟨thrown, rfl, rounds, all, by rw [all]; decide, ?_⟩⟩
    rcases rounds.forgets with ⟨impossible, _⟩ | forgot
    · cases impossible
    · exact forgot

/-- TradingView at the second port, with one chart. -/
def movedTo : Endpoint := (defaultHost, .finite 9223)

def oneChart : Json :=
  .object [(codePoints "type", .string (codePoints "page")), (codePoints "id", .string [65]),
    (codePoints "url", .string (codePoints "https://www.tradingview.com/chart/A/"))]

/-- The surroundings in which only the second port answers. -/
def moved : World (@Answer Unit) := fun _ command =>
  match command with
  | .discoverCdp => .ok movedTo
  | .fetchList endpoint =>
    if endpoint = movedTo then .ok (.array [oneChart]) else .error (newError [])
  | .cdp _ _ => .ok ()
  | .enable _ _ => .ok ()
  | .evaluate _ _ => .error (newError [])
  | .close _ => .ok ()
  | .setTimeout _ => ()

/-- The session from before the move. -/
def outdated : Session Unit := ⟨some (), none, some (defaultHost, .finite 9222)⟩

/-- One attempt at the port that is remembered, and one at the port that is discovered. -/
theorem connect_path_moved :
    AsksAnew ((connect plainRuntimes (fun _ => newError []) outdated).run moved []).1 ∧
      pauses ((connect plainRuntimes (fun _ => newError []) outdated).run moved []).1 = [500] :=
  ⟨(connect_path (path_run moved (connect plainRuntimes (fun _ => newError []) outdated) [])).1,
    by decide⟩

/-! ## TradingView elsewhere -/

/-- TradingView answers at an endpoint that the discovery finds, with a list of targets
and with clients that can be enabled.  Nothing is said of any other endpoint. -/
structure Steady (endpoint : Endpoint) (targets : Json) (fresh : Client -> Prop)
    (events : List (Happened Client)) : Prop where
  discovered : forall answer, ⟨.discoverCdp, answer⟩ ∈ events -> answer = .ok endpoint
  listed : forall answer, ⟨.fetchList endpoint, answer⟩ ∈ events -> answer = .ok targets
  opened : forall id answer, ⟨.cdp endpoint id, answer⟩ ∈ events ->
    exists client, answer = .ok client ∧ fresh client
  enabled : forall client domain answer, fresh client -> ⟨.enable client domain, answer⟩ ∈ events ->
    answer = .ok ()

theorem Steady.of_subset {endpoint : Endpoint} {targets : Json} {fresh : Client -> Prop}
    {events part : List (Happened Client)} (steady : Steady endpoint targets fresh events)
    (subset : part ⊆ events) : Steady endpoint targets fresh part :=
  ⟨fun answer member => steady.discovered answer (subset member),
    fun answer member => steady.listed answer (subset member),
    fun id answer member => steady.opened id answer (subset member),
    fun client domain answer known member => steady.enabled client domain answer known (subset member)⟩

theorem enableAll_of_steady {endpoint : Endpoint} {targets : Json} {fresh : Client -> Prop}
    {client : Client} {domains : List Domain} {events : List (Happened Client)}
    {result : Except Thrown Unit} (steady : Steady endpoint targets fresh events)
    (known : fresh client) (path : Path (enableAll client domains) events result) :
    result = .ok () := by
  rcases path_enableAll path with ⟨_, ⟨rfl, _⟩ | ⟨_, _, domain, thrown, member⟩⟩
  · rfl
  · cases steady.enabled client domain _ known member

/-- An attempt that discovers the endpoint connects. -/
theorem attempt_of_steady {runtimes : Runtimes} {findRaises : Json -> Thrown}
    {session after : Session Client} {events : List (Happened Client)}
    {result : Except Thrown Client} {endpoint : Endpoint} {targets target : Json}
    {fresh : Client -> Prop} (steady : Steady endpoint targets fresh events)
    (chosen : findChartTarget runtimes targets = some (some target))
    (unknown : session.cdpEndpoint = none)
    (path : Path (attempt runtimes findRaises session) events (result, after)) :
    exists client, result = .ok client := by
  rw [attempt, path_bind_iff] at path
  rcases path with ⟨first, ⟨found, known⟩, later, rfl, opened, path⟩
  rcases path_getEndpoint opened with
    ⟨here, rfl, rfl, ⟨stale, _⟩ | ⟨_, rfl⟩⟩ | ⟨thrown, _, _, _, rfl⟩
  · rw [unknown] at stale
    cases stale
  · cases steady.discovered (.ok here) List.mem_cons_self
    simp only [path_bind_iff, path_request_iff] at path
    rcases path with ⟨_, listed, rest, rfl, rfl, path⟩
    rw [steady.listed listed (by simp)] at path
    simp only [chosen, path_bind_iff, path_request_iff] at path
    rcases path with ⟨_, made, last, rfl, rfl, path⟩
    rcases steady.opened _ made (by simp) with ⟨client, rfl, isFresh⟩
    simp only [path_bind_iff] at path
    rcases path with ⟨enabling, done, final, rfl, enabled, path⟩
    have part : enabling ⊆ [⟨.discoverCdp, .ok endpoint⟩] ++ ([⟨.fetchList endpoint, listed⟩] ++
        ([⟨.cdp endpoint (Node.property target "id"), .ok client⟩] ++ (enabling ++ final))) := by
      intro event member
      simp [member]
    rw [enableAll_of_steady (steady.of_subset part) isFresh enabled] at path
    rcases (path_pure_iff _).mp path with ⟨rfl, same⟩
    cases same
    exact ⟨client, rfl⟩
  · cases steady.discovered (.error thrown) List.mem_cons_self

/-- A client that has died and an endpoint that is out of date cost one pause: the
second attempt finds TradingView where it is. -/
theorem getClient_recovers {runtimes : Runtimes} {findRaises : Json -> Thrown}
    {session after : Session Client} {events : List (Happened Client)}
    {result : Except Thrown Client} {endpoint : Endpoint} {targets target : Json}
    {fresh : Client -> Prop} (steady : Steady endpoint targets fresh events)
    (chosen : findChartTarget runtimes targets = some (some target))
    (path : Path (getClient runtimes findRaises session) events (result, after)) :
    (exists client, result = .ok client) ∧ (pauses events = [] ∨ pauses events = [500]) := by
  have connects : forall (start : Session Client) (part : List (Happened Client)), part ⊆ events ->
      Path (connect runtimes findRaises start) part (result, after) ->
      (exists client, result = .ok client) ∧ (pauses part = [] ∨ pauses part = [500]) := by
    intro start part subset path
    rw [connect, attempts, path_bind_iff] at path
    rcases path with ⟨round, ⟨found, between⟩, later, rfl, first, path⟩
    rcases path_attempt first with ⟨client, here, chart, rfl, ready⟩ | ⟨thrown, rfl, fails⟩
    · rcases (path_pure_iff _).mp path with ⟨rfl, same⟩
      cases same
      rw [List.append_nil]
      exact ⟨⟨client, rfl⟩, Or.inl (pauses_of_quiet ready.quiet)⟩
    · simp only [path_bind_iff, path_request_iff] at path
      rcases path with ⟨_, _, rest, rfl, rfl, path⟩
      rw [attempts, path_bind_iff] at path
      rcases path with ⟨second, ⟨found, last⟩, final, rfl, again, path⟩
      have inside : second ⊆ events := fun event member => subset (by simp [member])
      rcases attempt_of_steady (steady.of_subset inside) chosen rfl again with ⟨client, rfl⟩
      rcases (path_pure_iff _).mp path with ⟨rfl, same⟩
      cases same
      rcases path_attempt again with ⟨_, _, _, _, ready⟩ | ⟨_, same, _⟩
      · refine ⟨⟨client, rfl⟩, Or.inr ?_⟩
        rw [pauses_append, pauses_of_quiet fails.quiet, List.append_nil, pauses_append,
          pauses_of_quiet ready.quiet]
        rfl
      · cases same
  unfold getClient at path
  split at path
  · exact connects _ _ (fun _ member => member) path
  · rename_i client _
    rw [path_bind_iff] at path
    rcases path with ⟨first, answer, rest, rfl, asked, path⟩
    rcases (path_request_iff _ _ _).mp asked with rfl
    cases answer with
    | ok value =>
        rcases (path_pure_iff _).mp path with ⟨rfl, same⟩
        cases same
        exact ⟨⟨client, rfl⟩, Or.inl rfl⟩
    | error thrown => exact connects _ rest (List.subset_append_right _ _) path

theorem steady_moved (program : Js Unit (Except Thrown Unit × Session Unit)) :
    Steady movedTo (.array [oneChart]) (fun _ => True) (program.run moved []).1 := by
  refine ⟨?_, ?_, ?_, ?_⟩
  · intro answer member
    exact (answer_of_mem_run member).elim (fun _ same => same)
  · intro answer member
    rcases answer_of_mem_run member with ⟨past, rfl⟩
    simp only [moved, if_true]
  · intro id answer member
    exact (answer_of_mem_run member).elim (fun _ same => ⟨(), same, trivial⟩)
  · intro client domain answer _ member
    exact (answer_of_mem_run member).elim (fun _ same => same)

theorem getClient_recovers_moved :
    exists client, ((getClient plainRuntimes (fun _ => newError []) outdated).run moved []).2.1 =
      .ok client :=
  have chosen : findChartTarget plainRuntimes (.array [oneChart]) = some (some oneChart) := rfl
  (getClient_recovers (steady_moved _) chosen
    (path_run moved (getClient plainRuntimes (fun _ => newError []) outdated) [])).1

/-! ## A whole session -/

/-- What is called of the module. -/
inductive Call
  | getEndpoint
  | getClient
  | connect
  | getTargetInfo
  | evaluate (expression : String) (awaitPromise : Option Bool)
  | disconnect

/-- The session after a call, whatever the call returns. -/
def perform (runtimes : Runtimes) (findRaises : Json -> Thrown) (session : Session Client) :
    Call -> Js Client (Session Client)
  | .getEndpoint => Prod.snd <$> Connection.getEndpoint session
  | .getClient => Prod.snd <$> Connection.getClient runtimes findRaises session
  | .connect => Prod.snd <$> Connection.connect runtimes findRaises session
  | .getTargetInfo => Prod.snd <$> Connection.getTargetInfo runtimes findRaises session
  | .evaluate expression awaitPromise =>
    Prod.snd <$> Connection.evaluate runtimes findRaises expression awaitPromise session
  | .disconnect => Prod.snd <$> Connection.disconnect session

def performAll (runtimes : Runtimes) (findRaises : Json -> Thrown) :
    Session Client -> List Call -> Js Client (Session Client)
  | session, [] => return session
  | session, call :: rest => do
    performAll runtimes findRaises (← perform runtimes findRaises session call) rest

/-- The client was made ready for a chart of a list, and was not closed in what came later. -/
def ReadySince (runtimes : Runtimes) (history : List (Happened Client)) (client : Client)
    (target : Json) (later : List (Happened Client)) : Prop :=
  exists before endpoint targets, findChartTarget runtimes targets = some (some target) ∧
    history = before ++ ⟨.fetchList endpoint, .ok targets⟩ :: opening endpoint target client ++ later ∧
    forall answer, ⟨.close client, answer⟩ ∉ later

def ReadyFor (runtimes : Runtimes) (history : List (Happened Client)) (client : Client)
    (target : Json) : Prop :=
  exists later, ReadySince runtimes history client target later

/-- A client that is held is ready, unless a domain of it could not be enabled.  Its target is
the one that is remembered, unless `connect` was called while it was held and could not open
another one. -/
def Held (runtimes : Runtimes) (connects : Prop) (history : List (Happened Client))
    (session : Session Client) : Prop :=
  forall client, session.client = some client ->
    (exists target later, ReadySince runtimes history client target later ∧
      (session.targetInfo = some target ∨ connects ∧ Refused later)) ∨
      EnableFails client history

/-- What is evaluated needs a client that is ready, as far as its domains could be enabled. -/
def Needs (runtimes : Runtimes) (history : List (Happened Client)) (event : Happened Client) : Prop :=
  match event.1 with
  | .evaluate client _ =>
    (exists target, ReadyFor runtimes history client target) ∨ EnableFails client history
  | _ => True

structure Serves (runtimes : Runtimes) (connects : Prop) (history events : List (Happened Client))
    (after : Session Client) : Prop where
  held : Held runtimes connects (history ++ events) after
  needs : Preceded (fun before event => Needs runtimes (history ++ before) event) events

variable {runtimes : Runtimes} {findRaises : Json -> Thrown} {session after : Session Client}
  {history events : List (Happened Client)} {direct : Prop}

theorem ReadySince.later {client : Client} {target : Json} {later : List (Happened Client)}
    (ready : ReadySince runtimes history client target later)
    (open_ : forall answer, ⟨.close client, answer⟩ ∉ events) :
    ReadySince runtimes (history ++ events) client target (later ++ events) := by
  rcases ready with ⟨before, endpoint, targets, chosen, rfl, kept⟩
  refine ⟨before, endpoint, targets, chosen, List.append_assoc _ _ _, ?_⟩
  intro answer member
  exact (List.mem_append.mp member).elim (kept answer) (open_ answer)

theorem EnableFails.earlier {client : Client} (failed : EnableFails client history)
    (later : List (Happened Client)) : EnableFails client (history ++ later) := by
  rcases failed with ⟨domain, thrown, here⟩
  exact ⟨domain, thrown, List.mem_append_left _ here⟩

theorem Serves.trans {first second : List (Happened Client)} {between : Session Client}
    (one : Serves runtimes direct history first between)
    (other : Serves runtimes direct (history ++ first) second after) :
    Serves runtimes direct history (first ++ second) after := by
  refine ⟨?_, one.needs.append_of_first ?_⟩
  · rw [← List.append_assoc]
    exact other.held
  · have needs := other.needs
    simp only [List.append_assoc] at needs
    exact needs

/-- A client that is held may evaluate. -/
theorem Held.needs (held : Held runtimes direct history session) {client : Client}
    (known : session.client = some client) (request : Request)
    (answer : Answer (Command.evaluate client request)) :
    Needs runtimes history ⟨.evaluate client request, answer⟩ := by
  rcases held client known with ⟨target, later, ready, -⟩ | broken
  · exact Or.inl ⟨target, later, ready⟩
  · exact Or.inr broken

theorem needs_of_waits {event : Happened Client} (waits : Waits event)
    (before : List (Happened Client)) : Needs runtimes before event := by
  rcases event with ⟨command, answer⟩
  cases command with
  | evaluate client request =>
      rcases waits with quiet | ⟨milliseconds, same⟩
      · exact quiet.elim
      · cases same
  | _ => trivial

theorem not_closed_of_waits (waits : forall event, event ∈ events -> Waits event) (client : Client)
    (answer : Except Thrown Unit) : ⟨.close client, answer⟩ ∉ events := by
  intro member
  rcases waits _ member with quiet | ⟨milliseconds, same⟩
  · exact quiet
  · cases same

theorem Held.of_kept (held : Held runtimes direct history session)
    (client : after.client = session.client)
    (target : after.targetInfo = session.targetInfo ∨ direct ∧ Refused events)
    (open_ : forall client answer, ⟨.close client, answer⟩ ∉ events) :
    Held runtimes direct (history ++ events) after := by
  intro own known
  rw [client] at known
  rcases held own known with ⟨chart, later, ready, info⟩ | failed
  · refine Or.inl ⟨chart, later ++ events, ready.later (open_ own), ?_⟩
    rcases target with target | ⟨called, refused⟩
    · exact info.imp target.trans (And.imp_right (fun refused => refused.earlier events))
    · exact Or.inr ⟨called, refused.later later⟩
  · exact Or.inr (failed.earlier events)

theorem Held.of_same (held : Held runtimes direct history session)
    (client : after.client = session.client) (target : after.targetInfo = session.targetInfo)
    (open_ : forall client answer, ⟨.close client, answer⟩ ∉ events) :
    Held runtimes direct (history ++ events) after :=
  held.of_kept client (Or.inl target) open_

/-- `connect`, called while no client is held or from outside the module. -/
theorem serves_connect {result : Except Thrown Client} (held : Held runtimes direct history session)
    (calls : session.client = none ∨ direct)
    (path : Path (connect runtimes findRaises session) events (result, after)) :
    Serves runtimes direct history events after ∧
      forall client, result = .ok client -> after.client = some client := by
  rcases path_attempts path with ⟨failed, earlier, last, client, start, endpoint, target, _, rfl, rfl,
    rounds, connects⟩ | ⟨thrown, rfl, rounds⟩
  · have waits : forall event, event ∈ earlier ++ last -> Waits event :=
      List.forall_mem_append.mpr
        ⟨rounds.waits, fun event member => Or.inl (connects.quiet event member)⟩
    rcases connects with ⟨⟨asked, targets, _, chosen, rfl⟩, rfl⟩
    refine ⟨⟨?_, preceded_of_forall (fun event member before => needs_of_waits (waits event member) _)⟩,
      fun other same => by cases same; rfl⟩
    intro other same
    cases same
    refine Or.inl ⟨target, [], ⟨history ++ earlier ++ asked, endpoint, targets, chosen, ?_,
      fun _ => List.not_mem_nil⟩, Or.inl rfl⟩
    simp only [List.append_assoc, List.append_nil]
  · refine ⟨⟨?_, preceded_of_forall (fun event member before =>
      needs_of_waits (rounds.waits event member) _)⟩, fun other same => by cases same⟩
    rcases rounds.leaves with ⟨kept, target⟩ | ⟨other, here, failed⟩
    · rcases calls with free | called
      · intro client known
        rw [kept, free] at known
        cases known
      · exact held.of_kept kept (target.imp id (fun refused => ⟨called, refused⟩))
          (not_closed_of_waits rounds.waits)
    · intro client known
      rw [here] at known
      cases known
      exact Or.inr (failed.later history)

/-- The client that `getClient` returns is the one that is held. -/
theorem serves_getClient {result : Except Thrown Client} (held : Held runtimes direct history session)
    (path : Path (getClient runtimes findRaises session) events (result, after)) :
    Serves runtimes direct history events after ∧
      forall client, result = .ok client -> after.client = some client := by
  unfold getClient at path
  cases known : session.client with
  | none =>
      rw [known] at path
      exact serves_connect held (Or.inl known) path
  | some client =>
      simp only [known, path_bind_iff, path_request_iff] at path
      rcases path with ⟨_, answer, rest, rfl, rfl, path⟩
      have alive : Preceded (fun before event => Needs runtimes (history ++ before) event)
          [⟨.evaluate client ⟨"1", true, false⟩, answer⟩] := by
        refine preceded_cons_iff.mpr ⟨?_, preceded_nil _⟩
        rw [List.append_nil]
        exact held.needs known _ answer
      cases answer with
      | ok value =>
          rcases (path_pure_iff _).mp path with ⟨rfl, same⟩
          cases same
          refine ⟨⟨held.of_same rfl rfl (by simp), alive⟩, fun other same => ?_⟩
          cases same
          exact known
      | error thrown =>
          have dropped : Held runtimes direct (history ++ [⟨.evaluate client ⟨"1", true, false⟩, .error thrown⟩])
              { session with client := none, targetInfo := none } := by
            intro other same
            cases same
          rcases serves_connect dropped (Or.inl rfl) path with ⟨serves, returned⟩
          exact ⟨Serves.trans ⟨dropped, alive⟩ serves, returned⟩

/-- A calm step keeps the session as it is. -/
theorem serves_of_waits (held : Held runtimes direct history session)
    (waits : forall event, event ∈ events -> Waits event) (client : after.client = session.client)
    (target : after.targetInfo = session.targetInfo) : Serves runtimes direct history events after :=
  ⟨held.of_same client target (not_closed_of_waits waits),
    preceded_of_forall (fun event member _ => needs_of_waits (waits event member) _)⟩

theorem serves_getEndpoint {result : Except Thrown Endpoint} (held : Held runtimes direct history session)
    (path : Path (getEndpoint session) events (result, after)) :
    Serves runtimes direct history events after := by
  rcases path_getEndpoint path with ⟨endpoint, _, rfl, asked⟩ | ⟨thrown, _, rfl, _, rfl⟩
  · exact serves_of_waits held (fun event member => Or.inl (asked.quiet event member)) rfl rfl
  · exact serves_of_waits held (List.forall_mem_singleton.mpr (Or.inl trivial)) rfl rfl

theorem serves_getTargetInfo {result : Except Thrown (Option Json)}
    (held : Held runtimes direct history session)
    (path : Path (getTargetInfo runtimes findRaises session) events (result, after)) :
    Serves runtimes direct history events after := by
  unfold getTargetInfo at path
  split at path
  · rcases (path_pure_iff _).mp path with ⟨rfl, same⟩
    cases same
    exact serves_of_waits held (List.forall_mem_nil _) rfl rfl
  · rw [path_bind_iff] at path
    rcases path with ⟨first, ⟨found, between⟩, second, rfl, got, path⟩
    have serves := (serves_getClient held got).1
    cases found with
    | error thrown =>
        rcases (path_pure_iff _).mp path with ⟨rfl, same⟩
        cases same
        rw [List.append_nil]
        exact serves
    | ok client =>
        rcases (path_pure_iff _).mp path with ⟨rfl, same⟩
        cases same
        rw [List.append_nil]
        exact serves

theorem serves_evaluate {expression : String} {awaitPromise : Option Bool}
    {result : Except Thrown (Option Json)} (held : Held runtimes direct history session)
    (path : Path (evaluate runtimes findRaises expression awaitPromise session) events
      (result, after)) :
    Serves runtimes direct history events after := by
  rw [evaluate, path_bind_iff] at path
  rcases path with ⟨first, ⟨found, between⟩, second, rfl, got, path⟩
  rcases serves_getClient held got with ⟨serves, returned⟩
  cases found with
  | error thrown =>
      rcases (path_pure_iff _).mp path with ⟨rfl, same⟩
      cases same
      rw [List.append_nil]
      exact serves
  | ok client =>
      simp only [path_bind_iff, path_request_iff] at path
      rcases path with ⟨_, answer, rest, rfl, rfl, path⟩
      have asks : Serves runtimes direct (history ++ first)
          [⟨.evaluate client ⟨expression, true, awaitPromise.getD false⟩, answer⟩] between := by
        refine ⟨serves.held.of_same rfl rfl (by simp), preceded_cons_iff.mpr ⟨?_, preceded_nil _⟩⟩
        rw [List.append_nil]
        exact serves.held.needs (returned client rfl) _ answer
      have last : rest = [] ∧ after = between := by
        cases answer with
        | error thrown =>
            rcases (path_pure_iff _).mp path with ⟨rfl, same⟩
            cases same
            exact ⟨rfl, rfl⟩
        | ok value =>
            simp only at path
            split at path <;>
            · rcases (path_pure_iff _).mp path with ⟨rfl, same⟩
              cases same
              exact ⟨rfl, rfl⟩
      rcases last with ⟨rfl, rfl⟩
      exact serves.trans asks

theorem serves_disconnect (held : Held runtimes direct history session)
    (path : Path (disconnect session) events ((), after)) : Serves runtimes direct history events after := by
  unfold disconnect at path
  cases known : session.client with
  | none =>
      rw [known] at path
      rcases (path_pure_iff _).mp path with ⟨rfl, same⟩
      cases same
      exact serves_of_waits held (List.forall_mem_nil _) rfl rfl
  | some client =>
      simp only [known, path_bind_iff, path_request_iff] at path
      rcases path with ⟨_, answer, rest, rfl, rfl, path⟩
      rcases (path_pure_iff _).mp path with ⟨rfl, same⟩
      cases same
      refine ⟨?_, preceded_cons_iff.mpr ⟨trivial, preceded_nil _⟩⟩
      intro other held
      cases held

theorem path_snd {Result : Type} {program : Js Client (Result × Session Client)}
    (path : Path (Prod.snd <$> program) events after) :
    exists result, Path program events (result, after) := by
  change Path (program >>= fun both => pure both.2) events after at path
  rw [path_bind_iff] at path
  rcases path with ⟨first, ⟨result, last⟩, second, rfl, inside, path⟩
  rcases (path_pure_iff _).mp path with ⟨rfl, rfl⟩
  rw [List.append_nil]
  exact ⟨result, inside⟩

theorem serves_perform {call : Call} (called : call = .connect -> direct)
    (held : Held runtimes direct history session)
    (path : Path (perform runtimes findRaises session call) events after) :
    Serves runtimes direct history events after := by
  cases call with
  | getEndpoint => exact (path_snd path).elim (fun _ inside => serves_getEndpoint held inside)
  | getClient => exact (path_snd path).elim (fun _ inside => (serves_getClient held inside).1)
  | connect =>
      exact (path_snd path).elim
        (fun _ inside => (serves_connect held (Or.inr (called rfl)) inside).1)
  | getTargetInfo => exact (path_snd path).elim (fun _ inside => serves_getTargetInfo held inside)
  | evaluate expression awaitPromise =>
      exact (path_snd path).elim (fun _ inside => serves_evaluate held inside)
  | disconnect => exact (path_snd path).elim (fun _ inside => serves_disconnect held inside)

theorem serves_performAll {calls : List Call} (called : Call.connect ∈ calls -> direct)
    (held : Held runtimes direct history session)
    (path : Path (performAll runtimes findRaises session calls) events after) :
    Serves runtimes direct history events after := by
  induction calls generalizing session history events with
  | nil =>
      rcases (path_pure_iff _).mp path with ⟨rfl, rfl⟩
      exact serves_of_waits held (List.forall_mem_nil _) rfl rfl
  | cons call rest ih =>
      rw [performAll, path_bind_iff] at path
      rcases path with ⟨first, between, second, rfl, inside, path⟩
      have serves := serves_perform
        (fun same => called (List.mem_cons.mpr (Or.inl same.symm))) held inside
      exact serves.trans (ih (fun later => called (List.mem_cons_of_mem call later)) serves.held path)

/-- Whatever is called of the module, and whatever the port answers: an expression
is evaluated on a client that was made ready for a chart and not closed since, or on
one a domain of which could not be enabled; and so is the client that is held in the
end.  Its chart is the one that is remembered, unless `connect` is called beside it and
cannot open another. -/
theorem session_ready {calls : List Call}
    (path : Path (performAll runtimes findRaises Session.initial calls) events after) :
    Preceded (Needs runtimes) events ∧ Held runtimes (Call.connect ∈ calls) events after := by
  have none : Held runtimes (Call.connect ∈ calls) [] (Session.initial : Session Client) := by
    intro client same
    cases same
  have serves := serves_performAll id none path
  exact ⟨serves.needs, serves.held⟩

theorem session_ready_moved :
    let calls := [.getTargetInfo, .connect, .evaluate "symbol" none]
    Held plainRuntimes (Call.connect ∈ calls)
      ((performAll plainRuntimes (fun _ => newError []) Session.initial calls).run moved []).1
      ((performAll plainRuntimes (fun _ => newError []) Session.initial calls).run moved []).2 :=
  (session_ready (path_run moved (performAll plainRuntimes (fun _ => newError []) Session.initial
    [.getTargetInfo, .connect, .evaluate "symbol" none]) [])).2

end Connection
end HybridDataSvc
