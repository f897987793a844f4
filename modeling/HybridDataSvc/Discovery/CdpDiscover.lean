import HybridDataSvc.Text.Numbers

namespace HybridDataSvc
namespace Discovery

open JsonText NumberText

/-!
# Port discovery in Python and in Node

`cdp_discover.py` and `cdp_discover.js`.  The two share their steps, which
`discover` has once, and differ in how they read the environment and the cache
file.  What a probe answers is a parameter: `isTvEndpoint` either raises or
says whether a host and port serve TradingView.

The cache file is read twice in a call.  It does not change in between, so it
is read once here.
-/

/-- The variables `CDP_PORT`, `CDP_HOST` and `TV_MCP_PORT_RANGE`; nothing for
one that is not set. -/
structure Env where
  cdpPort : Option CodePoints
  cdpHost : Option CodePoints
  portRange : Option CodePoints
  deriving DecidableEq, Repr

/-- The cache file.  Where it is not UTF-8, its text is what is left when the
faulty bytes are replaced. -/
inductive CacheFile
  | missing
  | utf8 (text : List Char)
  | notUtf8 (replaced : List Char)
  deriving DecidableEq, Repr

/-- The exceptions of both languages. -/
inductive Raised
  | discoveryError
  | jsonDecodeError
  | keyError
  | valueError
  | typeError
  | overflowError
  | recursionError
  | clientError
  deriving DecidableEq, Repr

/-- A result, and what was written to the cache file for it. -/
structure Resolved (Port : Type) where
  host : CodePoints
  port : Port
  written : Option (CodePoints × Port)
  deriving DecidableEq, Repr

/-- What is left open of the libraries: for which hosts and ports an HTTP
client raises instead of answering, how a value that is not a string is
printed (an object may fail to be), and how deep `json.loads` can nest. -/
structure Runtimes where
  pyAccepts : CodePoints -> Int -> Bool
  nodeAccepts : CodePoints -> Int -> Bool
  pyStr : Json -> CodePoints
  jsString : Json -> Option CodePoints
  pyMaxDepth : Nat

/-- `_DEFAULT_HOST`. -/
def defaultHost : CodePoints := codePoints "localhost"

/-- `_DEFAULT_PORT_RANGE`. -/
def defaultPortRange : Int × Int := (9222, 9230)

/-- `range(lo, hi + 1)`. -/
def portsBetween (range : Int × Int) : List Int :=
  (List.range (range.2 + 1 - range.1).toNat).map (fun k : Nat => range.1 + k)

/-- The text before and after the first `-`. -/
def splitRange (spec : CodePoints) : Option (CodePoints × CodePoints) :=
  match spec.span (fun c => decide (c ≠ '-'.toNat)) with
  | (_, []) => none
  | (lo, _ :: hi) => some (lo, hi)

/-- The characters of `\d+`, or `[0-9]+`. -/
def digitRun (text : CodePoints) : Option (List Char) :=
  match ascii text with
  | none => none
  | some [] => none
  | some run => if run.all Char.isDigit then some run else none

theorem splitRange_of_runs {lo : List Char} (digits : forall c, c ∈ lo -> c.isDigit = true)
    (hi : List Char) :
    splitRange (lo.map Char.toNat ++ '-'.toNat :: hi.map Char.toNat) =
      some (lo.map Char.toNat, hi.map Char.toNat) := by
  have before : forall n, n ∈ lo.map Char.toNat -> decide (n ≠ '-'.toNat) = true := by
    intro n here
    rcases List.mem_map.mp here with ⟨c, listed, rfl⟩
    have range := toNat_of_isDigit (digits c listed)
    have dash : '-'.toNat = 45 := rfl
    rw [decide_eq_true_eq, dash]
    omega
  unfold splitRange
  rw [List.span_eq_takeWhile_dropWhile, List.takeWhile_append_of_pos before,
    List.dropWhile_append_of_pos before]
  simp

theorem digitRun_of_run {run : List Char} (isRun : IsRun run) :
    digitRun (run.map Char.toNat) = some run := by
  unfold digitRun
  rw [ascii_of_digits isRun.2]
  cases run with
  | nil => exact absurd rfl isRun.1
  | cons c rest =>
      have all : (c :: rest).all Char.isDigit = true := List.all_eq_true.mpr isRun.2
      simp only [if_pos all]

/-! ## The steps -/

section Steps

variable {Port : Type} [DecidableEq Port]

/-- The ports that serve TradingView. -/
def scanPorts (isTvEndpoint : Port -> Except Raised Bool) : List Port -> Except Raised (List Port)
  | [] => .ok []
  | port :: rest =>
    match isTvEndpoint port with
    | .error raised => .error raised
    | .ok serves =>
      match scanPorts isTvEndpoint rest with
      | .error raised => .error raised
      | .ok found => .ok (if serves then port :: found else found)

/-- The cached address with the host that is probed for it. -/
def probedAddress (host : CodePoints) (cached : CodePoints × Port) : CodePoints × Port :=
  (if host ≠ defaultHost then host else cached.1, cached.2)

/-- The scan of the range. -/
def discoverByScan (isTvEndpoint : CodePoints -> Port -> Except Raised Bool) (host : CodePoints)
    (cached : Option (CodePoints × Port)) (ports : List Port) : Except Raised (Resolved Port) :=
  match scanPorts (isTvEndpoint host) ports with
  | .error raised => .error raised
  | .ok [] => .error .discoveryError
  | .ok (first :: others) =>
    let chosen :=
      match cached with
      | some (_, port) => if port ∈ first :: others then port else first
      | none => first
    .ok ⟨host, chosen, some (host, chosen)⟩

/-- The cached address, and the scan if it does not serve TradingView. -/
def discover (isTvEndpoint : CodePoints -> Port -> Except Raised Bool) (host : CodePoints)
    (cached : Option (CodePoints × Port)) (ports : List Port) : Except Raised (Resolved Port) :=
  match cached.map (probedAddress host) with
  | none => discoverByScan isTvEndpoint host cached ports
  | some (probeHost, port) =>
    match isTvEndpoint probeHost port with
    | .error raised => .error raised
    | .ok true => .ok ⟨probeHost, port, none⟩
    | .ok false => discoverByScan isTvEndpoint host cached ports

/-- A probe by a client that raises for some addresses. -/
def guarded (accepts : CodePoints -> Port -> Bool) (world : CodePoints -> Port -> Bool)
    (host : CodePoints) (port : Port) : Except Raised Bool :=
  if accepts host port then .ok (world host port) else .error .clientError

end Steps

/-! ## What a scan finds -/

theorem pairwise_portsBetween (range : Int × Int) :
    (portsBetween range).Pairwise (fun p q => p < q) := by
  unfold portsBetween
  rw [List.pairwise_map]
  apply List.pairwise_lt_range.imp
  intro a b less
  omega

section Scan

variable {Port : Type} {isTvEndpoint : Port -> Except Raised Bool}

/-- A scan that returns has been answered at its first port and scanned the others. -/
theorem scanPorts_cons_eq_ok_iff {p : Port} {rest found : List Port} :
    scanPorts isTvEndpoint (p :: rest) = .ok found ↔
      exists serves others, isTvEndpoint p = .ok serves ∧
        scanPorts isTvEndpoint rest = .ok others ∧
        found = if serves then p :: others else others := by
  constructor
  · intro scanned
    unfold scanPorts at scanned
    cases probe : isTvEndpoint p with
    | error raised =>
        rw [probe] at scanned
        cases scanned
    | ok serves =>
        rw [probe] at scanned
        cases tail : scanPorts isTvEndpoint rest with
        | error raised =>
            simp only [tail] at scanned
            cases scanned
        | ok others =>
            simp only [tail, Except.ok.injEq] at scanned
            exact ⟨serves, others, rfl, rfl, scanned.symm⟩
  · rintro ⟨serves, others, probe, tail, rfl⟩
    simp only [scanPorts, probe, tail]

/-- A scan that does not raise finds the ports that serve. -/
theorem mem_of_scanPorts_eq_ok {ports found : List Port}
    (scanned : scanPorts isTvEndpoint ports = .ok found) :
    (forall p, p ∈ ports -> forall raised, isTvEndpoint p ≠ .error raised) ∧
      forall p, p ∈ found ↔ p ∈ ports ∧ isTvEndpoint p = .ok true := by
  induction ports generalizing found with
  | nil =>
      cases scanned
      exact ⟨fun p here => (by cases here), fun p => by simp⟩
  | cons p rest ih =>
      rcases scanPorts_cons_eq_ok_iff.mp scanned with ⟨serves, others, probe, tail, rfl⟩
      rcases ih tail with ⟨quiet, members⟩
      constructor
      · intro q here raised failed
        rcases List.mem_cons.mp here with rfl | later
        · rw [probe] at failed
          cases failed
        · exact quiet q later raised failed
      · intro q
        cases serves with
        | true =>
            rw [if_pos rfl, List.mem_cons, List.mem_cons, members]
            constructor
            · rintro (rfl | ⟨later, answers⟩)
              · exact ⟨Or.inl rfl, probe⟩
              · exact ⟨Or.inr later, answers⟩
            · rintro ⟨rfl | later, answers⟩
              · exact Or.inl rfl
              · exact Or.inr ⟨later, answers⟩
        | false =>
            rw [if_neg (by decide), List.mem_cons, members]
            constructor
            · rintro ⟨later, answers⟩
              exact ⟨Or.inr later, answers⟩
            · rintro ⟨rfl | later, answers⟩
              · rw [probe] at answers
                cases answers
              · exact ⟨later, answers⟩

theorem exists_raised_of_scanPorts {ports : List Port} {raised : Raised}
    (scanned : scanPorts isTvEndpoint ports = .error raised) :
    exists p, p ∈ ports ∧ isTvEndpoint p = .error raised := by
  induction ports with
  | nil => cases scanned
  | cons p rest ih =>
      unfold scanPorts at scanned
      cases probe : isTvEndpoint p with
      | error other =>
          rw [probe] at scanned
          cases scanned
          exact ⟨p, List.mem_cons_self, probe⟩
      | ok serves =>
          rw [probe] at scanned
          cases tail : scanPorts isTvEndpoint rest with
          | error other =>
              simp only [tail, Except.error.injEq] at scanned
              subst scanned
              rcases ih tail with ⟨q, here, failed⟩
              exact ⟨q, List.mem_cons_of_mem p here, failed⟩
          | ok others =>
              simp only [tail] at scanned
              cases scanned

theorem sublist_of_scanPorts {ports found : List Port}
    (scanned : scanPorts isTvEndpoint ports = .ok found) : found.Sublist ports := by
  induction ports generalizing found with
  | nil =>
      cases scanned
      exact List.Sublist.refl _
  | cons p rest ih =>
      rcases scanPorts_cons_eq_ok_iff.mp scanned with ⟨serves, others, _, tail, rfl⟩
      cases serves with
      | true => exact (ih tail).cons_cons p
      | false => exact (ih tail).cons p

/-- The first port that is found is the lowest one that serves. -/
theorem lowest_of_scanPorts [Preorder Port] {ports found : List Port} {first : Port}
    (ascending : ports.Pairwise (fun p q => p < q))
    (scanned : scanPorts isTvEndpoint ports = .ok (first :: found)) :
    forall other, other ∈ ports -> isTvEndpoint other = .ok true -> first ≤ other := by
  have sorted : (first :: found).Pairwise (fun p q => p < q) :=
    List.Pairwise.sublist (sublist_of_scanPorts scanned) ascending
  intro other listed serves
  rcases List.mem_cons.mp (((mem_of_scanPorts_eq_ok scanned).2 other).mpr ⟨listed, serves⟩) with
    rfl | later
  · exact le_refl _
  · exact le_of_lt ((List.pairwise_cons.mp sorted).1 other later)

/-- Without a cached address the scan resolves to the lowest port that serves, where
no probe raises. -/
theorem discoverByScan_port_iff [PartialOrder Port] [DecidableEq Port]
    (probe : CodePoints -> Port -> Except Raised Bool) (host : CodePoints) {ports : List Port}
    (ascending : ports.Pairwise (fun p q => p < q)) (port : Port) :
    (exists resolved, discoverByScan probe host none ports = .ok resolved ∧
        resolved.port = port) ↔
      (forall other, other ∈ ports -> forall raised, probe host other ≠ .error raised) ∧
      (port ∈ ports ∧ probe host port = .ok true) ∧
      forall other, other ∈ ports -> probe host other = .ok true -> port ≤ other := by
  unfold discoverByScan
  cases scanned : scanPorts (probe host) ports with
  | error raised =>
      constructor
      · rintro ⟨resolved, returned, _⟩
        cases returned
      · rintro ⟨quiet, _⟩
        rcases exists_raised_of_scanPorts scanned with ⟨other, listed, failed⟩
        exact absurd failed (quiet other listed raised)
  | ok found =>
      rcases mem_of_scanPorts_eq_ok scanned with ⟨quiet, members⟩
      cases found with
      | nil =>
          constructor
          · rintro ⟨resolved, returned, _⟩
            cases returned
          · rintro ⟨_, served, _⟩
            cases (members port).mpr served
      | cons first others =>
          have serves := (members first).mp List.mem_cons_self
          have lowest := lowest_of_scanPorts ascending scanned
          constructor
          · rintro ⟨resolved, returned, rfl⟩
            cases returned
            exact ⟨quiet, serves, lowest⟩
          · rintro ⟨_, served, least⟩
            refine ⟨_, rfl, ?_⟩
            exact le_antisymm (lowest port served.1 served.2) (least first serves.1 serves.2)

end Scan

/-! ## Python -/

namespace Python

/-- `os.environ.get("CDP_HOST", _DEFAULT_HOST)`. -/
def host (env : Env) : CodePoints := env.cdpHost.getD defaultHost

/-- `CDP_PORT` when it is set and not empty and `int` reads it. -/
def explicitPort (env : Env) : Option Int :=
  match env.cdpPort with
  | none => none
  | some [] => none
  | some text => pyInt text

/-- `_parse_port_range`. -/
def parsePortRange (spec : Option CodePoints) : Int × Int :=
  match spec with
  | none => defaultPortRange
  | some [] => defaultPortRange
  | some text =>
    match splitRange text with
    | none => defaultPortRange
    | some (loText, hiText) =>
      match pyInt loText, pyInt hiText with
      | some lo, some hi => if 1 ≤ lo ∧ lo ≤ hi ∧ hi ≤ 65535 then (lo, hi) else defaultPortRange
      | _, _ => defaultPortRange

/-- `str(value)`. -/
def str (runtimes : Runtimes) : Json -> CodePoints
  | .string text => text
  | .null => codePoints "None"
  | .bool true => codePoints "True"
  | .bool false => codePoints "False"
  | value => runtimes.pyStr value

/-- `int(value)`. -/
def int : Json -> Except Raised Int
  | .string text =>
    match pyInt text with
    | some n => .ok n
    | none => .error .valueError
  | .bool value => .ok (if value then 1 else 0)
  | .number numeral =>
    if numeral.isWhole then .ok numeral.mantissa
    else
      match ofNumeral numeral with
      | .finite value => .ok (value.num.tdiv value.den)
      | .infinite _ => .error .overflowError
      | .nan => .error .valueError
  | .constant .nan => .error .valueError
  | .constant _ => .error .overflowError
  | _ => .error .typeError

/-- `json.loads(text)`. -/
def loads (runtimes : Runtimes) (text : List Char) : Except Raised Json :=
  match parse ⟨true, some maxIntDigits, some runtimes.pyMaxDepth⟩ text with
  | .ok value => .ok value
  | .error .tooDeep => .error .recursionError
  | .error .tooManyDigits => .error .valueError
  | .error _ => .error .jsonDecodeError

/-- `data["host"]`, `data["port"]` and their conversions. -/
def entryOf (runtimes : Runtimes) : Json -> Except Raised (CodePoints × Int)
  | .object members =>
    match field members "host" with
    | none => .error .keyError
    | some hostValue =>
      match field members "port" with
      | none => .error .keyError
      | some portValue => (int portValue).map (fun port => (str runtimes hostValue, port))
  | _ => .error .typeError

/-- The body of the `try` of `_read_cache`. -/
def readEntry (runtimes : Runtimes) : CacheFile -> Except Raised (Option (CodePoints × Int))
  | .missing => .ok none
  | .notUtf8 _ => .error .valueError
  | .utf8 text =>
    match loads runtimes text with
    | .error raised => .error raised
    | .ok data => (entryOf runtimes data).map some

/-- `_read_cache`. -/
def readCache (runtimes : Runtimes) (file : CacheFile) :
    Except Raised (Option (CodePoints × Int)) :=
  match readEntry runtimes file with
  | .error .jsonDecodeError => .ok none
  | .error .keyError => .ok none
  | .error .valueError => .ok none
  | result => result

/-- `discover_cdp`, with what probes answer. -/
def discoverWith (isTvEndpoint : CodePoints -> Int -> Except Raised Bool) (runtimes : Runtimes)
    (env : Env) (file : CacheFile) (force : Bool) : Except Raised (Resolved Int) :=
  match explicitPort env with
  | some port => .ok ⟨host env, port, none⟩
  | none =>
    match if force then .ok none else readCache runtimes file with
    | .error raised => .error raised
    | .ok cached =>
      discover isTvEndpoint (host env) cached (portsBetween (parsePortRange env.portRange))

/-- `discover_cdp()` in a world of endpoints. -/
def discoverCdp (runtimes : Runtimes) (env : Env) (file : CacheFile)
    (world : CodePoints -> Int -> Bool) : Except Raised (Resolved Int) :=
  discoverWith (guarded runtimes.pyAccepts world) runtimes env file false

end Python

/-! ## Node -/

namespace Node

/-- `process.env.CDP_HOST || DEFAULT_HOST`. -/
def host (env : Env) : CodePoints :=
  match env.cdpHost with
  | none => defaultHost
  | some [] => defaultHost
  | some text => text

/-- `CDP_PORT` when it is set and not empty and a positive number. -/
def explicitPort (env : Env) : Option Double :=
  match env.cdpPort with
  | none => none
  | some [] => none
  | some text =>
    match jsNumber text with
    | .finite value => if 0 < value then some (.finite value) else none
    | _ => none

/-- `parsePortRange`.  Numbers of up to 65535 are exact, and larger ones stay
larger. -/
def parsePortRange (spec : Option CodePoints) : Int × Int :=
  match spec with
  | none => defaultPortRange
  | some [] => defaultPortRange
  | some text =>
    match splitRange text with
    | none => defaultPortRange
    | some (loText, hiText) =>
      match digitRun loText, digitRun hiText with
      | some lo, some hi =>
        if 1 ≤ decimal lo ∧ decimal lo ≤ decimal hi ∧ decimal hi ≤ 65535 then
          ((decimal lo : Int), (decimal hi : Int))
        else defaultPortRange
      | _, _ => defaultPortRange

/-- `String(value)`; nothing when it raises. -/
def string (runtimes : Runtimes) : Json -> Option CodePoints
  | .string text => some text
  | .null => some (codePoints "null")
  | .bool true => some (codePoints "true")
  | .bool false => some (codePoints "false")
  | value => runtimes.jsString value

/-- `Number(value)`; nothing when it raises.  An array or an object is printed
first. -/
def number (runtimes : Runtimes) : Json -> Option Double
  | .string text => some (jsNumber text)
  | .null => some (.finite 0)
  | .bool value => some (.finite (if value then 1 else 0))
  | .number numeral => some (ofNumeral numeral)
  | .constant _ => some .nan
  | value => (runtimes.jsString value).map jsNumber

/-- `data.name` of a value that is not null. -/
def property (data : Json) (name : String) : Option Json :=
  match data with
  | .object members => field members name
  | _ => none

/-- `{ host: String(data.host), port: Number(data.port) }`. -/
def entryOf (runtimes : Runtimes) (data : Json) : Option (CodePoints × Double) :=
  let hostText :=
    match property data "host" with
    | some value => string runtimes value
    | none => some (codePoints "undefined")
  let portNumber :=
    match property data "port" with
    | some value => number runtimes value
    | none => some .nan
  match hostText, portNumber with
  | some text, some port => some (text, port)
  | _, _ => none

/-- `readCache` on a text. -/
def readText (runtimes : Runtimes) (text : List Char) : Option (CodePoints × Double) :=
  match parse ⟨false, none, none⟩ text with
  | .error _ => none
  | .ok .null => none
  | .ok data => entryOf runtimes data

/-- `readCache`. -/
def readCache (runtimes : Runtimes) : CacheFile -> Option (CodePoints × Double)
  | .missing => none
  | .utf8 text => readText runtimes text
  | .notUtf8 replaced => readText runtimes replaced

/-- The client takes no port that is not a whole number. -/
def accepts (runtimes : Runtimes) (host : CodePoints) : Double -> Bool
  | .finite value => decide (value.den = 1) && runtimes.nodeAccepts host value.num
  | _ => false

/-- Whether a host and a port, if that is a whole number, serve TradingView. -/
def serves (world : CodePoints -> Int -> Bool) (host : CodePoints) : Double -> Bool
  | .finite value => world host value.num
  | _ => false

def ofPort (port : Int) : Double := .finite port

/-- `discoverCdp()` in a world of endpoints. -/
def discoverCdp (runtimes : Runtimes) (env : Env) (file : CacheFile)
    (world : CodePoints -> Int -> Bool) : Except Raised (Resolved Double) :=
  match explicitPort env with
  | some port => .ok ⟨host env, port, none⟩
  | none =>
    discover (guarded (accepts runtimes) (serves world)) (host env) (readCache runtimes file)
      ((portsBetween (parsePortRange env.portRange)).map ofPort)

end Node

/-! ## The same answer -/

/-- The value of a number as it is written. -/
def valueOf (numeral : Numeral) : Rat :=
  mkRat (numeral.mantissa * 10 ^ numeral.exponent.toNat) (10 ^ (-numeral.exponent).toNat)

def CacheFile.text : CacheFile -> Option (List Char)
  | .missing => none
  | .utf8 text => some text
  | .notUtf8 replaced => some replaced

/-- The host and the port that are in the file, as both write them: a string
and a whole number. -/
def CacheFile.entry (file : CacheFile) : Option (CodePoints × Int) :=
  match file.text.map (parse ⟨true, none, none⟩) with
  | some (.ok (.object members)) =>
    match field members "host", field members "port" with
    | some (.string host), some (.number numeral) =>
      if (valueOf numeral).den = 1 then some (host, (valueOf numeral).num) else none
    | _, _ => none
  | _ => none

/-- The host and the port in the cache file afterwards. -/
def recordAfter (file : CacheFile) (resolved : Resolved Double) : Option (CodePoints × Double) :=
  match resolved.written with
  | some address => some address
  | none => file.entry.map (fun a => (a.1, Node.ofPort a.2))

def Resolved.map {Port Port' : Type} (convert : Port -> Port') (resolved : Resolved Port) :
    Resolved Port' :=
  ⟨resolved.host, convert resolved.port, resolved.written.map (fun a => (a.1, convert a.2))⟩

/-- Both return the same host and port and leave the same ones in the cache
file, or both raise a `DiscoveryError`. -/
def SameAnswer (file : CacheFile) (python : Except Raised (Resolved Int))
    (node : Except Raised (Resolved Double)) : Prop :=
  match python.map (Resolved.map Node.ofPort), node with
  | .ok a, .ok b => a.host = b.host ∧ a.port = b.port ∧ recordAfter file a = recordAfter file b
  | .error .discoveryError, .error .discoveryError => True
  | _, _ => False

end Discovery
end HybridDataSvc
