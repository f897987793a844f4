import HybridDataSvc.Discovery.NodeProbe
import HybridDataSvc.Discovery.Sticky
import HybridDataSvc.Text.Stringify

namespace HybridDataSvc
namespace Discovery

open JsonText NumberText

/-!
# The cache file that both languages share

`cdp_discover.py` and `cdp_discover.js` write the same file, and are to
converge on one port without coordination.  Here discoveries of either follow
each other, while TradingView comes and goes: each probes the ports as they
are then, and reads the file that the last one has left, whoever that was.
-/

/-- What listens on the ports of each host. -/
abbrev Ports := CodePoints -> PortWorld

/-! ## Node -/

namespace Node

def probeUrl (host : CodePoints) (port : JsNumber) : CodePoints :=
  codePoints "http://" ++ host ++ codePoints ":" ++ port.text.map Char.toNat ++
    codePoints "/json/version"

/-- The payload of `writeCache`, with the text of the time. -/
def payload (host : CodePoints) (port : JsNumber) (discoveredAt : CodePoints) : JsValue :=
  .object [(.ofText "host", .string (.ofCodePoints host)),
    (.ofText "port", .number port),
    (.ofText "discovered_at", .string (.ofCodePoints discoveredAt)),
    (.ofText "probe_url", .string (.ofCodePoints (probeUrl host port)))]

/-- The file that `writeCache` leaves. -/
def writeCache (host : CodePoints) (port : JsNumber) (discoveredAt : CodePoints) : CacheFile :=
  .utf8 ((stringify 0 (payload host port discoveredAt)).getD [])

/-- The cache file after a call.  What is written was scanned, so it is a port. -/
def cacheAfter (file : CacheFile) (writable : Bool) (discoveredAt : CodePoints)
    (resolved : Resolved Double) : CacheFile :=
  match resolved.written with
  | some (host, .finite port) =>
    if small : port.num.toNat < 10 ^ 21 then
      if writable then writeCache host (.ofNat port.num.toNat small) discoveredAt else file
    else file
  | _ => file

/-- `isTvEndpoint`, by a client that refuses some addresses. -/
def probe (runtimes : Runtimes) (ports : Ports) (host : CodePoints) : Double -> Except Raised Bool
  | .finite port =>
    if accepts runtimes host (.finite port) then isTvEndpoint runtimes (ports host) port.num
    else .error .clientError
  | _ => .error .clientError

/-- `discoverCdp({forceRefresh})`, with what probes answer. -/
def discoverWith (isTvEndpoint : CodePoints -> Double -> Except Raised Bool) (runtimes : Runtimes)
    (env : Env) (file : CacheFile) (force : Bool) : Except Raised (Resolved Double) :=
  match explicitPort env with
  | some port => .ok ⟨host env, port, none⟩
  | none =>
    discover isTvEndpoint (host env) (if force then none else readCache runtimes file)
      ((portsBetween (parsePortRange env.portRange)).map ofPort)

end Node

/-- `_is_tv_endpoint`, by a client that refuses some addresses. -/
def Python.probe (runtimes : Runtimes) (ports : Ports) (host : CodePoints) (port : Int) :
    Except Raised Bool :=
  if runtimes.pyAccepts host port then Python.isTvEndpoint runtimes (ports host) port
  else .error .clientError

/-! ## Calls of both -/

inductive Side
  | python
  | node
  deriving DecidableEq, Repr

/-- A discovery, with the time that it notes and whether the file can be written. -/
structure Call where
  side : Side
  force : Bool
  writable : Bool
  discoveredAt : CodePoints

/-- What a call returns, its port as a number of JavaScript, and the file that it leaves. -/
def Call.perform (runtimes : Runtimes) (env : Env) (ports : Ports) (file : CacheFile)
    (call : Call) : Except Raised (CodePoints × Double) × CacheFile :=
  match call.side with
  | .python =>
    match Python.discoverWith (Python.probe runtimes ports) runtimes env file call.force with
    | .error raised => (.error raised, file)
    | .ok resolved =>
      (.ok (toNode resolved.address),
        Python.cacheAfter file call.writable call.discoveredAt resolved)
  | .node =>
    match Node.discoverWith (Node.probe runtimes ports) runtimes env file call.force with
    | .error raised => (.error raised, file)
    | .ok resolved =>
      (.ok resolved.address, Node.cacheAfter file call.writable call.discoveredAt resolved)

/-- What the calls of a run return, each at the ports as they are then. -/
def answers (runtimes : Runtimes) (env : Env) :
    CacheFile -> List (Ports × Call) -> List (Except Raised (CodePoints × Double))
  | _, [] => []
  | file, (ports, call) :: rest =>
    let (answer, left) := call.perform runtimes env ports file
    answer :: answers runtimes env left rest

/-! ## What is written is read by both -/

/-- Both read the file as this address. -/
structure ReadAlike (runtimes : Runtimes) (file : CacheFile) (cached : Option (CodePoints × Int)) :
    Prop where
  python : Python.readCache runtimes file = .ok cached
  node : Node.readCache runtimes file = cached.map toNode

section Files

variable {runtimes : Runtimes}

theorem readAlike_missing : ReadAlike runtimes .missing none := ⟨rfl, rfl⟩

theorem ofNumeral_ofNat {n : Nat} (small : n < 2 ^ 53) : ofNumeral ⟨n, 0, true⟩ = .finite n := by
  have positive : decide ((n : Int) < 0) = false := decide_eq_false (by omega)
  rw [ofNumeral]
  simp only [positive, Int.natAbs_natCast]
  exact toDouble_of_lt small

/-- Node reads what Python has written. -/
theorem node_readCache_python {port : Int} (inRange : 1 ≤ port ∧ port ≤ 65535)
    (host discoveredAt : CodePoints) :
    Node.readCache runtimes (Python.writeCache host port discoveredAt) =
      some (rejoined host, Node.ofPort port) := by
  have fits : forall m, m ∈ Python.payload host port discoveredAt -> m.2.Fits ⟨false, none, none⟩ := by
    intro m _
    cases m.2 with
    | text value => trivial
    | whole value =>
        intro limit limited
        cases limited
  have nonempty : Python.payload host port discoveredAt ≠ [] := List.cons_ne_nil _ _
  have parsed := parse_dumpObject nonempty fits (by decide)
  have number : ofNumeral ⟨port, 0, true⟩ = Node.ofPort port := by
    have natural : (port.toNat : Int) = port := Int.toNat_of_nonneg (by omega)
    rw [← natural, ofNumeral_ofNat (by omega)]
    rfl
  have entry : Node.entryOf runtimes (.object ((Python.payload host port discoveredAt).map
      (fun m => (rejoined m.1, m.2.readBack)))) =
      some (rejoined host, ofNumeral ⟨port, 0, true⟩) := rfl
  rw [number] at entry
  simp only [Node.readCache, Python.writeCache, Node.readText, parsed, entry]

/-- The payload of Node as it is read back. -/
def Node.known (host : CodePoints) (port : JsNumber) (discoveredAt : CodePoints) : Json :=
  .object [(codePoints "host", .string (rejoined host)),
    (codePoints "port", .number port.numeral),
    (codePoints "discovered_at", .string (rejoined discoveredAt)),
    (codePoints "probe_url", .string (rejoined (probeUrl host port)))]

theorem readBack_payload (host : CodePoints) (port : JsNumber) (discoveredAt : CodePoints) :
    (Node.payload host port discoveredAt).readBack = some (Node.known host port discoveredAt) := by
  have names : (JsString.ofText "host").codePoints = codePoints "host" ∧
      (JsString.ofText "port").codePoints = codePoints "port" ∧
      (JsString.ofText "discovered_at").codePoints = codePoints "discovered_at" ∧
      (JsString.ofText "probe_url").codePoints = codePoints "probe_url" := by
    decide
  rcases names with ⟨first, second, third, fourth⟩
  simp only [Node.payload, JsValue.readBack, readBackMembers, first, second, third, fourth,
    codePoints_ofCodePoints, Node.known]

/-- What Node writes is read in every dialect that can nest. -/
theorem parse_node_payload {dialect : Dialect} (holds : dialect.Holds 1) (host : CodePoints)
    (port : JsNumber) (discoveredAt : CodePoints) :
    parse dialect ((stringify 0 (Node.payload host port discoveredAt)).getD []) =
      .ok (Node.known host port discoveredAt) := by
  have height : (Node.payload host port discoveredAt).height = 1 := by
    simp only [Node.payload, JsValue.height, heightMembers]
    rfl
  exact parse_getD_stringify (height ▸ holds) (readBack_payload host port discoveredAt) 0

/-- Both read what Node has written. -/
theorem readAlike_node (nests : runtimes.pyMaxDepth ≠ 0) {port : Nat} (inRange : port ≤ 65535)
    (small : port < 10 ^ 21) (host discoveredAt : CodePoints) :
    ReadAlike runtimes (Node.writeCache host (.ofNat port small) discoveredAt)
      (some (rejoined host, (port : Int))) := by
  have numeral := JsNumber.numeral_ofNat port small
  refine ⟨?_, ?_⟩
  · have holds : (⟨true, some maxIntDigits, some runtimes.pyMaxDepth⟩ : Dialect).Holds 1 := by
      refine ⟨?_, ?_⟩
      · intro limit limited
        cases limited
        decide
      · intro limit limited
        cases limited
        omega
    have parsed := parse_node_payload holds host (.ofNat port small) discoveredAt
    have entry : Python.entryOf runtimes (Node.known host (.ofNat port small) discoveredAt) =
        .ok (rejoined host, (port : Int)) := by
      unfold Node.known
      rw [numeral]
      rfl
    simp only [Python.readCache, Python.readEntry, Node.writeCache, Python.loads, parsed, entry]
    rfl
  · have holds : (⟨false, none, none⟩ : Dialect).Holds 1 := by
      refine ⟨?_, ?_⟩
      · intro limit limited
        cases limited
      · intro limit limited
        cases limited
    have parsed := parse_node_payload holds host (.ofNat port small) discoveredAt
    have entry : Node.entryOf runtimes (Node.known host (.ofNat port small) discoveredAt) =
        some (rejoined host, ofNumeral ⟨port, 0, true⟩) := by
      unfold Node.known
      rw [numeral]
      rfl
    rw [ofNumeral_ofNat (by omega)] at entry
    simp only [Node.readCache, Node.writeCache, Node.readText, parsed]
    exact entry

/-- Both read what Python has written. -/
theorem readAlike_python (nests : runtimes.pyMaxDepth ≠ 0) {port : Int}
    (inRange : 1 ≤ port ∧ port ≤ 65535) (host discoveredAt : CodePoints) :
    ReadAlike runtimes (Python.writeCache host port discoveredAt) (some (rejoined host, port)) :=
  ⟨Python.readCache_writeCache nests inRange host discoveredAt,
    node_readCache_python inRange host discoveredAt⟩

end Files

/-! ## One search for both -/

/-- Every port that can be reached gives a regular answer. -/
def RegularPorts (runtimes : Runtimes) (ports : Ports) : Prop :=
  forall host port answer, reach (ports host) port = some answer -> Regular runtimes answer

/-- Where TradingView is. -/
def serving (runtimes : Runtimes) (ports : Ports) (host : CodePoints) (port : Int) : Bool :=
  match Python.isTvEndpoint runtimes (ports host) port with
  | .ok serves => serves
  | .error _ => false

/-- Both clients take an address, or both refuse it. -/
def AcceptAlike (runtimes : Runtimes) (address : CodePoints × Int) : Prop :=
  runtimes.nodeAccepts address.1 address.2 = runtimes.pyAccepts address.1 address.2

/-- The clients do so with all that is asked: the ports of the range on the configured host,
and what is remembered. -/
structure ClientsAlike (runtimes : Runtimes) (env : Env) (cached : Option (CodePoints × Int)) :
    Prop where
  home : forall port, port ∈ Python.ports env -> AcceptAlike runtimes (Python.host env, port)
  known : forall a, cached = some a -> AcceptAlike runtimes (probedAddress (Python.host env) a)

/-- The search of both, over what is remembered. -/
def search (runtimes : Runtimes) (env : Env) (world : CodePoints -> Int -> Bool) (force : Bool)
    (cached : Option (CodePoints × Int)) : Except Raised (Resolved Int) :=
  match Python.explicitPort env with
  | some port => .ok ⟨Python.host env, port, none⟩
  | none =>
    discover (guarded runtimes.pyAccepts world) (Python.host env) (considered force cached)
      (Python.ports env)

/-- What is remembered after a search. -/
def remembered (writable : Bool) (cached : Option (CodePoints × Int)) :
    Except Raised (Resolved Int) -> Option (CodePoints × Int)
  | .ok ⟨_, _, some (host, port)⟩ => if writable then some (rejoined host, port) else cached
  | _ => cached

section Search

variable {runtimes : Runtimes} {env : Env} {ports : Ports}

theorem python_probe_eq (regular : RegularPorts runtimes ports) :
    Python.probe runtimes ports = guarded runtimes.pyAccepts (serving runtimes ports) := by
  funext host port
  rcases isTvEndpoint_alike (regular host port) with ⟨serves, python, -⟩
  rw [Python.probe, guarded, serving, python]

theorem node_probe_eq (regular : RegularPorts runtimes ports) :
    Node.probe runtimes ports =
      guarded (Node.accepts runtimes) (Node.serves (serving runtimes ports)) := by
  funext host port
  cases port with
  | nan => rfl
  | infinite negative => rfl
  | finite port =>
      rcases isTvEndpoint_alike (regular host port.num) with ⟨serves, python, node⟩
      simp only [Node.probe, guarded, Node.serves, serving, python, node]

theorem python_discoverWith (regular : RegularPorts runtimes ports) {file : CacheFile}
    {cached : Option (CodePoints × Int)} (reads : ReadAlike runtimes file cached) (force : Bool) :
    Python.discoverWith (Python.probe runtimes ports) runtimes env file force =
      search runtimes env (serving runtimes ports) force cached := by
  rw [python_probe_eq regular]
  unfold Python.discoverWith search
  cases Python.explicitPort env with
  | some port => rfl
  | none =>
      cases force with
      | true => rfl
      | false =>
          simp only [reads.python, Bool.false_eq_true, if_false]
          rfl

/-- Where both clients take the same addresses the search comes to the same with either. -/
theorem discover_clients_alike {cached : Option (CodePoints × Int)}
    (clients : ClientsAlike runtimes env cached) (world : CodePoints -> Int -> Bool) :
    discover (guarded runtimes.nodeAccepts world) (Python.host env) cached (Python.ports env) =
      discover (guarded runtimes.pyAccepts world) (Python.host env) cached (Python.ports env) := by
  refine discover_congr (fun port listed => ?_) (fun a known => ?_)
  · have same := clients.home port listed
    rw [AcceptAlike] at same
    rw [guarded, guarded, same]
  · have same := clients.known a known
    rw [AcceptAlike] at same
    rw [guarded, guarded, same]

theorem ClientsAlike.considered {cached : Option (CodePoints × Int)}
    (clients : ClientsAlike runtimes env cached) (force : Bool) :
    ClientsAlike runtimes env (considered force cached) :=
  ⟨clients.home, fun a known => clients.known a ((considered_eq_some_iff force a).mp known).2⟩

theorem node_discoverWith (regular : RegularPorts runtimes ports) (plain : PlainEnv env)
    {file : CacheFile} {cached : Option (CodePoints × Int)} (reads : ReadAlike runtimes file cached)
    (clients : ClientsAlike runtimes env cached) (force : Bool) :
    Node.discoverWith (Node.probe runtimes ports) runtimes env file force =
      (search runtimes env (serving runtimes ports) force cached).map
        (Resolved.map Node.ofPort) := by
  rw [node_probe_eq regular]
  unfold Node.discoverWith search
  rw [plain.explicitPort_eq, ← plain.host_eq, ← plain.range_eq]
  cases Python.explicitPort env with
  | some port => rfl
  | none =>
      have known : (if force then none else Node.readCache runtimes file) =
          (considered force cached).map toNode := by
        cases force with
        | true => rfl
        | false => exact reads.node
      simp only [Option.map_none, known]
      rw [← discover_clients_alike (clients.considered force)]
      exact discover_map _ _ _ _ _

/-- What a search has written it has scanned. -/
theorem written_of_search {world : CodePoints -> Int -> Bool} {force : Bool}
    {cached : Option (CodePoints × Int)} {resolved : Resolved Int}
    (found : search runtimes env world force cached = .ok resolved) :
    resolved.written = none ∨
      (Python.explicitPort env = none ∧ resolved.host = Python.host env ∧
        resolved.port ∈ Python.ports env ∧ world (Python.host env) resolved.port = true ∧
        resolved.written = some resolved.address) := by
  unfold search at found
  cases explicit : Python.explicitPort env with
  | some port =>
      rw [explicit] at found
      cases found
      exact Or.inl rfl
  | none =>
      simp only [explicit] at found
      rcases discover_cases (guarded runtimes.pyAccepts world) (Python.host env) (considered force cached) with
        ⟨a, known, serves⟩ | idle | ⟨a, raised, known, failed⟩
      · rw [discover_of_serves known serves] at found
        cases found
        exact Or.inl rfl
      · rw [discover_of_idle idle] at found
        rcases discoverByScan_eq_ok found with ⟨same, serves, listed, written⟩
        exact Or.inr ⟨rfl, same, listed, ((guarded_eq_ok_iff true).mp serves).2, written⟩
      · rw [discover_of_raised known failed] at found
        cases found

/-! ## Runs -/

/-- What a search tells its caller. -/
def told (result : Except Raised (Resolved Int)) : Except Raised (CodePoints × Double) :=
  result.map (fun resolved => toNode resolved.address)

/-- What is remembered next is asked for alike as well: a scan writes an address that it
has asked. -/
theorem ClientsAlike.remembered {cached : Option (CodePoints × Int)}
    (clients : ClientsAlike runtimes env cached) (world : CodePoints -> Int -> Bool)
    (force writable : Bool) :
    ClientsAlike runtimes env
      (remembered writable cached (search runtimes env world force cached)) := by
  refine ⟨clients.home, ?_⟩
  cases found : search runtimes env world force cached with
  | error raised => exact clients.known
  | ok resolved =>
      rcases resolved with ⟨host, port, written⟩
      rcases written_of_search found with unwritten | ⟨-, home, listed, -, own⟩
      · have none : written = none := unwritten
        subst none
        exact clients.known
      · have some : written = some (host, port) := own
        have same : host = Python.host env := home
        subst some
        subst same
        cases writable with
        | false => exact clients.known
        | true =>
            rintro _ ⟨⟩
            rw [Python.probedAddress_rejoined]
            exact clients.home port listed

/-- A call of either side is the search, and leaves a file that both read alike. -/
theorem perform_spec (nests : runtimes.pyMaxDepth ≠ 0) (plain : PlainEnv env)
    (regular : RegularPorts runtimes ports) {file : CacheFile}
    {cached : Option (CodePoints × Int)} (reads : ReadAlike runtimes file cached)
    (clients : ClientsAlike runtimes env cached) (call : Call) :
    (call.perform runtimes env ports file).1 =
        told (search runtimes env (serving runtimes ports) call.force cached) ∧
      ReadAlike runtimes (call.perform runtimes env ports file).2
        (remembered call.writable cached (search runtimes env (serving runtimes ports) call.force cached)) := by
  unfold Call.perform
  cases side : call.side with
  | python =>
      simp only [python_discoverWith regular reads]
      cases found : search runtimes env (serving runtimes ports) call.force cached with
      | error raised => exact ⟨rfl, reads⟩
      | ok resolved =>
          refine ⟨rfl, ?_⟩
          rcases resolved with ⟨host, port, written⟩
          rcases written_of_search found with unwritten | ⟨-, -, listed, -, written'⟩
          · cases unwritten
            exact reads
          · have own : written = some (host, port) := written'
            subst own
            cases writable : call.writable with
            | false => exact reads
            | true => exact readAlike_python nests (Python.mem_ports listed) host call.discoveredAt
  | node =>
      simp only [node_discoverWith regular plain reads clients]
      cases found : search runtimes env (serving runtimes ports) call.force cached with
      | error raised => exact ⟨rfl, reads⟩
      | ok resolved =>
          refine ⟨rfl, ?_⟩
          rcases resolved with ⟨host, port, written⟩
          rcases written_of_search found with unwritten | ⟨-, -, listed, -, written'⟩
          · cases unwritten
            exact reads
          · have own : written = some (host, port) := written'
            subst own
            have inRange : 1 ≤ port ∧ port ≤ 65535 := Python.mem_ports listed
            have digits : ((port : Rat).num.toNat) = port.toNat := by rw [Rat.num_intCast]
            have small : (port : Rat).num.toNat < 10 ^ 21 := by
              rw [digits]
              omega
            have natural : (((port : Rat).num.toNat : Nat) : Int) = port := by
              rw [digits]
              exact Int.toNat_of_nonneg (by omega)
            simp only [Except.map, Resolved.map, Option.map_some, Resolved.address, Node.ofPort,
              Node.cacheAfter, dif_pos small, remembered]
            cases call.writable with
            | false => exact reads
            | true =>
                have low : (port : Rat).num.toNat ≤ 65535 := by
                  rw [digits]
                  omega
                have alike := readAlike_node nests low small host call.discoveredAt
                rw [natural] at alike
                exact alike

/-- What the searches of a run tell. -/
def searches (runtimes : Runtimes) (env : Env) :
    Option (CodePoints × Int) -> List (Ports × Call) -> List (Except Raised (CodePoints × Double))
  | _, [] => []
  | cached, (ports, call) :: rest =>
    let result := search runtimes env (serving runtimes ports) call.force cached
    told result :: searches runtimes env (remembered call.writable cached result) rest

/-- Both languages work as one register that is searched for, and none of its users
shows in it. -/
theorem answers_eq_searches (nests : runtimes.pyMaxDepth ≠ 0) (plain : PlainEnv env)
    {run : List (Ports × Call)}
    (regular : forall moment, moment ∈ run -> RegularPorts runtimes moment.1) {file : CacheFile}
    {cached : Option (CodePoints × Int)} (reads : ReadAlike runtimes file cached)
    (clients : ClientsAlike runtimes env cached) :
    answers runtimes env file run = searches runtimes env cached run := by
  induction run generalizing file cached with
  | nil => rfl
  | cons moment rest ih =>
      rcases moment with ⟨ports, call⟩
      rcases perform_spec nests plain (regular _ List.mem_cons_self) reads clients call with
        ⟨same, left⟩
      have later := ih (fun other here => regular other (List.mem_cons_of_mem _ here)) left
        (clients.remembered (serving runtimes ports) call.force call.writable)
      simp only [answers, searches, same, later]

/-- The same call, but maybe of the other side and at another time. -/
def SameCall (a b : Ports × Call) : Prop :=
  a.1 = b.1 ∧ a.2.force = b.2.force ∧ a.2.writable = b.2.writable

theorem searches_congr {run other : List (Ports × Call)} (same : List.Forall₂ SameCall run other)
    (cached : Option (CodePoints × Int)) :
    searches runtimes env cached run = searches runtimes env cached other := by
  induction same generalizing cached with
  | nil => rfl
  | cons head tail ih =>
      rename_i a b rest rest'
      rcases a with ⟨ports, call⟩
      rcases b with ⟨ports', call'⟩
      rcases head with ⟨rfl, force, writable⟩
      simp only at force writable
      simp only [searches, force, writable, ih]

/-- What is remembered leads to this address. -/
def LeadsHome (env : Env) (cached : Option (CodePoints × Int)) (address : CodePoints × Int) : Prop :=
  cached.map (probedAddress (Python.host env)) = some address

/-- Where TradingView is still at the remembered address, a search finds it there and
writes nothing. -/
theorem search_of_leadsHome (unset : Python.explicitPort env = none)
    {world : CodePoints -> Int -> Bool} {cached : Option (CodePoints × Int)}
    {address : CodePoints × Int} (leads : LeadsHome env cached address)
    (taken : runtimes.pyAccepts address.1 address.2 = true)
    (serves : world address.1 address.2 = true) :
    search runtimes env world false cached = .ok ⟨address.1, address.2, none⟩ := by
  unfold search
  rw [unset]
  cases cached with
  | none => cases leads
  | some known =>
      have same : probedAddress (Python.host env) known = address := Option.some.inj leads
      have answer : guarded runtimes.pyAccepts world (probedAddress (Python.host env) known).1
          (probedAddress (Python.host env) known).2 = .ok true := by
        rw [same]
        exact (guarded_eq_ok_iff true).mpr ⟨taken, serves⟩
      change discover (guarded runtimes.pyAccepts world) (Python.host env) (some known) (Python.ports env) = _
      rw [discover_of_serves rfl answer, same]

/-- The address that is returned was asked, and served. -/
theorem asked_of_search (unset : Python.explicitPort env = none)
    {world : CodePoints -> Int -> Bool} {cached : Option (CodePoints × Int)} {force : Bool}
    {resolved : Resolved Int} (found : search runtimes env world force cached = .ok resolved) :
    runtimes.pyAccepts resolved.address.1 resolved.address.2 = true ∧
      world resolved.address.1 resolved.address.2 = true := by
  simp only [search, unset] at found
  exact (guarded_eq_ok_iff true).mp (serves_of_discover found)

/-- An address that was kept, or written, is remembered. -/
theorem leadsHome_of_search (unset : Python.explicitPort env = none)
    {world : CodePoints -> Int -> Bool} {cached : Option (CodePoints × Int)} {force : Bool}
    {resolved : Resolved Int} (found : search runtimes env world force cached = .ok resolved) :
    LeadsHome env (remembered true cached (search runtimes env world force cached)) resolved.address := by
  rw [found]
  rcases resolved with ⟨host, port, written⟩
  rcases written_of_search found with unwritten | ⟨-, home, -, -, own⟩
  · have none : written = none := unwritten
    subst none
    unfold search at found
    simp only [unset] at found
    rcases discover_cases (guarded runtimes.pyAccepts world) (Python.host env) (considered force cached) with
      ⟨a, known, serves⟩ | idle | ⟨a, raised, known, failed⟩
    · rw [discover_of_serves known serves] at found
      cases found
      exact congrArg (Option.map _) ((considered_eq_some_iff force a).mp known).2
    · rw [discover_of_idle idle] at found
      cases (discoverByScan_eq_ok found).2.2.2
    · rw [discover_of_raised known failed] at found
      cases found
  · have some : written = some (host, port) := own
    have same : host = Python.host env := home
    subst some
    subst same
    exact congrArg Option.some (Python.probedAddress_rejoined env port)

/-- What a call without force tells in a steady world it tells again. -/
theorem search_again (world : CodePoints -> Int -> Bool) (cached : Option (CodePoints × Int))
    (writable : Bool) :
    told (search runtimes env world false (remembered writable cached (search runtimes env world false cached))) =
      told (search runtimes env world false cached) := by
  cases found : search runtimes env world false cached with
  | error raised =>
      rw [remembered, found]
      exact fun _ _ _ _ impossible => by cases impossible
  | ok resolved =>
      cases writable with
      | false =>
          have kept : remembered false cached (.ok resolved) = cached := by
            rcases resolved with ⟨host, port, written⟩
            cases written <;> rfl
          rw [kept, found]
      | true =>
          cases explicit : Python.explicitPort env with
          | some port =>
              unfold search at found ⊢
              rw [explicit] at found ⊢
              rw [found]
          | none =>
              have leads := leadsHome_of_search explicit found
              rw [found] at leads
              rcases asked_of_search explicit found with ⟨taken, serves⟩
              rw [search_of_leadsHome explicit leads taken serves]
              rfl

end Search

/-- TradingView on every host, at 9222. -/
def charts : Ports := fun _ => chartAt9222

theorem regular_charts : RegularPorts emptyPrinting charts := by
  intro host port answer reached
  have known : answer = chartAnswer := by
    unfold reach charts chartAt9222 at reached
    split at reached
    · split at reached
      · exact (Option.some.inj reached).symm
      · cases reached
    · cases reached
  rw [known]
  exact regular_chartAnswer

/-- Nothing is set. -/
def bareEnv : Env := ⟨none, none, none⟩

theorem plain_bareEnv : PlainEnv bareEnv where
  port := Or.inl rfl
  host := by
    intro set
    cases set
  range := Or.inl rfl

theorem clients_emptyPrinting : ClientsAlike emptyPrinting bareEnv none := by
  refine ⟨fun port _ => rfl, ?_⟩
  intro a impossible
  cases impossible

/-- A discovery without force that can write the file. -/
def ordinary (side : Side) : Call := ⟨side, false, true, []⟩

end Discovery
end HybridDataSvc
