import HybridDataSvc.Discovery.Convergence
import HybridDataSvc.Text.JsonDump
import Mathlib.Data.Nat.Digits.Defs

namespace HybridDataSvc
namespace Discovery

open JsonText NumberText

/-!
# A call after another

What `discover_cdp` of `cdp_discover.py` returns, and what a second call in the
same world returns with the cache file that the first one has left.  Writing
that file is a best effort; a file that is not written stays as it was.
-/

/-! ## One discovery -/

def Resolved.address {Port : Type} (resolved : Resolved Port) : CodePoints × Port :=
  (resolved.host, resolved.port)

section One

variable {Port : Type} [DecidableEq Port] {isTvEndpoint : CodePoints -> Port -> Except Raised Bool}
  {host : CodePoints} {cached : Option (CodePoints × Port)} {ports : List Port}
  {resolved : Resolved Port}

/-- A scan returns a port of its range that serves, and has it written. -/
theorem discoverByScan_eq_ok
    (returned : discoverByScan isTvEndpoint host cached ports = .ok resolved) :
    resolved.host = host ∧ isTvEndpoint host resolved.port = .ok true ∧ resolved.port ∈ ports ∧
      resolved.written = some resolved.address := by
  unfold discoverByScan at returned
  cases scanned : scanPorts (isTvEndpoint host) ports with
  | error raised =>
      rw [scanned] at returned
      cases returned
  | ok found =>
      have members := (mem_of_scanPorts_eq_ok scanned).2
      rw [scanned] at returned
      cases found with
      | nil => cases returned
      | cons first others =>
          have listed : forall port, port ∈ first :: others ->
              isTvEndpoint host port = .ok true ∧ port ∈ ports :=
            fun port here => ((members port).mp here).symm
          cases cached with
          | none =>
              cases returned
              rcases listed first List.mem_cons_self with ⟨serves, inRange⟩
              exact ⟨rfl, serves, inRange, rfl⟩
          | some a =>
              by_cases here : a.2 ∈ first :: others
              · simp only [if_pos here] at returned
                cases returned
                rcases listed a.2 here with ⟨serves, inRange⟩
                exact ⟨rfl, serves, inRange, rfl⟩
              · simp only [if_neg here] at returned
                cases returned
                rcases listed first List.mem_cons_self with ⟨serves, inRange⟩
                exact ⟨rfl, serves, inRange, rfl⟩

/-- A scan that returns without a cached address returns the same with one, unless it
finds the cached port and that is another. -/
theorem discoverByScan_cached_iff (a : CodePoints × Port)
    (returned : discoverByScan isTvEndpoint host none ports = .ok resolved) :
    (exists found, discoverByScan isTvEndpoint host (some a) ports = .ok found ∧
        found.address = resolved.address) ↔
      (isTvEndpoint host a.2 = .ok true -> a.2 ∈ ports -> a.2 = resolved.port) := by
  unfold discoverByScan at returned ⊢
  cases scanned : scanPorts (isTvEndpoint host) ports with
  | error raised =>
      rw [scanned] at returned
      cases returned
  | ok found =>
      have members := (mem_of_scanPorts_eq_ok scanned).2
      rw [scanned] at returned
      cases found with
      | nil => cases returned
      | cons first others =>
          cases returned
          by_cases here : a.2 ∈ first :: others
          · rcases (members a.2).mp here with ⟨listed, serves⟩
            simp only [if_pos here, Except.ok.injEq, exists_eq_left']
            constructor
            · exact fun same _ _ => (Prod.mk.inj same).2
            · intro leads
              exact Prod.ext rfl (leads serves listed)
          · simp only [if_neg here, Except.ok.injEq, exists_eq_left']
            refine ⟨fun _ serves listed => ?_, fun _ => trivial⟩
            exact absurd ((members a.2).mpr ⟨listed, serves⟩) here

/-- A scan that returns has been answered at every port. -/
theorem answers_of_discoverByScan
    (returned : discoverByScan isTvEndpoint host cached ports = .ok resolved) :
    forall p, p ∈ ports -> forall raised, isTvEndpoint host p ≠ .error raised := by
  unfold discoverByScan at returned
  cases scanned : scanPorts (isTvEndpoint host) ports with
  | error raised =>
      rw [scanned] at returned
      cases returned
  | ok found => exact (mem_of_scanPorts_eq_ok scanned).1

theorem discoverByScan_eq_discoveryError_iff
    (quiet : forall h p, isTvEndpoint h p ≠ .error .discoveryError) :
    discoverByScan isTvEndpoint host cached ports = .error .discoveryError ↔
      forall p, p ∈ ports -> isTvEndpoint host p = .ok false := by
  unfold discoverByScan
  cases scanned : scanPorts (isTvEndpoint host) ports with
  | error raised =>
      rcases exists_raised_of_scanPorts scanned with ⟨p, listed, failed⟩
      constructor
      · intro same
        cases same
        exact absurd failed (quiet host p)
      · intro idle
        cases failed.symm.trans (idle p listed)
  | ok found =>
      rcases mem_of_scanPorts_eq_ok scanned with ⟨answers, members⟩
      cases found with
      | nil =>
          refine ⟨fun _ p listed => ?_, fun _ => rfl⟩
          cases answer : isTvEndpoint host p with
          | error raised => exact absurd answer (answers p listed raised)
          | ok serves =>
              cases serves with
              | false => rfl
              | true => cases (members p).mpr ⟨listed, answer⟩
      | cons first others =>
          rcases (members first).mp List.mem_cons_self with ⟨listed, serves⟩
          constructor
          · exact nofun
          · intro idle
            cases serves.symm.trans (idle first listed)

/-- A cached address that serves is what is returned. -/
theorem discover_of_serves {a : CodePoints × Port} (known : cached = some a)
    (serves : isTvEndpoint (probedAddress host a).1 (probedAddress host a).2 = .ok true) :
    discover isTvEndpoint host cached ports =
      .ok ⟨(probedAddress host a).1, (probedAddress host a).2, none⟩ := by
  subst known
  simp only [discover, Option.map_some, serves]

/-- One that does not serve is left to the scan. -/
theorem discover_of_idle (idle : forall a, cached = some a ->
      isTvEndpoint (probedAddress host a).1 (probedAddress host a).2 = .ok false) :
    discover isTvEndpoint host cached ports = discoverByScan isTvEndpoint host cached ports := by
  cases cached with
  | none => rfl
  | some a => simp only [discover, Option.map_some, idle a rfl]

theorem discover_of_raised {a : CodePoints × Port} {raised : Raised} (known : cached = some a)
    (failed : isTvEndpoint (probedAddress host a).1 (probedAddress host a).2 = .error raised) :
    discover isTvEndpoint host cached ports = .error raised := by
  subst known
  simp only [discover, Option.map_some, failed]

omit [DecidableEq Port] in
variable (isTvEndpoint host cached) in
/-- The three ways of a discovery: the cached address serves, or it does not, or
its probe raises. -/
theorem discover_cases :
    (exists a, cached = some a ∧
      isTvEndpoint (probedAddress host a).1 (probedAddress host a).2 = .ok true) ∨
    (forall a, cached = some a ->
      isTvEndpoint (probedAddress host a).1 (probedAddress host a).2 = .ok false) ∨
    exists a raised, cached = some a ∧
      isTvEndpoint (probedAddress host a).1 (probedAddress host a).2 = .error raised := by
  cases cached with
  | none => exact Or.inr (Or.inl nofun)
  | some a =>
      cases answer : isTvEndpoint (probedAddress host a).1 (probedAddress host a).2 with
      | error raised => exact Or.inr (Or.inr ⟨a, raised, rfl, answer⟩)
      | ok serves =>
          cases serves with
          | true => exact Or.inl ⟨a, rfl, answer⟩
          | false =>
              refine Or.inr (Or.inl ?_)
              rintro b ⟨⟩
              exact answer

omit [DecidableEq Port] in
theorem scanPorts_congr {probe other : Port -> Except Raised Bool}
    (same : forall port, port ∈ ports -> probe port = other port) :
    scanPorts probe ports = scanPorts other ports := by
  induction ports with
  | nil => rfl
  | cons port rest ih =>
      unfold scanPorts
      rw [same port List.mem_cons_self, ih (fun p here => same p (List.mem_cons_of_mem port here))]

/-- A discovery depends on the probes of the range and of the cached address. -/
theorem discover_congr {other : CodePoints -> Port -> Except Raised Bool}
    (home : forall port, port ∈ ports -> isTvEndpoint host port = other host port)
    (known : forall a, cached = some a ->
      isTvEndpoint (probedAddress host a).1 (probedAddress host a).2 =
        other (probedAddress host a).1 (probedAddress host a).2) :
    discover isTvEndpoint host cached ports = discover other host cached ports := by
  have scan : discoverByScan isTvEndpoint host cached ports =
      discoverByScan other host cached ports := by
    unfold discoverByScan
    rw [scanPorts_congr home]
  cases cached with
  | none => exact scan
  | some a => simp only [discover, Option.map_some, known a rfl, scan]

/-- What is returned serves. -/
theorem serves_of_discover
    (returned : discover isTvEndpoint host cached ports = .ok resolved) :
    isTvEndpoint resolved.host resolved.port = .ok true := by
  rcases discover_cases isTvEndpoint host cached with ⟨a, known, serves⟩ | idle |
    ⟨a, raised, known, failed⟩
  · rw [discover_of_serves known serves] at returned
    cases returned
    exact serves
  · rw [discover_of_idle idle] at returned
    rcases discoverByScan_eq_ok returned with ⟨same, serves, -⟩
    rw [same]
    exact serves
  · rw [discover_of_raised known failed] at returned
    cases returned

theorem discover_eq_discoveryError_iff
    (quiet : forall h p, isTvEndpoint h p ≠ .error .discoveryError) :
    discover isTvEndpoint host cached ports = .error .discoveryError ↔
      (forall p, p ∈ ports -> isTvEndpoint host p = .ok false) ∧
        forall a, cached = some a ->
          isTvEndpoint (probedAddress host a).1 (probedAddress host a).2 = .ok false := by
  rcases discover_cases isTvEndpoint host cached with ⟨a, known, serves⟩ | idle |
    ⟨a, raised, known, failed⟩
  · rw [discover_of_serves known serves]
    refine ⟨nofun, fun silent => ?_⟩
    cases serves.symm.trans (silent.2 a known)
  · rw [discover_of_idle idle, discoverByScan_eq_discoveryError_iff quiet]
    exact ⟨fun silent => ⟨silent, idle⟩, And.left⟩
  · rw [discover_of_raised known failed]
    constructor
    · intro same
      cases same
      exact absurd failed (quiet _ _)
    · intro silent
      cases failed.symm.trans (silent.2 a known)

/-- Another exception is that of a probe. -/
theorem exists_raised_of_discover {raised : Raised}
    (failed : discover isTvEndpoint host cached ports = .error raised) :
    raised = .discoveryError ∨ (exists p, p ∈ ports ∧ isTvEndpoint host p = .error raised) ∨
      exists a, cached = some a ∧
        isTvEndpoint (probedAddress host a).1 (probedAddress host a).2 = .error raised := by
  rcases discover_cases isTvEndpoint host cached with ⟨a, known, serves⟩ | idle |
    ⟨a, other, known, probe⟩
  · rw [discover_of_serves known serves] at failed
    cases failed
  · rw [discover_of_idle idle] at failed
    unfold discoverByScan at failed
    cases scanned : scanPorts (isTvEndpoint host) ports with
    | error other =>
        rw [scanned] at failed
        cases failed
        exact Or.inr (Or.inl (exists_raised_of_scanPorts scanned))
    | ok found =>
        rw [scanned] at failed
        cases found with
        | nil =>
            cases failed
            exact Or.inl rfl
        | cons first others => cases failed
  · rw [discover_of_raised known probe] at failed
    cases failed
    exact Or.inr (Or.inr ⟨a, known, probe⟩)

end One

/-! ## The cache file -/

namespace Python

/-- The payload of `_write_cache`, with the text of the time. -/
def payload (host : CodePoints) (port : Int) (discoveredAt : CodePoints) :
    List (CodePoints × Scalar) :=
  [(codePoints "host", .text host),
    (codePoints "port", .whole port),
    (codePoints "discovered_at", .text discoveredAt),
    (codePoints "probe_url", .text (codePoints "http://" ++ host ++ codePoints ":" ++
      (intText port).map Char.toNat ++ codePoints "/json/version"))]

/-- The file that `_write_cache` leaves. -/
def writeCache (host : CodePoints) (port : Int) (discoveredAt : CodePoints) : CacheFile :=
  .utf8 (dumpObject (payload host port discoveredAt))

/-- The cache file after a call.  A file that cannot be written stays as it is. -/
def cacheAfter (file : CacheFile) (writable : Bool) (discoveredAt : CodePoints)
    (resolved : Resolved Int) : CacheFile :=
  match resolved.written with
  | none => file
  | some (host, port) => if writable then writeCache host port discoveredAt else file

/-- The ports of a scan. -/
def ports (env : Env) : List Int := portsBetween (parsePortRange env.portRange)

theorem mem_ports {env : Env} {port : Int} (listed : port ∈ ports env) :
    1 ≤ port ∧ port ≤ 65535 := by
  have bounds : 1 ≤ (parsePortRange env.portRange).1 ∧
      (parsePortRange env.portRange).2 ≤ 65535 := by
    unfold parsePortRange
    split
    · decide
    · decide
    · split
      · decide
      · split
        · split
          · rename_i ordered
            exact ⟨ordered.1, ordered.2.2⟩
          · decide
        · decide
  unfold ports portsBetween at listed
  rcases List.mem_map.mp listed with ⟨k, here, rfl⟩
  have less := List.mem_range.mp here
  omega

/-- The address that is written is read back, its host as JSON has it. -/
theorem readCache_writeCache {runtimes : Runtimes} (nests : runtimes.pyMaxDepth ≠ 0) {port : Int}
    (inRange : 1 ≤ port ∧ port ≤ 65535) (host discoveredAt : CodePoints) :
    readCache runtimes (writeCache host port discoveredAt) =
      .ok (some (rejoined host, port)) := by
  have fits : forall m, m ∈ payload host port discoveredAt ->
      m.2.Fits ⟨true, some maxIntDigits, some runtimes.pyMaxDepth⟩ := by
    have digits : (Nat.toDigits 10 port.natAbs).length ≤ 5 :=
      (Nat.length_toDigits_le_iff (by decide) (by decide)).mpr (by omega)
    have short : (Scalar.whole port).Fits
        ⟨true, some maxIntDigits, some runtimes.pyMaxDepth⟩ := by
      rintro limit ⟨⟩
      exact digits.trans (by decide)
    intro m here
    unfold payload at here
    simp only [List.mem_cons, List.not_mem_nil, or_false] at here
    rcases here with rfl | rfl | rfl | rfl
    · trivial
    · exact short
    · trivial
    · trivial
  have parsed : loads runtimes (dumpObject (payload host port discoveredAt)) =
      .ok (.object ((payload host port discoveredAt).map
        (fun m => (rejoined m.1, m.2.readBack)))) := by
    have nonempty : payload host port discoveredAt ≠ [] := List.cons_ne_nil _ _
    unfold loads
    rw [parse_dumpObject nonempty fits (fun zero => nests (Option.some.inj zero))]
  have entry : entryOf runtimes (.object ((payload host port discoveredAt).map
      (fun m => (rejoined m.1, m.2.readBack)))) = .ok (rejoined host, port) := by
    rfl
  simp only [readCache, writeCache, readEntry, parsed, entry]
  rfl

/-- The address that a scan of the environment has written is the one that is
probed for it, so it is not lost to another host. -/
theorem probedAddress_rejoined (env : Env) (port : Int) :
    probedAddress (host env) (rejoined (host env), port) = (host env, port) := by
  unfold probedAddress
  by_cases default : host env = defaultHost
  · have same : rejoined defaultHost = defaultHost := by decide
    rw [default, same]
    rfl
  · rw [if_pos default]

/-! ## Calls in a world -/

/-- `discover_cdp(force)` in a world of endpoints. -/
def discoverIn (runtimes : Runtimes) (world : CodePoints -> Int -> Bool) (env : Env)
    (file : CacheFile) (force : Bool) : Except Raised (Resolved Int) :=
  discoverWith (guarded runtimes.pyAccepts world) runtimes env file force

end Python

/-- The HTTP client takes the address, and it is no endpoint. -/
def Idle (accepts world : CodePoints -> Int -> Bool) (a : CodePoints × Int) : Prop :=
  accepts a.1 a.2 = true ∧ world a.1 a.2 = false

/-- The call returns this host and port. -/
def Returns (result : Except Raised (Resolved Int)) (address : CodePoints × Int) : Prop :=
  exists resolved, result = .ok resolved ∧ resolved.address = address

/-- What is in the cache does not lead a call without `force` to an address
other than this one. -/
def LeadsTo (runtimes : Runtimes) (world : CodePoints -> Int -> Bool) (env : Env)
    (cached : Option (CodePoints × Int)) (address : CodePoints × Int) : Prop :=
  forall a, cached = some a ->
    runtimes.pyAccepts (probedAddress (Python.host env) a).1 a.2 = true ∧
    (world (probedAddress (Python.host env) a).1 a.2 = true ->
      probedAddress (Python.host env) a = address) ∧
    (world (probedAddress (Python.host env) a).1 a.2 = false ->
      a.2 ∈ Python.ports env -> world (Python.host env) a.2 = true -> a.2 = address.2)

/-- The calls of `discover_cdp` in a world, with a cache file that is read as
`cached`. -/
structure Discovers (runtimes : Runtimes) (world : CodePoints -> Int -> Bool) (env : Env)
    (file : CacheFile) (cached : Option (CodePoints × Int)) : Prop where
  sound : forall force address,
    Returns (Python.discoverIn runtimes world env file force) address ->
      world address.1 address.2 = true
  complete : forall force,
    Python.discoverIn runtimes world env file force = .error .discoveryError ↔
      (forall p, p ∈ Python.ports env -> Idle runtimes.pyAccepts world (Python.host env, p)) ∧
        (force = true ∨ forall a, cached = some a ->
          Idle runtimes.pyAccepts world (probedAddress (Python.host env) a))
  refused : forall force raised,
    Python.discoverIn runtimes world env file force = .error raised ->
      raised = .discoveryError ∨
      (exists p, p ∈ Python.ports env ∧ runtimes.pyAccepts (Python.host env) p = false) ∨
      exists a, force = false ∧ cached = some a ∧
        runtimes.pyAccepts (probedAddress (Python.host env) a).1 a.2 = false
  kept : forall a, cached = some a ->
    runtimes.pyAccepts (probedAddress (Python.host env) a).1 a.2 = true ->
    world (probedAddress (Python.host env) a).1 a.2 = true ->
      Returns (Python.discoverIn runtimes world env file false)
        (probedAddress (Python.host env) a)
  repeated : forall force again writable discoveredAt resolved,
    Python.discoverIn runtimes world env file force = .ok resolved ->
      again = force ∨ (again = false ∧ writable = true) ->
        Returns (Python.discoverIn runtimes world env
          (Python.cacheAfter file writable discoveredAt resolved) again) resolved.address
  unwritten : forall discoveredAt resolved,
    Python.discoverIn runtimes world env file true = .ok resolved ->
      (Returns (Python.discoverIn runtimes world env
          (Python.cacheAfter file false discoveredAt resolved) false) resolved.address ↔
        LeadsTo runtimes world env cached resolved.address)

section Probes

variable {accepts world : CodePoints -> Int -> Bool} {host : CodePoints} {port : Int}

theorem guarded_eq_ok_iff (serves : Bool) :
    guarded accepts world host port = .ok serves ↔
      accepts host port = true ∧ world host port = serves := by
  unfold guarded
  cases accepts host port with
  | true => simp
  | false => simp

theorem guarded_eq_error_iff (raised : Raised) :
    guarded accepts world host port = .error raised ↔
      accepts host port = false ∧ raised = .clientError := by
  unfold guarded
  cases accepts host port with
  | true => simp
  | false => simp [eq_comm]

theorem guarded_ne_discoveryError (accepts world : CodePoints -> Int -> Bool) (host : CodePoints)
    (port : Int) : guarded accepts world host port ≠ .error .discoveryError :=
  fun failed => nomatch ((guarded_eq_error_iff .discoveryError).mp failed).2

theorem accepts_of_scan {cached : Option (CodePoints × Int)} {ports : List Int}
    {resolved : Resolved Int}
    (returned : discoverByScan (guarded accepts world) host cached ports = .ok resolved)
    (listed : port ∈ ports) : accepts host port = true := by
  cases taken : accepts host port with
  | true => rfl
  | false =>
      have failed : guarded accepts world host port = .error .clientError :=
        (guarded_eq_error_iff .clientError).mpr ⟨taken, rfl⟩
      exact absurd failed (answers_of_discoverByScan returned port listed _)

end Probes

section Calls

variable {runtimes : Runtimes} {world : CodePoints -> Int -> Bool} {env : Env} {file : CacheFile}
  {cached : Option (CodePoints × Int)} {resolved : Resolved Int}

theorem discoverIn_forced (unset : Python.explicitPort env = none) :
    Python.discoverIn runtimes world env file true =
      discoverByScan (guarded runtimes.pyAccepts world) (Python.host env) none
        (Python.ports env) := by
  unfold Python.discoverIn Python.discoverWith
  rw [unset]
  rfl

theorem discoverIn_unforced (unset : Python.explicitPort env = none)
    (read : Python.readCache runtimes file = .ok cached) :
    Python.discoverIn runtimes world env file false =
      discover (guarded runtimes.pyAccepts world) (Python.host env) cached
        (Python.ports env) :=
  Python.discoverCdp_of_cached unset read world

/-- What counts of the cache in a call. -/
def considered (force : Bool) (cached : Option (CodePoints × Int)) : Option (CodePoints × Int) :=
  if force then none else cached

theorem discoverIn_eq (unset : Python.explicitPort env = none)
    (read : Python.readCache runtimes file = .ok cached) (force : Bool) :
    Python.discoverIn runtimes world env file force =
      discover (guarded runtimes.pyAccepts world) (Python.host env) (considered force cached)
        (Python.ports env) := by
  cases force with
  | true => exact discoverIn_forced unset
  | false => exact discoverIn_unforced unset read

theorem considered_eq_some_iff (force : Bool) (a : CodePoints × Int) :
    considered force cached = some a ↔ force = false ∧ cached = some a := by
  cases force with
  | true => simp [considered]
  | false => simp [considered]

/-- A forced call has scanned, and so has had its port written. -/
theorem forced_eq_ok (unset : Python.explicitPort env = none)
    (returned : Python.discoverIn runtimes world env file true = .ok resolved) :
    resolved.host = Python.host env ∧
      guarded runtimes.pyAccepts world (Python.host env) resolved.port = .ok true ∧
      resolved.port ∈ Python.ports env ∧ resolved.written = some resolved.address := by
  rw [discoverIn_forced unset] at returned
  exact discoverByScan_eq_ok returned

/-- What a call that has scanned returns is returned again when its port was written. -/
theorem returns_of_written (unset : Python.explicitPort env = none)
    (nests : runtimes.pyMaxDepth ≠ 0) {port : Int} (listed : port ∈ Python.ports env)
    (serves : guarded runtimes.pyAccepts world (Python.host env) port = .ok true)
    (discoveredAt : CodePoints) :
    Returns (Python.discoverIn runtimes world env
      (Python.writeCache (Python.host env) port discoveredAt) false) (Python.host env, port) := by
  have read := Python.readCache_writeCache nests (Python.mem_ports listed) (Python.host env)
    discoveredAt
  have probed := Python.probedAddress_rejoined env port
  rw [discoverIn_unforced unset read, discover_of_serves rfl (by rw [probed]; exact serves), probed]
  exact ⟨_, rfl, rfl⟩

/-- A call has returned the cached address and written nothing, or it has scanned. -/
theorem discoverIn_eq_ok (unset : Python.explicitPort env = none)
    (read : Python.readCache runtimes file = .ok cached) {force : Bool}
    (returned : Python.discoverIn runtimes world env file force = .ok resolved) :
    (force = false ∧ resolved.written = none) ∨
      (resolved.host = Python.host env ∧
        guarded runtimes.pyAccepts world (Python.host env) resolved.port = .ok true ∧
        resolved.port ∈ Python.ports env ∧ resolved.written = some resolved.address) := by
  rw [discoverIn_eq unset read] at returned
  rcases discover_cases (guarded runtimes.pyAccepts world) (Python.host env)
    (considered force cached) with ⟨a, known, serves⟩ | idle | ⟨a, raised, known, failed⟩
  · rw [discover_of_serves known serves] at returned
    cases returned
    exact Or.inl ⟨((considered_eq_some_iff force a).mp known).1, rfl⟩
  · rw [discover_of_idle idle] at returned
    exact Or.inr (discoverByScan_eq_ok returned)
  · rw [discover_of_raised known failed] at returned
    cases returned

/-- Again with what the call has left, and without `force` where it could be written. -/
theorem returns_again (unset : Python.explicitPort env = none) (nests : runtimes.pyMaxDepth ≠ 0)
    (read : Python.readCache runtimes file = .ok cached) {force again writable : Bool}
    {discoveredAt : CodePoints}
    (returned : Python.discoverIn runtimes world env file force = .ok resolved)
    (follows : again = force ∨ (again = false ∧ writable = true)) :
    Returns (Python.discoverIn runtimes world env
      (Python.cacheAfter file writable discoveredAt resolved) again) resolved.address := by
  unfold Python.cacheAfter
  rcases discoverIn_eq_ok unset read returned with ⟨rfl, kept⟩ | ⟨same, serves, listed, written⟩
  · have unforced : again = false := follows.elim id And.left
    rw [kept, unforced]
    exact ⟨resolved, returned, rfl⟩
  · have address : resolved.address = (Python.host env, resolved.port) := by
      rw [Resolved.address, same]
    cases again with
    | true =>
        have forced : force = true := by
          rcases follows with same | ⟨absurdity, -⟩
          · exact same.symm
          · cases absurdity
        subst forced
        rw [discoverIn_forced unset] at returned
        rw [discoverIn_forced unset]
        exact ⟨resolved, returned, rfl⟩
    | false =>
        rw [written, address]
        cases writable with
        | true => exact returns_of_written unset nests listed serves discoveredAt
        | false =>
            have unforced : force = false := by
              rcases follows with same | ⟨-, absurdity⟩
              · exact same.symm
              · cases absurdity
            subst unforced
            exact ⟨resolved, returned, address⟩

/-- Where a forced call could not write its port, the next call without `force` goes by
the old cache. -/
theorem returns_unwritten_iff (unset : Python.explicitPort env = none)
    (read : Python.readCache runtimes file = .ok cached)
    (returned : Python.discoverIn runtimes world env file true = .ok resolved) :
    Returns (Python.discoverIn runtimes world env file false) resolved.address ↔
      LeadsTo runtimes world env cached resolved.address := by
  have scan := returned
  rw [discoverIn_forced unset] at scan
  have same : resolved.host = Python.host env := (forced_eq_ok unset returned).1
  rw [discoverIn_unforced unset read]
  cases cached with
  | none =>
      exact ⟨fun _ a known => (nomatch known), fun _ => ⟨resolved, scan, rfl⟩⟩
  | some a =>
      cases answer : guarded runtimes.pyAccepts world (probedAddress (Python.host env) a).1
        (probedAddress (Python.host env) a).2 with
      | error raised =>
          rw [discover_of_raised rfl answer]
          constructor
          · rintro ⟨found, equal, -⟩
            cases equal
          · intro leads
            cases (leads a rfl).1.symm.trans ((guarded_eq_error_iff raised).mp answer).1
      | ok serves =>
          rcases (guarded_eq_ok_iff serves).mp answer with ⟨taken, told⟩
          cases serves with
          | true =>
              rw [discover_of_serves rfl answer]
              constructor
              · rintro ⟨found, equal, address⟩ b ⟨⟩
                cases equal
                refine ⟨taken, fun _ => address, fun silent => ?_⟩
                cases told.symm.trans silent
              · intro leads
                exact ⟨_, rfl, (leads a rfl).2.1 told⟩
          | false =>
              have idle : forall b, some a = some b ->
                  guarded runtimes.pyAccepts world (probedAddress (Python.host env) b).1
                    (probedAddress (Python.host env) b).2 = .ok false := by
                rintro b ⟨⟩
                exact answer
              rw [discover_of_idle idle]
              refine (discoverByScan_cached_iff a scan).trans ?_
              constructor
              · rintro same b ⟨⟩
                refine ⟨taken, fun serves => ?_, fun _ listed endpoint => ?_⟩
                · cases told.symm.trans serves
                · have asked := accepts_of_scan scan listed
                  exact same ((guarded_eq_ok_iff true).mpr ⟨asked, endpoint⟩) listed
              · intro leads serves listed
                exact (leads a rfl).2.2 told listed ((guarded_eq_ok_iff true).mp serves).2

/-- Discovery is sound, complete and sticky. -/
theorem discovery_sticky (runtimes : Runtimes) (nests : runtimes.pyMaxDepth ≠ 0)
    (world : CodePoints -> Int -> Bool) (env : Env) (unset : Python.explicitPort env = none)
    (file : CacheFile) (cached : Option (CodePoints × Int))
    (read : Python.readCache runtimes file = .ok cached) :
    Discovers runtimes world env file cached where
  sound := by
    rintro force address ⟨resolved, returned, rfl⟩
    rw [discoverIn_eq unset read] at returned
    exact ((guarded_eq_ok_iff true).mp (serves_of_discover returned)).2
  complete := by
    intro force
    rw [discoverIn_eq unset read, discover_eq_discoveryError_iff
      (guarded_ne_discoveryError runtimes.pyAccepts world)]
    simp only [guarded_eq_ok_iff, considered_eq_some_iff]
    refine and_congr_right (fun _ => ?_)
    cases force with
    | true => exact ⟨fun _ => Or.inl rfl, fun _ a known => (nomatch known.1)⟩
    | false =>
        constructor
        · exact fun silent => Or.inr (fun a known => silent a ⟨rfl, known⟩)
        · rintro (absurdity | silent) a ⟨-, known⟩
          · cases absurdity
          · exact silent a known
  refused := by
    intro force raised failed
    rw [discoverIn_eq unset read] at failed
    rcases exists_raised_of_discover failed with rfl | ⟨p, listed, probe⟩ | ⟨a, known, probe⟩
    · exact Or.inl rfl
    · exact Or.inr (Or.inl ⟨p, listed, ((guarded_eq_error_iff raised).mp probe).1⟩)
    · rcases (considered_eq_some_iff force a).mp known with ⟨unforced, cachedThere⟩
      exact Or.inr (Or.inr ⟨a, unforced, cachedThere, ((guarded_eq_error_iff raised).mp probe).1⟩)
  kept := by
    intro a known taken serves
    rw [discoverIn_unforced unset read,
      discover_of_serves known ((guarded_eq_ok_iff true).mpr ⟨taken, serves⟩)]
    exact ⟨_, rfl, rfl⟩
  repeated := fun _ _ _ _ _ returned follows => returns_again unset nests read returned follows
  unwritten := by
    intro discoveredAt resolved returned
    have same : Python.cacheAfter file false discoveredAt resolved = file := by
      unfold Python.cacheAfter
      rw [(forced_eq_ok unset returned).2.2.2]
      rfl
    rw [same]
    exact returns_unwritten_iff unset read returned

end Calls

/-- A client that takes every address, and values of JSON that are not printed. -/
def plainRuntimes : Runtimes := ⟨fun _ _ => true, fun _ _ => true, fun _ => [], fun _ => none, 1000⟩

/-- TradingView at two ports of this host. -/
def twoEndpoints : CodePoints -> Int -> Bool :=
  fun host port => decide (host = defaultHost) && (decide (port = 9222) || decide (port = 9225))

/-- The cache file that names the higher port. -/
def higherPort : CacheFile := Python.writeCache defaultHost 9225 []

theorem discovery_sticky_twoEndpoints :
    Discovers plainRuntimes twoEndpoints ⟨none, none, none⟩ higherPort
      (some (defaultHost, 9225)) :=
  discovery_sticky plainRuntimes (by decide) twoEndpoints ⟨none, none, none⟩ rfl higherPort
    (some (defaultHost, 9225)) (by decide +kernel)

/-- A forced call returns the lower port, and where that cannot be written the next call
returns the higher one. -/
theorem forced_port_forgotten :
    let call := Python.discoverIn plainRuntimes twoEndpoints ⟨none, none, none⟩
    let first : Resolved Int := ⟨defaultHost, 9222, some (defaultHost, 9222)⟩
    let left := Python.cacheAfter higherPort false [] first
    Python.readCache plainRuntimes higherPort = .ok (some (defaultHost, 9225)) ∧
      call higherPort true = .ok first ∧
      call left false = .ok ⟨defaultHost, 9225, none⟩ ∧
      ¬ Returns (call left false) first.address := by
  intro call first left
  have read : Python.readCache plainRuntimes higherPort = .ok (some (defaultHost, 9225)) := by
    decide +kernel
  have forced : call higherPort true = .ok first := by decide +kernel
  have again : call left false = .ok ⟨defaultHost, 9225, none⟩ := by decide +kernel
  refine ⟨read, forced, again, ?_⟩
  rintro ⟨resolved, returned, same⟩
  rw [again] at returned
  cases returned
  exact absurd same (by decide)

end Discovery
end HybridDataSvc
