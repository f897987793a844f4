import HybridDataSvc.Discovery.CdpDiscover
import HybridDataSvc.Rendezvous.Scan
import Mathlib.Algebra.Order.Ring.Rat

namespace HybridDataSvc
namespace Discovery

open JsonText NumberText Rendezvous

/-!
# When Python and Node converge

Both discoveries are the search of a party that remembers the cached address,
as far as their clients take the addresses that they visit.  In a world without
an endpoint they visit all of them.
-/

/-! ## Discovery as a search -/

section Search

variable {Port : Type} [DecidableEq Port] {accepts : CodePoints -> Port -> Bool}
  {host : CodePoints} {cached : Option (CodePoints × Port)} {ports : List Port}

/-- The client takes every address that a discovery can visit. -/
def Visits (accepts : CodePoints -> Port -> Bool) (host : CodePoints)
    (cached : Option (CodePoints × Port)) (ports : List Port) : Prop :=
  (forall a, cached.map (probedAddress host) = some a -> accepts a.1 a.2 = true) ∧
    forall p, p ∈ ports -> accepts host p = true

omit [DecidableEq Port] in
theorem scanPorts_guarded (world : CodePoints -> Port -> Bool)
    (accepted : forall p, p ∈ ports -> accepts host p = true) :
    scanPorts (guarded accepts world host) ports = .ok (ports.filter (world host)) := by
  induction ports with
  | nil => rfl
  | cons p rest ih =>
      have tail := ih (fun q here => accepted q (List.mem_cons_of_mem p here))
      have head : guarded accepts world host p = .ok (world host p) :=
        if_pos (accepted p List.mem_cons_self)
      unfold scanPorts
      rw [head, tail, List.filter_cons]

omit [DecidableEq Port] in
/-- Without an endpoint the scan reaches the first port that is refused. -/
theorem scanPorts_silent (refused : ¬ forall p, p ∈ ports -> accepts host p = true) :
    scanPorts (guarded accepts (fun _ _ => false) host) ports = .error .clientError := by
  induction ports with
  | nil => exact absurd (fun p here => nomatch here) refused
  | cons p rest ih =>
      unfold scanPorts
      cases taken : accepts host p with
      | false =>
          have head : guarded accepts (fun _ _ => false) host p = .error .clientError := by
            simp [guarded, taken]
          rw [head]
      | true =>
          have head : guarded accepts (fun _ _ => false) host p = .ok false := by
            simp [guarded, taken]
          have tail := ih (fun all => refused (by
            intro q here
            cases here with
            | head => exact taken
            | tail _ later => exact all q later))
          rw [head, tail]

variable (accepts host cached ports) in
/-- Without an endpoint a discovery fails with a `DiscoveryError` exactly if
the client has taken every address. -/
theorem discover_silent :
    (Visits accepts host cached ports ∧
        discover (guarded accepts (fun _ _ => false)) host cached ports =
          .error .discoveryError) ∨
      (¬ Visits accepts host cached ports ∧
        discover (guarded accepts (fun _ _ => false)) host cached ports =
          .error .clientError) := by
  by_cases all : forall p, p ∈ ports -> accepts host p = true
  · have scanned : discoverByScan (guarded accepts (fun _ _ => false)) host cached ports =
        .error .discoveryError := by
      unfold discoverByScan
      rw [scanPorts_guarded (fun _ _ => false) all, List.filter_false]
    unfold discover
    cases address : cached.map (probedAddress host) with
    | none => exact Or.inl ⟨⟨fun a known => (nomatch address.symm.trans known), all⟩, scanned⟩
    | some a =>
        cases taken : accepts a.1 a.2 with
        | true =>
            refine Or.inl ⟨⟨fun b known => ?_, all⟩, ?_⟩
            · rw [address] at known
              cases known
              exact taken
            · simp [guarded, taken, scanned]
        | false =>
            refine Or.inr ⟨fun visits => ?_, ?_⟩
            · have taken' := visits.1 a address
              rw [taken] at taken'
              cases taken'
            · simp [guarded, taken]
  · have scanned : discoverByScan (guarded accepts (fun _ _ => false)) host cached ports =
        .error .clientError := by
      unfold discoverByScan
      rw [scanPorts_silent all]
    refine Or.inr ⟨fun visits => all visits.2, ?_⟩
    unfold discover
    cases cached.map (probedAddress host) with
    | none => exact scanned
    | some a => cases taken : accepts a.1 a.2 <;> simp [guarded, taken, scanned]

theorem discover_silent_eq_discoveryError_iff :
    discover (guarded accepts (fun _ _ => false)) host cached ports = .error .discoveryError ↔
      Visits accepts host cached ports := by
  rcases discover_silent accepts host cached ports with ⟨visits, failed⟩ | ⟨refused, failed⟩
  · exact ⟨fun _ => visits, fun _ => failed⟩
  · rw [failed]
    exact ⟨fun equal => (nomatch equal), fun visits => absurd visits refused⟩

theorem discover_silent_ne_ok (resolved : Resolved Port) :
    discover (guarded accepts (fun _ _ => false)) host cached ports ≠ .ok resolved := by
  rcases discover_silent accepts host cached ports with ⟨-, failed⟩ | ⟨-, failed⟩
  · rw [failed]
    exact nofun
  · rw [failed]
    exact nofun

end Search

theorem portsBetween_ne_nil {range : Int × Int} (ordered : range.1 ≤ range.2) :
    portsBetween range ≠ [] := by
  unfold portsBetween
  rw [Ne, List.map_eq_nil_iff, List.range_eq_nil]
  omega

/-- The party that a discovery is. -/
def partyOf (host : CodePoints) (cached : Option (CodePoints × Int)) (range : Int × Int)
    (ordered : range.1 ≤ range.2) : Party CodePoints Int where
  home := host
  remembered := cached.map (probedAddress host)
  ports := portsBetween range
  ascending := pairwise_portsBetween range
  nonempty := portsBetween_ne_nil ordered

/-- What a discovery returns for a finding. -/
def resultOf : Finding CodePoints Int -> Except Raised (Resolved Int)
  | .kept (host, port) => .ok ⟨host, port, none⟩
  | .recorded (host, port) => .ok ⟨host, port, some (host, port)⟩
  | .nothing => .error .discoveryError

theorem discover_eq_look {accepts : CodePoints -> Int -> Bool} {host : CodePoints}
    {cached : Option (CodePoints × Int)} {range : Int × Int} (ordered : range.1 ≤ range.2)
    (visits : Visits accepts host cached (portsBetween range))
    (world : CodePoints -> Int -> Bool) :
    discover (guarded accepts world) host cached (portsBetween range) =
      resultOf ((partyOf host cached range ordered).look world) := by
  have scanned : discoverByScan (guarded accepts world) host cached (portsBetween range) =
      resultOf ((partyOf host cached range ordered).search world) := by
    have wanted : ((partyOf host cached range ordered).remembered.map (fun a => a.2)) =
        cached.map (fun a => a.2) := by
      unfold partyOf
      rw [Option.map_map]
      rfl
    have answering : (partyOf host cached range ordered).answering world =
        (portsBetween range).filter (world host) := rfl
    unfold discoverByScan Party.search
    rw [scanPorts_guarded world visits.2, wanted, answering]
    cases (portsBetween range).filter (world host) with
    | nil =>
        rw [(choose_eq_none_iff _ _).mpr rfl]
        rfl
    | cons first others =>
        cases cached with
        | none => rfl
        | some a =>
            by_cases here : a.2 ∈ first :: others
            · simp [choose, here, resultOf, partyOf]
            · simp [choose, here, resultOf, partyOf]
  unfold discover Party.look
  have remembered : (partyOf host cached range ordered).remembered =
      cached.map (probedAddress host) := rfl
  rw [remembered]
  cases address : cached.map (probedAddress host) with
  | none => exact scanned
  | some a =>
      have taken := visits.1 a address
      cases answers : world a.1 a.2 with
      | true => simp [guarded, taken, answers, resultOf]
      | false => simp [guarded, taken, answers, scanned]

/-! ## Node's numbers -/

theorem ofPort_injective {p q : Int} (same : Node.ofPort p = Node.ofPort q) : p = q := by
  unfold Node.ofPort at same
  rw [Double.finite.injEq] at same
  exact Rat.intCast_injective same

def toNode (address : CodePoints × Int) : CodePoints × Double := (address.1, Node.ofPort address.2)

theorem toNode_injective : Function.Injective toNode := by
  rintro ⟨h, p⟩ ⟨h', p'⟩ same
  have ports := ofPort_injective (congrArg Prod.snd same)
  have hosts := congrArg Prod.fst same
  exact Prod.ext hosts ports

theorem guarded_ofPort (runtimes : Runtimes) (world : CodePoints -> Int -> Bool)
    (host : CodePoints) (port : Int) :
    guarded (Node.accepts runtimes) (Node.serves world) host (Node.ofPort port) =
      guarded runtimes.nodeAccepts world host port := by
  have taken : Node.accepts runtimes host (Node.ofPort port) = runtimes.nodeAccepts host port := by
    simp [Node.accepts, Node.ofPort]
  have answer : Node.serves world host (Node.ofPort port) = world host port := by
    simp [Node.serves, Node.ofPort]
  unfold guarded
  rw [taken, answer]

theorem scanPorts_map (runtimes : Runtimes) (world : CodePoints -> Int -> Bool)
    (host : CodePoints) (ports : List Int) :
    scanPorts (guarded (Node.accepts runtimes) (Node.serves world) host)
        (ports.map Node.ofPort) =
      (scanPorts (guarded runtimes.nodeAccepts world host) ports).map
        (List.map Node.ofPort) := by
  induction ports with
  | nil => rfl
  | cons p rest ih =>
      rw [List.map_cons]
      unfold scanPorts
      rw [guarded_ofPort, ih]
      cases guarded runtimes.nodeAccepts world host p with
      | error raised => rfl
      | ok serves =>
          cases scanPorts (guarded runtimes.nodeAccepts world host) rest with
          | error raised => rfl
          | ok found => cases serves <;> rfl

theorem ofPort_mem_iff (port : Int) (ports : List Int) :
    Node.ofPort port ∈ ports.map Node.ofPort ↔ port ∈ ports := by
  rw [List.mem_map]
  constructor
  · rintro ⟨q, here, same⟩
    rwa [← ofPort_injective same]
  · exact fun here => ⟨port, here, rfl⟩

theorem discoverByScan_map (runtimes : Runtimes) (world : CodePoints -> Int -> Bool)
    (host : CodePoints) (cached : Option (CodePoints × Int)) (ports : List Int) :
    discoverByScan (guarded (Node.accepts runtimes) (Node.serves world)) host
        (cached.map toNode) (ports.map Node.ofPort) =
      (discoverByScan (guarded runtimes.nodeAccepts world) host cached ports).map
        (Resolved.map Node.ofPort) := by
  unfold discoverByScan
  rw [scanPorts_map]
  cases scanPorts (guarded runtimes.nodeAccepts world host) ports with
  | error raised => rfl
  | ok found =>
      cases found with
      | nil => rfl
      | cons first others =>
          cases cached with
          | none => rfl
          | some a =>
              have member := ofPort_mem_iff a.2 (first :: others)
              rw [List.map_cons] at member
              by_cases here : a.2 ∈ first :: others
              · simp only [List.map_cons, Option.map_some, Except.map, Resolved.map, toNode, member,
                  here, if_true]
              · simp only [List.map_cons, Option.map_some, Except.map, Resolved.map, toNode, member,
                  here, if_false]

/-- With a whole cached port Node's discovery is one over whole ports. -/
theorem discover_map (runtimes : Runtimes) (world : CodePoints -> Int -> Bool)
    (host : CodePoints) (cached : Option (CodePoints × Int)) (ports : List Int) :
    discover (guarded (Node.accepts runtimes) (Node.serves world)) host
        (cached.map toNode) (ports.map Node.ofPort) =
      (discover (guarded runtimes.nodeAccepts world) host cached ports).map
        (Resolved.map Node.ofPort) := by
  unfold discover
  rw [discoverByScan_map]
  cases cached with
  | none => rfl
  | some a =>
      have probe := guarded_ofPort runtimes world (probedAddress host a).1 a.2
      have address : probedAddress host (toNode a) =
          ((probedAddress host a).1, Node.ofPort a.2) := rfl
      simp only [Option.map_some, address]
      rw [probe]
      have port : (probedAddress host a).2 = a.2 := rfl
      rw [port]
      cases guarded runtimes.nodeAccepts world (probedAddress host a).1 a.2 with
      | error raised => rfl
      | ok serves => cases serves <;> rfl

/-! ## The same answer of two findings -/

theorem sameAnswer_resultOf_iff (file : CacheFile) (a b : Finding CodePoints Int) :
    SameAnswer file (resultOf a) ((resultOf b).map (Resolved.map Node.ofPort)) ↔
      Finding.Agree file.entry a b := by
  have hosts : forall x y : CodePoints × Int,
      (x.1 = y.1 ∧ Node.ofPort x.2 = Node.ofPort y.2) ↔ x = y := by
    intro x y
    rw [Prod.ext_iff]
    exact and_congr_right (fun _ => ⟨fun same => ofPort_injective same, congrArg Node.ofPort⟩)
  have records : forall (held : Option (CodePoints × Int)) (x : CodePoints × Int),
      held.map toNode = some (toNode x) ↔ held = some x :=
    fun held x => Option.map_eq_some_iff.trans
      ⟨fun ⟨y, known, same⟩ => toNode_injective same ▸ known, fun known => ⟨x, known, rfl⟩⟩
  cases a with
  | kept x =>
      cases b with
      | kept y =>
          change x.1 = y.1 ∧ Node.ofPort x.2 = Node.ofPort y.2 ∧
              file.entry.map toNode = file.entry.map toNode ↔
            some x = some y ∧ file.entry = file.entry
          rw [← and_assoc, hosts, Option.some_inj, eq_self, eq_self]
      | recorded y =>
          change x.1 = y.1 ∧ Node.ofPort x.2 = Node.ofPort y.2 ∧
              file.entry.map toNode = some (toNode y) ↔
            some x = some y ∧ file.entry = some y
          rw [← and_assoc, hosts, Option.some_inj, records]
      | nothing => exact ⟨False.elim, fun agree => nomatch agree.1⟩
  | recorded x =>
      cases b with
      | kept y =>
          change x.1 = y.1 ∧ Node.ofPort x.2 = Node.ofPort y.2 ∧
              some (toNode x) = file.entry.map toNode ↔
            some x = some y ∧ some x = file.entry
          rw [← and_assoc, hosts, Option.some_inj, eq_comm (a := some (toNode x)), records,
            eq_comm (a := some x)]
      | recorded y =>
          change x.1 = y.1 ∧ Node.ofPort x.2 = Node.ofPort y.2 ∧
              some (toNode x) = some (toNode y) ↔
            some x = some y ∧ some x = some y
          rw [← and_assoc, hosts, Option.some_inj, Option.some_inj, toNode_injective.eq_iff]
      | nothing => exact ⟨False.elim, fun agree => nomatch agree.1⟩
  | nothing =>
      cases b with
      | kept y => exact ⟨False.elim, fun agree => nomatch agree.1⟩
      | recorded y => exact ⟨False.elim, fun agree => nomatch agree.1⟩
      | nothing => exact ⟨fun _ => ⟨rfl, rfl⟩, fun _ => trivial⟩

/-! ## The two sides -/

theorem Python.range_ordered (spec : Option CodePoints) :
    (Python.parsePortRange spec).1 ≤ (Python.parsePortRange spec).2 := by
  unfold Python.parsePortRange
  split
  · decide
  · decide
  · split
    · decide
    · split
      · split
        · rename_i inside
          exact inside.2.1
        · decide
      · decide

theorem Node.range_ordered (spec : Option CodePoints) :
    (Node.parsePortRange spec).1 ≤ (Node.parsePortRange spec).2 := by
  unfold Node.parsePortRange
  split
  · decide
  · decide
  · split
    · decide
    · split
      · split
        · rename_i inside
          exact Int.ofNat_le.mpr inside.2.1
        · decide
      · decide

/-- `discover_cdp` as a party. -/
def Python.party (env : Env) (cached : Option (CodePoints × Int)) : Party CodePoints Int :=
  partyOf (Python.host env) cached (Python.parsePortRange env.portRange)
    (Python.range_ordered env.portRange)

/-- `discoverCdp` as a party. -/
def Node.party (env : Env) (cached : Option (CodePoints × Int)) : Party CodePoints Int :=
  partyOf (Node.host env) cached (Node.parsePortRange env.portRange)
    (Node.range_ordered env.portRange)

theorem Python.entryOf_ne_discoveryError (runtimes : Runtimes) (data : Json) :
    Python.entryOf runtimes data ≠ .error .discoveryError := by
  have conversion : forall value : Json, Python.int value ≠ .error .discoveryError := by
    intro value
    unfold Python.int
    split
    · split <;> exact nofun
    · exact nofun
    · split
      · exact nofun
      · split <;> exact nofun
    · exact nofun
    · exact nofun
    · exact nofun
  unfold Python.entryOf
  split
  · split
    · exact nofun
    · split
      · exact nofun
      · rename_i hostValue _ portValue _
        cases converted : Python.int portValue with
        | ok port => exact nofun
        | error raised =>
            intro failed
            cases failed
            exact conversion portValue converted
  · exact nofun

theorem Python.readCache_ne_discoveryError (runtimes : Runtimes) (file : CacheFile) :
    Python.readCache runtimes file ≠ .error .discoveryError := by
  have entry : Python.readEntry runtimes file ≠ .error .discoveryError := by
    unfold Python.readEntry Python.loads
    split
    · exact nofun
    · exact nofun
    · split
      · rename_i raised loaded
        split at loaded
        · cases loaded
        · cases loaded
          exact nofun
        · cases loaded
          exact nofun
        · cases loaded
          exact nofun
      · rename_i data _
        cases read : Python.entryOf runtimes data with
        | ok found => exact nofun
        | error raised =>
            intro failed
            cases failed
            exact Python.entryOf_ne_discoveryError runtimes data read
  unfold Python.readCache
  split
  · exact nofun
  · exact nofun
  · exact nofun
  · exact entry

/-- A client that takes the cached port takes a whole number. -/
theorem Node.exists_whole_of_visits {runtimes : Runtimes} {host : CodePoints}
    {cached : Option (CodePoints × Double)} {ports : List Int}
    (visits : Visits (Node.accepts runtimes) host cached (ports.map Node.ofPort)) :
    exists whole : Option (CodePoints × Int), cached = whole.map toNode ∧
      Visits runtimes.nodeAccepts host whole ports := by
  have taken : forall (h : CodePoints) (p : Int),
      Node.accepts runtimes h (Node.ofPort p) = runtimes.nodeAccepts h p := by
    intro h p
    simp [Node.accepts, Node.ofPort]
  have listed : forall p, p ∈ ports -> runtimes.nodeAccepts host p = true := by
    intro p here
    rw [← taken]
    exact visits.2 _ (List.mem_map.mpr ⟨p, here, rfl⟩)
  cases cached with
  | none => exact ⟨none, rfl, fun a known => (nomatch known), listed⟩
  | some a =>
      rcases a with ⟨h, port⟩
      have accepted := visits.1 _ rfl
      cases port with
      | nan => cases accepted
      | infinite negative => cases accepted
      | finite value =>
          have whole : value.den = 1 := by
            have parts := Bool.and_eq_true_iff.mp accepted
            exact of_decide_eq_true parts.1
          have same : Node.ofPort value.num = .finite value :=
            congrArg Double.finite (Rat.coe_int_num_of_den_eq_one whole)
          refine ⟨some (h, value.num), ?_, ?_, listed⟩
          · rw [Option.map_some, toNode, same]
          · rintro b ⟨⟩
            change runtimes.nodeAccepts _ value.num = true
            rw [← taken, same]
            exact accepted

/-! ## Convergence -/

/-- Without an explicit port: neither raises anything but a `DiscoveryError`,
and the two parties are alike. -/
def Converging (runtimes : Runtimes) (env : Env) (file : CacheFile) : Prop :=
  exists python node : Option (CodePoints × Int),
    Python.readCache runtimes file = .ok python ∧
    Node.readCache runtimes file = node.map toNode ∧
    Visits runtimes.pyAccepts (Python.host env) python
      (portsBetween (Python.parsePortRange env.portRange)) ∧
    Visits runtimes.nodeAccepts (Node.host env) node
      (portsBetween (Node.parsePortRange env.portRange)) ∧
    Alike file.entry (Python.party env python) (Node.party env node)

/-- Both take `CDP_PORT`, and as the same number, with the same host; or
neither takes it. -/
def SameSetting (runtimes : Runtimes) (env : Env) (file : CacheFile) : Prop :=
  match Python.explicitPort env, Node.explicitPort env with
  | some port, some number => Python.host env = Node.host env ∧ Node.ofPort port = number
  | none, none => Converging runtimes env file
  | _, _ => False

section Calls

variable {runtimes : Runtimes} {env : Env} {file : CacheFile}

theorem Python.discoverCdp_of_explicit {port : Int} (explicit : Python.explicitPort env = some port)
    (world : CodePoints -> Int -> Bool) :
    Python.discoverCdp runtimes env file world = .ok ⟨Python.host env, port, none⟩ := by
  unfold Python.discoverCdp Python.discoverWith
  rw [explicit]

theorem Python.discoverCdp_of_cached (unset : Python.explicitPort env = none)
    {cached : Option (CodePoints × Int)} (read : Python.readCache runtimes file = .ok cached)
    (world : CodePoints -> Int -> Bool) :
    Python.discoverCdp runtimes env file world =
      discover (guarded runtimes.pyAccepts world) (Python.host env) cached
        (portsBetween (Python.parsePortRange env.portRange)) := by
  unfold Python.discoverCdp Python.discoverWith
  rw [unset]
  simp [read]

theorem Python.discoverCdp_of_raised (unset : Python.explicitPort env = none) {raised : Raised}
    (read : Python.readCache runtimes file = .error raised) (world : CodePoints -> Int -> Bool) :
    Python.discoverCdp runtimes env file world = .error raised := by
  unfold Python.discoverCdp Python.discoverWith
  rw [unset]
  simp [read]

theorem Node.discoverCdp_of_explicit {port : Double} (explicit : Node.explicitPort env = some port)
    (world : CodePoints -> Int -> Bool) :
    Node.discoverCdp runtimes env file world = .ok ⟨Node.host env, port, none⟩ := by
  unfold Node.discoverCdp
  rw [explicit]

theorem Node.discoverCdp_of_cached (unset : Node.explicitPort env = none)
    (world : CodePoints -> Int -> Bool) :
    Node.discoverCdp runtimes env file world =
      discover (guarded (Node.accepts runtimes) (Node.serves world)) (Node.host env)
        (Node.readCache runtimes file)
        ((portsBetween (Node.parsePortRange env.portRange)).map Node.ofPort) := by
  unfold Node.discoverCdp
  rw [unset]

/-- A world without an endpoint. -/
def silence : CodePoints -> Int -> Bool := fun _ _ => false

theorem serves_silence : Node.serves silence = fun _ _ => false := by
  funext host port
  cases port with
  | nan => rfl
  | infinite negative => rfl
  | finite value => rfl

/-- Without an explicit port Python finds nothing in silence, and says so with
a `DiscoveryError` exactly if nothing else is raised. -/
theorem Python.silent_iff (unset : Python.explicitPort env = none) :
    Python.discoverCdp runtimes env file silence = .error .discoveryError ↔
      exists cached, Python.readCache runtimes file = .ok cached ∧
        Visits runtimes.pyAccepts (Python.host env) cached
          (portsBetween (Python.parsePortRange env.portRange)) := by
  cases read : Python.readCache runtimes file with
  | error raised =>
      rw [Python.discoverCdp_of_raised unset read]
      constructor
      · intro failed
        cases failed
        exact absurd read (Python.readCache_ne_discoveryError runtimes file)
      · rintro ⟨cached, known, -⟩
        cases known
  | ok cached =>
      rw [Python.discoverCdp_of_cached unset read]
      constructor
      · intro failed
        exact ⟨cached, rfl, discover_silent_eq_discoveryError_iff.mp failed⟩
      · rintro ⟨other, known, visits⟩
        cases known
        exact discover_silent_eq_discoveryError_iff.mpr visits

theorem Python.silent_ne_ok (unset : Python.explicitPort env = none) (resolved : Resolved Int) :
    Python.discoverCdp runtimes env file silence ≠ .ok resolved := by
  cases read : Python.readCache runtimes file with
  | error raised =>
      rw [Python.discoverCdp_of_raised unset read]
      exact nofun
  | ok cached =>
      rw [Python.discoverCdp_of_cached unset read]
      exact discover_silent_ne_ok resolved

theorem Node.silent_ne_ok (unset : Node.explicitPort env = none) (resolved : Resolved Double) :
    Node.discoverCdp runtimes env file silence ≠ .ok resolved := by
  rw [Node.discoverCdp_of_cached unset, serves_silence]
  exact discover_silent_ne_ok resolved

/-- Two discoveries that visit what their clients take are two searches. -/
theorem sameAnswer_iff_agree (unset : Python.explicitPort env = none)
    (unset' : Node.explicitPort env = none) {python node : Option (CodePoints × Int)}
    (read : Python.readCache runtimes file = .ok python)
    (read' : Node.readCache runtimes file = node.map toNode)
    (visits : Visits runtimes.pyAccepts (Python.host env) python
      (portsBetween (Python.parsePortRange env.portRange)))
    (visits' : Visits runtimes.nodeAccepts (Node.host env) node
      (portsBetween (Node.parsePortRange env.portRange)))
    (world : CodePoints -> Int -> Bool) :
    SameAnswer file (Python.discoverCdp runtimes env file world)
        (Node.discoverCdp runtimes env file world) ↔
      Finding.Agree file.entry ((Python.party env python).look world)
        ((Node.party env node).look world) := by
  rw [Python.discoverCdp_of_cached unset read, Node.discoverCdp_of_cached unset', read',
    discover_map, discover_eq_look (Python.range_ordered env.portRange) visits,
    discover_eq_look (Node.range_ordered env.portRange) visits', sameAnswer_resultOf_iff]
  rfl

/-- Neither returns a port in silence, so if they do the same they both raise
a `DiscoveryError`. -/
theorem silent_failures (unset : Python.explicitPort env = none)
    (unset' : Node.explicitPort env = none)
    (same : SameAnswer file (Python.discoverCdp runtimes env file silence)
      (Node.discoverCdp runtimes env file silence)) :
    Python.discoverCdp runtimes env file silence = .error .discoveryError ∧
      Node.discoverCdp runtimes env file silence = .error .discoveryError := by
  cases result : Python.discoverCdp runtimes env file silence with
  | ok resolved => exact absurd result (Python.silent_ne_ok unset resolved)
  | error raised =>
      cases result' : Node.discoverCdp runtimes env file silence with
      | ok resolved => exact absurd result' (Node.silent_ne_ok unset' resolved)
      | error raised' =>
          rw [result, result'] at same
          cases raised <;> cases raised' <;> first | exact ⟨rfl, rfl⟩ | cases same

/-- Two discoveries without an explicit port. -/
theorem converging_iff (unset : Python.explicitPort env = none)
    (unset' : Node.explicitPort env = none) :
    (forall world, SameAnswer file (Python.discoverCdp runtimes env file world)
        (Node.discoverCdp runtimes env file world)) ↔ Converging runtimes env file := by
  constructor
  · intro same
    rcases silent_failures unset unset' (same silence) with ⟨failed, failed'⟩
    rcases (Python.silent_iff unset).mp failed with ⟨python, read, visits⟩
    rw [Node.discoverCdp_of_cached unset', serves_silence] at failed'
    rcases Node.exists_whole_of_visits
      (discover_silent_eq_discoveryError_iff.mp failed') with ⟨node, read', visits'⟩
    refine ⟨python, node, read, read', visits, visits', always_agree_iff.mp ?_⟩
    intro world
    exact (sameAnswer_iff_agree unset unset' read read' visits visits' world).mp (same world)
  · rintro ⟨python, node, read, read', visits, visits', alike⟩ world
    exact (sameAnswer_iff_agree unset unset' read read' visits visits' world).mpr
      (always_agree_iff.mpr alike world)

/-- In every world Python and Node give the same answer, exactly if they take
the settings alike. -/
theorem discovery_converges_iff (runtimes : Runtimes) (env : Env) (file : CacheFile) :
    (forall world, SameAnswer file (Python.discoverCdp runtimes env file world)
        (Node.discoverCdp runtimes env file world)) ↔ SameSetting runtimes env file := by
  unfold SameSetting
  cases explicit : Python.explicitPort env with
  | some port =>
      cases explicit' : Node.explicitPort env with
      | some number =>
          have answers : forall world, SameAnswer file
              (Python.discoverCdp runtimes env file world)
              (Node.discoverCdp runtimes env file world) ↔
                Python.host env = Node.host env ∧ Node.ofPort port = number := by
            intro world
            rw [Python.discoverCdp_of_explicit explicit, Node.discoverCdp_of_explicit explicit']
            exact ⟨fun same => ⟨same.1, same.2.1⟩, fun same => ⟨same.1, same.2, rfl⟩⟩
          exact ⟨fun same => (answers silence).mp (same silence),
            fun same world => (answers world).mpr same⟩
      | none =>
          refine ⟨fun same => ?_, False.elim⟩
          have answer := same silence
          rw [Python.discoverCdp_of_explicit explicit] at answer
          cases result : Node.discoverCdp runtimes env file silence with
          | ok resolved => exact Node.silent_ne_ok explicit' resolved result
          | error raised =>
              rw [result] at answer
              exact answer
  | none =>
      cases explicit' : Node.explicitPort env with
      | some number =>
          refine ⟨fun same => ?_, False.elim⟩
          have answer := same silence
          rw [Node.discoverCdp_of_explicit explicit'] at answer
          cases result : Python.discoverCdp runtimes env file silence with
          | ok resolved => exact Python.silent_ne_ok explicit resolved result
          | error raised =>
              rw [result] at answer
              cases raised <;> exact answer
      | none => exact converging_iff explicit explicit'

end Calls

/-- With `CDP_HOST` set to nothing Python keeps the empty host and Node takes
the default. -/
theorem empty_host_differs :
    let runtimes : Runtimes :=
      ⟨fun _ _ => true, fun _ _ => true, fun _ => [], fun _ => none, 1000⟩
    let env : Env := ⟨some (codePoints "9222"), some [], none⟩
    let python := Python.discoverCdp runtimes env .missing silence
    let node := Node.discoverCdp runtimes env .missing silence
    python = .ok ⟨[], 9222, none⟩ ∧ node = .ok ⟨codePoints "localhost", .finite 9222, none⟩ ∧
      ¬ SameAnswer .missing python node := by
  intro runtimes env python node
  have first : python = .ok ⟨[], 9222, none⟩ := by decide +kernel
  have second : node = .ok ⟨codePoints "localhost", .finite 9222, none⟩ := by decide +kernel
  refine ⟨first, second, ?_⟩
  rw [first, second]
  intro same
  have hosts : ([] : CodePoints) = codePoints "localhost" := same.1
  revert hosts
  decide

/-! ## Plain settings -/

/-- A decimal that both read. -/
structure IsPlain (run : List Char) : Prop where
  isRun : IsRun run
  short : run.length ≤ maxIntDigits
  small : decimal run < 2 ^ 53

/-- Numbers are plain decimals, and the host is not set to nothing. -/
structure PlainEnv (env : Env) : Prop where
  port : env.cdpPort = none ∨ exists run, IsPlain run ∧ 0 < decimal run ∧
    env.cdpPort = some (run.map Char.toNat)
  host : env.cdpHost ≠ some []
  range : env.portRange = none ∨ exists lo hi, IsPlain lo ∧ IsPlain hi ∧
    env.portRange = some (lo.map Char.toNat ++ '-'.toNat :: hi.map Char.toNat)

theorem PlainEnv.host_eq {env : Env} (plain : PlainEnv env) : Python.host env = Node.host env := by
  unfold Python.host Node.host
  cases set : env.cdpHost with
  | none => rfl
  | some text =>
      cases text with
      | nil => exact absurd set plain.host
      | cons c rest => rfl

theorem map_toNat_ne_nil {run : List Char} (isRun : IsRun run) : run.map Char.toNat ≠ [] := by
  rw [Ne, List.map_eq_nil_iff]
  exact isRun.1

/-- Both take the port of a plain environment, or neither does. -/
theorem PlainEnv.explicitPort_eq {env : Env} (plain : PlainEnv env) :
    Node.explicitPort env = (Python.explicitPort env).map Node.ofPort := by
  rcases plain.port with unset | ⟨run, decimalRun, positive, set⟩
  · unfold Node.explicitPort Python.explicitPort
    rw [unset]
    rfl
  · have read := pyInt_of_run decimalRun.isRun decimalRun.short
    have read' := jsNumber_of_run decimalRun.isRun decimalRun.small
    have nonempty := map_toNat_ne_nil decimalRun.isRun
    have more : (0 : Rat) < (decimal run : Rat) := by exact_mod_cast positive
    unfold Node.explicitPort Python.explicitPort
    rw [set]
    cases text : run.map Char.toNat with
    | nil => exact absurd text nonempty
    | cons c rest =>
        rw [text] at read read'
        simp only [read, read', if_pos more]
        rfl

theorem PlainEnv.range_eq {env : Env} (plain : PlainEnv env) :
    Python.parsePortRange env.portRange = Node.parsePortRange env.portRange := by
  rcases plain.range with unset | ⟨lo, hi, plainLo, plainHi, set⟩
  · rw [unset]
    rfl
  · have split := splitRange_of_runs plainLo.isRun.2 hi
    rw [set]
    cases text : lo.map Char.toNat ++ '-'.toNat :: hi.map Char.toNat with
    | nil => simp at text
    | cons c rest =>
        rw [text] at split
        simp only [Python.parsePortRange, Node.parsePortRange, split,
          pyInt_of_run plainLo.isRun plainLo.short, pyInt_of_run plainHi.isRun plainHi.short,
          digitRun_of_run plainLo.isRun, digitRun_of_run plainHi.isRun]
        by_cases inside : 1 ≤ decimal lo ∧ decimal lo ≤ decimal hi ∧ decimal hi ≤ 65535
        · rw [if_pos inside, if_pos (by omega)]
        · rw [if_neg inside, if_neg (by omega)]

end Discovery
end HybridDataSvc
