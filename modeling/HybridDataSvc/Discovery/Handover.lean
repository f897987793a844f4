import HybridDataSvc.Discovery.SharedCache

namespace HybridDataSvc
namespace Discovery

open JsonText NumberText

/-!
# The endpoint of the writer and its commands

The writer resolves the endpoint once, when it starts, and hands it to every
`tv` command in the environment, so that these use it directly instead of a
discovery of their own.
-/

/-- `cdp_host` and `cdp_port` of `DataSvcConfig.from_env`. -/
def fromEnv (env : Env) : Except Raised (Option CodePoints × Option Int) :=
  let host :=
    match env.cdpHost with
    | some [] => none
    | host => host
  match env.cdpPort with
  | none => .ok (host, none)
  | some [] => .ok (host, none)
  | some text =>
    match pyInt text with
    | some port => .ok (host, some port)
    | none => .error .valueError

/-- `DataSvcConfig.resolve_cdp`, with what probes answer. -/
def resolveCdp (isTvEndpoint : CodePoints -> Int -> Except Raised Bool) (runtimes : Runtimes)
    (env : Env) (file : CacheFile) : Except Raised (CodePoints × Int) :=
  match fromEnv env with
  | .error raised => .error raised
  | .ok (some host, some port) => .ok (host, port)
  | .ok _ => (Python.discoverWith isTvEndpoint runtimes env file false).map Resolved.address

/-- `_tv_env`; nothing for the environment as it is. -/
def tvEnv (env : Env) (host : Option CodePoints) (port : Option Int) : Option Env :=
  match host, port with
  | none, none => none
  | _, _ =>
    some { env with
      cdpHost := host.or env.cdpHost
      cdpPort := (port.map (fun port => (intText port).map Char.toNat)).or env.cdpPort }

/-- The environment of a `tv` command of a writer that has resolved this address. -/
def commandEnv (env : Env) (address : CodePoints × Int) : Env :=
  (tvEnv env (some address.1) (some address.2)).getD env

/-- A port that the operator pins is a positive number, one that JavaScript counts exactly,
and does not stand beside an empty host. -/
def PinsWell (env : Env) : Prop :=
  forall port, Python.explicitPort env = some port ->
    0 < port ∧ port < 2 ^ 53 ∧ env.cdpHost ≠ some []

/-- A command takes the address that it is handed, if it is one. -/
theorem discoverWith_commandEnv (env : Env) {address : CodePoints × Int} (named : address.1 ≠ [])
    (positive : 0 < address.2) (small : address.2 < 2 ^ 53)
    (isTvEndpoint : CodePoints -> Double -> Except Raised Bool) (runtimes : Runtimes)
    (file : CacheFile) (force : Bool) :
    Node.discoverWith isTvEndpoint runtimes (commandEnv env address) file force =
      .ok ⟨address.1, Node.ofPort address.2, none⟩ := by
  rcases address with ⟨host, port⟩
  have digits : intText port = Nat.toDigits 10 port.toNat := by
    cases port with
    | ofNat n => rfl
    | negSucc n => exact absurd positive (by simp)
  have isRun : IsRun (Nat.toDigits 10 port.toNat) :=
    ⟨Nat.toDigits_ne_nil, fun c here => Nat.isDigit_of_mem_toDigits (by decide) (by decide) here⟩
  have value : decimal (Nat.toDigits 10 port.toNat) = port.toNat := Nat.ofDigitChars_ten_toDigits
  have bound : decimal (Nat.toDigits 10 port.toNat) < 2 ^ 53 := by
    rw [value]
    omega
  have number := jsNumber_of_run isRun bound
  have natural : ((decimal (Nat.toDigits 10 port.toNat) : Nat) : Rat) = (port : Rat) := by
    have whole : ((port.toNat : Nat) : Int) = port := Int.toNat_of_nonneg (by omega)
    rw [value]
    exact_mod_cast congrArg (Int.cast : Int -> Rat) whole
  rw [natural] at number
  have more : (0 : Rat) < (port : Rat) := by exact_mod_cast positive
  have explicit : Node.explicitPort (commandEnv env (host, port)) = some (Node.ofPort port) := by
    unfold Node.explicitPort commandEnv tvEnv
    simp only [Option.getD_some, Option.map_some, Option.some_or, digits]
    cases text : (Nat.toDigits 10 port.toNat).map Char.toNat with
    | nil => exact absurd text (map_toNat_ne_nil isRun)
    | cons c rest =>
        rw [text] at number
        simp only [number, if_pos more]
        rfl
  have home : Node.host (commandEnv env (host, port)) = host := by
    unfold Node.host commandEnv tvEnv
    cases host with
    | nil => exact absurd rfl named
    | cons c rest => rfl
  rw [Node.discoverWith, explicit, home]

/-- What the configuration pins is what the discovery would go by. -/
theorem explicitPort_of_fromEnv {env : Env} {host : CodePoints} {port : Int}
    (pinned : fromEnv env = .ok (some host, some port)) :
    Python.explicitPort env = some port ∧ Python.host env = host := by
  rcases env with ⟨cdpPort, cdpHost, portRange⟩
  rcases cdpPort with _ | (_ | ⟨c, rest⟩)
  · simp only [fromEnv, Except.ok.injEq, Prod.mk.injEq, reduceCtorEq, and_false] at pinned
  · simp only [fromEnv, Except.ok.injEq, Prod.mk.injEq, reduceCtorEq, and_false] at pinned
  · cases number : pyInt (c :: rest) with
    | none => simp only [fromEnv, number, reduceCtorEq] at pinned
    | some n =>
        simp only [fromEnv, number, Except.ok.injEq, Prod.mk.injEq, Option.some.injEq] at pinned
        rcases pinned with ⟨named, rfl⟩
        refine ⟨number, ?_⟩
        rcases cdpHost with _ | (_ | ⟨first, others⟩)
        · cases named
        · cases named
        · cases named
          rfl

/-- The writer goes by the port that is pinned, if there is one, and otherwise by an address
that serves TradingView. -/
theorem resolveCdp_cases {isTvEndpoint : CodePoints -> Int -> Except Raised Bool}
    {runtimes : Runtimes} {env : Env} {file : CacheFile} {address : CodePoints × Int}
    (resolved : resolveCdp isTvEndpoint runtimes env file = .ok address) :
    (exists port, Python.explicitPort env = some port ∧ address = (Python.host env, port)) ∨
      isTvEndpoint address.1 address.2 = .ok true := by
  unfold resolveCdp at resolved
  split at resolved
  · cases resolved
  · rename_i host port pinned
    cases resolved
    rcases explicitPort_of_fromEnv pinned with ⟨explicit, rfl⟩
    exact Or.inl ⟨port, explicit, rfl⟩
  · cases found : Python.discoverWith isTvEndpoint runtimes env file false with
    | error raised =>
        rw [found] at resolved
        cases resolved
    | ok chosen =>
        rw [found] at resolved
        cases resolved
        unfold Python.discoverWith at found
        split at found
        · rename_i port explicit
          cases found
          exact Or.inl ⟨port, explicit, rfl⟩
        · split at found
          · cases found
          · exact Or.inr (serves_of_discover found)

/-- An address that serves TradingView is one where a port answers. -/
theorem answers_of_probe {runtimes : Runtimes} {ports : Ports} {address : CodePoints × Int}
    (serves : Python.probe runtimes ports address.1 address.2 = .ok true) :
    exists answer, reach (ports address.1) address.2 = some answer := by
  unfold Python.probe at serves
  split at serves
  · rcases Python.isTvEndpoint_eq_ok_true_iff.mp serves with ⟨answer, reached, -⟩
    exact ⟨answer, reached⟩
  · cases serves

/-- What the writer has resolved, pinned by the operator or found, every later `tv` command
uses: wherever TradingView is by then, whatever has become of the cache file, and also when it
discovers anew. -/
theorem writer_and_tv_share_endpoint {runtimes : Runtimes} {ports : Ports} {env : Env}
    {file : CacheFile} (pins : PinsWell env) (nowhere : forall port, ports [] port = none)
    {address : CodePoints × Int}
    (resolved : resolveCdp (Python.probe runtimes ports) runtimes env file = .ok address)
    (later : Ports) (left : CacheFile) (force : Bool) :
    Node.discoverWith (Node.probe runtimes later) runtimes (commandEnv env address) left force =
      .ok ⟨address.1, Node.ofPort address.2, none⟩ := by
  rcases resolveCdp_cases resolved with ⟨port, explicit, rfl⟩ | serves
  · rcases pins port explicit with ⟨positive, exact_, unempty⟩
    have named : Python.host env ≠ [] := by
      unfold Python.host
      cases set : env.cdpHost with
      | none => decide
      | some host =>
          rintro rfl
          exact unempty set
    exact discoverWith_commandEnv env named positive exact_ _ _ _ _
  · rcases answers_of_probe serves with ⟨answer, reached⟩
    have inRange : 1 ≤ address.2 ∧ address.2 ≤ 65535 := by
      unfold reach at reached
      split at reached
      · assumption
      · cases reached
    have named : address.1 ≠ [] := by
      intro empty
      unfold reach at reached
      rw [if_pos inRange, empty, nowhere] at reached
      cases reached
    exact discoverWith_commandEnv env named (by omega) (by omega) _ _ _ _

/-- TradingView has gone from the port where it was found, and once the operator has pinned
another port than the cache file names. -/
theorem writer_and_tv_share_endpoint_charts :
    Node.discoverWith (Node.probe emptyPrinting (fun _ _ => none)) emptyPrinting
        (commandEnv bareEnv (defaultHost, 9222)) .missing true =
          .ok ⟨defaultHost, Node.ofPort 9222, none⟩ ∧
      Node.discoverWith (Node.probe emptyPrinting charts) emptyPrinting
        (commandEnv ⟨some (codePoints "9300"), none, none⟩ (defaultHost, 9300))
        (Node.writeCache defaultHost (.ofNat 9222 (by decide)) []) false =
          .ok ⟨defaultHost, Node.ofPort 9300, none⟩ := by
  let named : Ports := fun host => if host = [] then fun _ => none else chartAt9222
  let pinned : Env := ⟨some (codePoints "9300"), none, none⟩
  have found : resolveCdp (Python.probe emptyPrinting named) emptyPrinting bareEnv .missing =
      .ok (defaultHost, 9222) := by decide +kernel
  have handed : resolveCdp (Python.probe emptyPrinting (fun _ _ => none)) emptyPrinting pinned
      .missing = .ok (defaultHost, 9300) := by decide +kernel
  have bare : PinsWell bareEnv := by
    intro port impossible
    cases impossible
  have pins : PinsWell pinned := by
    intro port explicit
    have known : Python.explicitPort pinned = some 9300 := by decide +kernel
    cases known.symm.trans explicit
    exact ⟨by decide, by decide, nofun⟩
  exact ⟨writer_and_tv_share_endpoint bare (fun _ => rfl) found (fun _ _ => none) .missing true,
    writer_and_tv_share_endpoint pins (fun _ => rfl) handed charts _ false⟩

end Discovery
end HybridDataSvc
