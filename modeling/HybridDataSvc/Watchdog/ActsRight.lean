import HybridDataSvc.Watchdog.Script

namespace HybridDataSvc
namespace Watchdog
namespace Script

open Interaction

/-!
# The watchdog acts only when it must

What can happen in a run of `main`, whatever the surroundings answer.  Each part of the
script is described by the events that it adds; from the descriptions follows what came
before a command that acts, and what an exit code says.
-/

namespace Command

/-- A quit, a signal or an open. -/
def isAct : Command -> Bool
  | .osascriptQuit => true
  | .kill _ _ => true
  | .openApp _ _ => true
  | _ => false

def isOpen : Command -> Bool
  | .openApp _ _ => true
  | _ => false

end Command

/-- The listing of the processes has a main process of TradingView, or none. -/
abbrev saw (pid : Option Pid) : Happened := ⟨.tvMainPid, pid⟩

/-! ## The scans -/

/-- A scan over all the ports: those that are up have a tab, or have none. -/
inductive Undecided (tab : Bool) : List Int -> List Happened -> Prop
  | nil : Undecided tab [] []
  | down {port : Int} {ports : List Int} {events : List Happened}
      (rest : Undecided tab ports events) :
      Undecided tab (port :: ports) (⟨.cdpVersionReachableOn port, false⟩ :: events)
  | up {port : Int} {ports : List Int} {events : List Happened}
      (rest : Undecided tab ports events) :
      Undecided tab (port :: ports)
        (⟨.cdpVersionReachableOn port, true⟩ :: ⟨.cdpHasTvTabOn port, tab⟩ :: events)

/-- A scan that ends at a port that is up, with a tab or without one as wanted. -/
def Found (wanted : Bool) (ports : List Int) (events : List Happened) : Prop :=
  exists before port after seen, ports = before ++ port :: after ∧
    Undecided (!wanted) before seen ∧
    events = seen ++ [⟨.cdpVersionReachableOn port, true⟩, ⟨.cdpHasTvTabOn port, wanted⟩]

theorem Found.skip {wanted : Bool} {ports : List Int} {events : List Happened} {port : Int}
    {look : List Happened} (found : Found wanted ports events)
    (passed : forall {seen before}, Undecided (!wanted) before seen ->
      Undecided (!wanted) (port :: before) (look ++ seen)) :
    Found wanted (port :: ports) (look ++ events) := by
  rcases found with ⟨before, last, after, seen, rfl, undecided, rfl⟩
  exact ⟨port :: before, last, after, look ++ seen, rfl, passed undecided,
    (List.append_assoc _ _ _).symm⟩

/-- By induction on the ports. -/
theorem path_scan {wanted : Bool} {ports : List Int} {events : List Happened}
    {result : Option Int} (path : Path (scan wanted ports) events result) :
    (result.isSome = false ∧ Undecided (!wanted) ports events) ∨
      (result.isSome = true ∧ Found wanted ports events) := by
  induction ports generalizing events with
  | nil =>
      rcases (path_pure_iff none).mp path with ⟨rfl, rfl⟩
      exact Or.inl ⟨rfl, Undecided.nil⟩
  | cons port rest ih =>
      rw [scan, path_bind_iff] at path
      rcases path with ⟨first, up, later, rfl, asked, path⟩
      rw [path_request_iff] at asked
      subst asked
      cases up with
      | false =>
          rcases ih path with ⟨none, undecided⟩ | ⟨some, found⟩
          · exact Or.inl ⟨none, Undecided.down undecided⟩
          · exact Or.inr ⟨some, found.skip Undecided.down⟩
      | true =>
          simp only [if_true, path_bind_iff] at path
          rcases path with ⟨second, tab, others, rfl, asked, path⟩
          rw [path_request_iff] at asked
          subst asked
          by_cases same : tab = wanted
          · subst same
            simp only [if_true, path_pure_iff] at path
            rcases path with ⟨rfl, rfl⟩
            exact Or.inr ⟨rfl, [], port, rest, [], rfl, Undecided.nil, rfl⟩
          · have other : tab = !wanted := Bool.eq_not_iff.mpr same
            subst other
            simp only [if_neg same] at path
            rw [← List.append_assoc]
            rcases ih path with ⟨none, undecided⟩ | ⟨some, found⟩
            · exact Or.inl ⟨none, Undecided.up undecided⟩
            · exact Or.inr ⟨some, found.skip Undecided.up⟩

/-! ## The polls -/

/-- A round of `wait_for_exit` a second, each of which sees a process, and one look
more that sees one too. -/
inductive AllSaw : Nat -> List Happened -> Prop
  | last (pid : Pid) : AllSaw 0 [saw (some pid)]
  | round {rounds : Nat} {events : List Happened} (pid : Pid) (rest : AllSaw rounds events) :
      AllSaw (rounds + 1) (saw (some pid) :: ⟨.sleep 1, ()⟩ :: events)

/-- Nothing is done to TradingView. -/
def Quiet (events : List Happened) : Prop := forall event, event ∈ events -> event.1.isAct = false

theorem quiet_nil : Quiet [] := List.forall_mem_nil _

theorem Quiet.cons {event : Happened} {events : List Happened} (quiet : Quiet events)
    (idle : event.1.isAct = false) : Quiet (event :: events) :=
  List.forall_mem_cons.mpr ⟨idle, quiet⟩

theorem Quiet.append {first second : List Happened} (one : Quiet first) (other : Quiet second) :
    Quiet (first ++ second) := List.forall_mem_append.mpr ⟨one, other⟩

theorem Undecided.quiet {tab : Bool} {ports : List Int} {events : List Happened}
    (undecided : Undecided tab ports events) : Quiet events := by
  induction undecided with
  | nil => exact quiet_nil
  | down _ ih => exact ih.cons rfl
  | up _ ih => exact (ih.cons rfl).cons rfl

theorem Found.quiet {wanted : Bool} {ports : List Int} {events : List Happened}
    (found : Found wanted ports events) : Quiet events := by
  rcases found with ⟨before, port, after, seen, -, undecided, rfl⟩
  exact undecided.quiet.append ((quiet_nil.cons rfl).cons rfl)

/-- The events end with a look at the processes. -/
def EndsWith (pid : Option Pid) (events : List Happened) : Prop :=
  exists earlier, events = earlier ++ [saw pid]

theorem EndsWith.after {pid : Option Pid} {events : List Happened} (ends : EndsWith pid events)
    (before : List Happened) : EndsWith pid (before ++ events) := by
  rcases ends with ⟨earlier, rfl⟩
  exact ⟨before ++ earlier, (List.append_assoc _ _ _).symm⟩

theorem AllSaw.spec {rounds : Nat} {events : List Happened} (all : AllSaw rounds events) :
    Quiet events ∧ exists pid, EndsWith (some pid) events := by
  induction all with
  | last pid => exact ⟨quiet_nil.cons rfl, pid, [], rfl⟩
  | round pid _ ih =>
      rcases ih with ⟨quiet, last, ends⟩
      exact ⟨(quiet.cons rfl).cons rfl, last, ends.after [saw (some pid), ⟨.sleep 1, ()⟩]⟩

theorem path_tvRunning_iff {events : List Happened} {running : Bool} :
    Path tvRunning events running ↔
      exists pid : Option Pid, events = [saw pid] ∧ running = pid.isSome := by
  unfold tvRunning
  simp

/-- TradingView is gone at the last look, or every look sees it.  By induction on the
rounds. -/
theorem path_pollExit {rounds : Nat} {events : List Happened} {gone : Bool}
    (path : Path (pollExit rounds) events gone) :
    (gone = true ∧ Quiet events ∧ EndsWith none events) ∨
      (gone = false ∧ AllSaw rounds events) := by
  induction rounds generalizing events with
  | zero =>
      simp only [pollExit, path_bind_iff, path_tvRunning_iff, path_pure_iff] at path
      rcases path with ⟨_, _, _, rfl, ⟨pid, rfl, rfl⟩, rfl, rfl⟩
      cases pid with
      | none => exact Or.inl ⟨rfl, quiet_nil.cons rfl, [], rfl⟩
      | some pid => exact Or.inr ⟨rfl, AllSaw.last pid⟩
  | succ rounds ih =>
      rw [pollExit, path_bind_iff] at path
      rcases path with ⟨_, _, later, rfl, looked, path⟩
      rcases path_tvRunning_iff.mp looked with ⟨pid, rfl, rfl⟩
      cases pid with
      | none =>
          rcases (path_pure_iff true).mp path with ⟨rfl, rfl⟩
          exact Or.inl ⟨rfl, quiet_nil.cons rfl, [], rfl⟩
      | some pid =>
          simp only [Option.isSome_some, if_true, path_bind_iff, path_request_iff] at path
          rcases path with ⟨_, _, others, rfl, rfl, path⟩
          rcases ih path with ⟨gone, quiet, ends⟩ | ⟨stays, all⟩
          · exact Or.inl ⟨gone, (quiet.cons rfl).cons rfl,
              ends.after [saw (some pid), ⟨.sleep 1, ()⟩]⟩
          · exact Or.inr ⟨stays, AllSaw.round pid all⟩

/-! ## The end of TradingView -/

/-- A SIGTERM to the process, and then all polls of the timeout, which see one. -/
def Terminated (vars : Tunables) (pid : Pid) (before : List Happened) : Prop :=
  exists earlier code polls, before = earlier ++ ⟨.kill .term pid, code⟩ :: polls ∧
    AllSaw vars.killTimeoutS.toNat polls

/-- What a SIGKILL needs. -/
def KillsLate (vars : Tunables) (before : List Happened) (event : Happened) : Prop :=
  forall pid, event.1 = .kill .kill pid -> Terminated vars pid before

theorem KillsLate.longer {vars : Tunables} (earlier before : List Happened) (event : Happened)
    (late : KillsLate vars before event) : KillsLate vars (earlier ++ before) event := by
  intro pid same
  rcases late pid same with ⟨first, code, polls, rfl, all⟩
  exact ⟨earlier ++ first, code, polls, (List.append_assoc _ _ _).symm, all⟩

theorem Quiet.killsLate {events : List Happened} (vars : Tunables) (quiet : Quiet events) :
    Preceded (KillsLate vars) events := by
  apply preceded_of_forall
  intro event member before pid same
  have idle := quiet event member
  rw [same] at idle
  cases idle

/-- What the part of the script that ends TradingView adds to a run. -/
structure Stops (vars : Tunables) (events : List Happened) (goesOn : Bool) : Prop where
  noOpen : forall event, event ∈ events -> event.1.isOpen = false
  kills : Preceded (KillsLate vars) events
  gone : goesOn = true -> EndsWith none events
  stuck : goesOn = false -> exists pid, EndsWith (some pid) events

theorem Quiet.noOpen {events : List Happened} (quiet : Quiet events) :
    forall event, event ∈ events -> event.1.isOpen = false := by
  intro event member
  have idle := quiet event member
  cases same : event.1 <;> rw [same] at idle <;> first | rfl | cases idle

theorem Stops.after {vars : Tunables} {before events : List Happened} {goesOn : Bool}
    (stops : Stops vars events goesOn)
    (noOpen : forall event, event ∈ before -> event.1.isOpen = false)
    (kills : Preceded (KillsLate vars) before) : Stops vars (before ++ events) goesOn where
  noOpen := List.forall_mem_append.mpr ⟨noOpen, stops.noOpen⟩
  kills := kills.append KillsLate.longer stops.kills
  gone := fun goes => (stops.gone goes).after before
  stuck := by
    intro stays
    rcases stops.stuck stays with ⟨pid, ends⟩
    exact ⟨pid, ends.after before⟩

/-- A command that neither opens nor kills the process that was seen goes before. -/
theorem Stops.after_act {vars : Tunables} {events : List Happened} {goesOn : Bool}
    (stops : Stops vars events goesOn) (pid : Pid) {event : Happened}
    (noOpen : event.1.isOpen = false) (noKill : forall other, event.1 ≠ .kill .kill other) :
    Stops vars ([saw (some pid), event] ++ events) goesOn := by
  apply stops.after
  · exact List.forall_mem_cons.mpr ⟨rfl, List.forall_mem_singleton.mpr noOpen⟩
  · rw [preceded_cons_iff, preceded_cons_iff]
    exact ⟨fun _ same => (by cases same), fun other same => absurd same (noKill other),
      preceded_nil _⟩

/-- The polls end it, or the last of them sees a process. -/
theorem stops_of_pollExit (vars : Tunables) {rounds : Nat} {events : List Happened} {gone : Bool}
    (path : Path (pollExit rounds) events gone) : Stops vars events gone := by
  rcases path_pollExit path with ⟨rfl, quiet, ends⟩ | ⟨rfl, all⟩
  · exact ⟨quiet.noOpen, quiet.killsLate vars, fun _ => ends, fun stays => (by cases stays)⟩
  · exact ⟨all.spec.1.noOpen, all.spec.1.killsLate vars, fun goes => (by cases goes),
      fun _ => all.spec.2⟩

theorem stops_of_gone (vars : Tunables) : Stops vars [saw none] true :=
  ⟨(quiet_nil.cons rfl).noOpen, (quiet_nil.cons rfl).killsLate vars, fun _ => ⟨[], rfl⟩,
    fun stays => (by cases stays)⟩

/-- A SIGKILL comes after polls that all saw a process. -/
theorem stops_of_forceKill {vars : Tunables} (live : vars.dryRun ≠ "1") {events : List Happened}
    {goesOn : Bool} (path : Path (forceKill vars) events goesOn) : Stops vars events goesOn := by
  rw [forceKill, path_bind_iff] at path
  rcases path with ⟨_, pid, later, rfl, asked, path⟩
  rw [path_request_iff] at asked
  subst asked
  cases pid with
  | none =>
      rcases (path_pure_iff true).mp path with ⟨rfl, rfl⟩
      exact stops_of_gone vars
  | some pid =>
      simp only [if_neg live, path_bind_iff, path_request_iff] at path
      rcases path with ⟨_, code, _, rfl, rfl, polls, ended, rest, rfl, waited, path⟩
      have polled : Stops vars ([saw (some pid), ⟨.kill .term pid, code⟩] ++ polls) ended :=
        (stops_of_pollExit vars waited).after_act pid rfl (fun _ same => (by cases same))
      cases ended with
      | true =>
          rcases (path_pure_iff true).mp path with ⟨rfl, rfl⟩
          rw [List.append_nil]
          exact polled
      | false =>
          simp only [Bool.false_eq_true, if_false, path_bind_iff, path_request_iff] at path
          rcases path with ⟨_, killed, final, rfl, rfl, path⟩
          rcases path_pollExit waited with ⟨impossible, -⟩ | ⟨-, all⟩
          · cases impossible
          have last := stops_of_pollExit vars path
          have late : KillsLate vars ([saw (some pid), ⟨.kill .term pid, code⟩] ++ polls)
              ⟨.kill .kill pid, killed⟩ := by
            rintro _ ⟨⟩
            exact ⟨[saw (some pid)], code, polls, rfl, all⟩
          have escalated : Preceded (KillsLate vars)
              (([saw (some pid), ⟨.kill .term pid, code⟩] ++ polls) ++
                [⟨.kill .kill pid, killed⟩]) := by
            apply polled.kills.append_of_first
            rw [preceded_cons_iff, List.append_nil]
            exact ⟨late, preceded_nil _⟩
          have whole := last.after
            (List.forall_mem_append.mpr ⟨polled.noOpen, by simp [Command.isOpen]⟩) escalated
          rw [List.append_assoc, List.append_assoc] at whole
          exact whole

/-- The quit goes before, and does not count. -/
theorem stops_of_stopTv {vars : Tunables} (live : vars.dryRun ≠ "1") {events : List Happened}
    {goesOn : Bool} (path : Path (stopTv vars) events goesOn) : Stops vars events goesOn := by
  rw [stopTv, path_bind_iff] at path
  rcases path with ⟨_, running, later, rfl, looked, path⟩
  rcases path_tvRunning_iff.mp looked with ⟨pid, rfl, rfl⟩
  cases pid with
  | none =>
      rcases (path_pure_iff true).mp path with ⟨rfl, rfl⟩
      exact stops_of_gone vars
  | some pid =>
      simp only [Option.isSome_some, if_true, gracefulQuit, if_neg live, path_bind_iff,
        path_request_iff] at path
      rcases path with ⟨_, code, rest, rfl, rfl, path⟩
      have inside : Stops vars rest goesOn := by
        by_cases accepted : code = 0
        · simp only [if_pos accepted, path_bind_iff] at path
          rcases path with ⟨polls, ended, others, rfl, waited, path⟩
          have polled := stops_of_pollExit vars waited
          cases ended with
          | true =>
              rcases (path_pure_iff true).mp path with ⟨rfl, rfl⟩
              rw [List.append_nil]
              exact polled
          | false => exact (stops_of_forceKill live path).after polled.noOpen polled.kills
        · simp only [if_neg accepted] at path
          exact stops_of_forceKill live path
      exact inside.after_act pid rfl (fun _ same => (by cases same))

/-! ## The relaunch -/

/-- Looks at a port that is not up, with two seconds after each. -/
def Waits (port : Int) (events : List Happened) : Prop :=
  forall event, event ∈ events ->
    event = ⟨.cdpVersionReachableOn port, false⟩ ∨ event = ⟨.sleep 2, ()⟩

theorem Waits.quiet {port : Int} {events : List Happened} (waits : Waits port events) :
    Quiet events := by
  intro event member
  rcases waits event member with rfl | rfl
  · rfl
  · rfl

theorem Waits.round {port : Int} {events : List Happened} (waits : Waits port events) :
    Waits port (⟨.cdpVersionReachableOn port, false⟩ :: ⟨.sleep 2, ()⟩ :: events) :=
  List.forall_mem_cons.mpr ⟨Or.inl rfl, List.forall_mem_cons.mpr ⟨Or.inr rfl, waits⟩⟩

/-- By induction on the rounds. -/
theorem path_pollVersion {port : Int} {rounds : Nat} {events : List Happened} {up : Bool}
    (path : Path (pollVersion port rounds) events up) :
    (up = true ∧ exists waits, events = waits ++ [⟨.cdpVersionReachableOn port, true⟩] ∧
        Waits port waits) ∨
      (up = false ∧ Waits port events) := by
  induction rounds generalizing events with
  | zero =>
      rcases (path_pure_iff false).mp path with ⟨rfl, rfl⟩
      exact Or.inr ⟨rfl, List.forall_mem_nil _⟩
  | succ rounds ih =>
      rw [pollVersion, path_bind_iff] at path
      rcases path with ⟨_, answer, later, rfl, asked, path⟩
      rw [path_request_iff] at asked
      subst asked
      cases answer with
      | true =>
          rcases (path_pure_iff true).mp path with ⟨rfl, rfl⟩
          exact Or.inl ⟨rfl, [], rfl, List.forall_mem_nil _⟩
      | false =>
          simp only [Bool.false_eq_true, if_false, path_bind_iff, path_request_iff] at path
          rcases path with ⟨_, _, others, rfl, rfl, path⟩
          rcases ih path with ⟨up, waits, rfl, waited⟩ | ⟨down, waited⟩
          · exact Or.inl ⟨up, _ :: _ :: waits, rfl, waited.round⟩
          · exact Or.inr ⟨down, waited.round⟩

/-! ## A whole run -/

/-- The lock is taken and both scans pass over all ports. -/
def ScansUndecided (vars : Tunables) (events : List Happened) : Prop :=
  exists first second, events = ⟨.acquireLock, true⟩ :: (first ++ second) ∧
    Undecided false vars.ports first ∧ Undecided true vars.ports second

/-- The `open` of the script. -/
abbrev Tunables.openApp (vars : Tunables) : Command := .openApp vars.appPath vars.cdpPort

/-- All that a run of `main` can be, with the exit code. -/
inductive MainRun (vars : Tunables) : List Happened -> Nat -> Prop
  | busy : MainRun vars [⟨.acquireLock, false⟩] 0
  | healthy {first : List Happened} (found : Found true vars.ports first) :
      MainRun vars (⟨.acquireLock, true⟩ :: first) 0
  | noTab {first second : List Happened} (undecided : Undecided false vars.ports first)
      (found : Found false vars.ports second) :
      MainRun vars (⟨.acquireLock, true⟩ :: (first ++ second)) 0
  | stuck {scans stop : List Happened} (undecided : ScansUndecided vars scans)
      (stops : Stops vars stop false) : MainRun vars (scans ++ stop) 1
  | notOpened {scans stop : List Happened} {code : Nat} (undecided : ScansUndecided vars scans)
      (stops : Stops vars stop true) (failed : code ≠ 0) :
      MainRun vars (scans ++ stop ++ [⟨vars.openApp, code⟩]) 1
  | verified {scans stop waits : List Happened} (undecided : ScansUndecided vars scans)
      (stops : Stops vars stop true) (waited : Waits vars.cdpPort waits) :
      MainRun vars (scans ++ stop ++ ⟨vars.openApp, (0 : Nat)⟩ ::
        (waits ++ [⟨.cdpVersionReachableOn vars.cdpPort, true⟩])) 0
  | unverified {scans stop waits : List Happened} (undecided : ScansUndecided vars scans)
      (stops : Stops vars stop true) (waited : Waits vars.cdpPort waits) :
      MainRun vars (scans ++ stop ++ ⟨vars.openApp, (0 : Nat)⟩ :: waits) 1

theorem mainRun_of_relaunch {vars : Tunables} (live : vars.dryRun ≠ "1")
    {scans events : List Happened} {status : Nat} (undecided : ScansUndecided vars scans)
    (path : Path (relaunch vars) events status) : MainRun vars (scans ++ events) status := by
  rw [relaunch, path_bind_iff] at path
  rcases path with ⟨stop, goesOn, later, rfl, ended, path⟩
  have stops := stops_of_stopTv live ended
  cases goesOn with
  | false =>
      rcases (path_pure_iff 1).mp path with ⟨rfl, rfl⟩
      rw [List.append_nil]
      exact MainRun.stuck undecided stops
  | true =>
      simp only [Bool.not_true, Bool.false_eq_true, if_false, launchTv, if_neg live,
        path_bind_iff, path_request_iff] at path
      rcases path with ⟨_, code, later, rfl, rfl, path⟩
      by_cases opened : code = 0
      · subst opened
        simp only [ne_eq, not_true, if_false, path_bind_iff] at path
        rcases path with ⟨polls, up, rest, rfl, polled, path⟩
        rw [← List.append_assoc]
        rcases path_pollVersion polled with ⟨rfl, waits, rfl, waited⟩ | ⟨rfl, waited⟩
        · rcases (path_pure_iff 0).mp path with ⟨rfl, rfl⟩
          rw [List.append_nil]
          exact MainRun.verified undecided stops waited
        · rcases (path_pure_iff 1).mp path with ⟨rfl, rfl⟩
          rw [List.append_nil]
          exact MainRun.unverified undecided stops waited
      · simp only [ne_eq, opened, not_false_iff, if_true, path_pure_iff] at path
        rcases path with ⟨rfl, rfl⟩
        rw [List.append_nil, ← List.append_assoc]
        exact MainRun.notOpened undecided stops opened

/-- Every path through `main` is one of these. -/
theorem mainRun_of_path {vars : Tunables} (live : vars.dryRun ≠ "1") {events : List Happened}
    {status : Nat} (path : Path (main vars) events status) : MainRun vars events status := by
  rw [main, path_bind_iff] at path
  rcases path with ⟨_, acquired, later, rfl, asked, path⟩
  rw [path_request_iff] at asked
  subst asked
  cases acquired with
  | false =>
      rcases (path_pure_iff 0).mp path with ⟨rfl, rfl⟩
      exact MainRun.busy
  | true =>
      simp only [Bool.not_true, Bool.false_eq_true, if_false, path_bind_iff] at path
      rcases path with ⟨first, healthy, later, rfl, scanned, path⟩
      rcases path_scan scanned with ⟨unhealthy, undecided⟩ | ⟨found, ends⟩
      · simp only [unhealthy, Bool.false_eq_true, if_false, path_bind_iff] at path
        rcases path with ⟨second, noTab, rest, rfl, scannedAgain, path⟩
        rcases path_scan scannedAgain with ⟨undecidedToo, passed⟩ | ⟨found, ends⟩
        · simp only [undecidedToo, Bool.false_eq_true, if_false] at path
          have scans : ScansUndecided vars (⟨.acquireLock, true⟩ :: (first ++ second)) :=
            ⟨first, second, rfl, undecided, passed⟩
          have whole := mainRun_of_relaunch live scans path
          rw [List.cons_append, List.append_assoc] at whole
          exact whole
        · simp only [found, if_true, path_pure_iff] at path
          rcases path with ⟨rfl, rfl⟩
          rw [List.append_nil]
          change MainRun vars (⟨.acquireLock, true⟩ :: (first ++ second)) 0
          exact MainRun.noTab undecided ends
      · simp only [found, if_true, path_pure_iff] at path
        rcases path with ⟨rfl, rfl⟩
        rw [List.append_nil]
        exact MainRun.healthy ends

/-! ## What is right about a run -/

/-- The processes were listed and TradingView was not among them, nor has it been seen
since. -/
def Gone (before : List Happened) : Prop :=
  exists earlier later, before = earlier ++ saw none :: later ∧
    forall pid, saw (some pid) ∉ later

/-- The lock is taken by another. -/
def Busy (events : List Happened) : Prop := events = [⟨.acquireLock, false⟩]

/-- The first scan finds a port with a tab. -/
def Healthy (vars : Tunables) (events : List Happened) : Prop :=
  exists first, events = ⟨.acquireLock, true⟩ :: first ∧ Found true vars.ports first

/-- The first scan finds none, and the second one a port without a tab. -/
def Warned (vars : Tunables) (events : List Happened) : Prop :=
  exists first second, events = ⟨.acquireLock, true⟩ :: (first ++ second) ∧
    Undecided false vars.ports first ∧ Found false vars.ports second

/-- TradingView has been opened, and at last its port is up. -/
def Verified (vars : Tunables) (events : List Happened) : Prop :=
  exists earlier waits, events = earlier ++ ⟨vars.openApp, (0 : Nat)⟩ ::
    (waits ++ [⟨.cdpVersionReachableOn vars.cdpPort, true⟩]) ∧ Waits vars.cdpPort waits

/-- The watchdog acts only when it must and in the right order. -/
structure ActsRight (vars : Tunables) (events : List Happened) (status : Nat) : Prop where
  acts : forall before event after, events = before ++ event :: after ->
    event.1.isAct = true -> exists scans later, before = scans ++ later ∧ ScansUndecided vars scans
  opensOnce : (events.filter (fun event => event.1.isOpen)).length ≤ 1
  opensGone : forall before event after, events = before ++ event :: after ->
    event.1.isOpen = true -> Gone before
  kills : forall before pid code after,
    events = before ++ ⟨.kill .kill pid, code⟩ :: after -> Terminated vars pid before
  exits : status = 0 ↔ Busy events ∨ Healthy vars events ∨ Warned vars events ∨ Verified vars events

/-! ### Commands that act -/

/-- Before a command that acts both scans have passed over all ports. -/
def ActsLate (vars : Tunables) (before : List Happened) (event : Happened) : Prop :=
  event.1.isAct = true -> exists scans later, before = scans ++ later ∧ ScansUndecided vars scans

theorem Quiet.actsLate {events : List Happened} (vars : Tunables) (quiet : Quiet events) :
    Preceded (ActsLate vars) events := by
  apply preceded_of_forall
  intro event member before acts
  rw [quiet event member] at acts
  cases acts

theorem ScansUndecided.quiet {vars : Tunables} {scans : List Happened}
    (undecided : ScansUndecided vars scans) : Quiet scans := by
  rcases undecided with ⟨first, second, rfl, passed, passedToo⟩
  exact (passed.quiet.append passedToo.quiet).cons rfl

/-- What comes after both scans may act. -/
theorem ScansUndecided.actsLate {vars : Tunables} {scans : List Happened}
    (undecided : ScansUndecided vars scans) (events : List Happened) :
    Preceded (ActsLate vars) (scans ++ events) := by
  apply (undecided.quiet.actsLate vars).append_of_first
  apply preceded_of_forall
  intro event _ before _
  exact ⟨scans, before, rfl, undecided⟩

/-- A run that does nothing, one that ends TradingView in vain, or one that opens it. -/
inductive Shape (vars : Tunables) : List Happened -> Prop
  | quiet {events : List Happened} (quiet : Quiet events) : Shape vars events
  | stuck {scans stop : List Happened} (undecided : ScansUndecided vars scans)
      (stops : Stops vars stop false) : Shape vars (scans ++ stop)
  | opened {scans stop rest : List Happened} {code : Nat} (undecided : ScansUndecided vars scans)
      (stops : Stops vars stop true) (quiet : Quiet rest) :
      Shape vars (scans ++ stop ++ ⟨vars.openApp, code⟩ :: rest)

theorem MainRun.shape {vars : Tunables} {events : List Happened} {status : Nat}
    (run : MainRun vars events status) : Shape vars events := by
  cases run with
  | busy => exact Shape.quiet (quiet_nil.cons rfl)
  | healthy found => exact Shape.quiet (found.quiet.cons rfl)
  | noTab undecided found => exact Shape.quiet ((undecided.quiet.append found.quiet).cons rfl)
  | stuck undecided stops => exact Shape.stuck undecided stops
  | notOpened undecided stops failed => exact Shape.opened undecided stops quiet_nil
  | verified undecided stops waited =>
      exact Shape.opened undecided stops (waited.quiet.append (quiet_nil.cons rfl))
  | unverified undecided stops waited => exact Shape.opened undecided stops waited.quiet

namespace Shape

variable {vars : Tunables} {events : List Happened}

theorem actsLate (shape : Shape vars events) : Preceded (ActsLate vars) events := by
  cases shape with
  | quiet quiet => exact quiet.actsLate vars
  | stuck undecided stops => exact undecided.actsLate _
  | opened undecided stops quiet =>
      rw [List.append_assoc]
      exact undecided.actsLate _

theorem killsLate (shape : Shape vars events) : Preceded (KillsLate vars) events := by
  cases shape with
  | quiet quiet => exact quiet.killsLate vars
  | stuck undecided stops =>
      exact (undecided.quiet.killsLate vars).append KillsLate.longer stops.kills
  | @opened scans stop rest code undecided stops quiet =>
      have ended := (undecided.quiet.killsLate vars).append KillsLate.longer stops.kills
      have opened : Preceded (KillsLate vars) [⟨vars.openApp, code⟩] :=
        preceded_cons_iff.mpr ⟨fun _ same => (by cases same), preceded_nil _⟩
      exact ended.append KillsLate.longer
        (opened.append KillsLate.longer (quiet.killsLate vars))

/-- The events before the `open` have none. -/
theorem noOpen_of_stops {scans stop : List Happened} {goesOn : Bool}
    (undecided : ScansUndecided vars scans) (stops : Stops vars stop goesOn) :
    forall event, event ∈ scans ++ stop -> event.1.isOpen = false :=
  List.forall_mem_append.mpr ⟨undecided.quiet.noOpen, stops.noOpen⟩

theorem opensGone (shape : Shape vars events) :
    Preceded (fun before event => event.1.isOpen = true -> Gone before) events := by
  have idle : forall {part : List Happened} {past : List Happened -> Prop},
      (forall event, event ∈ part -> event.1.isOpen = false) ->
      Preceded (fun before event => event.1.isOpen = true -> past before) part := by
    intro part past noOpen
    apply preceded_of_forall
    intro event member before isOpen
    rw [noOpen event member] at isOpen
    cases isOpen
  cases shape with
  | quiet quiet => exact idle quiet.noOpen
  | stuck undecided stops => exact idle (noOpen_of_stops undecided stops)
  | @opened scans stop rest code undecided stops quiet =>
      refine Preceded.append_of_first (idle (noOpen_of_stops undecided stops)) ?_
      rw [preceded_cons_iff]
      refine ⟨?_, idle quiet.noOpen⟩
      intro _
      rcases stops.gone rfl with ⟨earlier, rfl⟩
      refine ⟨scans ++ earlier, [], ?_, fun pid => List.not_mem_nil⟩
      rw [List.append_nil, List.append_assoc]

theorem opensOnce (shape : Shape vars events) :
    (events.filter (fun event => event.1.isOpen)).length ≤ 1 := by
  have none : forall {part : List Happened},
      (forall event, event ∈ part -> event.1.isOpen = false) ->
      part.filter (fun event => event.1.isOpen) = [] := by
    intro part noOpen
    rw [List.filter_eq_nil_iff]
    intro event member
    rw [noOpen event member]
    exact Bool.false_ne_true
  cases shape with
  | quiet quiet =>
      rw [none quiet.noOpen]
      exact Nat.zero_le 1
  | stuck undecided stops =>
      rw [none (noOpen_of_stops undecided stops)]
      exact Nat.zero_le 1
  | opened undecided stops quiet =>
      rw [List.filter_append, none (noOpen_of_stops undecided stops), List.nil_append,
        List.filter_cons_of_pos rfl, none quiet.noOpen]
      exact Nat.le_refl 1

end Shape

/-! ### Exit codes -/

/-- The last look of a run that has the exit code 0: the lock, a tab, or a port that is
up. -/
def concludes : Happened -> Bool
  | ⟨.acquireLock, acquired⟩ => !acquired
  | ⟨.cdpHasTvTabOn _, _⟩ => true
  | ⟨.cdpVersionReachableOn _, up⟩ => up
  | _ => false

/-- What a run ends with. -/
def Concluded (answer : Bool) (events : List Happened) : Prop :=
  exists earlier last, events = earlier ++ [last] ∧ concludes last = answer

theorem Concluded.unique {one other : Bool} {events : List Happened}
    (first : Concluded one events) (second : Concluded other events) : one = other := by
  rcases first with ⟨earlier, last, rfl, rfl⟩
  rcases second with ⟨_, _, same, rfl⟩
  rw [List.singleton_inj.mp (List.append_inj' same rfl).2]

theorem Found.concluded {wanted : Bool} {ports : List Int} {events : List Happened}
    (found : Found wanted ports events) (before : List Happened) :
    Concluded true (before ++ events) := by
  rcases found with ⟨_, port, _, seen, -, -, rfl⟩
  refine ⟨before ++ seen ++ [⟨.cdpVersionReachableOn port, true⟩],
    ⟨.cdpHasTvTabOn port, wanted⟩, ?_, rfl⟩
  simp

theorem concluded_of_exits {vars : Tunables} {events : List Happened}
    (exits : Busy events ∨ Healthy vars events ∨ Warned vars events ∨ Verified vars events) :
    Concluded true events := by
  rcases exits with rfl | ⟨first, rfl, found⟩ | ⟨first, second, rfl, -, found⟩ |
    ⟨earlier, waits, rfl, -⟩
  · exact ⟨[], _, rfl, rfl⟩
  · exact found.concluded [⟨.acquireLock, true⟩]
  · exact found.concluded (⟨.acquireLock, true⟩ :: first)
  · refine ⟨earlier ++ ⟨vars.openApp, (0 : Nat)⟩ :: waits,
      ⟨.cdpVersionReachableOn vars.cdpPort, true⟩, ?_, rfl⟩
    simp

/-- Waits do not conclude anything, nor does the `open` before them. -/
theorem Waits.concluded {port : Int} {waits : List Happened} (waited : Waits port waits)
    (before : List Happened) {opened : Happened} (open_ : concludes opened = false) :
    Concluded false (before ++ opened :: waits) := by
  rcases List.eq_nil_or_concat waits with rfl | ⟨earlier, last, rfl⟩
  · exact ⟨before, opened, rfl, open_⟩
  · refine ⟨before ++ opened :: earlier, last, by simp, ?_⟩
    rcases waited last (by simp) with rfl | rfl
    · rfl
    · rfl

theorem MainRun.exits {vars : Tunables} {events : List Happened} {status : Nat}
    (run : MainRun vars events status) :
    status = 0 ↔ Busy events ∨ Healthy vars events ∨ Warned vars events ∨ Verified vars events := by
  have failed : Concluded false events -> ¬ (Busy events ∨ Healthy vars events ∨
      Warned vars events ∨ Verified vars events) := by
    intro concluded exits
    exact Bool.false_ne_true (concluded.unique (concluded_of_exits exits))
  cases run with
  | busy => exact iff_of_true rfl (Or.inl rfl)
  | healthy found => exact iff_of_true rfl (Or.inr (Or.inl ⟨_, rfl, found⟩))
  | noTab undecided found =>
      exact iff_of_true rfl (Or.inr (Or.inr (Or.inl ⟨_, _, rfl, undecided, found⟩)))
  | stuck undecided stops =>
      apply iff_of_false Nat.one_ne_zero
      rcases stops.stuck rfl with ⟨pid, ends⟩
      rcases ends.after _ with ⟨earlier, same⟩
      exact failed ⟨earlier, saw (some pid), same, rfl⟩
  | notOpened undecided stops code =>
      exact iff_of_false Nat.one_ne_zero (failed ⟨_, _, rfl, rfl⟩)
  | verified undecided stops waited =>
      exact iff_of_true rfl (Or.inr (Or.inr (Or.inr ⟨_, _, rfl, waited⟩)))
  | unverified undecided stops waited =>
      exact iff_of_false Nat.one_ne_zero (failed (waited.concluded _ rfl))

/-- Whatever the lock, the ports, the processes and the commands answer, and however the
answers change, a run of the script acts only when it must and in the right order. -/
theorem watchdog_acts_right (vars : Tunables) (live : vars.dryRun ≠ "1") (world : World Answer) :
    ActsRight vars ((main vars).run world []).1 ((main vars).run world []).2 := by
  have run := mainRun_of_path live (path_run world (main vars) [])
  exact ⟨run.shape.actsLate, run.shape.opensOnce, run.shape.opensGone,
    fun before pid code after split => run.shape.killsLate before _ after split pid rfl, run.exits⟩

/-- The variables of the script when none is set, but for a range of one port and short
timeouts. -/
def shortTimeouts : Tunables :=
  { cdpPort := 9222, cdpPortRange := some (JsonText.codePoints "9222-9222"), quitTimeoutS := 1,
    killTimeoutS := 1, verifyTimeoutS := 3, appPath := "/Applications/TradingView.app",
    dryRun := "0" }

/-- A TradingView that only SIGKILL ends, and that is up a while after it is opened. -/
def stubborn : World Answer
  | _, .acquireLock => true
  | events, .cdpVersionReachableOn _ => decide (events.getLast?.map Sigma.fst = some (.sleep 2))
  | _, .cdpHasTvTabOn _ => true
  | events, .tvMainPid =>
    if .kill .kill 77 ∈ events.map Sigma.fst then none else some 77
  | _, .osascriptQuit => 0
  | _, .kill _ _ => (0 : Nat)
  | _, .openApp _ _ => (0 : Nat)
  | _, .sleep _ => ()

theorem watchdog_acts_right_stubborn :
    let finished := (main shortTimeouts).run stubborn []
    finished.1.map Sigma.fst =
        [.acquireLock, .cdpVersionReachableOn 9222, .cdpVersionReachableOn 9222, .tvMainPid,
          .osascriptQuit, .tvMainPid, .sleep 1, .tvMainPid, .tvMainPid, .kill .term 77, .tvMainPid,
          .sleep 1, .tvMainPid, .kill .kill 77, .tvMainPid,
          .openApp "/Applications/TradingView.app" 9222, .cdpVersionReachableOn 9222, .sleep 2,
          .cdpVersionReachableOn 9222] ∧
      finished.2 = 0 ∧ ActsRight shortTimeouts finished.1 finished.2 :=
  ⟨by decide +kernel, by decide +kernel, watchdog_acts_right shortTimeouts (by decide) stubborn⟩

end Script
end Watchdog
end HybridDataSvc
