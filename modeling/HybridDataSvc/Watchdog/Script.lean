import HybridDataSvc.Interaction.Program
import HybridDataSvc.Watchdog.Health
import HybridDataSvc.Watchdog.Lock

namespace HybridDataSvc
namespace Watchdog
namespace Script

open Interaction Interaction.Program Discovery JsonText

/-!
# The run of the watchdog

`main` of `tv-watchdog.sh` as a program that asks: for the lock, for the two answers of
a port, for the process, and for what it does to TradingView.  What is answered may
change at any time.  `acquire_lock` and the ports at one moment are described elsewhere;
the log lines are left out.
-/

inductive Signal
  | term
  | kill
  deriving DecidableEq, Repr

/-- What the script calls. -/
inductive Command
  | acquireLock
  | cdpVersionReachableOn (port : Int)
  | cdpHasTvTabOn (port : Int)
  | tvMainPid
  | osascriptQuit
  | kill (signal : Signal) (pid : Pid)
  | openApp (appPath : String) (port : Int)
  | sleep (seconds : Nat)
  deriving DecidableEq, Repr

/-- Whether a check succeeds, the process that is found, or the exit code of a command;
that of `env kill` is dropped by `|| true`. -/
@[reducible] def Answer : Command -> Type
  | .acquireLock => Bool
  | .cdpVersionReachableOn _ => Bool
  | .cdpHasTvTabOn _ => Bool
  | .tvMainPid => Option Pid
  | .osascriptQuit => Nat
  | .kill _ _ => Nat
  | .openApp _ _ => Nat
  | .sleep _ => Unit

/-- A part of the script. -/
abbrev Shell := Program Command Answer

abbrev call (command : Command) : Shell (Answer command) := request command

/-- What has happened in a run. -/
abbrev Happened := Event Answer

/-- The variables of the script. -/
structure Tunables where
  cdpPort : Int
  cdpPortRange : Option CodePoints
  quitTimeoutS : Int
  killTimeoutS : Int
  verifyTimeoutS : Int
  appPath : String
  dryRun : String

/-- The ports of the two scans, in their order. -/
def Tunables.ports (vars : Tunables) : List Int :=
  match loopBounds vars.cdpPortRange with
  | none => []
  | some bounds => portsBetween bounds

/-! ## The scans -/

/-- The first port that is up and has a tab, or has none, as wanted. -/
def scan (wanted : Bool) : List Int -> Shell (Option Int)
  | [] => return none
  | port :: rest => do
    if ← call (.cdpVersionReachableOn port) then
      let tab ← call (.cdpHasTvTabOn port)
      if tab = wanted then return some port else scan wanted rest
    else scan wanted rest

/-- `healthy_port`. -/
def healthyPort (vars : Tunables) : Shell (Option Int) := scan true vars.ports

/-- `any_cdp_with_no_tab`. -/
def anyCdpWithNoTab (vars : Tunables) : Shell (Option Int) := scan false vars.ports

/-! ## The process -/

/-- `tv_running`. -/
def tvRunning : Shell Bool := do
  let pid ← call .tvMainPid
  return pid.isSome

/-- `graceful_quit`: the exit code of `osascript`. -/
def gracefulQuit (vars : Tunables) : Shell Nat :=
  if vars.dryRun = "1" then return 0 else call .osascriptQuit

/-- The loop of `wait_for_exit`, a second a round, and the look after it. -/
def pollExit : Nat -> Shell Bool
  | 0 => do
    let running ← tvRunning
    return !running
  | rounds + 1 => do
    if ← tvRunning then
      call (.sleep 1)
      pollExit rounds
    else return true

/-- `wait_for_exit`. -/
def waitForExit (timeout : Int) : Shell Bool := pollExit timeout.toNat

/-- `force_kill`. -/
def forceKill (vars : Tunables) : Shell Bool := do
  match ← call .tvMainPid with
  | none => return true
  | some pid =>
    if vars.dryRun = "1" then return true
    let _ ← call (.kill .term pid)
    if ← waitForExit vars.killTimeoutS then return true
    let _ ← call (.kill .kill pid)
    waitForExit vars.killTimeoutS

/-- `launch_tv`: the exit code of `open`. -/
def launchTv (vars : Tunables) : Shell Nat :=
  if vars.dryRun = "1" then return 0 else call (.openApp vars.appPath vars.cdpPort)

/-- The loop of `verify_cdp_recovered`, two seconds a round. -/
def pollVersion (port : Int) : Nat -> Shell Bool
  | 0 => return false
  | rounds + 1 => do
    if ← call (.cdpVersionReachableOn port) then return true
    call (.sleep 2)
    pollVersion port rounds

/-- `verify_cdp_recovered`: the rounds begin at 0, 2, 4 and so on, before the timeout. -/
def verifyCdpRecovered (vars : Tunables) : Shell Bool :=
  pollVersion vars.cdpPort ((vars.verifyTimeoutS + 1) / 2).toNat

/-! ## The state machine -/

/-- The part of `main` that ends a running TradingView; whether `main` goes on. -/
def stopTv (vars : Tunables) : Shell Bool := do
  if ← tvRunning then
    if (← gracefulQuit vars) = 0 then
      if ← waitForExit vars.quitTimeoutS then return true
      forceKill vars
    else forceKill vars
  else return true

/-- The rest of `main` after both scans, with the exit code. -/
def relaunch (vars : Tunables) : Shell Nat := do
  if !(← stopTv vars) then return 1
  if (← launchTv vars) ≠ 0 then return 1
  if ← verifyCdpRecovered vars then return 0
  return 1

/-- `main`, with the exit code. -/
def main (vars : Tunables) : Shell Nat := do
  if !(← call .acquireLock) then return 0
  if (← healthyPort vars).isSome then return 0
  if (← anyCdpWithNoTab vars).isSome then return 0
  relaunch vars

end Script
end Watchdog
end HybridDataSvc
