import HybridDataSvc.Transition.Runs
import Mathlib.Logic.Function.Basic

namespace HybridDataSvc
namespace Watchdog

open Transition

/-!
# The lock of the watchdog

`acquire_lock`, `_reclaim_lock_if_stale` and the EXIT trap of
`tv-watchdog.sh`, for any number of processes, one file-system step at a time.
The lock is the directory `LOCK_DIR` with the file `owner.pid` in it.  A
process whose `mkdir` fails examines the lock, may remove it and tries once
more.

`rm -rf` is three steps: it opens the directory and lists it, unlinks what it
has listed there, and removes the directory by its path.  Writing `owner.pid`
is two: the file is created empty, then filled.
-/

abbrev Pid := Nat

/-- The file `owner.pid`; right after it is created it is empty. -/
structure PidFile where
  id : Nat
  content : Option Pid
  deriving DecidableEq, Repr

/-- The directory `LOCK_DIR`.  Who made it is not stored on disk. -/
structure LockDir where
  id : Nat
  creator : Pid
  mtime : Nat
  ownerFile : Option PidFile
  deriving DecidableEq, Repr

/-- The steps of `rm -rf "${LOCK_DIR}"`. -/
inductive RemoveStage
  | list
  | unlink (dir : Nat)
  | rmdir
  deriving DecidableEq, Repr

/-- Where a process is. -/
inductive Pc
  | notStarted
  | mkdirFirst
  -- `_lock_age_s`
  | testDir
  | statDir
  | readClock (mtime : Nat)
  -- the rest of `_reclaim_lock_if_stale`, with `_lock_owner_alive`
  | testPidFile (age : Int)
  | testPidFileAgain (age : Int)
  | readPid (age : Int)
  | killZero (age : Int) (pid : Pid)
  | remove (stage : RemoveStage)
  | mkdirAgain
  -- the lock is taken
  | openPidFile
  | writePidFile (file : Nat)
  | holding
  | exiting (stage : RemoveStage)
  | exited
  deriving DecidableEq, Repr

/-- A process.  `startedAt` and `madeAt` are the times of its start and of its
successful `mkdir`; `seen` counts the changes to the lock up to its `-d` test,
and its own ones since. -/
structure Proc where
  pc : Pc
  startedAt : Nat
  madeAt : Nat
  seen : Nat
  deriving DecidableEq, Repr

/-- The clock, in the whole seconds that `date +%s` and `stat` show, the lock,
and the processes.  `changes` counts the changes to the lock. -/
structure LockState where
  now : Nat
  dir : Option LockDir
  changes : Nat
  procs : Pid -> Proc

/-- `_LOCK_PID_GRACE_S` and `_LOCK_MAX_AGE_S`. -/
structure LockConfig where
  graceS : Nat
  maxAgeS : Nat

namespace LockState

/-- Before any process has started. -/
def initial (now : Nat) : LockState := ⟨now, none, 0, fun _ => ⟨.notStarted, 0, 0, 0⟩⟩

def pc (state : LockState) (p : Pid) : Pc := (state.procs p).pc

/-- `kill -0`: the process runs. -/
def isLive (state : LockState) (p : Pid) : Bool :=
  decide (state.pc p ≠ .notStarted) && decide (state.pc p ≠ .exited)

/-- `[[ -f "${LOCK_DIR}/owner.pid" ]]`. -/
def hasPidFile (state : LockState) : Bool :=
  (state.dir.bind (fun d => d.ownerFile)).isSome

/-- `cat "${LOCK_DIR}/owner.pid"`, with nothing for a missing file. -/
def readPidFile (state : LockState) : Option Pid :=
  (state.dir.bind (fun d => d.ownerFile)).bind (fun file => file.content)

/-! ## Steps -/

/-- A step of a process that leaves the lock alone. -/
def quietly (state : LockState) (p : Pid) (proc : Proc) : LockState :=
  { state with procs := Function.update state.procs p proc }

def goto (state : LockState) (p : Pid) (pc : Pc) : LockState :=
  state.quietly p { state.procs p with pc := pc }

/-- A step of a process that changes the lock. -/
def changing (state : LockState) (p : Pid) (dir : Option LockDir) (proc : Proc) : LockState :=
  { state with
    dir := dir
    changes := state.changes + 1
    procs := Function.update state.procs p { proc with seen := proc.seen + 1 } }

/-- `mkdir "${LOCK_DIR}"`. -/
def mkdirLock (state : LockState) (p : Pid) (taken : Pc) : LockState :=
  match state.dir with
  | none =>
    state.changing p (some ⟨state.changes, p, state.now, none⟩)
      { state.procs p with pc := .openPidFile, madeAt := state.now }
  | some _ => state.goto p taken

/-- `> "${LOCK_DIR}/owner.pid"`.  Without a directory the redirection fails,
and the failure is ignored. -/
def openPidFile (state : LockState) (p : Pid) : LockState :=
  match state.dir with
  | none => state.goto p .holding
  | some d =>
    match d.ownerFile with
    | none =>
      state.changing p
        (some { d with ownerFile := some ⟨state.changes, none⟩, mtime := state.now })
        { state.procs p with pc := .writePidFile state.changes }
    | some file =>
      state.changing p (some { d with ownerFile := some { file with content := none } })
        { state.procs p with pc := .writePidFile file.id }

/-- `printf '%s\n' "$$"` into the opened file, wherever that is by now. -/
def writePidFile (state : LockState) (p : Pid) (opened : Nat) : LockState :=
  let proc := { state.procs p with pc := Pc.holding }
  match state.dir with
  | none => state.quietly p proc
  | some d =>
    match d.ownerFile with
    | none => state.quietly p proc
    | some file =>
      if file.id = opened then
        state.changing p (some { d with ownerFile := some { file with content := some p } }) proc
      else state.quietly p proc

/-- A step of `rm -rf "${LOCK_DIR}"`; a step that fails is passed over. -/
def removeLock (state : LockState) (p : Pid) (stage : RemoveStage) (next : RemoveStage -> Pc)
    (after : Pc) : LockState :=
  match state.dir with
  | none =>
    match stage with
    | .list => state.goto p after
    | .unlink _ => state.goto p (next .rmdir)
    | .rmdir => state.goto p after
  | some d =>
    match stage with
    | .list =>
      if d.ownerFile = none then state.goto p (next .rmdir)
      else state.goto p (next (.unlink d.id))
    | .unlink opened =>
      if d.id = opened ∧ d.ownerFile ≠ none then
        state.changing p (some { d with ownerFile := none, mtime := state.now })
          { state.procs p with pc := next .rmdir }
      else state.goto p (next .rmdir)
    | .rmdir =>
      if d.ownerFile = none then state.changing p none { state.procs p with pc := after }
      else state.goto p after

/-- The next step of a process. -/
def act (cfg : LockConfig) (state : LockState) (p : Pid) : LockState :=
  let proc := state.procs p
  match proc.pc with
  | .notStarted => state.quietly p { proc with pc := .mkdirFirst, startedAt := state.now }
  | .mkdirFirst => state.mkdirLock p .testDir
  | .testDir =>
    state.quietly p
      { proc with
        pc := if state.dir.isSome then .statDir else .testPidFile 0
        seen := state.changes }
  | .statDir => state.goto p (.readClock ((state.dir.map (fun d => d.mtime)).getD 0))
  | .readClock mtime => state.goto p (.testPidFile ((state.now : Int) - mtime))
  | .testPidFile age =>
    if state.hasPidFile then state.goto p (.testPidFileAgain age)
    else if age < cfg.graceS then state.goto p .exited
    else state.goto p (.remove .list)
  | .testPidFileAgain age =>
    if state.hasPidFile then state.goto p (.readPid age) else state.goto p (.remove .list)
  | .readPid age =>
    match state.readPidFile with
    | none => state.goto p (.remove .list)
    | some owner => state.goto p (.killZero age owner)
  | .killZero age owner =>
    if state.isLive owner then
      if (cfg.maxAgeS : Int) < age then state.goto p (.remove .list) else state.goto p .exited
    else state.goto p (.remove .list)
  | .remove stage => state.removeLock p stage .remove .mkdirAgain
  | .mkdirAgain => state.mkdirLock p .exited
  | .openPidFile => state.openPidFile p
  | .writePidFile opened => state.writePidFile p opened
  -- `main` returns and the trap fires
  | .holding => state.goto p (.exiting .list)
  | .exiting stage => state.removeLock p stage .exiting .exited
  | .exited => state

@[simp] theorem now_quietly (state : LockState) (p : Pid) (proc : Proc) :
    (state.quietly p proc).now = state.now := rfl

@[simp] theorem now_goto (state : LockState) (p : Pid) (pc : Pc) :
    (state.goto p pc).now = state.now := rfl

@[simp] theorem now_changing (state : LockState) (p : Pid) (dir : Option LockDir) (proc : Proc) :
    (state.changing p dir proc).now = state.now := rfl

@[simp] theorem now_mkdirLock (state : LockState) (p : Pid) (taken : Pc) :
    (state.mkdirLock p taken).now = state.now := by
  unfold mkdirLock
  split <;> rfl

@[simp] theorem now_openPidFile (state : LockState) (p : Pid) :
    (state.openPidFile p).now = state.now := by
  unfold openPidFile
  split
  · rfl
  · split <;> rfl

@[simp] theorem now_writePidFile (state : LockState) (p : Pid) (opened : Nat) :
    (state.writePidFile p opened).now = state.now := by
  unfold writePidFile
  split
  · rfl
  · split
    · rfl
    · split <;> rfl

@[simp] theorem now_removeLock (state : LockState) (p : Pid) (stage : RemoveStage)
    (next : RemoveStage -> Pc) (after : Pc) :
    (state.removeLock p stage next after).now = state.now := by
  unfold removeLock
  split
  · split <;> rfl
  · split
    · split <;> rfl
    · split <;> rfl
    · split <;> rfl

/-- Only a tick takes time. -/
theorem now_act (cfg : LockConfig) (state : LockState) (p : Pid) :
    (state.act cfg p).now = state.now := by
  unfold act
  cases pc : (state.procs p).pc with
  | testPidFile age =>
      simp only [pc]
      split
      · rfl
      · split <;> rfl
  | testPidFileAgain age =>
      simp only [pc]
      split <;> rfl
  | readPid age =>
      simp only [pc]
      split <;> rfl
  | killZero age owner =>
      simp only [pc]
      split
      · split <;> rfl
      · rfl
  | _ => simp [pc]

/-- A process is killed. -/
def crash (state : LockState) (p : Pid) : LockState :=
  if state.isLive p then state.goto p .exited else state

def tick (state : LockState) : LockState := { state with now := state.now + 1 }

end LockState

/-- What happens next: a second passes, a process takes its next step, or a
process is killed.  PIDs are not reused, so a process starts once. -/
inductive LockAction
  | tick
  | act (p : Pid)
  | crash (p : Pid)
  deriving DecidableEq, Repr

def LockAction.step (cfg : LockConfig) (state : LockState) : LockAction -> LockState
  | .tick => state.tick
  | .act p => state.act cfg p
  | .crash p => state.crash p

/-! ## What is claimed and what is assumed -/

/-- Between a successful `acquire_lock` and the end of the trap. -/
def Pc.isInside : Pc -> Bool
  | .holding => true
  | .exiting _ => true
  | _ => false

/-- Between a successful `mkdir` and the return of `acquire_lock`. -/
def Pc.isAcquiring : Pc -> Bool
  | .openPidFile => true
  | .writePidFile _ => true
  | _ => false

def MutualExclusion (state : LockState) : Prop :=
  forall p q, (state.pc p).isInside = true -> (state.pc q).isInside = true -> p = q

/-- Runs end within `_LOCK_MAX_AGE_S`, and `owner.pid` is written before the
lock, by the clock, is `_LOCK_PID_GRACE_S` old. -/
structure Timely (cfg : LockConfig) (state : LockState) : Prop where
  ends : forall p, state.isLive p = true -> state.now ≤ (state.procs p).startedAt + cfg.maxAgeS
  writes : forall p, (state.pc p).isAcquiring = true ->
    state.now < (state.procs p).madeAt + cfg.graceS

/-- A step of `rm -rf` changes this lock. -/
def RemoveStage.changes (d : LockDir) : RemoveStage -> Bool
  | .list => false
  | .unlink opened => decide (d.id = opened) && decide (d.ownerFile ≠ none)
  | .rmdir => decide (d.ownerFile = none)

/-- The process is between creating and filling `owner.pid`, or between the
two removals of its trap. -/
def Pc.isHalfway : Pc -> Bool
  | .writePidFile _ => true
  | .exiting .rmdir => true
  | _ => false

/-- Where the reclaim of a process removes something, the maker of that lock
is gone; or nobody else has changed the lock since the process has begun to
examine it, and its maker is not halfway through writing or removing it. -/
def LockState.removesStale (state : LockState) (p : Pid) : Bool :=
  match state.pc p, state.dir with
  | .remove stage, some d =>
    !stage.changes d || !state.isLive d.creator ||
      (decide ((state.procs p).seen = state.changes) && !(state.pc d.creator).isHalfway)
  | _, _ => true

def LockAction.removesStale (state : LockState) : LockAction -> Bool
  | .act p => state.removesStale p
  | _ => true

/-- The condition on a step. -/
def LockAction.Undisturbed (cfg : LockConfig) (state : LockState) (action : LockAction) : Prop :=
  Timely cfg (action.step cfg state) ∧ action.removesStale state = true

end Watchdog
end HybridDataSvc
