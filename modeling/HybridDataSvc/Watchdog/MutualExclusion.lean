import HybridDataSvc.Watchdog.Lock

namespace HybridDataSvc
namespace Watchdog

open Transition

/-!
# Mutual exclusion of the watchdog

Two facts carry the argument.  A process that has taken the lock and not yet
given it up is the maker of the directory at `LOCK_DIR`, so there is at most
one.  And what a process has examined while nobody else changed the lock is
the lock of a process that is gone, or that is halfway through writing or
removing it.  The steps between two processes that do disturb each other are
left to the condition on the run.
-/

variable {cfg : LockConfig} {state : LockState}

/-- The process has made the directory, and not removed it. -/
def Pc.ownsLock : Pc -> Bool
  | .openPidFile => true
  | .writePidFile _ => true
  | .holding => true
  | .exiting _ => true
  | _ => false

/-- The process runs and does not have the lock. -/
def Pc.isOutside : Pc -> Bool
  | .exited => false
  | pc => !pc.ownsLock

theorem Pc.not_ownsLock_of_isOutside {pc : Pc} (outside : pc.isOutside = true) :
    pc.ownsLock = false := by
  cases pc <;> first | rfl | cases outside

theorem Pc.running_of_isOutside {pc : Pc} (outside : pc.isOutside = true) : pc ≠ .exited := by
  rintro rfl
  cases outside

/-- What the lock of its owner looks like. -/
def OwnedBy (proc : Proc) (p : Pid) (d : LockDir) : Prop :=
  match proc.pc with
  | .openPidFile => d.ownerFile = none ∧ d.mtime = proc.madeAt
  | .writePidFile file => d.ownerFile = some ⟨file, none⟩
  | .exiting .rmdir => True
  | _ => exists file, d.ownerFile = some ⟨file, some p⟩

def OwnsDir (dir : Option LockDir) (p : Pid) (proc : Proc) : Prop :=
  proc.pc.ownsLock = true -> exists d, dir = some d ∧ d.creator = p ∧ OwnedBy proc p d

/-- What holds of the directory at `LOCK_DIR`. -/
structure DirOk (state : LockState) (d : LockDir) : Prop where
  stage : (state.pc d.creator).ownsLock = true ∨ state.pc d.creator = .exited
  content : forall file pid, d.ownerFile = some ⟨file, some pid⟩ -> pid = d.creator
  born : (state.procs d.creator).startedAt ≤ d.mtime

/-- The maker of the lock is gone, or halfway through writing or removing it. -/
def Resigned (state : LockState) (d : LockDir) : Prop :=
  state.isLive d.creator = false ∨ (state.pc d.creator).isHalfway = true

/-- What a process knows of the lock while nobody else changes it. -/
def Examined (state : LockState) (proc : Proc) : Prop :=
  match proc.pc with
  | .readClock mtime => forall d, state.dir = some d -> mtime = d.mtime
  | .testPidFile age => forall d, state.dir = some d -> age ≤ (state.now : Int) - d.mtime
  | .testPidFileAgain age =>
      forall d, state.dir = some d -> d.ownerFile ≠ none ∧ age ≤ (state.now : Int) - d.mtime
  | .readPid age =>
      forall d, state.dir = some d -> d.ownerFile ≠ none ∧ age ≤ (state.now : Int) - d.mtime
  | .killZero age pid =>
      forall d, state.dir = some d ->
        (exists file, d.ownerFile = some ⟨file, some pid⟩) ∧ age ≤ (state.now : Int) - d.mtime
  | .remove _ => forall d, state.dir = some d -> Resigned state d
  | _ => True

/-- The invariant. -/
structure LockInv (cfg : LockConfig) (state : LockState) : Prop where
  timely : Timely cfg state
  owns : forall p, OwnsDir state.dir p (state.procs p)
  dirOk : forall d, state.dir = some d -> DirOk state d
  started : forall p, (state.procs p).startedAt ≤ state.now
  seen : forall p, (state.procs p).seen ≤ state.changes
  examined : forall p, (state.procs p).seen = state.changes -> Examined state (state.procs p)

theorem ownsLock_of_isInside {pc : Pc} (inside : pc.isInside = true) : pc.ownsLock = true := by
  cases pc <;> first | rfl | cases inside

theorem LockInv.mutualExclusion (inv : LockInv cfg state) : MutualExclusion state := by
  intro p q pInside qInside
  rcases inv.owns p (ownsLock_of_isInside pInside) with ⟨d, here, rfl, _⟩
  rcases inv.owns q (ownsLock_of_isInside qInside) with ⟨other, otherHere, rfl, _⟩
  rw [here, Option.some_inj] at otherHere
  rw [otherHere]

theorem lockInv_initial (cfg : LockConfig) (now : Nat) : LockInv cfg (LockState.initial now) where
  timely := by
    constructor
    · intro p live
      cases live
    · intro p acquiring
      cases acquiring
  owns := by
    intro p owns
    cases owns
  dirOk := by
    intro d impossible
    cases impossible
  started := fun _ => Nat.zero_le _
  seen := fun _ => Nat.le_refl _
  examined := fun _ _ => trivial

/-! ## What an examination finds -/

/-- The maker of the lock, when it still runs, is at one of its steps with it. -/
theorem LockInv.maker (inv : LockInv cfg state) {d : LockDir} (here : state.dir = some d)
    (live : state.isLive d.creator = true) :
    (state.pc d.creator).ownsLock = true ∧ OwnedBy (state.procs d.creator) d.creator d := by
  rcases (inv.dirOk d here).stage with owns | gone
  · rcases inv.owns d.creator owns with ⟨own, ownHere, _, owned⟩
    rw [here, Option.some_inj] at ownHere
    subst ownHere
    exact ⟨owns, owned⟩
  · rw [LockState.isLive, gone] at live
    cases live

/-- A lock without `owner.pid` that is older than the grace. -/
theorem LockInv.resigned_of_no_pid (inv : LockInv cfg state) {d : LockDir}
    (here : state.dir = some d) (noPid : d.ownerFile = none)
    (old : (cfg.graceS : Int) ≤ (state.now : Int) - d.mtime) : Resigned state d := by
  by_contra resigned
  simp only [Resigned, not_or, Bool.not_eq_false, Bool.not_eq_true] at resigned
  rcases inv.maker here resigned.1 with ⟨owns, owned⟩
  have writes := inv.timely.writes d.creator
  unfold OwnedBy at owned
  rw [LockState.pc] at owns writes resigned
  split at owned
  · next pc =>
      rw [pc] at writes
      have young := writes rfl
      omega
  · next file pc =>
      rw [noPid] at owned
      cases owned
  · next pc =>
      rw [pc] at resigned
      cases resigned.2
  · rcases owned with ⟨file, content⟩
    rw [noPid] at content
    cases content

/-- A lock whose `owner.pid` is empty. -/
theorem LockInv.resigned_of_empty_pid (inv : LockInv cfg state) {d : LockDir} {file : Nat}
    (here : state.dir = some d) (empty : d.ownerFile = some ⟨file, none⟩) : Resigned state d := by
  by_contra resigned
  simp only [Resigned, not_or, Bool.not_eq_false, Bool.not_eq_true] at resigned
  rcases inv.maker here resigned.1 with ⟨owns, owned⟩
  unfold OwnedBy at owned
  rw [LockState.pc] at owns resigned
  split at owned
  · rw [owned.1] at empty
    cases empty
  · next written pc =>
      rw [pc] at resigned
      cases resigned.2
  · next pc =>
      rw [pc] at resigned
      cases resigned.2
  · rcases owned with ⟨written, content⟩
    rw [content] at empty
    cases empty

/-- A lock whose `owner.pid` names a process that does not run. -/
theorem LockInv.resigned_of_dead_pid (inv : LockInv cfg state) {d : LockDir} {file : Nat} {pid : Pid}
    (here : state.dir = some d) (content : d.ownerFile = some ⟨file, some pid⟩)
    (dead : state.isLive pid = false) : Resigned state d := by
  rw [(inv.dirOk d here).content file pid content] at dead
  exact Or.inl dead

/-- A lock that is older than any run. -/
theorem LockInv.resigned_of_old (inv : LockInv cfg state) {d : LockDir} (here : state.dir = some d)
    (old : (cfg.maxAgeS : Int) < (state.now : Int) - d.mtime) : Resigned state d := by
  by_contra resigned
  simp only [Resigned, not_or, Bool.not_eq_false, Bool.not_eq_true] at resigned
  have ends := inv.timely.ends d.creator resigned.1
  have born := (inv.dirOk d here).born
  omega

/-! ## Steps that leave the lock alone -/

section Quietly

variable {p : Pid} {proc : Proc}

theorem procs_quietly_self : (state.quietly p proc).procs p = proc := Function.update_self ..

theorem procs_quietly_of_ne {q : Pid} (other : q ≠ p) :
    (state.quietly p proc).procs q = state.procs q := Function.update_of_ne other ..

/-- What holds of the process that moves and of the others. -/
theorem forall_quietly (holds : Pid -> Proc -> Prop) (own : holds p proc)
    (others : forall q, q ≠ p -> holds q (state.procs q)) :
    forall q, holds q ((state.quietly p proc).procs q) :=
  (Function.forall_update_iff state.procs (p := holds)).mpr ⟨own, others⟩

theorem resigned_quietly_of_ne {d : LockDir} (other : d.creator ≠ p) :
    Resigned (state.quietly p proc) d ↔ Resigned state d := by
  unfold Resigned LockState.isLive LockState.pc
  rw [procs_quietly_of_ne other]

theorem LockInv.quietly (inv : LockInv cfg state) (timely : Timely cfg (state.quietly p proc))
    (owns : OwnsDir state.dir p proc)
    (maker : forall d, state.dir = some d -> d.creator = p ->
      (proc.pc.ownsLock = true ∨ proc.pc = .exited) ∧ proc.startedAt ≤ d.mtime ∧
        (Resigned state d -> Resigned (state.quietly p proc) d))
    (started : proc.startedAt ≤ state.now) (seen : proc.seen ≤ state.changes)
    (examined : proc.seen = state.changes -> Examined (state.quietly p proc) proc) :
    LockInv cfg (state.quietly p proc) where
  timely := timely
  owns := forall_quietly (OwnsDir state.dir) owns (fun q _ => inv.owns q)
  dirOk := by
    intro d here
    have before := inv.dirOk d here
    by_cases self : d.creator = p
    · rcases maker d here self with ⟨stage, born, _⟩
      refine ⟨?_, before.content, ?_⟩
      · rw [LockState.pc, self, procs_quietly_self]
        exact stage
      · rw [self, procs_quietly_self]
        exact born
    · refine ⟨?_, before.content, ?_⟩
      · rw [LockState.pc, procs_quietly_of_ne self]
        exact before.stage
      · rw [procs_quietly_of_ne self]
        exact before.born
  started := forall_quietly (fun _ proc => proc.startedAt ≤ state.now) started
    (fun q _ => inv.started q)
  seen := forall_quietly (fun _ proc => proc.seen ≤ state.changes) seen (fun q _ => inv.seen q)
  examined := by
    refine forall_quietly
      (fun _ other => other.seen = state.changes -> Examined (state.quietly p proc) other) examined
      (fun q _ clean => ?_)
    have known := inv.examined q clean
    unfold Examined at known ⊢
    split at known
    case h_6 =>
      intro d here
      by_cases made : d.creator = p
      · exact (maker d here made).2.2 (known d here)
      · exact (resigned_quietly_of_ne made).mpr (known d here)
    all_goals exact known

/-- A process that neither has the lock nor has exited did not make it. -/
theorem LockInv.not_maker (inv : LockInv cfg state) {d : LockDir} (here : state.dir = some d)
    (outside : (state.procs p).pc.isOutside = true) : d.creator ≠ p := by
  rintro rfl
  rcases (inv.dirOk d here).stage with owns | gone
  · rw [LockState.pc, Pc.not_ownsLock_of_isOutside outside] at owns
    cases owns
  · exact Pc.running_of_isOutside outside gone

/-- A step of an examination. -/
theorem LockInv.bystander (inv : LockInv cfg state) (timely : Timely cfg (state.quietly p proc))
    (outside : (state.procs p).pc.isOutside = true) (stays : proc.pc.ownsLock = false)
    (started : proc.startedAt ≤ state.now)
    (seen : proc.seen ≤ state.changes)
    (examined : proc.seen = state.changes -> Examined state proc) :
    LockInv cfg (state.quietly p proc) := by
  refine inv.quietly timely ?_ ?_ started seen ?_
  · intro owns
    rw [stays] at owns
    cases owns
  · intro d here self
    exact absurd self (inv.not_maker here outside)
  · intro clean
    have known := examined clean
    unfold Examined at known ⊢
    split at known
    case h_6 =>
      intro d here
      exact (resigned_quietly_of_ne (inv.not_maker here outside)).mpr (known d here)
    all_goals exact known

end Quietly

/-! ## Steps that change the lock -/

section Changing

variable {p : Pid} {dir : Option LockDir} {proc : Proc}

theorem procs_changing_self :
    (state.changing p dir proc).procs p = { proc with seen := proc.seen + 1 } :=
  Function.update_self ..

theorem procs_changing_of_ne {q : Pid} (other : q ≠ p) :
    (state.changing p dir proc).procs q = state.procs q := Function.update_of_ne other ..

theorem forall_changing (holds : Pid -> Proc -> Prop)
    (own : holds p { proc with seen := proc.seen + 1 })
    (others : forall q, q ≠ p -> holds q (state.procs q)) :
    forall q, holds q ((state.changing p dir proc).procs q) :=
  (Function.forall_update_iff state.procs (p := holds)).mpr ⟨own, others⟩

theorem LockInv.changing (inv : LockInv cfg state) (timely : Timely cfg (state.changing p dir proc))
    (alone : forall q, q ≠ p -> (state.pc q).ownsLock = false) (owns : OwnsDir dir p proc)
    (dirOk : forall d, dir = some d -> DirOk (state.changing p dir proc) d)
    (started : proc.startedAt ≤ state.now) (seen : proc.seen ≤ state.changes)
    (examined : proc.seen = state.changes -> Examined (state.changing p dir proc) proc) :
    LockInv cfg (state.changing p dir proc) where
  timely := timely
  owns := by
    refine forall_changing (OwnsDir dir) owns (fun q self stage => ?_)
    have idle := alone q self
    rw [LockState.pc] at idle
    rw [idle] at stage
    cases stage
  dirOk := dirOk
  started := forall_changing (fun _ proc => proc.startedAt ≤ state.now) started
    (fun q _ => inv.started q)
  seen := forall_changing (fun _ proc => proc.seen ≤ state.changes + 1)
    (Nat.add_le_add_right seen 1) (fun q _ => Nat.le_succ_of_le (inv.seen q))
  examined := by
    refine forall_changing (fun _ other => other.seen = state.changes + 1 ->
      Examined (state.changing p dir proc) other)
      (fun clean => examined (Nat.succ_inj.mp clean)) (fun q _ clean => ?_)
    -- the examination of another process is disturbed
    have before := inv.seen q
    rw [clean] at before
    exact absurd before (Nat.not_succ_le_self state.changes)

theorem LockInv.alone_of_no_dir (inv : LockInv cfg state) (absent : state.dir = none) (q : Pid) :
    (state.pc q).ownsLock = false := by
  by_contra owns
  rcases inv.owns q (Bool.not_eq_false _ ▸ owns) with ⟨d, here, _⟩
  rw [absent] at here
  cases here

theorem LockInv.alone_of_maker (inv : LockInv cfg state) {d : LockDir} (here : state.dir = some d)
    {q : Pid} (other : q ≠ d.creator) : (state.pc q).ownsLock = false := by
  by_contra owns
  rcases inv.owns q (Bool.not_eq_false _ ▸ owns) with ⟨own, ownHere, made, _⟩
  rw [here, Option.some_inj] at ownHere
  rw [ownHere] at other
  exact other made.symm

theorem isLive_of_ownsLock {q : Pid} (owns : (state.procs q).pc.ownsLock = true) :
    state.isLive q = true := by
  unfold LockState.isLive LockState.pc
  cases pc : (state.procs q).pc <;> rw [pc] at owns <;> first | rfl | cases owns

theorem LockInv.alone_of_gone (inv : LockInv cfg state) {d : LockDir} (here : state.dir = some d)
    (gone : state.isLive d.creator = false) (q : Pid) : (state.pc q).ownsLock = false := by
  by_contra owns
  have ownsLock : (state.procs q).pc.ownsLock = true := Bool.not_eq_false _ ▸ owns
  rcases inv.owns q ownsLock with ⟨own, ownHere, rfl, _⟩
  rw [here, Option.some_inj] at ownHere
  rw [ownHere, isLive_of_ownsLock ownsLock] at gone
  cases gone

end Changing

/-! ## The steps of the script -/

section Steps

variable {p : Pid}

theorem LockInv.mkdirLock (inv : LockInv cfg state) {taken : Pc}
    (timely : Timely cfg (state.mkdirLock p taken))
    (outside : (state.procs p).pc.isOutside = true) (stays : taken.ownsLock = false)
    (blind : forall proc : Proc, Examined state { proc with pc := taken }) :
    LockInv cfg (state.mkdirLock p taken) := by
  unfold LockState.mkdirLock at timely ⊢
  cases here : state.dir with
  | some d =>
      simp only [here] at timely ⊢
      exact inv.bystander timely outside stays (inv.started p) (inv.seen p)
        (fun _ => blind _)
  | none =>
      simp only [here] at timely ⊢
      refine inv.changing timely (fun q _ => inv.alone_of_no_dir here q) ?_ ?_ (inv.started p)
        (inv.seen p) (fun _ => trivial)
      · intro _
        exact ⟨_, rfl, rfl, rfl, rfl⟩
      · rintro d ⟨⟩
        refine ⟨Or.inl ?_, ?_, ?_⟩
        · rw [LockState.pc, procs_changing_self]
          rfl
        · rintro file pid ⟨⟩
        · rw [procs_changing_self]
          exact inv.started p

theorem LockInv.openPidFile (inv : LockInv cfg state) (timely : Timely cfg (state.openPidFile p))
    (stage : (state.procs p).pc = .openPidFile) : LockInv cfg (state.openPidFile p) := by
  rcases inv.owns p (by rw [stage]; rfl) with ⟨d, here, rfl, owned⟩
  rw [OwnedBy, stage] at owned
  have born := (inv.dirOk d here).born
  simp only [LockState.openPidFile, here, owned.1] at timely ⊢
  refine inv.changing timely (fun q other => inv.alone_of_maker here other) ?_ ?_
    (inv.started _) (inv.seen _) (fun _ => trivial)
  · intro _
    exact ⟨_, rfl, rfl, rfl⟩
  · rintro changed ⟨⟩
    refine ⟨Or.inl ?_, ?_, ?_⟩
    · rw [LockState.pc, procs_changing_self]
      rfl
    · rintro file pid ⟨⟩
    · rw [procs_changing_self]
      exact inv.started _

theorem LockInv.writePidFile (inv : LockInv cfg state) {file : Nat}
    (timely : Timely cfg (state.writePidFile p file))
    (stage : (state.procs p).pc = .writePidFile file) : LockInv cfg (state.writePidFile p file) := by
  rcases inv.owns p (by rw [stage]; rfl) with ⟨d, here, rfl, owned⟩
  rw [OwnedBy, stage] at owned
  have born := (inv.dirOk d here).born
  simp only [LockState.writePidFile, here, owned, if_true] at timely ⊢
  refine inv.changing timely (fun q other => inv.alone_of_maker here other) ?_ ?_
    (inv.started _) (inv.seen _) (fun _ => trivial)
  · intro _
    exact ⟨_, rfl, rfl, _, rfl⟩
  · rintro changed ⟨⟩
    refine ⟨Or.inl ?_, ?_, ?_⟩
    · rw [LockState.pc, procs_changing_self]
      rfl
    · rintro _ _ ⟨⟩
      rfl
    · rw [procs_changing_self]
      exact born

/-- A reclaim, where it removes something, removes the lock of a process that
is gone. -/
theorem LockInv.gone_of_removesStale (inv : LockInv cfg state) {stage : RemoveStage} {d : LockDir}
    (condition : state.removesStale p = true) (pc : (state.procs p).pc = .remove stage)
    (here : state.dir = some d) (changes : stage.changes d = true) :
    state.isLive d.creator = false := by
  rw [LockState.removesStale, LockState.pc, pc, here] at condition
  simp only [changes, Bool.not_true, Bool.false_or, Bool.or_eq_true, Bool.not_eq_true',
    Bool.and_eq_true, decide_eq_true_eq] at condition
  rcases condition with gone | ⟨clean, whole⟩
  · exact gone
  · have known := inv.examined p clean
    rw [Examined, pc] at known
    rcases known d here with gone | halfway
    · exact gone
    · rw [whole] at halfway
      cases halfway

theorem LockInv.reclaim (inv : LockInv cfg state) {stage : RemoveStage}
    (timely : Timely cfg (state.removeLock p stage .remove .mkdirAgain))
    (condition : state.removesStale p = true) (pc : (state.procs p).pc = .remove stage) :
    LockInv cfg (state.removeLock p stage .remove .mkdirAgain) := by
  have outside : (state.procs p).pc.isOutside = true := by rw [pc]; rfl
  have known : (state.procs p).seen = state.changes -> forall d, state.dir = some d ->
      Resigned state d := by
    intro clean
    have found := inv.examined p clean
    rw [Examined, pc] at found
    exact found
  have goes : forall next, next = .mkdirAgain ∨ (exists later, next = Pc.remove later) ->
      Timely cfg (state.goto p next) -> LockInv cfg (state.goto p next) := by
    rintro next (rfl | ⟨later, rfl⟩) nextTimely
    · exact inv.bystander nextTimely outside rfl (inv.started p) (inv.seen p)
        (fun _ => trivial)
    · exact inv.bystander nextTimely outside rfl (inv.started p) (inv.seen p) known
  cases here : state.dir with
  | none =>
      cases stage <;> simp only [LockState.removeLock, here] at timely ⊢ <;>
        exact goes _ (by simp) timely
  | some d =>
      cases stage with
      | list =>
          simp only [LockState.removeLock, here] at timely ⊢
          by_cases noPid : d.ownerFile = none
          · simp only [if_pos noPid] at timely ⊢
            exact goes _ (by simp) timely
          · simp only [if_neg noPid] at timely ⊢
            exact goes _ (by simp) timely
      | unlink opened =>
          simp only [LockState.removeLock, here] at timely ⊢
          by_cases changes : d.id = opened ∧ d.ownerFile ≠ none
          · simp only [if_pos changes] at timely ⊢
            have gone := inv.gone_of_removesStale condition pc here
              (by simpa [RemoveStage.changes] using changes)
            have other : d.creator ≠ p := inv.not_maker here outside
            have before := inv.dirOk d here
            refine inv.changing timely (fun q _ => inv.alone_of_gone here gone q) ?_ ?_
              (inv.started p) (inv.seen p) ?_
            · intro owns
              cases owns
            · rintro changed ⟨⟩
              refine ⟨?_, ?_, ?_⟩
              · rw [LockState.pc, procs_changing_of_ne other]
                exact before.stage
              · rintro file pid ⟨⟩
              · rw [procs_changing_of_ne other]
                exact inv.started d.creator
            · rintro _ changed ⟨⟩
              apply Or.inl
              rw [LockState.isLive, LockState.pc, procs_changing_of_ne other]
              exact gone
          · simp only [if_neg changes] at timely ⊢
            exact goes _ (by simp) timely
      | rmdir =>
          simp only [LockState.removeLock, here] at timely ⊢
          by_cases changes : d.ownerFile = none
          · simp only [if_pos changes] at timely ⊢
            have gone := inv.gone_of_removesStale condition pc here (decide_eq_true changes)
            refine inv.changing timely (fun q _ => inv.alone_of_gone here gone q) ?_ ?_
              (inv.started p) (inv.seen p) (fun _ => trivial)
            · intro owns
              cases owns
            · rintro changed ⟨⟩
          · simp only [if_neg changes] at timely ⊢
            exact goes _ (by simp) timely

/-- A step of the process that made the lock, within its own steps with it. -/
theorem LockInv.own_goto (inv : LockInv cfg state) {next : Pc}
    (timely : Timely cfg (state.goto p next)) (owns : (state.procs p).pc.ownsLock = true)
    (stays : next.ownsLock = true ∨ next = .exited)
    (owned : OwnsDir state.dir p { state.procs p with pc := next })
    (whole : (state.procs p).pc.isHalfway = true -> next.isHalfway = true ∨ next = .exited)
    (blind : forall proc : Proc, Examined (state.goto p next) { proc with pc := next }) :
    LockInv cfg (state.goto p next) := by
  refine inv.quietly timely owned ?_ (inv.started p) (inv.seen p) (fun _ => blind _)
  rintro d here rfl
  refine ⟨stays, (inv.dirOk d here).born, ?_⟩
  have after : (state.goto d.creator next).pc d.creator = next := by
    rw [LockState.goto, LockState.pc, procs_quietly_self]
  change Resigned state d -> Resigned (state.goto d.creator next) d
  rw [Resigned, Resigned, LockState.isLive, LockState.isLive, after]
  rintro (gone | halfway)
  · have live := isLive_of_ownsLock owns
    rw [LockState.isLive, gone] at live
    cases live
  · rcases whole halfway with still | gone
    · exact Or.inr still
    · rw [gone]
      exact Or.inl rfl

theorem LockInv.trap (inv : LockInv cfg state) {stage : RemoveStage}
    (timely : Timely cfg (state.removeLock p stage .exiting .exited))
    (pc : (state.procs p).pc = .exiting stage) :
    LockInv cfg (state.removeLock p stage .exiting .exited) := by
  have owns : (state.procs p).pc.ownsLock = true := by rw [pc]; rfl
  rcases inv.owns p owns with ⟨d, here, rfl, owned⟩
  rw [OwnedBy, pc] at owned
  cases stage with
  | list =>
      rcases owned with ⟨file, content⟩
      simp only [LockState.removeLock, here, content, reduceCtorEq, if_false] at timely ⊢
      refine inv.own_goto timely owns (Or.inl rfl) ?_ ?_ (fun _ => trivial)
      · intro _
        exact ⟨d, here, rfl, file, content⟩
      · intro halfway
        rw [pc] at halfway
        cases halfway
  | unlink opened =>
      simp only [LockState.removeLock, here] at timely ⊢
      by_cases changes : d.id = opened ∧ d.ownerFile ≠ none
      · simp only [if_pos changes] at timely ⊢
        refine inv.changing timely (fun q other => inv.alone_of_maker here other) ?_ ?_
          (inv.started _) (inv.seen _) (fun _ => trivial)
        · intro _
          exact ⟨_, rfl, rfl, trivial⟩
        · rintro changed ⟨⟩
          refine ⟨Or.inl ?_, ?_, ?_⟩
          · rw [LockState.pc, procs_changing_self]
            rfl
          · rintro file pid ⟨⟩
          · rw [procs_changing_self]
            exact inv.started _
      · simp only [if_neg changes] at timely ⊢
        refine inv.own_goto timely owns (Or.inl rfl) ?_ (fun _ => Or.inl rfl) (fun _ => trivial)
        intro _
        exact ⟨d, here, rfl, trivial⟩
  | rmdir =>
      simp only [LockState.removeLock, here] at timely ⊢
      by_cases changes : d.ownerFile = none
      · simp only [if_pos changes] at timely ⊢
        refine inv.changing timely (fun q other => inv.alone_of_maker here other) ?_ ?_
          (inv.started _) (inv.seen _) (fun _ => trivial)
        · intro stillOwns
          cases stillOwns
        · rintro changed ⟨⟩
      · simp only [if_neg changes] at timely ⊢
        refine inv.own_goto timely owns (Or.inr rfl) ?_ (fun _ => Or.inr rfl) (fun _ => trivial)
        intro stillOwns
        cases stillOwns

end Steps

/-! ## Every step -/

theorem hasPidFile_of_dir {d : LockDir} (here : state.dir = some d) :
    state.hasPidFile = true ↔ d.ownerFile ≠ none := by
  rw [LockState.hasPidFile, here, Option.bind_some, Option.isSome_iff_ne_none]

theorem readPidFile_of_dir {d : LockDir} (here : state.dir = some d) :
    state.readPidFile = d.ownerFile.bind (fun file => file.content) := by
  rw [LockState.readPidFile, here, Option.bind_some]

theorem ownerFile_of_dir {d : LockDir} (here : state.dir = some d) (present : d.ownerFile ≠ none) :
    exists file, d.ownerFile = some ⟨file, state.readPidFile⟩ := by
  rcases Option.ne_none_iff_exists'.mp present with ⟨⟨file, content⟩, stored⟩
  exact ⟨file, by rw [readPidFile_of_dir here, stored, Option.bind_some]⟩

/-- An examination goes on, with what it has just found. -/
theorem LockInv.examines (inv : LockInv cfg state) {p : Pid} {next : Pc}
    (timely : Timely cfg (state.goto p next)) (outside : (state.procs p).pc.isOutside = true)
    (stays : next.ownsLock = false)
    (found : (state.procs p).seen = state.changes ->
      Examined state { state.procs p with pc := next }) : LockInv cfg (state.goto p next) :=
  inv.bystander timely outside stays (inv.started p) (inv.seen p) found

theorem LockInv.act (inv : LockInv cfg state) {p : Pid} (timely : Timely cfg (state.act cfg p))
    (condition : state.removesStale p = true) : LockInv cfg (state.act cfg p) := by
  have known := inv.examined p
  unfold LockState.act at timely ⊢
  unfold Examined at known
  cases pc : (state.procs p).pc <;> simp only [pc] at timely known ⊢
  case notStarted =>
    exact inv.bystander timely (by rw [pc]; rfl) rfl (Nat.le_refl _) (inv.seen p) (fun _ => trivial)
  case mkdirFirst =>
    exact inv.mkdirLock timely (by rw [pc]; rfl) rfl (fun _ => trivial)
  case testDir =>
    refine inv.bystander timely (by rw [pc]; rfl) ?_ (inv.started p) (Nat.le_refl _) ?_
    · cases state.dir <;> rfl
    · intro _
      cases here : state.dir with
      | some d => trivial
      | none =>
          intro d impossible
          rw [here] at impossible
          cases impossible
  case statDir =>
    apply inv.examines timely (by rw [pc]; rfl) rfl
    intro _ d here
    rw [here]
    rfl
  case readClock mtime =>
    apply inv.examines timely (by rw [pc]; rfl) rfl
    intro clean d here
    have same := known clean d here
    subst same
    exact Int.le_refl _
  case testPidFile age =>
    by_cases present : state.hasPidFile = true
    · simp only [if_pos present] at timely ⊢
      apply inv.examines timely (by rw [pc]; rfl) rfl
      intro clean d here
      exact ⟨(hasPidFile_of_dir here).mp present, known clean d here⟩
    · by_cases young : age < cfg.graceS
      · simp only [if_neg present, if_pos young] at timely ⊢
        exact inv.examines timely (by rw [pc]; rfl) rfl (fun _ => trivial)
      · simp only [if_neg present, if_neg young] at timely ⊢
        apply inv.examines timely (by rw [pc]; rfl) rfl
        intro clean d here
        have noPid : d.ownerFile = none := by
          by_contra some
          exact present ((hasPidFile_of_dir here).mpr some)
        have old := known clean d here
        exact inv.resigned_of_no_pid here noPid (by omega)
  case testPidFileAgain age =>
    by_cases present : state.hasPidFile = true
    · simp only [if_pos present] at timely ⊢
      exact inv.examines timely (by rw [pc]; rfl) rfl known
    · simp only [if_neg present] at timely ⊢
      apply inv.examines timely (by rw [pc]; rfl) rfl
      intro clean d here
      exact absurd ((hasPidFile_of_dir here).mpr (known clean d here).1) present
  case readPid age =>
    cases content : state.readPidFile with
    | none =>
        simp only [content] at timely ⊢
        apply inv.examines timely (by rw [pc]; rfl) rfl
        intro clean d here
        rcases ownerFile_of_dir here (known clean d here).1 with ⟨file, stored⟩
        rw [content] at stored
        exact inv.resigned_of_empty_pid here stored
    | some pid =>
        simp only [content] at timely ⊢
        apply inv.examines timely (by rw [pc]; rfl) rfl
        intro clean d here
        rcases ownerFile_of_dir here (known clean d here).1 with ⟨file, stored⟩
        rw [content] at stored
        exact ⟨⟨file, stored⟩, (known clean d here).2⟩
  case killZero age pid =>
    by_cases live : state.isLive pid = true
    · by_cases old : (cfg.maxAgeS : Int) < age
      · simp only [if_pos live, if_pos old] at timely ⊢
        apply inv.examines timely (by rw [pc]; rfl) rfl
        intro clean d here
        have age_le := (known clean d here).2
        exact inv.resigned_of_old here (by omega)
      · simp only [if_pos live, if_neg old] at timely ⊢
        exact inv.examines timely (by rw [pc]; rfl) rfl (fun _ => trivial)
    · simp only [if_neg live] at timely ⊢
      apply inv.examines timely (by rw [pc]; rfl) rfl
      intro clean d here
      rcases (known clean d here).1 with ⟨file, stored⟩
      exact inv.resigned_of_dead_pid here stored (Bool.not_eq_true _ ▸ live)
  case remove stage => exact inv.reclaim timely condition pc
  case mkdirAgain =>
    exact inv.mkdirLock timely (by rw [pc]; rfl) rfl (fun _ => trivial)
  case openPidFile => exact inv.openPidFile timely pc
  case writePidFile file => exact inv.writePidFile timely pc
  case holding =>
    rcases inv.owns p (by rw [pc]; rfl) with ⟨d, here, made, owned⟩
    rw [OwnedBy, pc] at owned
    refine inv.own_goto timely (by rw [pc]; rfl) (Or.inl rfl) ?_ ?_ (fun _ => trivial)
    · intro _
      exact ⟨d, here, made, owned⟩
    · intro halfway
      rw [pc] at halfway
      cases halfway
  case exiting stage => exact inv.trap timely pc
  case exited => exact inv

theorem LockInv.crash (inv : LockInv cfg state) {p : Pid} (timely : Timely cfg (state.crash p)) :
    LockInv cfg (state.crash p) := by
  unfold LockState.crash at timely ⊢
  by_cases live : state.isLive p = true
  · simp only [if_pos live] at timely ⊢
    refine inv.quietly timely ?_ ?_ (inv.started p) (inv.seen p) (fun _ => trivial)
    · intro owns
      cases owns
    · rintro d here rfl
      refine ⟨Or.inr rfl, (inv.dirOk d here).born, fun _ => Or.inl ?_⟩
      rw [LockState.isLive, LockState.pc, procs_quietly_self]
      rfl
  · simp only [if_neg live] at timely ⊢
    exact inv

theorem LockInv.tick (inv : LockInv cfg state) (timely : Timely cfg state.tick) :
    LockInv cfg state.tick where
  timely := timely
  owns := inv.owns
  dirOk := fun d here => ⟨(inv.dirOk d here).stage, (inv.dirOk d here).content,
    (inv.dirOk d here).born⟩
  started := fun p => Nat.le_succ_of_le (inv.started p)
  seen := inv.seen
  examined := by
    intro p clean
    have known := inv.examined p clean
    have older : forall {age : Int} {d : LockDir}, age ≤ (state.now : Int) - d.mtime ->
        age ≤ (state.tick.now : Int) - d.mtime := by
      intro age d young
      have next : state.tick.now = state.now + 1 := rfl
      omega
    change Examined state.tick (state.procs p)
    unfold Examined at known ⊢
    split at known
    · exact known
    · exact fun d here => older (known d here)
    · exact fun d here => ⟨(known d here).1, older (known d here).2⟩
    · exact fun d here => ⟨(known d here).1, older (known d here).2⟩
    · exact fun d here => ⟨(known d here).1, older (known d here).2⟩
    · exact known
    · exact known

theorem step_lockInv (state : LockState) (action : LockAction) (inv : LockInv cfg state)
    (condition : action.Undisturbed cfg state) : LockInv cfg (action.step cfg state) := by
  cases action with
  | tick => exact inv.tick condition.1
  | act p => exact inv.act condition.1 condition.2
  | crash p => exact inv.crash condition.1

/-- In every run whose steps are undisturbed, at most one process at a time is
between its successful `acquire_lock` and the end of its trap. -/
theorem lock_mutual_exclusion (cfg : LockConfig) (now : Nat) (actions : List LockAction)
    (undisturbed : Along (LockAction.step cfg) (LockAction.Undisturbed cfg)
      (LockState.initial now) actions) :
    MutualExclusion (run (LockAction.step cfg) (LockState.initial now) actions) :=
  (invariant_run (LockAction.step cfg) step_lockInv (lockInv_initial cfg now)
    undisturbed).mutualExclusion

/-! ## Runs within one second -/

theorem along_timely_of_no_tick (grace : 0 < cfg.graceS) (start : state.now = 0)
    {actions : List LockAction} (noTick : LockAction.tick ∉ actions) :
    Along (LockAction.step cfg) (fun state action => Timely cfg (action.step cfg state)) state
      actions := by
  induction actions generalizing state with
  | nil => trivial
  | cons action rest ih =>
      rw [List.mem_cons, not_or] at noTick
      have still : (action.step cfg state).now = 0 := by
        cases action with
        | tick => exact absurd rfl noTick.1
        | act p => exact (LockState.now_act cfg state p).trans start
        | crash p =>
            change (state.crash p).now = 0
            unfold LockState.crash
            by_cases live : state.isLive p = true
            · rw [if_pos live]
              exact start
            · rw [if_neg live]
              exact start
      refine ⟨⟨?_, ?_⟩, ih still noTick.2⟩
      · intro p _
        rw [still]
        exact Nat.zero_le _
      · intro p _
        rw [still]
        exact Nat.lt_of_lt_of_le grace (Nat.le_add_left _ _)

/-- The first process takes the lock and is killed. -/
def killedHolder : List LockAction := List.replicate 4 (.act 1) ++ [.crash 1]

/-- A process alone reclaims the lock of the killed one, and a third one that
comes while it holds the lock turns away. -/
theorem lock_mutual_exclusion_reclaimed :
    let actions := killedHolder ++ List.replicate 15 (.act 2) ++ List.replicate 9 (.act 3)
    let after := run (LockAction.step ⟨2, 180⟩) (LockState.initial 0) actions
    (after.pc 2).isInside = true ∧ after.pc 3 = .exited ∧ MutualExclusion after := by
  intro actions after
  refine ⟨by decide +kernel, by decide +kernel, lock_mutual_exclusion ⟨2, 180⟩ 0 actions ?_⟩
  have timely : Along (LockAction.step ⟨2, 180⟩)
      (fun state action => Timely ⟨2, 180⟩ (action.step ⟨2, 180⟩ state)) (LockState.initial 0)
      actions := along_timely_of_no_tick (by decide) rfl (by decide)
  exact timely.and _ (by decide +kernel)

/-- Two processes examine the lock of a killed one.  The first removes it and
takes the lock, then the second removes that lock and takes it too. -/
theorem two_holders :
    let cfg : LockConfig := ⟨2, 180⟩
    let actions := killedHolder ++ List.replicate 9 (.act 2) ++ List.replicate 9 (.act 3) ++
      List.replicate 6 (.act 2) ++ List.replicate 6 (.act 3)
    let after := run (LockAction.step cfg) (LockState.initial 0) actions
    Along (LockAction.step cfg) (fun state action => Timely cfg (action.step cfg state))
        (LockState.initial 0) actions ∧
      after.pc 2 = .holding ∧ after.pc 3 = .holding ∧ ¬ MutualExclusion after := by
  intro cfg actions after
  have second : after.pc 2 = .holding := by decide +kernel
  have third : after.pc 3 = .holding := by decide +kernel
  refine ⟨along_timely_of_no_tick (by decide) rfl (by decide), second, third, ?_⟩
  intro exclusive
  have same := exclusive 2 3 (by rw [second]; rfl) (by rw [third]; rfl)
  cases same

end Watchdog
end HybridDataSvc
