import HybridDataSvc.Transition.Runs
import Mathlib.Logic.Function.Basic

namespace HybridDataSvc
namespace Postgres

open Transition

/-!
# The connection pool of a process

`get_pool` and `close_pool` of `postgres.py`, for any number of threads, one
step at a time.  The pool is tested twice before it is made, once without the
lock; and it is returned by another look at the variable, after the lock has
been given back.
-/

/-- Where a thread is. -/
inductive Pc
  | outside
  -- `get_pool`
  | testFirst
  | acquire
  | testSecond
  | construct
  | store (made : Nat)
  | waitReady
  | leave (raises : Bool)
  | readPool
  | returned (pool : Option Nat)
  | raised
  -- `close_pool`
  | acquireToClose
  | testToClose
  | closePool
  | clear
  | leaveClosed
  deriving DecidableEq, Repr

/-- Between `__enter__` and `__exit__` of the lock. -/
def Pc.isInside : Pc -> Bool
  | .testSecond | .construct | .store _ | .waitReady | .leave _ => true
  | .testToClose | .closePool | .clear | .leaveClosed => true
  | _ => false

/-- In no call. -/
def Pc.isDone : Pc -> Bool
  | .outside | .returned _ | .raised => true
  | _ => false

variable {Thread : Type} [DecidableEq Thread]

/-- The variables of the module, the pools that were made, by their numbers, and the
threads. -/
structure PoolState (Thread : Type) where
  pool : Option Nat
  lock : Option Thread
  made : Nat
  isOpen : Nat -> Bool
  pc : Thread -> Pc

def PoolState.initial : PoolState Thread := ⟨none, none, 0, fun _ => false, fun _ => .outside⟩

/-- A call begins, or a thread goes on; where it makes a pool, or waits for one to be
ready, this may fail. -/
inductive PoolAction (Thread : Type)
  | getPool (t : Thread)
  | closePool (t : Thread)
  | act (t : Thread) (succeeds : Bool)

namespace PoolState

variable (state : PoolState Thread) (t : Thread)

def goto (next : Pc) : PoolState Thread := { state with pc := Function.update state.pc t next }

/-- `__enter__` of the lock, which waits while another thread has it. -/
def enter (next : Pc) : PoolState Thread :=
  match state.lock with
  | none => { state.goto t next with lock := some t }
  | some _ => state

/-- `__exit__` of the lock. -/
def exit (next : Pc) : PoolState Thread := { state.goto t next with lock := none }

/-- One step of a thread. -/
def act (succeeds : Bool) : PoolState Thread :=
  match state.pc t with
  | .testFirst => state.goto t (if state.pool.isSome then .readPool else .acquire)
  | .acquire => state.enter t .testSecond
  | .testSecond => state.goto t (if state.pool.isSome then .leave false else .construct)
  | .construct =>
    if succeeds then
      { state.goto t (.store state.made) with
        made := state.made + 1
        isOpen := Function.update state.isOpen state.made true }
    else state.goto t (.leave true)
  | .store k => { state.goto t .waitReady with pool := some k }
  | .waitReady => state.goto t (.leave (!succeeds))
  | .leave raises => state.exit t (if raises then .raised else .readPool)
  | .readPool => state.goto t (.returned state.pool)
  | .acquireToClose => state.enter t .testToClose
  | .testToClose => state.goto t (if state.pool.isSome then .closePool else .leaveClosed)
  | .closePool =>
    match state.pool with
    | some k => { state.goto t .clear with isOpen := Function.update state.isOpen k false }
    | none => state
  | .clear => { state.goto t .leaveClosed with pool := none }
  | .leaveClosed => state.exit t .outside
  | .outside | .returned _ | .raised => state

/-- `get_pool`, `close_pool`, or a step of one of them. -/
def step : PoolAction Thread -> PoolState Thread
  | .getPool t => if (state.pc t).isDone then state.goto t .testFirst else state
  | .closePool t => if (state.pc t).isDone then state.goto t .acquireToClose else state
  | .act t succeeds => state.act t succeeds

end PoolState

/-! ## What holds at any time -/

/-- What a thread at this place knows of the pools. -/
def Knows (pool : Option Nat) (isOpen : Nat -> Bool) : Pc -> Prop
  | .construct => pool = none
  | .store k => pool = none ∧ isOpen k = true
  | .waitReady => pool ≠ none
  | .closePool => pool ≠ none
  | .clear => forall k, isOpen k ≠ true
  | _ => True

/-- The lock belongs to the thread that is inside, and of the pools that are open one is
in the variable, or is about to be put there. -/
structure PoolInv (state : PoolState Thread) : Prop where
  locked : forall t, (state.pc t).isInside = true ↔ state.lock = some t
  knows : forall t, Knows state.pool state.isOpen (state.pc t)
  fresh : forall k, state.isOpen k = true -> k < state.made
  shown : forall k, state.isOpen k = true -> state.pool = some k ∨ exists t, state.pc t = .store k
  held : forall k, state.pool = some k -> state.isOpen k = true ∨ exists t, state.pc t = .clear

section Update

variable {pc : Thread -> Pc} {t : Thread} {next : Pc}

/-- What holds of the thread that has moved, and of the others, holds of all. -/
theorem forall_update (holds : Thread -> Pc -> Prop) (own : holds t next)
    (others : forall other, other ≠ t -> holds other (pc other)) :
    forall other, holds other (Function.update pc t next other) := by
  intro other
  by_cases same : other = t
  · rw [same, Function.update_self]
    exact own
  · rw [Function.update_of_ne same]
    exact others other same

theorem exists_update {place : Pc} (here : exists other, pc other = place) (left : pc t ≠ place) :
    exists other, Function.update pc t next other = place := by
  rcases here with ⟨other, at_⟩
  have different : other ≠ t := by
    rintro rfl
    exact left at_
  exact ⟨other, (Function.update_of_ne different next pc).trans at_⟩

end Update

theorem knows_of_outside {pool : Option Nat} {isOpen : Nat -> Bool} {pc : Pc}
    (outside : pc.isInside = false) : Knows pool isOpen pc := by
  cases pc with
  | construct | store | waitReady | closePool | clear => cases outside
  | _ => trivial

namespace PoolInv

variable {state : PoolState Thread} {t : Thread}

omit [DecidableEq Thread] in
theorem outside_of_ne (inv : PoolInv state) (inside : (state.pc t).isInside = true) {other : Thread}
    (different : other ≠ t) : (state.pc other).isInside = false := by
  rw [Bool.eq_false_iff]
  intro both
  have first := (inv.locked t).mp inside
  have second := (inv.locked other).mp both
  exact different (Option.some.inj (second.symm.trans first))

/-- Only the thread that is inside may be about to put a pool into the variable. -/
theorem shown_inside (inv : PoolInv state) (inside : (state.pc t).isInside = true) {k : Nat}
    (isOpen : state.isOpen k = true) : state.pool = some k ∨ state.pc t = .store k := by
  rcases inv.shown k isOpen with here | ⟨other, storing⟩
  · exact Or.inl here
  · by_cases same : other = t
    · exact Or.inr (same ▸ storing)
    · have outside := inv.outside_of_ne inside same
      rw [storing] at outside
      cases outside

theorem held_inside (inv : PoolInv state) (inside : (state.pc t).isInside = true) {k : Nat}
    (here : state.pool = some k) : state.isOpen k = true ∨ state.pc t = .clear := by
  rcases inv.held k here with isOpen | ⟨other, clearing⟩
  · exact Or.inl isOpen
  · by_cases same : other = t
    · exact Or.inr (same ▸ clearing)
    · have outside := inv.outside_of_ne inside same
      rw [clearing] at outside
      cases outside

/-- A step of the thread that is inside, and stays there. -/
theorem inside (inv : PoolInv state) (inside : (state.pc t).isInside = true) {next : Pc}
    {pool : Option Nat} {made : Nat} {isOpen : Nat -> Bool} (still : next.isInside = true)
    (knows : Knows pool isOpen next) (fresh : forall k, isOpen k = true -> k < made)
    (shown : forall k, isOpen k = true -> pool = some k ∨ next = .store k)
    (held : forall k, pool = some k -> isOpen k = true ∨ next = .clear) :
    PoolInv ⟨pool, state.lock, made, isOpen, Function.update state.pc t next⟩ where
  locked := by
    refine forall_update (fun other pc => pc.isInside = true ↔ state.lock = some other) ?_ ?_
    · exact ⟨fun _ => (inv.locked t).mp inside, fun _ => still⟩
    · exact fun other _ => inv.locked other
  knows := forall_update (fun _ pc => Knows pool isOpen pc) knows
    (fun _ different => knows_of_outside (inv.outside_of_ne inside different))
  fresh := fresh
  shown := by
    intro k isOpen
    rcases shown k isOpen with here | rfl
    · exact Or.inl here
    · exact Or.inr ⟨t, Function.update_self ..⟩
  held := by
    intro k here
    rcases held k here with isOpen | rfl
    · exact Or.inl isOpen
    · exact Or.inr ⟨t, Function.update_self ..⟩

/-- The thread gives the lock back. -/
theorem exit (inv : PoolInv state) (inside : (state.pc t).isInside = true)
    (stored : forall k, state.pc t ≠ .store k) (cleared : state.pc t ≠ .clear) {next : Pc}
    (outside : next.isInside = false) : PoolInv (state.exit t next) where
  locked := by
    refine forall_update (fun other pc => pc.isInside = true ↔ none = some other) ?_ ?_
    · rw [outside]
      exact ⟨fun held => absurd held Bool.false_ne_true, fun held => by cases held⟩
    · intro other different
      rw [inv.outside_of_ne inside different]
      exact ⟨fun held => absurd held Bool.false_ne_true, fun held => by cases held⟩
  knows := forall_update (fun _ pc => Knows state.pool state.isOpen pc) (knows_of_outside outside)
    (fun _ different => knows_of_outside (inv.outside_of_ne inside different))
  fresh := inv.fresh
  shown := fun k isOpen => Or.inl ((inv.shown_inside inside isOpen).resolve_right (stored k))
  held := fun k here => Or.inl ((inv.held_inside inside here).resolve_right cleared)

/-- A thread that is not inside moves on, and stays out. -/
theorem goto (inv : PoolInv state) (outside : (state.pc t).isInside = false) {next : Pc}
    (still : next.isInside = false) : PoolInv (state.goto t next) where
  locked := by
    refine forall_update (fun other pc => pc.isInside = true ↔ state.lock = some other) ?_
      (fun other _ => inv.locked other)
    have own := inv.locked t
    rw [outside] at own
    rw [still]
    exact own
  knows := forall_update (fun _ pc => Knows state.pool state.isOpen pc) (knows_of_outside still)
    (fun other _ => inv.knows other)
  fresh := inv.fresh
  shown := by
    intro k isOpen
    refine (inv.shown k isOpen).imp id (fun storing => exists_update storing ?_)
    intro here
    rw [here] at outside
    cases outside
  held := by
    intro k here
    refine (inv.held k here).imp id (fun clearing => exists_update clearing ?_)
    intro here
    rw [here] at outside
    cases outside

/-- A thread takes the lock, which is free. -/
theorem enter (inv : PoolInv state) {next : Pc} (inside : next.isInside = true) (knows : Knows state.pool state.isOpen next) :
    PoolInv (state.enter t next) := by
  unfold PoolState.enter
  cases free : state.lock with
  | some other => exact inv
  | none =>
      have nobody : forall other, (state.pc other).isInside = false := by
        intro other
        rw [Bool.eq_false_iff]
        intro held
        have owner := (inv.locked other).mp held
        rw [free] at owner
        cases owner
      have kept : forall place, place.isInside = true -> ¬ exists other, state.pc other = place := by
        rintro place within ⟨other, rfl⟩
        rw [nobody other] at within
        cases within
      exact
        { locked := by
            refine forall_update (fun other pc => pc.isInside = true ↔ some t = some other) ?_ ?_
            · exact ⟨fun _ => rfl, fun _ => inside⟩
            · intro other different
              rw [nobody other]
              exact ⟨fun held => absurd held Bool.false_ne_true,
                fun same => absurd (Option.some.inj same).symm different⟩
          knows := forall_update (fun _ pc => Knows state.pool state.isOpen pc) knows
            (fun other _ => inv.knows other)
          fresh := inv.fresh
          shown := fun k isOpen => Or.inl ((inv.shown k isOpen).resolve_right (kept _ rfl))
          held := fun k here => Or.inl ((inv.held k here).resolve_right (kept _ rfl)) }

/-- A step inside that leaves the pools alone. -/
theorem stay (inv : PoolInv state) (inside : (state.pc t).isInside = true)
    (stored : forall k, state.pc t ≠ .store k) (cleared : state.pc t ≠ .clear) {next : Pc}
    (still : next.isInside = true) (knows : Knows state.pool state.isOpen next) :
    PoolInv (state.goto t next) :=
  inv.inside inside still knows inv.fresh
    (fun k isOpen => Or.inl ((inv.shown_inside inside isOpen).resolve_right (stored k)))
    (fun _ here => Or.inl ((inv.held_inside inside here).resolve_right cleared))

end PoolInv

omit [DecidableEq Thread] in
theorem poolInv_initial : PoolInv (PoolState.initial : PoolState Thread) where
  locked := by
    intro t
    exact ⟨fun held => absurd held Bool.false_ne_true, fun held => by cases held⟩
  knows := fun _ => trivial
  fresh := by
    intro _ isOpen
    cases isOpen
  shown := by
    intro _ isOpen
    cases isOpen
  held := by
    intro _ here
    cases here

/-! ## What the steps do to it -/

namespace PoolInv

variable {state : PoolState Thread} {t : Thread}

/-- `ConnectionPool(...)` returns: nothing was open. -/
theorem construct (inv : PoolInv state) (here : state.pc t = .construct) :
    PoolInv { state.goto t (.store state.made) with
      made := state.made + 1
      isOpen := Function.update state.isOpen state.made true } := by
  have within : (state.pc t).isInside = true := by
    rw [here]
    rfl
  have empty : state.pool = none := by
    have known := inv.knows t
    rw [here] at known
    exact known
  have closed : forall k, state.isOpen k ≠ true := by
    intro k isOpen
    rcases inv.shown_inside within isOpen with shown | storing
    · rw [empty] at shown
      cases shown
    · rw [here] at storing
      cases storing
  have only : forall k, Function.update state.isOpen state.made true k = true -> k = state.made := by
    intro k isOpen
    by_contra different
    rw [Function.update_of_ne different] at isOpen
    exact closed k isOpen
  refine inv.inside within rfl ⟨empty, Function.update_self ..⟩ ?_ ?_ ?_
  · intro k isOpen
    rw [only k isOpen]
    exact Nat.lt_succ_self _
  · intro k isOpen
    exact Or.inr (by rw [only k isOpen])
  · intro k shown
    cases empty.symm.trans shown

/-- `_pool = ...`. -/
theorem store (inv : PoolInv state) {k : Nat} (here : state.pc t = .store k) :
    PoolInv { state.goto t .waitReady with pool := some k } := by
  have within : (state.pc t).isInside = true := by
    rw [here]
    rfl
  have known : state.pool = none ∧ state.isOpen k = true := by
    have known := inv.knows t
    rw [here] at known
    exact known
  refine inv.inside within rfl (by rintro ⟨⟩) inv.fresh ?_ ?_
  · intro other isOpen
    rcases inv.shown_inside within isOpen with shown | storing
    · rw [known.1] at shown
      cases shown
    · rw [here, Pc.store.injEq] at storing
      exact Or.inl (congrArg some storing)
  · intro other shown
    rw [Option.some_inj] at shown
    exact Or.inl (shown ▸ known.2)

/-- `_pool.close()`. -/
theorem close (inv : PoolInv state) (here : state.pc t = .closePool) {k : Nat}
    (shown : state.pool = some k) :
    PoolInv { state.goto t .clear with isOpen := Function.update state.isOpen k false } := by
  have within : (state.pc t).isInside = true := by
    rw [here]
    rfl
  have was : forall other, Function.update state.isOpen k false other = true ->
      state.isOpen other = true := by
    intro other isOpen
    by_cases same : other = k
    · rw [same, Function.update_self] at isOpen
      cases isOpen
    · rwa [Function.update_of_ne same] at isOpen
  refine inv.inside within rfl ?_ ?_ ?_ ?_
  · intro other isOpen
    have there : state.pool = some other := by
      refine (inv.shown_inside within (was other isOpen)).resolve_right ?_
      rw [here]
      intro storing
      cases storing
    rw [shown, Option.some_inj] at there
    rw [there, Function.update_self] at isOpen
    cases isOpen
  · exact fun other isOpen => inv.fresh other (was other isOpen)
  · intro other isOpen
    refine Or.inl ((inv.shown_inside within (was other isOpen)).resolve_right ?_)
    rw [here]
    intro storing
    cases storing
  · exact fun _ _ => Or.inr rfl

/-- `_pool = None`: what was there is closed. -/
theorem clear (inv : PoolInv state) (here : state.pc t = .clear) :
    PoolInv { state.goto t .leaveClosed with pool := none } := by
  have within : (state.pc t).isInside = true := by
    rw [here]
    rfl
  have closed : forall k, state.isOpen k ≠ true := by
    have known := inv.knows t
    rw [here] at known
    exact known
  refine inv.inside within rfl trivial inv.fresh ?_ ?_
  · exact fun k isOpen => absurd isOpen (closed k)
  · intro k shown
    cases shown

/-- A step of a thread keeps the invariant. -/
theorem act (inv : PoolInv state) (t : Thread) (succeeds : Bool) :
    PoolInv (state.act t succeeds) := by
  have moves : forall {pc next : Pc}, state.pc t = pc -> pc.isInside = false ->
      next.isInside = false -> PoolInv (state.goto t next) := by
    intro pc next here outside still
    exact inv.goto (here ▸ outside) still
  have stays : forall {pc next : Pc}, state.pc t = pc -> pc.isInside = true ->
      (forall k, pc ≠ .store k) -> pc ≠ .clear -> next.isInside = true ->
      Knows state.pool state.isOpen next -> PoolInv (state.goto t next) := by
    intro pc next here inside stored cleared still knows
    subst here
    exact inv.stay inside stored cleared still knows
  unfold PoolState.act
  cases here : state.pc t with
  | outside => exact inv
  | testFirst =>
      refine moves here rfl ?_
      split <;> rfl
  | acquire => exact inv.enter rfl trivial
  | testSecond =>
      cases shown : state.pool with
      | none => exact stays here rfl (by intro k h; cases h) (by intro h; cases h) rfl shown
      | some k => exact stays here rfl (by intro k h; cases h) (by intro h; cases h) rfl trivial
  | construct =>
      cases succeeds with
      | true => exact inv.construct here
      | false => exact stays here rfl (by intro k h; cases h) (by intro h; cases h) rfl trivial
  | store k => exact inv.store here
  | waitReady => exact stays here rfl (by intro k h; cases h) (by intro h; cases h) rfl trivial
  | leave raises =>
      refine inv.exit ?_ ?_ ?_ ?_
      · rw [here]
        rfl
      · rw [here]
        intro k h
        cases h
      · rw [here]
        intro h
        cases h
      · split <;> rfl
  | readPool => exact moves here rfl rfl
  | returned pool => exact inv
  | raised => exact inv
  | acquireToClose => exact inv.enter rfl trivial
  | testToClose =>
      cases shown : state.pool with
      | none => exact stays here rfl (by intro k h; cases h) (by intro h; cases h) rfl trivial
      | some k =>
          exact stays here rfl (by intro k h; cases h) (by intro h; cases h) rfl
            (by rw [shown]; intro h; cases h)
  | closePool =>
      cases shown : state.pool with
      | none => exact inv
      | some k => exact inv.close here shown
  | clear => exact inv.clear here
  | leaveClosed =>
      refine inv.exit ?_ ?_ ?_ rfl
      · rw [here]
        rfl
      · rw [here]
        intro k h
        cases h
      · rw [here]
        intro h
        cases h

theorem step (inv : PoolInv state) (action : PoolAction Thread) : PoolInv (state.step action) := by
  have begins : forall t next, (state.pc t).isDone = true -> next.isInside = false ->
      PoolInv (state.goto t next) := by
    intro t next done still
    refine inv.goto ?_ still
    cases here : state.pc t with
    | outside | returned | raised => rfl
    | _ =>
        rw [here] at done
        cases done
  cases action with
  | getPool t =>
      show PoolInv (if (state.pc t).isDone then state.goto t .testFirst else state)
      split
      · next done => exact begins t _ done rfl
      · exact inv
  | closePool t =>
      show PoolInv (if (state.pc t).isDone then state.goto t .acquireToClose else state)
      split
      · next done => exact begins t _ done rfl
      · exact inv
  | act t succeeds => exact inv.act t succeeds

omit [DecidableEq Thread] in
/-- No two pools are open at a time. -/
theorem open_unique (inv : PoolInv state) {j k : Nat} (first : state.isOpen j = true)
    (second : state.isOpen k = true) : j = k := by
  have apart : forall {k other : Nat}, state.pool = some k ->
      (exists t, state.pc t = .store other) -> False := by
    rintro k other here ⟨t, storing⟩
    have known := inv.knows t
    rw [storing] at known
    cases here.symm.trans known.1
  rcases inv.shown j first with here | ⟨t, storing⟩
  · rcases inv.shown k second with there | storing
    · exact Option.some.inj (here.symm.trans there)
    · exact (apart here storing).elim
  · rcases inv.shown k second with there | ⟨other, alsoStoring⟩
    · exact (apart there ⟨t, storing⟩).elim
    · have own : state.lock = some t := (inv.locked t).mp (by rw [storing]; rfl)
      have others : state.lock = some other := (inv.locked other).mp (by rw [alsoStoring]; rfl)
      have same : t = other := Option.some.inj (own.symm.trans others)
      subst same
      exact Pc.store.inj (storing.symm.trans alsoStoring)

end PoolInv

theorem poolInv_run (actions : List (PoolAction Thread)) :
    PoolInv (run PoolState.step PoolState.initial actions) :=
  invariant_run_always PoolState.step (fun _ action inv => inv.step action) poolInv_initial actions

/-- Whatever calls are made and wherever they fail, one pool is open at most, and none is
lost: the next caller finds it in the variable, or it is being put there. -/
theorem one_pool_open (actions : List (PoolAction Thread)) :
    (forall j k, (run PoolState.step PoolState.initial actions).isOpen j = true ->
      (run PoolState.step PoolState.initial actions).isOpen k = true -> j = k) ∧
    forall k, (run PoolState.step PoolState.initial actions).isOpen k = true ->
      (run PoolState.step PoolState.initial actions).pool = some k ∨
      exists t, (run PoolState.step PoolState.initial actions).lock = some t ∧
        (run PoolState.step PoolState.initial actions).pc t = .store k := by
  have inv : PoolInv (run PoolState.step PoolState.initial actions) := poolInv_run actions
  constructor
  · exact fun _ _ => inv.open_unique
  · intro k isOpen
    refine (inv.shown k isOpen).imp id ?_
    rintro ⟨t, storing⟩
    refine ⟨t, (inv.locked t).mp ?_, storing⟩
    rw [storing]
    rfl

/-! ## While the pool is not closed -/

/-- What a thread has seen of the only pool. -/
def Served (pool : Option Nat) : Pc -> Prop
  | .readPool => pool ≠ none
  | .waitReady => pool ≠ none
  | .leave false => pool ≠ none
  | .returned found => found = some 0
  | .acquireToClose | .testToClose | .closePool | .clear | .leaveClosed => False
  | _ => True

/-- One pool was made at most, and nobody closes it. -/
structure Unclosed (state : PoolState Thread) : Prop where
  inv : PoolInv state
  served : forall t, Served state.pool (state.pc t)
  only : state.made = 0 ∨ state.made = 1 ∧ state.isOpen 0 = true

/-- Every action but the call of `close_pool`. -/
def PoolAction.IsNotClose : PoolAction Thread -> Prop
  | .closePool _ => False
  | _ => True

omit [DecidableEq Thread] in
theorem Served.of_set {pool later : Option Nat} {pc : Pc} (served : Served pool pc)
    (kept : pool ≠ none -> later ≠ none) : Served later pc := by
  cases pc with
  | readPool | waitReady => exact kept served
  | leave raises =>
      cases raises with
      | true => trivial
      | false => exact kept served
  | returned | acquireToClose | testToClose | closePool | clear | leaveClosed => exact served
  | _ => trivial

namespace Unclosed

variable {state : PoolState Thread} {t : Thread}

omit [DecidableEq Thread] in
/-- The variable can only hold the first pool. -/
theorem pool_eq (unclosed : Unclosed state) {k : Nat} (here : state.pool = some k) : k = 0 := by
  rcases unclosed.inv.held k here with isOpen | ⟨t, clearing⟩
  · have fresh := unclosed.inv.fresh k isOpen
    rcases unclosed.only with none_ | ⟨one, _⟩ <;> omega
  · have served := unclosed.served t
    rw [clearing] at served
    exact served.elim

/-- The thread moves on, and the variable stays as it is. -/
theorem goto (unclosed : Unclosed state) {next : Pc} {lock : Option Thread}
    (inv : PoolInv { state.goto t next with lock := lock }) (served : Served state.pool next) :
    Unclosed { state.goto t next with lock := lock } where
  inv := inv
  served := forall_update (fun _ pc => Served state.pool pc) served
    (fun other _ => unclosed.served other)
  only := unclosed.only

/-- Nothing was made where the variable is empty and a thread makes the pool. -/
theorem construct (unclosed : Unclosed state) (here : state.pc t = .construct) :
    Unclosed { state.goto t (.store state.made) with
      made := state.made + 1
      isOpen := Function.update state.isOpen state.made true } := by
  have known := unclosed.inv.knows t
  rw [here] at known
  have nothing : state.made = 0 := by
    refine unclosed.only.resolve_right ?_
    rintro ⟨_, isOpen⟩
    rcases unclosed.inv.shown_inside (t := t) (by rw [here]; rfl) isOpen with shown | storing
    · cases known.symm.trans shown
    · rw [here] at storing
      cases storing
  exact
    { inv := unclosed.inv.construct here
      served := forall_update (fun _ pc => Served state.pool pc) trivial
        (fun other _ => unclosed.served other)
      only := by
        refine Or.inr ⟨congrArg (· + 1) nothing, ?_⟩
        show Function.update state.isOpen state.made true 0 = true
        rw [nothing]
        exact Function.update_self .. }

theorem store (unclosed : Unclosed state) {k : Nat} (here : state.pc t = .store k) :
    Unclosed { state.goto t .waitReady with pool := some k } where
  inv := unclosed.inv.store here
  served := forall_update (fun _ pc => Served (some k) pc) (Option.some_ne_none k)
    (fun other _ => (unclosed.served other).of_set (fun _ => Option.some_ne_none k))
  only := unclosed.only

theorem act (unclosed : Unclosed state) (t : Thread) (succeeds : Bool) :
    Unclosed (state.act t succeeds) := by
  have inv := unclosed.inv.act t succeeds
  have served := unclosed.served t
  unfold PoolState.act at inv ⊢
  cases here : state.pc t with
  | outside | returned | raised => exact unclosed
  | acquireToClose | testToClose | closePool | clear | leaveClosed =>
      rw [here] at served
      exact served.elim
  | testFirst =>
      rw [here] at inv
      refine unclosed.goto inv ?_
      cases state.pool with
      | none => trivial
      | some k => exact Option.some_ne_none k
  | acquire =>
      rw [here] at inv
      unfold PoolState.enter at inv ⊢
      cases free : state.lock with
      | none =>
          rw [free] at inv
          exact unclosed.goto inv trivial
      | some other => exact unclosed
  | testSecond =>
      rw [here] at inv
      refine unclosed.goto inv ?_
      cases state.pool with
      | none => trivial
      | some k => exact Option.some_ne_none k
  | construct =>
      cases succeeds with
      | true => exact unclosed.construct here
      | false =>
          rw [here] at inv
          exact unclosed.goto inv trivial
  | store k => exact unclosed.store here
  | waitReady =>
      rw [here] at inv served
      refine unclosed.goto inv ?_
      cases succeeds with
      | true => exact served
      | false => trivial
  | leave raises =>
      rw [here] at inv served
      refine unclosed.goto inv ?_
      cases raises with
      | true => trivial
      | false => exact served
  | readPool =>
      rw [here] at inv served
      refine unclosed.goto inv ?_
      cases shown : state.pool with
      | none => exact absurd shown served
      | some k => exact congrArg some (unclosed.pool_eq shown)

theorem step (unclosed : Unclosed state) {action : PoolAction Thread} (keeps : action.IsNotClose) :
    Unclosed (state.step action) := by
  cases action with
  | getPool t =>
      have inv := unclosed.inv.step (.getPool t)
      change PoolInv (if (state.pc t).isDone then state.goto t .testFirst else state) at inv
      show Unclosed (if (state.pc t).isDone then state.goto t .testFirst else state)
      split
      · next done =>
          rw [if_pos done] at inv
          exact unclosed.goto inv trivial
      · exact unclosed
  | closePool t => exact keeps.elim
  | act t succeeds => exact unclosed.act t succeeds

end Unclosed

omit [DecidableEq Thread] in
theorem unclosed_initial : Unclosed (PoolState.initial : PoolState Thread) where
  inv := poolInv_initial
  served := fun _ => trivial
  only := Or.inl rfl

/-- While nobody calls `close_pool`, one pool is made at most, and every call of `get_pool`
that returns has it. -/
theorem same_pool_for_all {actions : List (PoolAction Thread)}
    (keeps : forall action, action ∈ actions -> action.IsNotClose) :
    (run PoolState.step PoolState.initial actions).made ≤ 1 ∧
      forall t pool, (run PoolState.step PoolState.initial actions).pc t = .returned pool ->
        pool = some 0 := by
  have unclosed : Unclosed (run PoolState.step PoolState.initial actions) :=
    invariant_run PoolState.step (fun _ _ unclosed keeps => unclosed.step keeps) unclosed_initial
      (along_of_forall PoolState.step keeps)
  constructor
  · rcases unclosed.only with nothing | ⟨one, _⟩ <;> omega
  · intro t pool returned
    have served := unclosed.served t
    rw [returned] at served
    exact served

/-- Both threads see that there is no pool; the second one waits for the lock. -/
def twoCallers : List (PoolAction Bool) :=
  [.getPool false, .getPool true, .act false true, .act true true, .act false true, .act true true,
    .act false true, .act false true, .act true true, .act false true, .act false false,
    .act true true, .act false true, .act true true, .act true true, .act true true,
    .act true true]

theorem same_pool_for_all_twoCallers :
    (run PoolState.step PoolState.initial twoCallers).pc false = .raised ∧
      (run PoolState.step PoolState.initial twoCallers).pc true = .returned (some 0) ∧
      (run PoolState.step PoolState.initial twoCallers).made ≤ 1 ∧
      forall t pool, (run PoolState.step PoolState.initial twoCallers).pc t = .returned pool ->
        pool = some 0 := by
  have keeps : forall action, action ∈ twoCallers -> action.IsNotClose := by
    intro action member
    cases action with
    | closePool t =>
        simp only [twoCallers, List.mem_cons, reduceCtorEq, List.not_mem_nil, or_self] at member
    | getPool | act => trivial
  exact ⟨by decide, by decide, same_pool_for_all keeps⟩

-- the variable is read once more after the lock: a `close_pool` between the two leaves `None`
example :
    (run PoolState.step PoolState.initial
      [.getPool true, .act true true, .act true true, .act true true, .act true true,
        .act true true, .act true true, .act true true, .closePool false, .act false true,
        .act false true, .act false true, .act false true, .act true true]).pc true =
      .returned none := by
  decide

end Postgres
end HybridDataSvc
