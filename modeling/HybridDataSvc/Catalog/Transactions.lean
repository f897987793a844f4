import HybridDataSvc.Catalog.Onboarding
import HybridDataSvc.Transaction.Deadlock
import Mathlib.Logic.Function.Basic

namespace HybridDataSvc

open Relational AssetsRepo AssetServiceServicer Transition Deadlock

/-!
# Concurrent creates, statement by statement

`create_with_feeds` of any number of requests under READ COMMITTED.  A
transaction looks for the asset with `SELECT ... FOR UPDATE`, inserts the asset,
inserts its feeds one after the other and commits.  A statement sees what has
been committed and what its own transaction has written.

The select of a row that nobody has committed locks nothing.  An insert waits
for another transaction that has inserted the key and has not yet ended; then
the insert of an asset fails if the key is taken and the insert of a feed does
nothing.  A transaction in a circle of waiting ones may be aborted.
-/

/-- A valid request, and the clock its transaction reads.  A request with a NUL in one
of its texts is valid too; its first statement fails, which is not modelled here. -/
structure CreateCall where
  request : CreateAssetRequest
  now : Int
  valid : validationError request.asset = none

namespace CreateCall

def symbol (call : CreateCall) : String := call.request.asset.symbol

def storageSymbol (call : CreateCall) : String := call.request.asset.storageSymbol

def timeframes (call : CreateCall) : List String := requestedTimeframes call.request

/-- The row of `assets` that the call inserts. -/
def record (call : CreateCall) : AssetRecord := createdAsset call.now call.request

/-- The row of `feeds` that the call inserts for a timeframe. -/
def feed (call : CreateCall) (timeframe : String) : FeedRecord :=
  pendingFeed call.now call.storageSymbol (requestedTvSymbol call.request) timeframe

/-- The answer to a fresh insert. -/
def freshResponse (call : CreateCall) : CreateAssetResponse where
  assetWithStatus := freshAnswer call.now call.request
  created := true
  pollEtaSeconds := pollEtaSeconds

@[simp] theorem key_record (call : CreateCall) : call.record.key = call.symbol := rfl

@[simp] theorem key_feed (call : CreateCall) (timeframe : String) :
    (call.feed timeframe).key = (call.storageSymbol, timeframe) := rfl

end CreateCall

/-- The database after the commit of a call that has written its asset and
some feeds. -/
def committed {F : Type} (call : CreateCall) (written : List FeedRecord) (db : Database F) :
    Database F :=
  { db with
    assets := db.assets.insertNew call.record
    feeds := db.feeds.insertNewAll written }

/-- How far a call has come.  Before its select it may not have arrived yet. -/
inductive CreatePhase
  | selecting
  -- the select has found the row and locked it
  | found (row : AssetRecord)
  -- the select has found nothing
  | absent
  -- the asset is inserted, and of the feeds those that are written
  | inserting (written : List FeedRecord) (pending : List String)
  -- the transaction has ended and the row is read again
  | rereading (symbol : String)
  | answered (answer : Except GrpcError CreateAssetResponse)
  deriving DecidableEq

/-- What transactions wait for: the lock of a committed row, and the end of a
transaction that has inserted a key. -/
inductive CreateLock
  | row (symbol : String)
  | asset (symbol : String)
  | feed (key : String × String)
  deriving DecidableEq, Repr

/-- The committed database and the calls. -/
structure CreateState (F : Type) (n : Nat) where
  db : Database F
  phase : Fin n -> CreatePhase

inductive CreateAction (n : Nat)
  | next (p : Fin n)
  | abort (p : Fin n) (others : List (Fin n))
  deriving DecidableEq, Repr

section Model

variable {F : Type} {n : Nat} (calls : Fin n -> CreateCall)

namespace CreateState

def initial (db : Database F) : CreateState F n := ⟨db, fun _ => .selecting⟩

def setPhase (state : CreateState F n) (p : Fin n) (phase : CreatePhase) : CreateState F n :=
  { state with phase := Function.update state.phase p phase }

/-- The commit of a call that has written its asset and some feeds. -/
def commit (state : CreateState F n) (p : Fin n) (written : List FeedRecord) : CreateState F n where
  db := committed (calls p) written state.db
  phase := Function.update state.phase p (.answered (.ok (calls p).freshResponse))

/-- Rows under the key that the transaction has written. -/
def hasWritten (written : List FeedRecord) (key : String × String) : Bool :=
  written.any (fun row => decide (row.key = key))

/-- What the next statement of a call needs. -/
def wants (state : CreateState F n) (p : Fin n) : Option CreateLock :=
  match state.phase p with
  | .selecting =>
    if (state.db.assets.lookup (calls p).symbol).isSome then some (.row (calls p).symbol) else none
  | .absent =>
    if (state.db.assets.lookup (calls p).symbol).isSome then none
    else some (.asset (calls p).symbol)
  | .inserting written (timeframe :: _) =>
    let key := ((calls p).storageSymbol, timeframe)
    if (state.db.feeds.lookup key).isSome || hasWritten written key then none
    else some (.feed key)
  | _ => none

/-- What the open transaction of a call holds. -/
def holds (state : CreateState F n) (p : Fin n) (lock : CreateLock) : Bool :=
  match state.phase p, lock with
  | .found _, .row symbol => decide (symbol = (calls p).symbol)
  | .inserting _ _, .asset symbol => decide (symbol = (calls p).symbol)
  | .inserting written _, .feed key => hasWritten written key
  | _, _ => false

/-- The next statement of the first call has to wait for the second one. -/
def waits (state : CreateState F n) : Fin n -> Fin n -> Bool :=
  waitsFor (state.wants calls) (state.holds calls)

def isBlocked (state : CreateState F n) (p : Fin n) : Bool :=
  (List.finRange n).any (fun q => state.waits calls p q)

/-- The answer to an exception in the repository. -/
def internalError : CreatePhase := .answered (.error (.internal "internal error creating asset"))

/-- The next statement of a call that need not wait. -/
def advance (state : CreateState F n) (p : Fin n) : CreateState F n :=
  let call := calls p
  match state.phase p with
  | .selecting =>
    match state.db.assets.lookup call.symbol with
    | some row => state.setPhase p (.found row)
    | none => state.setPhase p .absent
  | .found row => state.setPhase p (.rereading row.symbol)
  | .absent =>
    match state.db.assets.lookup call.symbol with
    -- the key was committed since the select
    | some _ => state.setPhase p internalError
    | none => state.setPhase p (.inserting [] call.timeframes)
  | .inserting written (timeframe :: rest) =>
    let key := (call.storageSymbol, timeframe)
    if (state.db.feeds.lookup key).isSome || hasWritten written key then
      state.setPhase p (.inserting written rest)
    else state.setPhase p (.inserting (written ++ [call.feed timeframe]) rest)
  | .inserting written [] => state.commit calls p written
  | .rereading symbol =>
    match getWithStatus state.db symbol with
    | none => state.setPhase p (.answered (.error (.internal "inconsistent catalog state")))
    | some row =>
      state.setPhase p (.answered (.ok
        { assetWithStatus := rowToAssetWithStatusMessage row, created := false,
          pollEtaSeconds := pollEtaSeconds }))
  | .answered _ => state

/-- A step: the next statement of a call, or the abort of a call in a circle
with the others that are named. -/
def step (state : CreateState F n) : CreateAction n -> CreateState F n
  | .next p => if state.isBlocked calls p then state else state.advance calls p
  | .abort p others =>
    if isCycle (state.waits calls) p others then state.setPhase p internalError else state

/-- The call has found its symbol missing and has not ended. -/
def hasSeenAbsent (state : CreateState F n) (p : Fin n) : Bool :=
  match state.phase p with
  | .absent => true
  | .inserting _ _ => true
  | _ => false

end CreateState

/-! ## What a step can do -/

/-- What the next statement of a call does when it need not wait. -/
inductive Advances (state : CreateState F n) (p : Fin n) : CreateState F n -> Prop
  | find {row : AssetRecord} (phase : state.phase p = .selecting)
      (present : state.db.assets.lookup (calls p).symbol = some row) :
      Advances state p (state.setPhase p (.found row))
  | miss (phase : state.phase p = .selecting)
      (missing : state.db.assets.lookup (calls p).symbol = none) :
      Advances state p (state.setPhase p .absent)
  | release {row : AssetRecord} (phase : state.phase p = .found row) :
      Advances state p (state.setPhase p (.rereading row.symbol))
  | clash {row : AssetRecord} (phase : state.phase p = .absent)
      (present : state.db.assets.lookup (calls p).symbol = some row) :
      Advances state p (state.setPhase p CreateState.internalError)
  | insertAsset (phase : state.phase p = .absent)
      (missing : state.db.assets.lookup (calls p).symbol = none) :
      Advances state p (state.setPhase p (.inserting [] (calls p).timeframes))
  | skipFeed {written : List FeedRecord} {timeframe : String} {rest : List String}
      (phase : state.phase p = .inserting written (timeframe :: rest))
      (taken : (state.db.feeds.lookup ((calls p).storageSymbol, timeframe)).isSome = true ∨
        CreateState.hasWritten written ((calls p).storageSymbol, timeframe) = true) :
      Advances state p (state.setPhase p (.inserting written rest))
  | insertFeed {written : List FeedRecord} {timeframe : String} {rest : List String}
      (phase : state.phase p = .inserting written (timeframe :: rest))
      (missing : state.db.feeds.lookup ((calls p).storageSymbol, timeframe) = none)
      (unwritten : CreateState.hasWritten written ((calls p).storageSymbol, timeframe) = false) :
      Advances state p
        (state.setPhase p (.inserting (written ++ [(calls p).feed timeframe]) rest))
  | commit {written : List FeedRecord} (phase : state.phase p = .inserting written []) :
      Advances state p (state.commit calls p written)
  | vanished {symbol : String} (phase : state.phase p = .rereading symbol)
      (missing : getWithStatus state.db symbol = none) :
      Advances state p
        (state.setPhase p (.answered (.error (.internal "inconsistent catalog state"))))
  | reread {symbol : String} {row : AssetWithStatusRow} (phase : state.phase p = .rereading symbol)
      (present : getWithStatus state.db symbol = some row) :
      Advances state p (state.setPhase p (.answered (.ok
        { assetWithStatus := rowToAssetWithStatusMessage row, created := false,
          pollEtaSeconds := pollEtaSeconds })))

/-- A call that has no answer yet goes on when it waits for nobody. -/
theorem CreateState.advances_of_free {state : CreateState F n} {p : Fin n}
    (free : forall q, state.waits calls p q = false)
    (unanswered : forall answer, state.phase p ≠ .answered answer) :
    Advances calls state p (state.step calls (.next p)) := by
  have unblocked : state.isBlocked calls p ≠ true := by
    intro blocked
    rcases List.any_eq_true.mp blocked with ⟨q, -, waiting⟩
    rw [free q] at waiting
    cases waiting
  have stepped : state.step calls (.next p) = state.advance calls p := if_neg unblocked
  rw [stepped]
  cases phase : state.phase p with
  | answered answer => exact absurd phase (unanswered answer)
  | selecting =>
      cases present : state.db.assets.lookup (calls p).symbol with
      | some row => simpa [advance, phase, present] using Advances.find phase present
      | none => simpa [advance, phase, present] using Advances.miss phase present
  | found row => simpa [advance, phase] using Advances.release phase
  | absent =>
      cases present : state.db.assets.lookup (calls p).symbol with
      | some row => simpa [advance, phase, present] using Advances.clash phase present
      | none => simpa [advance, phase, present] using Advances.insertAsset phase present
  | rereading symbol =>
      cases present : getWithStatus state.db symbol with
      | some row => simpa [advance, phase, present] using Advances.reread phase present
      | none => simpa [advance, phase, present] using Advances.vanished phase present
  | inserting written pending =>
      cases pending with
      | nil => simpa [advance, phase] using Advances.commit phase
      | cons timeframe rest =>
          cases stored : state.db.feeds.lookup ((calls p).storageSymbol, timeframe) with
          | some row =>
              simpa [advance, phase, stored] using
                Advances.skipFeed phase (Or.inl (by simp [stored]))
          | none =>
              cases own : hasWritten written ((calls p).storageSymbol, timeframe) with
              | true =>
                  simpa [advance, phase, stored, own] using
                    Advances.skipFeed phase (Or.inr own)
              | false =>
                  simpa [advance, phase, stored, own] using
                    Advances.insertFeed phase stored own

/-- A step does nothing, or it is the next statement of a call that waits for
nobody, or it aborts a call in a circle. -/
theorem CreateState.step_cases (state : CreateState F n) (action : CreateAction n) :
    state.step calls action = state ∨
      (exists p, action = .next p ∧ (forall q, state.waits calls p q = false) ∧
        Advances calls state p (state.step calls action)) ∨
      exists p others, action = .abort p others ∧
        isCycle (state.waits calls) p others = true ∧
        state.step calls action = state.setPhase p internalError := by
  cases action with
  | abort p others =>
      unfold step
      by_cases circle : isCycle (state.waits calls) p others = true
      · exact Or.inr (Or.inr ⟨p, others, rfl, circle, if_pos circle⟩)
      · exact Or.inl (if_neg circle)
  | next p =>
      by_cases free : forall q, state.waits calls p q = false
      · by_cases answered : exists answer, state.phase p = .answered answer
        · rcases answered with ⟨answer, answered⟩
          exact Or.inl (by simp [step, advance, answered])
        · exact Or.inr (Or.inl ⟨p, rfl, free, advances_of_free calls free
            (fun answer known => answered ⟨answer, known⟩)⟩)
      · rcases not_forall.mp free with ⟨q, waiting⟩
        have blocked : state.isBlocked calls p = true :=
          List.any_eq_true.mpr ⟨q, List.mem_finRange q, eq_true_of_ne_false waiting⟩
        exact Or.inl (if_pos blocked)

end Model

end HybridDataSvc
