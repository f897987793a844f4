import HybridDataSvc.Relational.Statements

namespace Relational

universe u v

/-!
# Programs over one connection

A program talks to the database through a connection with one transaction.
What a call changes is seen by the later calls and by nobody else until it is
committed; a program that raises leaves what was committed.  The connection
may be lost at any call, also in a commit, which then may have taken effect or
not.
-/

/-- A connection with its open transaction. -/
structure Session (Store : Type u) where
  committed : Store
  working : Store
  /-- The calls that are answered before the connection is lost, if it is. -/
  remaining : Option Nat
  /-- Whether a commit in which the connection is lost takes effect. -/
  commitStands : Bool

/-- What a program returns or raises, and the connection it leaves. -/
def Db (Store : Type u) (Error : Type v) (Value : Type) : Type (max u v) :=
  Session Store -> Except Error Value × Session Store

namespace Session

variable {Store : Type u}

/-- A new connection. -/
def open_ (store : Store) (remaining : Option Nat) (commitStands : Bool) : Session Store :=
  ⟨store, store, remaining, commitStands⟩

def answered (session : Session Store) : Session Store :=
  { session with remaining := session.remaining.map Nat.pred }

def write (session : Session Store) (store : Store) : Session Store :=
  { session.answered with working := store }

/-- The working copy becomes the committed one. -/
def keepWorking (session : Session Store) : Session Store :=
  { session.answered with committed := session.working }

def rollback (session : Session Store) : Session Store :=
  { session with working := session.committed }

/-- A condition on what is committed and on what the transaction sees. -/
def Both (condition : Store -> Prop) (session : Session Store) : Prop :=
  condition session.committed ∧ condition session.working

end Session

namespace Db

variable {Store : Type u} {Error : Type v} {Value Next : Type}

protected def pure (value : Value) : Db Store Error Value := fun session => (.ok value, session)

protected def bind (action : Db Store Error Value) (next : Value -> Db Store Error Next) :
    Db Store Error Next := fun session =>
  match action session with
  | (.error raised, after) => (.error raised, after)
  | (.ok value, after) => next value after

instance : Monad (Db Store Error) where
  pure := Db.pure
  bind := Db.bind

/-- A statement, on what the transaction sees. -/
def call (lost : Error) (effect : Store -> Except Error (Value × Store)) :
    Db Store Error Value := fun session =>
  if session.remaining = some 0 then (.error lost, session)
  else
    match effect session.working with
    | .error raised => (.error raised, session.answered)
    | .ok (value, store) => (.ok value, session.write store)

/-- `commit`. -/
def commit (lost : Error) : Db Store Error Unit := fun session =>
  if session.remaining = some 0 then
    (.error lost, if session.commitStands then session.keepWorking else session)
  else (.ok (), session.keepWorking)

/-- A connection as a context: committed at its end, rolled back when the block raises. -/
def connection (lost : Error) (block : Db Store Error Value) : Db Store Error Value :=
  fun session =>
    match block session with
    | (.error raised, after) => (.error raised, after.rollback)
    | (.ok value, after) =>
      match commit lost after with
      | (.error raised, last) => (.error raised, last.rollback)
      | (.ok _, last) => (.ok value, last)

/-! ## What every call keeps -/

section Keeps

variable {condition : Store -> Prop}

/-- A program that keeps a condition, whether it returns or raises. -/
def Keeps (condition : Store -> Prop) (action : Db Store Error Value) : Prop :=
  forall session, session.Both condition -> (action session).2.Both condition

theorem keeps_pure (value : Value) :
    Keeps condition (pure value : Db Store Error Value) :=
  fun _ holds => holds

theorem keeps_bind {action : Db Store Error Value} {next : Value -> Db Store Error Next}
    (first : Keeps condition action) (second : forall value, Keeps condition (next value)) :
    Keeps condition (action >>= next) := by
  intro session holds
  have after := first session holds
  change (Db.bind action next session).2.Both condition
  unfold Db.bind
  rcases result : action session with ⟨raised | value, reached⟩
  · rw [result] at after
    exact after
  · rw [result] at after
    exact second value reached after

theorem keeps_call {lost : Error} {effect : Store -> Except Error (Value × Store)}
    (kept : forall store, condition store -> forall value after,
      effect store = .ok (value, after) -> condition after) :
    Keeps condition (call lost effect) := by
  intro session holds
  unfold call
  split
  · exact holds
  · cases done : effect session.working with
    | error raised => exact holds
    | ok result => exact ⟨holds.1, kept session.working holds.2 result.1 result.2 done⟩

theorem keeps_commit (lost : Error) :
    Keeps condition (commit lost : Db Store Error Unit) := by
  intro session holds
  unfold commit
  split
  · dsimp only
    split
    · exact ⟨holds.2, holds.2⟩
    · exact holds
  · exact ⟨holds.2, holds.2⟩

theorem keeps_connection {lost : Error} {block : Db Store Error Value}
    (kept : Keeps condition block) : Keeps condition (connection lost block) := by
  intro session holds
  have after := kept session holds
  unfold connection
  rcases result : block session with ⟨raised | value, reached⟩
  · rw [result] at after
    exact ⟨after.1, after.1⟩
  · rw [result] at after
    have last := keeps_commit lost reached after
    rcases ended : (commit lost reached : Except Error Unit × Session Store) with
      ⟨raised | _, final⟩
    · rw [ended] at last
      simp only [ended]
      exact ⟨last.1, last.1⟩
    · rw [ended] at last
      simp only [ended]
      exact last

end Keeps

/-! ## What a program does -/

section Outcome

/-- The program raises. -/
def Raises (action : Db Store Error Value) (session : Session Store) : Prop :=
  exists raised, (action session).1 = .error raised

theorem raises_bind {action : Db Store Error Value} {next : Value -> Db Store Error Next}
    {session : Session Store}
    (later : forall value after, action session = (.ok value, after) -> Raises (next value) after) :
    Raises (action >>= next) session := by
  change Raises (Db.bind action next) session
  unfold Raises Db.bind
  rcases result : action session with ⟨raised | value, after⟩
  · exact ⟨raised, rfl⟩
  · exact later value after result

theorem Raises.ne_ok {action : Db Store Error Value} {session after : Session Store} {value : Value}
    (raises : Raises action session) : action session ≠ (.ok value, after) := by
  intro returned
  rcases raises with ⟨raised, failed⟩
  rw [returned] at failed
  cases failed

theorem raises_bind_of_raises {action : Db Store Error Value} {next : Value -> Db Store Error Next}
    {session : Session Store} (raises : Raises action session) :
    Raises (action >>= next) session :=
  raises_bind (fun _ _ returned => absurd returned raises.ne_ok)

theorem raises_connection {lost : Error} {block : Db Store Error Value} {session : Session Store}
    (raises : Raises block session) : Raises (connection lost block) session := by
  rcases raises with ⟨raised, result⟩
  unfold Raises connection
  rcases full : block session with ⟨other | value, after⟩
  · exact ⟨other, rfl⟩
  · rw [full] at result
    cases result

/-- Runs of a program that returns, one call after the other. -/
theorem bind_of_ok {action : Db Store Error Value} (next : Value -> Db Store Error Next)
    {session after : Session Store} {value : Value} (done : action session = (.ok value, after)) :
    (action >>= next) session = next value after := by
  change Db.bind action next session = next value after
  rw [Db.bind, done]

/-- What comes after a program depends on what it returns and leaves. -/
theorem bind_congr {action other : Db Store Error Value} {next : Value -> Db Store Error Next}
    {session after : Session Store} (same : action session = other after) :
    (action >>= next) session = (other >>= next) after := by
  change Db.bind action next session = Db.bind other next after
  rw [Db.bind, Db.bind, same]

/-- The program returns, on a connection that is not lost. -/
def Returns (action : Db Store Error Value) (session : Session Store) : Prop :=
  exists value after, action session = (.ok value, after) ∧ after.remaining = none

theorem returns_pure (value : Value) {session : Session Store}
    (lives : session.remaining = none) :
    Returns (pure value : Db Store Error Value) session :=
  ⟨value, session, rfl, lives⟩

theorem returns_bind {action : Db Store Error Value} {next : Value -> Db Store Error Next}
    {session : Session Store} (first : Returns action session)
    (second : forall value after, action session = (.ok value, after) ->
      after.remaining = none -> Returns (next value) after) :
    Returns (action >>= next) session := by
  rcases first with ⟨value, after, done, lives⟩
  unfold Returns
  rw [bind_of_ok next done]
  exact second value after done lives

theorem returns_call {lost : Error} {effect : Store -> Except Error (Value × Store)}
    {session : Session Store} (lives : session.remaining = none) (result : Value × Store)
    (done : effect session.working = .ok result) : Returns (call lost effect) session := by
  refine ⟨result.1, session.write result.2, ?_, ?_⟩
  · rw [call, lives, if_neg (by intro same; cases same), done]
  · simp [Session.write, Session.answered, lives]

theorem returns_commit (lost : Error) {session : Session Store}
    (lives : session.remaining = none) : Returns (commit lost) session := by
  refine ⟨(), session.keepWorking, ?_, ?_⟩
  · rw [commit, lives, if_neg (by intro same; cases same)]
  · simp [Session.keepWorking, Session.answered, lives]

theorem returns_connection (lost : Error) {block : Db Store Error Value}
    {session : Session Store} (returns : Returns block session) :
    Returns (connection lost block) session := by
  rcases returns with ⟨value, after, done, lives⟩
  rcases returns_commit lost lives with ⟨_, last, committed, lasts⟩
  refine ⟨value, last, ?_, lasts⟩
  rw [connection, done]
  simp only [committed]

end Outcome

end Db

end Relational
