import HybridDataSvc.Transition.Runs
import Mathlib.Data.List.Basic

namespace PipedOutput

open Transition

universe u

/-!
# The output of a process through pipes

What a process writes waits in its own memory until the pipe has room for it,
and in the pipe until the other side reads it.  When the process exits, what
is in the pipe is still read, and what is in its memory is gone.  A process may
wait for the end of a write before it exits; otherwise nothing says how far
the write has come.
-/

inductive Stream
  | stdout
  | stderr
  deriving DecidableEq, Repr

/-- The units of a stream: those in the memory of the process, those in the
pipe, and those that have been read. -/
structure Channel (α : Type u) where
  pending : List α
  inPipe : List α
  received : List α
  deriving DecidableEq, Repr

namespace Channel

variable {α : Type u}

def flush (capacity amount : Nat) (channel : Channel α) : Channel α :=
  let moved := min amount (capacity - channel.inPipe.length)
  { channel with
    pending := channel.pending.drop moved
    inPipe := channel.inPipe ++ channel.pending.take moved }

def deliver (amount : Nat) (channel : Channel α) : Channel α :=
  { channel with
    inPipe := channel.inPipe.drop amount
    received := channel.received ++ channel.inPipe.take amount }

def abandon (channel : Channel α) : Channel α := { channel with pending := [] }

/-- What has left the process. -/
def passed (channel : Channel α) : List α := channel.received ++ channel.inPipe

/-- What has been written. -/
def written (channel : Channel α) : List α := channel.passed ++ channel.pending

@[simp] theorem written_flush (capacity amount : Nat) (channel : Channel α) :
    (channel.flush capacity amount).written = channel.written := by
  simp only [written, passed, flush, List.append_assoc, List.take_append_drop]

@[simp] theorem passed_deliver (amount : Nat) (channel : Channel α) :
    (channel.deliver amount).passed = channel.passed := by
  simp only [passed, deliver, List.append_assoc, List.take_append_drop]

@[simp] theorem pending_deliver (amount : Nat) (channel : Channel α) :
    (channel.deliver amount).pending = channel.pending := rfl

@[simp] theorem passed_abandon (channel : Channel α) : channel.abandon.passed = channel.passed := rfl

@[simp] theorem pending_abandon (channel : Channel α) : channel.abandon.pending = [] := rfl

/-- Nothing is flushed when nothing is left. -/
theorem flush_of_pending_nil {channel : Channel α} (nothing : channel.pending = [])
    (capacity amount : Nat) : channel.flush capacity amount = channel := by
  simp only [flush, nothing, List.drop_nil, List.take_nil, List.append_nil]
  rw [← nothing]

end Channel

/-- The end of a process: what it writes to its streams, its exit code, and
the stream whose write it waits for. -/
structure Ending (α : Type u) where
  text : Stream -> List α
  code : Int
  awaits : Option Stream

structure State (α : Type u) where
  channel : Stream -> Channel α
  exited : Option Int

inductive Move
  | flush (stream : Stream) (amount : Nat)
  | deliver (stream : Stream) (amount : Nat)
  | leave
  deriving DecidableEq, Repr

variable {α : Type u}

def State.update (state : State α) (stream : Stream) (change : Channel α -> Channel α) : State α :=
  { state with
    channel := fun other => if other = stream then change (state.channel other) else state.channel other }

/-- The write that the process waits for has ended. -/
def mayLeave (ending : Ending α) (state : State α) : Bool :=
  match ending.awaits with
  | none => true
  | some stream => (state.channel stream).pending.isEmpty

def step (capacity : Nat) (ending : Ending α) (state : State α) : Move -> State α
  | .flush stream amount => state.update stream (Channel.flush capacity amount)
  | .deliver stream amount => state.update stream (Channel.deliver amount)
  | .leave =>
    if state.exited = none ∧ mayLeave ending state = true then
      { channel := fun stream => (state.channel stream).abandon, exited := some ending.code }
    else state

theorem step_leave (capacity : Nat) {ending : Ending α} {state : State α}
    (running : state.exited = none) (leaves : mayLeave ending state = true) :
    step capacity ending state .leave =
      { channel := fun stream => (state.channel stream).abandon, exited := some ending.code } :=
  if_pos ⟨running, leaves⟩

/-- All has been written, and nothing has left the process. -/
def start (ending : Ending α) : State α :=
  { channel := fun stream => ⟨ending.text stream, [], []⟩, exited := none }

/-- The process has exited, and its pipes have been read to their end. -/
def Complete (state : State α) : Prop :=
  state.exited ≠ none ∧ forall stream, (state.channel stream).inPipe = []

section Updates

variable (state : State α) (change : Channel α -> Channel α)

@[simp] theorem exited_update (stream : Stream) : (state.update stream change).exited = state.exited :=
  rfl

@[simp] theorem channel_update_same (stream : Stream) :
    (state.update stream change).channel stream = change (state.channel stream) := if_pos rfl

theorem channel_update_of_ne {stream other : Stream} (different : other ≠ stream) :
    (state.update stream change).channel other = state.channel other := if_neg different

/-- A property of a channel that the change keeps is kept on every channel. -/
theorem forall_channel_update (property : Stream -> Channel α -> Prop) (stream : Stream)
    (holds : forall other, property other (state.channel other))
    (kept : property stream (state.channel stream) -> property stream (change (state.channel stream))) :
    forall other, property other ((state.update stream change).channel other) := by
  intro other
  by_cases same : other = stream
  · subst same
    rw [channel_update_same]
    exact kept (holds other)
  · rw [channel_update_of_ne state change same]
    exact holds other

end Updates

/-! ## What arrives -/

/-- What is known of a channel: nothing is invented or changes its place, and
what the process has waited for has passed. -/
structure Books (ending : Ending α) (exited : Option Int) (stream : Stream) (channel : Channel α) :
    Prop where
  running : exited = none -> channel.written = ending.text stream
  passed : channel.passed <+: ending.text stream
  left : exited ≠ none -> channel.pending = []
  awaited : exited ≠ none -> ending.awaits = some stream -> channel.passed = ending.text stream

/-- The invariant of a run. -/
def Accounted (ending : Ending α) (state : State α) : Prop :=
  (forall code, state.exited = some code -> code = ending.code) ∧
    forall stream, Books ending state.exited stream (state.channel stream)

theorem accounted_start (ending : Ending α) : Accounted ending (start ending) := by
  refine ⟨fun code impossible => (nomatch impossible), fun stream => ⟨?_, ?_, ?_, ?_⟩⟩
  · exact fun _ => rfl
  · exact List.nil_prefix
  · exact fun left => absurd rfl left
  · exact fun left => absurd rfl left

namespace Books

variable {ending : Ending α} {exited : Option Int} {stream : Stream} {channel : Channel α}

theorem flush (books : Books ending exited stream channel) (capacity amount : Nat) :
    Books ending exited stream (channel.flush capacity amount) := by
  by_cases running : exited = none
  · have whole := books.running running
    refine ⟨?_, ?_, ?_, ?_⟩
    · intro _
      rw [Channel.written_flush]
      exact whole
    · -- what has passed begins what has been written
      rw [← whole, ← Channel.written_flush capacity amount]
      exact List.prefix_append _ _
    · exact fun left => absurd running left
    · exact fun left => absurd running left
  · rw [Channel.flush_of_pending_nil (books.left running)]
    exact books

theorem deliver (books : Books ending exited stream channel) (amount : Nat) :
    Books ending exited stream (channel.deliver amount) := by
  refine ⟨?_, ?_, books.left, ?_⟩
  · intro running
    rw [Channel.written, Channel.passed_deliver]
    exact books.running running
  · rw [Channel.passed_deliver]
    exact books.passed
  · rw [Channel.passed_deliver]
    exact books.awaited

end Books

theorem step_accounted (capacity : Nat) (ending : Ending α) (state : State α) (move : Move)
    (accounted : Accounted ending state) : Accounted ending (step capacity ending state move) := by
  rcases accounted with ⟨code, books⟩
  cases move with
  | flush stream amount =>
      refine ⟨code, ?_⟩
      exact forall_channel_update state _ (Books ending state.exited) stream books
        (fun known => known.flush capacity amount)
  | deliver stream amount =>
      refine ⟨code, ?_⟩
      exact forall_channel_update state _ (Books ending state.exited) stream books
        (fun known => known.deliver amount)
  | leave =>
      by_cases leaves : state.exited = none ∧ mayLeave ending state = true
      · rw [step_leave capacity leaves.1 leaves.2]
        refine ⟨fun code same => (Option.some.inj same).symm, fun stream => ⟨?_, ?_, ?_, ?_⟩⟩
        · exact fun running => (nomatch running)
        · exact (books stream).passed
        · exact fun _ => rfl
        · intro _ waits
          have ended : (state.channel stream).pending = [] := by
            have may := leaves.2
            rw [mayLeave, waits] at may
            exact List.isEmpty_iff.mp may
          have whole := (books stream).running leaves.1
          rw [Channel.written, ended, List.append_nil] at whole
          exact whole
      · simp only [step, if_neg leaves]
        exact ⟨code, books⟩

theorem run_accounted (capacity : Nat) (ending : Ending α) (moves : List Move) :
    Accounted ending (run (step capacity ending) (start ending) moves) :=
  invariant_run_always (step capacity ending) (step_accounted capacity ending)
    (accounted_start ending) moves

/-- What the other side has read in the end begins what was written, and is all
of it where the process has waited for the write. -/
theorem received_of_complete {capacity : Nat} {ending : Ending α} {moves : List Move}
    (complete : Complete (run (step capacity ending) (start ending) moves)) (stream : Stream) :
    let state := run (step capacity ending) (start ending) moves
    state.exited = some ending.code ∧ (state.channel stream).received <+: ending.text stream ∧
      (ending.awaits = some stream -> (state.channel stream).received = ending.text stream) := by
  intro state
  rcases run_accounted capacity ending moves with ⟨code, books⟩
  rcases complete with ⟨exited, empty⟩
  have known := books stream
  have all : (state.channel stream).passed = (state.channel stream).received := by
    rw [Channel.passed, empty stream, List.append_nil]
  refine ⟨?_, ?_, ?_⟩
  · cases left : state.exited with
    | none => exact absurd left exited
    | some found => rw [code found left]
  · rw [← all]
    exact known.passed
  · intro waits
    rw [← all]
    exact known.awaited exited waits

/-! ## That something arrives

A schedule may do nothing for a while, but none can block: while the process
or its output has not come to an end there is a move that does something.
-/

def Channel.weight (channel : Channel α) : Nat := 2 * channel.pending.length + channel.inPipe.length

/-- How much is left to do. -/
def weight (state : State α) : Nat :=
  (state.channel .stdout).weight + (state.channel .stderr).weight +
    state.exited.elim 1 (fun _ => 0)

theorem weight_update {state : State α} {stream : Stream} {change : Channel α -> Channel α}
    (less : (change (state.channel stream)).weight < (state.channel stream).weight) :
    weight (state.update stream change) < weight state := by
  cases stream with
  | stdout =>
      have other : (state.update .stdout change).channel .stderr = state.channel .stderr :=
        channel_update_of_ne state change (by decide)
      simp only [weight, other, channel_update_same, exited_update]
      omega
  | stderr =>
      have other : (state.update .stderr change).channel .stdout = state.channel .stdout :=
        channel_update_of_ne state change (by decide)
      simp only [weight, other, channel_update_same, exited_update]
      omega

theorem weight_deliver_lt {channel : Channel α} (some : channel.inPipe ≠ []) :
    (channel.deliver 1).weight < channel.weight := by
  have positive := List.length_pos_of_ne_nil some
  simp only [Channel.weight, Channel.deliver, List.length_drop]
  omega

theorem weight_flush_lt {capacity : Nat} {channel : Channel α} (room : 0 < capacity)
    (empty : channel.inPipe = []) (some : channel.pending ≠ []) :
    (channel.flush capacity 1).weight < channel.weight := by
  have positive := List.length_pos_of_ne_nil some
  have moved : min 1 (capacity - 0) = 1 := by omega
  simp only [Channel.weight, Channel.flush, empty, List.length_nil, moved, List.length_drop,
    List.length_append, List.length_take]
  omega

/-- There is no deadlock. -/
theorem exists_move_lt {capacity : Nat} (room : 0 < capacity) (ending : Ending α) {state : State α}
    (incomplete : ¬ Complete state) :
    exists move, weight (step capacity ending state move) < weight state := by
  by_cases unread : exists stream, (state.channel stream).inPipe ≠ []
  · rcases unread with ⟨stream, some⟩
    exact ⟨.deliver stream 1, weight_update (weight_deliver_lt some)⟩
  · push Not at unread
    have running : state.exited = none := by
      refine Classical.byContradiction (fun exited => ?_)
      exact incomplete ⟨exited, unread⟩
    by_cases leaves : mayLeave ending state = true
    · refine ⟨.leave, ?_⟩
      rw [step_leave capacity running leaves]
      simp only [weight, Channel.weight, Channel.abandon, running, List.length_nil,
        Option.elim_none, Option.elim_some]
      omega
    · -- the process waits for a write
      cases waits : ending.awaits with
      | none =>
          rw [mayLeave, waits] at leaves
          exact absurd rfl leaves
      | some stream =>
          have pending : (state.channel stream).pending ≠ [] := by
            intro ended
            simp only [mayLeave, waits, ended, List.isEmpty_nil, not_true] at leaves
          exact ⟨.flush stream 1, weight_update (weight_flush_lt room (unread stream) pending)⟩

/-- From wherever it is, the output can come to its end. -/
theorem exists_complete {capacity : Nat} (room : 0 < capacity) (ending : Ending α)
    (state : State α) : exists moves, Complete (run (step capacity ending) state moves) := by
  induction left : weight state using Nat.strongRecOn generalizing state with
  | _ amount ih =>
      by_cases complete : Complete state
      · exact ⟨[], complete⟩
      · rcases exists_move_lt room ending complete with ⟨move, less⟩
        rcases ih _ (left ▸ less) (step capacity ending state move) rfl with ⟨moves, done⟩
        exact ⟨move :: moves, done⟩

/-! ## How much may be lost -/

theorem update_update (state : State α) (stream : Stream) (first second : Channel α -> Channel α) :
    (state.update stream first).update stream second =
      state.update stream (fun channel => second (first channel)) := by
  simp only [State.update, State.mk.injEq, and_true]
  funext other
  by_cases same : other = stream
  · simp only [if_pos same]
  · simp only [if_neg same]

theorem update_congr {state : State α} {stream : Stream} {first second : Channel α -> Channel α}
    (same : first (state.channel stream) = second (state.channel stream)) :
    state.update stream first = state.update stream second := by
  simp only [State.update, State.mk.injEq, and_true]
  funext other
  by_cases here : other = stream
  · simp only [here, if_true, same]
  · simp only [if_neg here]

theorem update_id (state : State α) (stream : Stream) : state.update stream id = state := by
  simp only [State.update, id, ite_self]

/-- The first units of a channel have arrived. -/
def Channel.arrive (amount : Nat) (channel : Channel α) : Channel α :=
  ⟨channel.pending.drop amount, [], channel.received ++ channel.pending.take amount⟩

theorem Channel.arrive_arrive (amount : Nat) (channel : Channel α) :
    (channel.arrive 1).arrive amount = channel.arrive (amount + 1) := by
  cases channel with
  | mk pending inPipe received =>
      cases pending with
      | nil => simp [arrive]
      | cons c rest => simp [arrive]

/-- One unit at a time, any part can be made to arrive. -/
theorem exists_arrival {capacity : Nat} (room : 0 < capacity) (ending : Ending α) (stream : Stream)
    (amount : Nat) : forall (state : State α), (state.channel stream).inPipe = [] ->
      exists moves, run (step capacity ending) state moves =
        state.update stream (Channel.arrive amount) := by
  induction amount with
  | zero =>
      intro state empty
      refine ⟨[], ?_⟩
      rw [run_nil, ← update_id state stream, update_update]
      apply update_congr
      cases known : state.channel stream with
      | mk pending inPipe received =>
          rw [known] at empty
          simp only at empty
          simp [Channel.arrive, empty]
  | succ amount ih =>
      intro state empty
      have moved : min 1 capacity = 1 := by omega
      have one : ((state.channel stream).flush capacity 1).deliver 1 =
          Channel.arrive 1 (state.channel stream) := by
        cases pending : (state.channel stream).pending with
        | nil => simp [Channel.flush, Channel.deliver, Channel.arrive, empty, pending]
        | cons c rest => simp [Channel.flush, Channel.deliver, Channel.arrive, empty, pending, moved]
      have first : run (step capacity ending) state [.flush stream 1, .deliver stream 1] =
          state.update stream (Channel.arrive 1) := by
        rw [run_cons, run_cons, run_nil]
        simp only [step, update_update]
        exact update_congr one
      have arrived : ((state.update stream (Channel.arrive 1)).channel stream).inPipe = [] := by
        rw [channel_update_same]
        rfl
      rcases ih _ arrived with ⟨moves, rest⟩
      refine ⟨[.flush stream 1, .deliver stream 1] ++ moves, ?_⟩
      rw [run_append, first, rest, update_update]
      exact update_congr (Channel.arrive_arrive amount _)

/-- A process that does not wait for its writes may lose whatever it has
written last, on each stream. -/
theorem exists_complete_received {capacity : Nat} (room : 0 < capacity) {ending : Ending α}
    (impatient : ending.awaits = none) {cut : Stream -> List α}
    (begins : forall stream, cut stream <+: ending.text stream) :
    exists moves, let state := run (step capacity ending) (start ending) moves
      Complete state ∧ state.exited = some ending.code ∧
        forall stream, (state.channel stream).received = cut stream := by
  have taken : forall stream, (ending.text stream).take (cut stream).length = cut stream :=
    fun stream => (List.prefix_iff_eq_take.mp (begins stream)).symm
  rcases exists_arrival room ending .stdout (cut .stdout).length (start ending) rfl with
    ⟨first, firstEq⟩
  rcases exists_arrival room ending .stderr (cut .stderr).length
    ((start ending).update .stdout (Channel.arrive (cut .stdout).length)) rfl with
    ⟨second, secondEq⟩
  refine ⟨first ++ second ++ [.leave], ?_⟩
  have leaves : forall state : State α, mayLeave ending state = true := by
    intro state
    rw [mayLeave, impatient]
  rw [run_append, run_append, firstEq, secondEq, run_cons, run_nil, step_leave capacity rfl (leaves _)]
  refine ⟨⟨Option.some_ne_none _, ?_⟩, rfl, ?_⟩
  · intro stream
    cases stream <;> rfl
  · intro stream
    cases stream with
    | stdout => exact taken .stdout
    | stderr => exact taken .stderr

end PipedOutput
