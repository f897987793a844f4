import HybridDataSvc.Relational.Table
import HybridDataSvc.Transition.Runs
import Mathlib.Data.List.Induction

namespace ReadCommitted

open Relational Transition

universe u v w

/-!
# Two transactions under READ COMMITTED

Two parties write to one table.  Each upserts a batch of rows, statement by
statement, then evaluates a summary of the table, writes it into one shared
row, and commits.  A statement sees what has been committed and what its own
transaction has written.  A row that an open transaction has written is locked:
the other party waits until it commits and then overwrites the row.

The summary is a subquery of the statement that writes the shared row.  It is
evaluated when the statement starts, and the statement may have to wait for
the lock afterwards; so evaluating and writing are two steps here.

A schedule is a list of parties, each taking its next statement.  A party
that has to wait, or has nothing left to do, leaves the state as it is, so
the lists cover every interleaving.
-/

inductive Party
  | first
  | second
  deriving DecidableEq, Repr

def Party.other : Party -> Party
  | .first => .second
  | .second => .first

theorem Party.eq_or_eq_other (party rival : Party) : rival = party ∨ rival = party.other := by
  cases party <;> cases rival <;> simp [Party.other]

theorem Party.other_ne (party : Party) : party.other ≠ party := by
  cases party <;> decide

@[simp] theorem Party.other_other (party : Party) : party.other.other = party := by
  cases party <;> rfl

/-- How far a transaction has come.  It carries the summary from its
evaluation to the commit. -/
inductive Phase (Summary : Type w)
  | writing
  | summarised (value : Summary)
  | recorded (value : Summary)
  | committed
  deriving DecidableEq, Repr

/-- One transaction: the rows it still has to write and those it has written. -/
structure Session (Row : Type u) (Summary : Type w) where
  pending : List Row
  written : List Row
  phase : Phase Summary
  deriving DecidableEq, Repr

variable {Row : Type u} {Key : Type v} {Summary : Type w} {key : Row -> Key}

/-- The committed table and shared row, and the two transactions. -/
structure State (key : Row -> Key) (Summary : Type w) where
  table : Table key
  summary : Option Summary
  session : Party -> Session Row Summary

/-- The transaction has an uncommitted row under the key. -/
def Session.holdsRow [DecidableEq Key] (key : Row -> Key) (session : Session Row Summary)
    (k : Key) : Bool :=
  match session.phase with
  | .committed => false
  | _ => session.written.any (fun row => decide (key row = k))

/-- The transaction has an uncommitted shared row. -/
def Session.holdsSummary (session : Session Row Summary) : Bool :=
  match session.phase with
  | .recorded _ => true
  | _ => false

namespace State

def setSession (state : State key Summary) (party : Party) (session : Session Row Summary) :
    State key Summary :=
  { state with session := fun rival => if rival = party then session else state.session rival }

@[simp] theorem setSession_table (state : State key Summary) (party : Party)
    (session : Session Row Summary) : (state.setSession party session).table = state.table := rfl

@[simp] theorem setSession_self (state : State key Summary) (party : Party)
    (session : Session Row Summary) : (state.setSession party session).session party = session :=
  if_pos rfl

theorem setSession_of_ne (state : State key Summary) {party rival : Party}
    (different : rival ≠ party) (session : Session Row Summary) :
    (state.setSession party session).session rival = state.session rival := if_neg different

theorem setSession_setSession (state : State key Summary) (party : Party)
    (before after : Session Row Summary) :
    (state.setSession party before).setSession party after = state.setSession party after := by
  unfold setSession
  congr 1
  funext rival
  by_cases same : rival = party
  · rw [if_pos same, if_pos same]
  · rw [if_neg same, if_neg same]
    exact if_neg same

variable [DecidableEq Key]

/-- The commit: the rows and the summary of the transaction become
visible together. -/
def commit (state : State key Summary) (party : Party) (value : Summary) : State key Summary :=
  { state.setSession party { state.session party with phase := .committed } with
    table := state.table.upsertAll (state.session party).written
    summary := some value }

@[simp] theorem commit_table (state : State key Summary) (party : Party) (value : Summary) :
    (state.commit party value).table = state.table.upsertAll (state.session party).written := rfl

@[simp] theorem commit_session_self (state : State key Summary) (party : Party) (value : Summary) :
    (state.commit party value).session party =
      { state.session party with phase := .committed } := if_pos rfl

theorem commit_session_of_ne (state : State key Summary) {party rival : Party}
    (different : rival ≠ party) (value : Summary) :
    (state.commit party value).session rival = state.session rival := if_neg different

end State

/-- The rows of a batch are split into those written and those to come, and a
transaction evaluates its summary after the last one. -/
def Ledger (batches : Party -> List Row) (state : State key Summary) : Prop :=
  forall party, (state.session party).written ++ (state.session party).pending = batches party ∧
    ((state.session party).phase ≠ .writing -> (state.session party).pending = [])

theorem Ledger.written_eq {batches : Party -> List Row} {state : State key Summary}
    (ledger : Ledger batches state) {party : Party}
    (drained : (state.session party).pending = []) :
    (state.session party).written = batches party := by
  have split := (ledger party).1
  rw [drained, List.append_nil] at split
  exact split

variable [DecidableEq Key]

/-- The next statement of a party, or its waiting. -/
def step (summarise : Party -> Table key -> Summary) (state : State key Summary) (party : Party) :
    State key Summary :=
  let own := state.session party
  let rival := state.session party.other
  match own.phase with
  | .writing =>
    match own.pending with
    | row :: rest =>
      if rival.holdsRow key (key row) then state
      else
        state.setSession party
          { pending := rest, written := own.written ++ [row], phase := .writing }
    | [] =>
      let value := summarise party (state.table.upsertAll own.written)
      state.setSession party { pending := [], written := own.written, phase := .summarised value }
  | .summarised value =>
    if rival.holdsSummary then state
    else state.setSession party { own with phase := .recorded value }
  | .recorded value => state.commit party value
  | .committed => state

/-- What a statement can do. -/
inductive Statement (summarise : Party -> Table key -> Summary) (state : State key Summary)
    (party : Party) : State key Summary -> Prop
  | waits : Statement summarise state party state
  | writes {row : Row} {rest : List Row} (phase : (state.session party).phase = .writing)
      (pending : (state.session party).pending = row :: rest) :
      Statement summarise state party (state.setSession party
        { pending := rest, written := (state.session party).written ++ [row], phase := .writing })
  | summarises (phase : (state.session party).phase = .writing)
      (pending : (state.session party).pending = []) :
      Statement summarise state party (state.setSession party
        { pending := [], written := (state.session party).written,
          phase := .summarised
            (summarise party (state.table.upsertAll (state.session party).written)) })
  | records {value : Summary} (phase : (state.session party).phase = .summarised value) :
      Statement summarise state party (state.setSession party
        { state.session party with phase := .recorded value })
  | commits {value : Summary} (phase : (state.session party).phase = .recorded value) :
      Statement summarise state party (state.commit party value)

theorem step_statement (summarise : Party -> Table key -> Summary) (state : State key Summary)
    (party : Party) : Statement summarise state party (step summarise state party) := by
  cases phase : (state.session party).phase with
  | writing =>
      cases pending : (state.session party).pending with
      | nil =>
          simp only [step, phase, pending]
          exact .summarises phase pending
      | cons row rest =>
          by_cases held : (state.session party.other).holdsRow key (key row) = true
          · simp only [step, phase, pending, if_pos held]
            exact .waits
          · simp only [step, phase, pending, if_neg held]
            exact .writes phase pending
  | summarised value =>
      by_cases held : (state.session party.other).holdsSummary = true
      · simp only [step, phase, if_pos held]
        exact .waits
      · simp only [step, phase, if_neg held]
        exact .records phase
  | recorded value =>
      simp only [step, phase]
      exact .commits phase
  | committed =>
      simp only [step, phase]
      exact .waits

/-! ## What every statement keeps -/

namespace Statement

variable {summarise : Party -> Table key -> Summary} {state after : State key Summary}
  {party : Party}

theorem session_of_ne (statement : Statement summarise state party after) {rival : Party}
    (different : rival ≠ party) : after.session rival = state.session rival := by
  cases statement with
  | waits => rfl
  | writes _ _ => exact state.setSession_of_ne different _
  | summarises _ _ => exact state.setSession_of_ne different _
  | records _ => exact state.setSession_of_ne different _
  | commits _ => exact state.commit_session_of_ne different _

theorem keeps_committed (statement : Statement summarise state party after) {rival : Party}
    (done : (state.session rival).phase = .committed) :
    (after.session rival).phase = .committed := by
  by_cases same : rival = party
  · subst same
    cases statement with
    | waits => exact done
    | writes phase _ => rw [done] at phase; cases phase
    | summarises phase _ => rw [done] at phase; cases phase
    | records phase => rw [done] at phase; cases phase
    | commits phase => rw [done] at phase; cases phase
  · rw [statement.session_of_ne same]
    exact done

end Statement

theorem step_ledger {batches : Party -> List Row} (summarise : Party -> Table key -> Summary)
    (state : State key Summary) (party : Party) (ledger : Ledger batches state) :
    Ledger batches (step summarise state party) := by
  intro rival
  have statement := step_statement summarise state party
  by_cases same : rival = party
  · subst same
    have before := ledger rival
    generalize step summarise state rival = after at statement ⊢
    cases statement with
    | waits => exact before
    | writes phase pending =>
        rw [State.setSession_self]
        refine ⟨?_, fun left => absurd rfl left⟩
        have split := before.1
        rw [pending] at split
        rw [← split, List.append_assoc, List.singleton_append]
    | summarises phase pending =>
        rw [State.setSession_self]
        have split := before.1
        rw [pending] at split
        exact ⟨split, fun _ => rfl⟩
    | records phase =>
        rw [State.setSession_self]
        refine ⟨before.1, fun _ => before.2 ?_⟩
        rw [phase]
        intro impossible
        cases impossible
    | commits phase =>
        rw [State.commit_session_self]
        refine ⟨before.1, fun _ => before.2 ?_⟩
        rw [phase]
        intro impossible
        cases impossible
  · rw [statement.session_of_ne same]
    exact ledger rival

/-- What a statement other than a commit leaves alone, and where a summary it
carries comes from. -/
structure Quiet (summarise : Party -> Table key -> Summary) (batches : Party -> List Row)
    (before : State key Summary) (next : Party) (after : State key Summary) : Prop where
  table : after.table = before.table
  summary : after.summary = before.summary
  committed : (after.session next).phase = .committed -> (before.session next).phase = .committed
  carried : forall value, (after.session next).phase = .summarised value ∨
      (after.session next).phase = .recorded value ->
    ((before.session next).phase = .summarised value ∨
      (before.session next).phase = .recorded value) ∨
    ((before.session next).phase = .writing ∧
      value = summarise next (before.table.upsertAll (batches next)))

/-- What a commit does. -/
structure Commits (batches : Party -> List Row) (before : State key Summary) (next : Party)
    (value : Summary) (after : State key Summary) : Prop where
  carried : (before.session next).phase = .recorded value
  committed : (after.session next).phase = .committed
  table : after.table = before.table.upsertAll (batches next)
  summary : after.summary = some value

theorem Statement.quiet_or_commits {summarise : Party -> Table key -> Summary}
    {batches : Party -> List Row} {before after : State key Summary} {next : Party}
    (statement : Statement summarise before next after) (ledger : Ledger batches before) :
    Quiet summarise batches before next after ∨
      exists value, Commits batches before next value after := by
  cases statement with
  | waits => exact Or.inl ⟨rfl, rfl, id, fun _ => Or.inl⟩
  | writes phase pending =>
      refine Or.inl ⟨rfl, rfl, ?_, ?_⟩
      · rw [State.setSession_self]
        intro impossible
        cases impossible
      · rw [State.setSession_self]
        rintro value (impossible | impossible)
        · cases impossible
        · cases impossible
  | summarises phase pending =>
      refine Or.inl ⟨rfl, rfl, ?_, ?_⟩
      · rw [State.setSession_self]
        intro impossible
        cases impossible
      · rw [State.setSession_self]
        rintro value (evaluated | impossible)
        · cases evaluated
          exact Or.inr ⟨phase, by rw [ledger.written_eq pending]⟩
        · cases impossible
  | records phase =>
      refine Or.inl ⟨rfl, rfl, ?_, ?_⟩
      · rw [State.setSession_self]
        intro impossible
        cases impossible
      · rw [State.setSession_self]
        rintro value (impossible | recorded)
        · cases impossible
        · cases recorded
          exact Or.inl (Or.inl phase)
  | @commits value phase =>
      have drained := (ledger next).2 (by rw [phase]; intro impossible; cases impossible)
      refine Or.inr ⟨value, phase, ?_, ?_, rfl⟩
      · rw [State.commit_session_self]
      · rw [State.commit_table, ledger.written_eq drained]

/-! ## Runs of two transactions -/

/-- Two transactions before their first statement: what they are about to
write and how each summarises the table. -/
structure Setup (key : Row -> Key) (Summary : Type w) where
  summarise : Party -> Table key -> Summary
  table : Table key
  summary : Option Summary
  batches : Party -> List Row

namespace Setup

variable (setup : Setup key Summary)

/-- The state after a schedule. -/
def reached (schedule : List Party) : State key Summary :=
  run (step setup.summarise)
    { table := setup.table
      summary := setup.summary
      session := fun party => { pending := setup.batches party, written := [], phase := .writing } }
    schedule

def phaseAt (schedule : List Party) (party : Party) : Phase Summary :=
  ((setup.reached schedule).session party).phase

/-- At some time the party was still writing and the other one had committed;
so its summary is evaluated on a snapshot with the other's rows. -/
def SawCommit (schedule : List Party) (party : Party) : Prop :=
  exists earlier, earlier <+: schedule ∧ setup.phaseAt earlier party = .writing ∧
    setup.phaseAt earlier party.other = .committed

/-- Both have committed, and the party was the later one. -/
structure CommitsLast (schedule : List Party) (party : Party) : Prop where
  own : setup.phaseAt schedule party = .committed
  rival : exists earlier, earlier <+: schedule ∧ setup.phaseAt earlier party.other = .committed ∧
    setup.phaseAt earlier party ≠ .committed

/-- The table after both batches, the party's own last. -/
def tableAfter (party : Party) : Table key :=
  (setup.table.upsertAll (setup.batches party.other)).upsertAll (setup.batches party)

/-- The value is the summary of the snapshot the party evaluates it on. -/
structure Summarises (schedule : List Party) (party : Party) (value : Summary) : Prop where
  saw : setup.SawCommit schedule party -> value = setup.summarise party (setup.tableAfter party)
  missed : ¬ setup.SawCommit schedule party ->
    value = setup.summarise party (setup.table.upsertAll (setup.batches party))

variable {setup}

theorem reached_append (schedule : List Party) (next : Party) :
    setup.reached (schedule ++ [next]) = step setup.summarise (setup.reached schedule) next :=
  run_append _ _ schedule [next]

theorem reached_statement (schedule : List Party) (next : Party) :
    Statement setup.summarise (setup.reached schedule) next (setup.reached (schedule ++ [next])) := by
  rw [reached_append]
  exact step_statement setup.summarise _ next

theorem reached_ledger (schedule : List Party) : Ledger setup.batches (setup.reached schedule) :=
  invariant_run_always (step setup.summarise) (step_ledger setup.summarise)
    (fun _ => ⟨rfl, fun left => absurd rfl left⟩) schedule

theorem phaseAt_append_of_ne {schedule : List Party} {next party : Party}
    (different : party ≠ next) :
    setup.phaseAt (schedule ++ [next]) party = setup.phaseAt schedule party := by
  unfold phaseAt
  rw [(reached_statement schedule next).session_of_ne different]

theorem committed_of_earlier {earlier schedule : List Party} (initial : earlier <+: schedule)
    {party : Party} (done : setup.phaseAt earlier party = .committed) :
    setup.phaseAt schedule party = .committed := by
  rcases initial with ⟨rest, rfl⟩
  have kept : forall (state : State key Summary) (next : Party),
      (state.session party).phase = .committed ->
      ((step setup.summarise state next).session party).phase = .committed :=
    fun state next => (step_statement setup.summarise state next).keeps_committed
  unfold phaseAt reached
  rw [run_append]
  exact invariant_run_always (step setup.summarise) kept done rest

theorem sawCommit_append_iff {schedule : List Party} {party next : Party}
    (left : setup.phaseAt (schedule ++ [next]) party ≠ .writing) :
    setup.SawCommit (schedule ++ [next]) party ↔ setup.SawCommit schedule party := by
  constructor
  · rintro ⟨earlier, initial, writing, done⟩
    rcases List.prefix_concat_iff.mp initial with whole | shorter
    · rw [whole] at writing
      exact absurd writing left
    · exact ⟨earlier, shorter, writing, done⟩
  · rintro ⟨earlier, initial, writing, done⟩
    exact ⟨earlier, initial.trans (List.prefix_append schedule [next]), writing, done⟩

theorem Summarises.append {schedule : List Party} {party next : Party} {value : Summary}
    (summarises : setup.Summarises schedule party value)
    (left : setup.phaseAt (schedule ++ [next]) party ≠ .writing) :
    setup.Summarises (schedule ++ [next]) party value where
  saw := fun saw => summarises.saw ((sawCommit_append_iff left).mp saw)
  missed := fun missed => summarises.missed (fun saw => missed ((sawCommit_append_iff left).mpr saw))

theorem sawCommit_iff_of_writing {schedule : List Party} {party : Party}
    (writing : setup.phaseAt schedule party = .writing) :
    setup.SawCommit schedule party ↔ setup.phaseAt schedule party.other = .committed := by
  constructor
  · rintro ⟨earlier, initial, _, done⟩
    exact committed_of_earlier initial done
  · intro done
    exact ⟨schedule, List.prefix_refl schedule, writing, done⟩

/-- Where the table and the carried summaries stand after a schedule. -/
structure Traced (setup : Setup key Summary) (schedule : List Party) : Prop where
  carried : forall party value,
    setup.phaseAt schedule party = .summarised value ∨
      setup.phaseAt schedule party = .recorded value ->
    setup.Summarises schedule party value
  untouched : forall party, setup.phaseAt schedule party ≠ .committed ->
    setup.phaseAt schedule party.other ≠ .committed ->
    (setup.reached schedule).table = setup.table
  oneCommitted : forall party, setup.phaseAt schedule party ≠ .committed ->
    setup.phaseAt schedule party.other = .committed ->
    (setup.reached schedule).table = setup.table.upsertAll (setup.batches party.other)
  bothCommitted : forall party, setup.CommitsLast schedule party ->
    (setup.reached schedule).table = setup.tableAfter party ∧
      exists value, (setup.reached schedule).summary = some value ∧
        setup.Summarises schedule party value

theorem traced_nil (setup : Setup key Summary) : Traced setup [] where
  carried := by
    rintro party value (impossible | impossible)
    · cases impossible
    · cases impossible
  untouched := fun _ _ _ => rfl
  oneCommitted := by
    intro party _ impossible
    cases impossible
  bothCommitted := by
    intro party last
    cases last.own

/-- A party that carries a summary is past its last row. -/
theorem ne_writing_of_carries {schedule : List Party} {party : Party} {value : Summary}
    (carries : setup.phaseAt schedule party = .summarised value ∨
      setup.phaseAt schedule party = .recorded value) :
    setup.phaseAt schedule party ≠ .writing := by
  intro writing
  rcases carries with phase | phase
  · cases phase.symm.trans writing
  · cases phase.symm.trans writing

theorem CommitsLast.ne_writing {schedule : List Party} {party : Party}
    (last : setup.CommitsLast schedule party) : setup.phaseAt schedule party ≠ .writing := by
  intro writing
  cases last.own.symm.trans writing

/-- The state in which the rival was done first came before the last step. -/
theorem CommitsLast.rival_before {schedule : List Party} {next party : Party}
    (last : setup.CommitsLast (schedule ++ [next]) party) :
    exists earlier, earlier <+: schedule ∧ setup.phaseAt earlier party.other = .committed ∧
      setup.phaseAt earlier party ≠ .committed := by
  rcases last.rival with ⟨earlier, initial, rivalDone, notOwn⟩
  rcases List.prefix_concat_iff.mp initial with whole | shorter
  · rw [whole] at notOwn
    exact absurd last.own notOwn
  · exact ⟨earlier, shorter, rivalDone, notOwn⟩

theorem Traced.quiet {schedule : List Party} {next : Party} (traced : Traced setup schedule)
    (quiet : Quiet setup.summarise setup.batches (setup.reached schedule) next
      (setup.reached (schedule ++ [next]))) :
    Traced setup (schedule ++ [next]) := by
  have initial : schedule <+: schedule ++ [next] := List.prefix_append schedule [next]
  have committed_before : forall party, setup.phaseAt (schedule ++ [next]) party = .committed ->
      setup.phaseAt schedule party = .committed := by
    intro party done
    by_cases same : party = next
    · subst same
      exact quiet.committed done
    · rw [phaseAt_append_of_ne same] at done
      exact done
  refine ⟨?_, ?_, ?_, ?_⟩
  · intro party value carries
    have left := ne_writing_of_carries carries
    by_cases same : party = next
    · subst same
      rcases quiet.carried value carries with before | ⟨writing, evaluated⟩
      · exact (traced.carried party value before).append left
      · -- the summary is evaluated by this statement
        have notOwn : setup.phaseAt schedule party ≠ .committed := by
          intro done
          cases writing.symm.trans done
        refine Summarises.append ⟨?_, ?_⟩ left
        · intro saw
          have done := (sawCommit_iff_of_writing writing).mp saw
          rw [evaluated, traced.oneCommitted party notOwn done]
          rfl
        · intro missed
          have notDone := fun done => missed ((sawCommit_iff_of_writing writing).mpr done)
          rw [evaluated, traced.untouched party notOwn notDone]
    · rw [phaseAt_append_of_ne same] at carries
      exact (traced.carried party value carries).append left
  · intro party notOwn notRival
    rw [quiet.table]
    exact traced.untouched party (fun done => notOwn (committed_of_earlier initial done))
      (fun done => notRival (committed_of_earlier initial done))
  · intro party notOwn rival
    rw [quiet.table]
    exact traced.oneCommitted party (fun done => notOwn (committed_of_earlier initial done))
      (committed_before party.other rival)
  · intro party last
    have lastBefore : setup.CommitsLast schedule party :=
      ⟨committed_before party last.own, last.rival_before⟩
    rcases traced.bothCommitted party lastBefore with ⟨tableEq, value, recorded, summarises⟩
    exact ⟨quiet.table.trans tableEq, value, quiet.summary.trans recorded,
      summarises.append last.ne_writing⟩

theorem Traced.commits {schedule : List Party} {next : Party} {committed : Summary}
    (traced : Traced setup schedule)
    (commits : Commits setup.batches (setup.reached schedule) next committed
      (setup.reached (schedule ++ [next]))) :
    Traced setup (schedule ++ [next]) := by
  have initial : schedule <+: schedule ++ [next] := List.prefix_append schedule [next]
  have notDone : setup.phaseAt schedule next ≠ .committed := by
    intro done
    cases commits.carried.symm.trans done
  refine ⟨?_, ?_, ?_, ?_⟩
  · intro party value carries
    have left := ne_writing_of_carries carries
    have different : party ≠ next := by
      rintro rfl
      rcases carries with phase | phase
      · cases commits.committed.symm.trans phase
      · cases commits.committed.symm.trans phase
    rw [phaseAt_append_of_ne different] at carries
    exact (traced.carried party value carries).append left
  · intro party notOwn notRival
    rcases Party.eq_or_eq_other party next with rfl | rfl
    · exact absurd commits.committed notOwn
    · exact absurd commits.committed notRival
  · intro party notOwn rival
    rcases Party.eq_or_eq_other party next with rfl | rfl
    · exact absurd commits.committed notOwn
    · have own := traced.untouched party
        (fun done => notOwn (committed_of_earlier initial done)) notDone
      rw [commits.table, own]
  · intro party last
    rcases last.rival_before with ⟨earlier, shorter, rivalDone, _⟩
    have rivalBefore := committed_of_earlier shorter rivalDone
    rcases Party.eq_or_eq_other party next with rfl | rfl
    · refine ⟨?_, committed, commits.summary, ?_⟩
      · rw [commits.table, traced.oneCommitted next notDone rivalBefore]
        rfl
      · exact (traced.carried next committed (Or.inr commits.carried)).append last.ne_writing
    · exact absurd rivalBefore notDone

theorem traced_append {schedule : List Party} (traced : Traced setup schedule) (next : Party) :
    Traced setup (schedule ++ [next]) := by
  have statement : Statement setup.summarise (setup.reached schedule) next
      (setup.reached (schedule ++ [next])) := reached_statement schedule next
  have ledger : Ledger setup.batches (setup.reached schedule) := reached_ledger schedule
  rcases statement.quiet_or_commits ledger with quiet | ⟨value, commits⟩
  · exact traced.quiet quiet
  · exact traced.commits commits

theorem traced (setup : Setup key Summary) (schedule : List Party) : Traced setup schedule := by
  induction schedule using List.reverseRecOn with
  | nil => exact traced_nil setup
  | append_singleton before next ih => exact traced_append ih next

/-- Once both have committed, one of them was the later one. -/
theorem exists_commitsLast {schedule : List Party}
    (done : forall party, setup.phaseAt schedule party = .committed) :
    exists party, setup.CommitsLast schedule party := by
  induction schedule using List.reverseRecOn with
  | nil => cases done .first
  | append_singleton before next ih =>
      have rival : setup.phaseAt before next.other = .committed := by
        rw [← phaseAt_append_of_ne next.other_ne]
        exact done next.other
      by_cases own : setup.phaseAt before next = .committed
      · have doneBefore : forall party, setup.phaseAt before party = .committed := by
          intro party
          rcases Party.eq_or_eq_other next party with rfl | rfl
          · exact own
          · exact rival
        rcases ih doneBefore with ⟨party, last⟩
        rcases last.rival with ⟨earlier, initial, rivalDone, notOwn⟩
        exact ⟨party, done party, earlier, initial.trans (List.prefix_append before [next]),
          rivalDone, notOwn⟩
      · exact ⟨next, done next, before, List.prefix_append before [next], rival, own⟩

end Setup

/-! ## One transaction after the other -/

/-- The rival has no lock: it has not begun or is over. -/
def Unlocked (key : Row -> Key) (session : Session Row Summary) : Prop :=
  (forall k, session.holdsRow key k = false) ∧ session.holdsSummary = false

/-- A transaction that is alone writes its batch, summarises the table with
it, and commits both. -/
theorem run_alone (summarise : Party -> Table key -> Summary) (party : Party)
    (pending written : List Row) (state : State key Summary)
    (own : state.session party = { pending := pending, written := written, phase := .writing })
    (free : Unlocked key (state.session party.other)) :
    run (step summarise) state (List.replicate (pending.length + 3) party) =
      { state.setSession party
          { pending := [], written := written ++ pending, phase := .committed } with
        table := state.table.upsertAll (written ++ pending)
        summary := some (summarise party (state.table.upsertAll (written ++ pending))) } := by
  have rival_kept : forall session,
      (state.setSession party session).session party.other = state.session party.other :=
    state.setSession_of_ne party.other_ne
  induction pending generalizing written state with
  | nil =>
      have summarised : step summarise state party =
          state.setSession party
            { pending := [], written := written,
              phase := .summarised (summarise party (state.table.upsertAll written)) } := by
        simp only [step, own]
      have recorded : forall value, step summarise
          (state.setSession party
            { pending := [], written := written, phase := .summarised value }) party =
          state.setSession party { pending := [], written := written, phase := .recorded value } := by
        intro value
        simp only [step, State.setSession_self, rival_kept, free.2, Bool.false_eq_true, if_false,
          State.setSession_setSession]
      have committed : forall value, step summarise
          (state.setSession party
            { pending := [], written := written, phase := .recorded value }) party =
          { state.setSession party { pending := [], written := written, phase := .committed } with
            table := state.table.upsertAll written
            summary := some value } := by
        intro value
        simp only [step, State.setSession_self, State.commit, State.setSession_setSession,
          State.setSession_table]
      change step summarise (step summarise (step summarise state party) party) party = _
      rw [summarised, recorded, committed, List.append_nil]
  | cons row rest ih =>
      have writes : step summarise state party =
          state.setSession party
            { pending := rest, written := written ++ [row], phase := .writing } := by
        simp only [step, own, free.1, Bool.false_eq_true, if_false]
      change run (step summarise) (step summarise state party)
        (List.replicate (rest.length + 3) party) = _
      rw [writes, ih (written ++ [row]) _ (State.setSession_self state party _)]
      · simp only [State.setSession_setSession, State.setSession_table, List.append_assoc,
          List.singleton_append]
      · rw [rival_kept]
        exact free
      · intro session
        rw [State.setSession_setSession, rival_kept, rival_kept]

/-- The schedule that runs one transaction after the other. -/
def Setup.serial (setup : Setup key Summary) (party : Party) : List Party :=
  List.replicate ((setup.batches party).length + 3) party ++
    List.replicate ((setup.batches party.other).length + 3) party.other

/-- The second transaction of a serial schedule summarises the table that both
leave. -/
theorem Setup.reached_serial (setup : Setup key Summary) (party : Party) :
    (setup.reached (setup.serial party)).table = setup.tableAfter party.other ∧
      (setup.reached (setup.serial party)).summary =
        some (setup.summarise party.other (setup.tableAfter party.other)) := by
  unfold Setup.reached Setup.serial
  rw [run_append, run_alone setup.summarise party (setup.batches party) [] _ rfl ⟨fun k => rfl, rfl⟩,
    run_alone setup.summarise party.other (setup.batches party.other) []]
  · simp [Setup.tableAfter]
  · exact State.setSession_of_ne _ party.other_ne _
  · rw [Party.other_other]
    exact ⟨fun k => by simp [Session.holdsRow], by simp [Session.holdsSummary]⟩

end ReadCommitted
