import HybridDataSvc.Catalog.SerialOrder
import Mathlib.Algebra.Order.BigOperators.Group.Finset
import Mathlib.Data.Fintype.BigOperators

namespace HybridDataSvc

open Relational AssetsRepo AssetServiceServicer Transition Deadlock

/-!
# When concurrent creates succeed

A create can fail in two ways.  Two transactions may both find the symbol
missing, since the select of a missing row locks nothing; the second one to
insert it fails.  And two transactions may insert the same feeds in a different
order and wait for each other, until one of them is aborted.  Both answer
INTERNAL.  Where neither happens every create succeeds, and a run after which
every call is answered succeeds only there.
-/

section Concurrent

variable {F : Type} {n : Nat} {calls : Fin n -> CreateCall} {db₀ : Database F}
  {state : CreateState F n} {p q : Fin n} {phase : CreatePhase}

/-! ## What is expected of a state -/

/-- The feeds that a call has asked for. -/
def HasFeeds (call : CreateCall) (db : Database F) : Prop :=
  forall timeframe, timeframe ∈ call.timeframes ->
    (db.feedAt call.storageSymbol timeframe).isSome = true

/-- The creates that have been answered behave like creates one after the
other, from the database at the beginning. -/
structure Linearized (calls : Fin n -> CreateCall) (db₀ : Database F) (state : CreateState F n) :
    Prop where
  no_error : forall p error, state.phase p ≠ .answered (.error error)
  -- one call creates a new symbol, and no call an old one
  one_creator : forall p response, state.phase p = .answered (.ok response) ->
    db₀.assets.lookup (calls p).symbol = none ->
      exists winner, ((calls winner).symbol = (calls p).symbol ∧ HasCreated state winner) ∧
        forall q, (calls q).symbol = (calls p).symbol ∧ HasCreated state q -> q = winner
  created_new : forall p, HasCreated state p -> db₀.assets.lookup (calls p).symbol = none
  -- the others are answered with the row of the winner
  winners_row : forall p winner response, state.phase p = .answered (.ok response) ->
    HasCreated state winner -> (calls winner).symbol = (calls p).symbol ->
      Shows response (calls winner).record
  old_row : forall p response row, state.phase p = .answered (.ok response) ->
    db₀.assets.lookup (calls p).symbol = some row -> Shows response row
  -- what is committed came whole
  complete : forall symbol row, state.db.assets.lookup symbol = some row ->
    db₀.assets.lookup symbol = some row ∨
      exists p, HasCreated state p ∧ (calls p).symbol = symbol ∧ row = (calls p).record ∧
        HasFeeds (calls p) state.db
  feeds_kept : forall key, (db₀.feeds.lookup key).isSome = true ->
    (state.db.feeds.lookup key).isSome = true

/-- Every call has its answer. -/
def IsFinished (state : CreateState F n) : Prop :=
  forall p, exists answer, state.phase p = .answered answer

/-! ## When a step goes well -/

/-- If the next statement of the call is a select that finds its symbol
missing, no open transaction has found the symbol missing too. -/
def SelectsAlone (calls : Fin n -> CreateCall) (state : CreateState F n) (p : Fin n) : Prop :=
  state.phase p = .selecting -> state.db.assets.lookup (calls p).symbol = none ->
    forall q, state.hasSeenAbsent q = true -> (calls q).symbol ≠ (calls p).symbol

/-- Creates of a symbol start one after the other, and no transaction is
aborted because it waits in a circle. -/
def Orderly (calls : Fin n -> CreateCall) (state : CreateState F n) : CreateAction n -> Prop
  | .next p => SelectsAlone calls state p
  | .abort p others => isCycle (state.waits calls) p others = false

instance (calls : Fin n -> CreateCall) (state : CreateState F n) (action : CreateAction n) :
    Decidable (Orderly calls state action) :=
  match action with
  | .next p => inferInstanceAs (Decidable (state.phase p = .selecting ->
      state.db.assets.lookup (calls p).symbol = none ->
        forall q, state.hasSeenAbsent q = true -> (calls q).symbol ≠ (calls p).symbol))
  | .abort p others => inferInstanceAs (Decidable (isCycle (state.waits calls) p others = false))

/-! ## Orderly runs -/

/-- One open transaction at most has found a symbol missing, what it has found
is still so, and nothing has failed. -/
structure SoloInv (calls : Fin n -> CreateCall) (db₀ : Database F) (state : CreateState F n) :
    Prop where
  kept : CreateInv calls db₀ state
  alone : forall p q, state.hasSeenAbsent p = true -> state.hasSeenAbsent q = true ->
    (calls p).symbol = (calls q).symbol -> p = q
  missing : forall p, state.phase p = .absent ->
    state.db.assets.lookup (calls p).symbol = none
  no_error : forall p error, state.phase p ≠ .answered (.error error)

theorem CreateState.hasSeenAbsent_congr {other : CreateState F n}
    (same : other.phase p = state.phase p) : other.hasSeenAbsent p = state.hasSeenAbsent p := by
  unfold hasSeenAbsent
  rw [same]

theorem soloInv_initial (calls : Fin n -> CreateCall) (db₀ : Database F) :
    SoloInv calls db₀ (CreateState.initial db₀) where
  kept := createInv_initial calls db₀
  alone := fun _ _ seen => (nomatch seen)
  missing := fun _ absent => (nomatch absent)
  no_error := fun _ _ => nofun

/-- A step in which one call changes its phase. -/
theorem SoloInv.setPhase (inv : SoloInv calls db₀ state)
    (kept : CreateInv calls db₀ (state.setPhase p phase))
    (alone : (state.setPhase p phase).hasSeenAbsent p = true ->
      state.hasSeenAbsent p = true ∨
        forall q, state.hasSeenAbsent q = true -> (calls q).symbol ≠ (calls p).symbol)
    (missing : phase = .absent -> state.db.assets.lookup (calls p).symbol = none)
    (no_error : forall error, phase ≠ .answered (.error error)) :
    SoloInv calls db₀ (state.setPhase p phase) := by
  have others : forall q, q ≠ p ->
      (state.setPhase p phase).hasSeenAbsent q = state.hasSeenAbsent q :=
    fun q other => CreateState.hasSeenAbsent_congr (CreateState.phase_setPhase_of_ne other)
  -- the call that moves and another one that has seen the symbol missing
  have apart : (state.setPhase p phase).hasSeenAbsent p = true -> forall q, q ≠ p ->
      state.hasSeenAbsent q = true -> (calls q).symbol ≠ (calls p).symbol := by
    intro seen q other seenQ
    rcases alone seen with before | first
    · exact fun same => other (inv.alone q p seenQ before same)
    · exact first q seenQ
  refine ⟨kept, ?_, ?_, ?_⟩
  · intro q r seenQ seenR same
    by_cases first : q = p
    · by_cases second : r = p
      · rw [first, second]
      · rw [first] at seenQ same
        rw [others r second] at seenR
        exact absurd same.symm (apart seenQ r second seenR)
    · rw [others q first] at seenQ
      by_cases second : r = p
      · rw [second] at seenR same
        exact absurd same (apart seenR q first seenQ)
      · rw [others r second] at seenR
        exact inv.alone q r seenQ seenR same
  · exact CreateState.forall_setPhase
      (fun q phase => phase = .absent -> state.db.assets.lookup (calls q).symbol = none)
      missing (fun q _ => inv.missing q)
  · exact CreateState.forall_setPhase (fun _ phase => forall error, phase ≠ .answered (.error error))
      no_error (fun q _ => inv.no_error q)

/-- A commit of the only transaction that has found its symbol missing. -/
theorem SoloInv.commit (inv : SoloInv calls db₀ state) {written : List FeedRecord}
    (phase : state.phase p = .inserting written [])
    (kept : CreateInv calls db₀ (state.commit calls p written)) :
    SoloInv calls db₀ (state.commit calls p written) := by
  have own : state.hasSeenAbsent p = true := by simp [CreateState.hasSeenAbsent, phase]
  have free : state.db.assets.lookup (calls p).symbol = none := (inv.kept.phaseHolds phase).1
  have before : forall q, (state.commit calls p written).hasSeenAbsent q = true ->
      q ≠ p ∧ state.hasSeenAbsent q = true := by
    intro q seen
    by_cases same : q = p
    · subst same
      simp [CreateState.hasSeenAbsent] at seen
    · rw [CreateState.hasSeenAbsent_congr (CreateState.phase_commit_of_ne same)] at seen
      exact ⟨same, seen⟩
  refine ⟨kept, ?_, ?_, ?_⟩
  · exact fun q r seenQ seenR => inv.alone q r (before q seenQ).2 (before r seenR).2
  · intro q absent
    have seen : (state.commit calls p written).hasSeenAbsent q = true := by
      simp [CreateState.hasSeenAbsent, absent]
    rcases before q seen with ⟨other, seenBefore⟩
    rw [CreateState.phase_commit_of_ne other] at absent
    apply (lookup_asset_committed free written _).trans
    rw [if_neg (fun same => other (inv.alone q p seenBefore own same)), inv.missing q absent]
  · exact CreateState.forall_commit (fun _ phase => forall error, phase ≠ .answered (.error error))
      (fun _ => nofun) (fun q _ => inv.no_error q)

/-- An orderly step keeps the transactions on one symbol apart. -/
theorem SoloInv.step (inv : SoloInv calls db₀ state) {action : CreateAction n}
    (orderly : Orderly calls state action) : SoloInv calls db₀ (state.step calls action) := by
  have kept := inv.kept.step action
  rcases state.step_cases calls action with
    same | ⟨p, chosen, -, advances⟩ | ⟨p, others, chosen, circle, -⟩
  · rw [same]
    exact inv
  · subst chosen
    generalize state.step calls (.next p) = after at kept advances ⊢
    cases advances with
    | find phase present =>
        exact inv.setPhase kept (by simp [CreateState.hasSeenAbsent]) (by simp) (by simp)
    | miss phase missing =>
        exact inv.setPhase kept (fun _ => Or.inr (orderly phase missing)) (fun _ => missing)
          (by simp)
    | release phase =>
        exact inv.setPhase kept (by simp [CreateState.hasSeenAbsent]) (by simp) (by simp)
    | clash phase present =>
        rw [inv.missing p phase] at present
        cases present
    | insertAsset phase missing =>
        exact inv.setPhase kept (fun _ => Or.inl (by simp [CreateState.hasSeenAbsent, phase]))
          (by simp) (by simp)
    | skipFeed phase taken =>
        exact inv.setPhase kept (fun _ => Or.inl (by simp [CreateState.hasSeenAbsent, phase]))
          (by simp) (by simp)
    | insertFeed phase unstored unwritten =>
        exact inv.setPhase kept (fun _ => Or.inl (by simp [CreateState.hasSeenAbsent, phase]))
          (by simp) (by simp)
    | commit phase => exact inv.commit phase kept
    | vanished phase missing =>
        -- the row that the select has found is still there
        rcases inv.kept.phaseHolds phase with ⟨-, row, stored⟩
        rw [getWithStatus, stored] at missing
        cases missing
    | reread phase present =>
        exact inv.setPhase kept (by simp [CreateState.hasSeenAbsent]) (by simp) (by simp)
  · subst chosen
    rw [Orderly, circle] at orderly
    cases orderly

/-- A feed that is there stays. -/
theorem CreateState.isSome_feed_step (state : CreateState F n) (action : CreateAction n)
    {key : String × String} (present : (state.db.feeds.lookup key).isSome = true) :
    ((state.step calls action).db.feeds.lookup key).isSome = true := by
  rcases state.step_cases calls action with
    same | ⟨p, -, -, advances⟩ | ⟨p, others, -, -, aborted⟩
  · rwa [same]
  · generalize state.step calls action = after at advances ⊢
    cases advances with
    | commit phase => exact isSome_lookup_insertNewAll _ (Or.inl present)
    | _ => exact present
  · rwa [aborted]

theorem isSome_feed_run (calls : Fin n -> CreateCall) (db₀ : Database F)
    (actions : List (CreateAction n)) {key : String × String}
    (present : (db₀.feeds.lookup key).isSome = true) :
    ((run (CreateState.step calls) (CreateState.initial db₀) actions).db.feeds.lookup key).isSome =
      true := by
  have kept : forall (state : CreateState F n) (action : CreateAction n),
      (state.db.feeds.lookup key).isSome = true ->
        ((state.step calls action).db.feeds.lookup key).isSome = true :=
    fun state action before => state.isSome_feed_step action before
  exact invariant_run_always (CreateState.step calls) kept present actions

/-- A successful answer carries the row of its symbol. -/
theorem CreateInv.shows (inv : CreateInv calls db₀ state) {response : CreateAssetResponse}
    (answered : state.phase p = .answered (.ok response)) {row : AssetRecord}
    (stored : state.db.assets.lookup (calls p).symbol = some row) : Shows response row := by
  cases created : response.created with
  | true =>
      rcases (inv.phaseHolds answered).fresh created with ⟨rfl, own, -⟩
      rw [own] at stored
      cases stored
      exact ⟨rfl, rfl⟩
  | false =>
      rcases (inv.phaseHolds answered).existing created with ⟨other, own, shown⟩
      rw [own] at stored
      cases stored
      exact shown

/-- A state in which nothing has failed is as expected. -/
theorem CreateInv.linearized (inv : CreateInv calls db₀ state)
    (no_error : forall p error, state.phase p ≠ .answered (.error error))
    (feeds_kept : forall key, (db₀.feeds.lookup key).isSome = true ->
      (state.db.feeds.lookup key).isSome = true) : Linearized calls db₀ state := by
  refine ⟨no_error, ?_, inv.new, ?_, ?_, ?_, feeds_kept⟩
  · intro p response answered fresh
    -- the symbol is in the catalog now, so a call has created it
    have stored : exists row, state.db.assets.lookup (calls p).symbol = some row := by
      cases created : response.created with
      | true => exact ⟨_, ((inv.phaseHolds answered).fresh created).2.1⟩
      | false =>
          rcases (inv.phaseHolds answered).existing created with ⟨row, stored, -⟩
          exact ⟨row, stored⟩
    rcases stored with ⟨row, stored⟩
    rcases inv.origin _ row stored with old | ⟨winner, created, same, -⟩
    · rw [fresh] at old
      cases old
    · refine ⟨winner, ⟨same, created⟩, ?_⟩
      rintro q ⟨sameQ, createdQ⟩
      exact inv.unique q winner createdQ created (sameQ.trans same.symm)
  · intro p winner response answered created same
    have stored := (inv.stored_of_hasCreated created).1
    rw [same] at stored
    exact inv.shows answered stored
  · intro p response row answered stored
    exact inv.shows answered (inv.kept _ row stored)
  · intro symbol row stored
    rcases inv.origin symbol row stored with old | ⟨p, created, same, own⟩
    · exact Or.inl old
    · exact Or.inr ⟨p, created, same, own, (inv.stored_of_hasCreated created).2⟩

/-- In an orderly run every state is as expected. -/
theorem linearized_of_orderly (calls : Fin n -> CreateCall) (db₀ : Database F)
    {actions : List (CreateAction n)}
    (orderly : Along (CreateState.step calls) (Orderly calls) (CreateState.initial db₀) actions) :
    Linearized calls db₀ (run (CreateState.step calls) (CreateState.initial db₀) actions) := by
  have stepwise : forall (state : CreateState F n) (action : CreateAction n),
      SoloInv calls db₀ state -> Orderly calls state action ->
        SoloInv calls db₀ (state.step calls action) := fun _ _ inv met => inv.step met
  have solo := invariant_run (CreateState.step calls) stepwise (soloInv_initial calls db₀) orderly
  exact solo.kept.linearized solo.no_error (fun _ => isSome_feed_run calls db₀ actions)

/-! ## Runs that are not orderly -/

/-- The call cannot end otherwise than by creating its asset or failing. -/
def IsEngaged (state : CreateState F n) (p : Fin n) : Prop :=
  state.hasSeenAbsent p = true ∨ HasCreated state p ∨
    exists error, state.phase p = .answered (.error error)

/-- A call has failed, or one of two will. -/
def IsBroken (calls : Fin n -> CreateCall) (state : CreateState F n) : Prop :=
  (exists p error, state.phase p = .answered (.error error)) ∨
    exists p q, p ≠ q ∧ (calls p).symbol = (calls q).symbol ∧ IsEngaged state p ∧ IsEngaged state q

/-- An answer is final. -/
theorem CreateState.answered_step {answer : Except GrpcError CreateAssetResponse}
    (answered : state.phase p = .answered answer) (action : CreateAction n) :
    (state.step calls action).phase p = .answered answer := by
  rcases state.step_cases calls action with
    same | ⟨q, -, -, advances⟩ | ⟨q, others, -, circle, aborted⟩
  · rw [same, answered]
  · have other : p ≠ q := by
      rintro rfl
      exact advances.not_answered answer answered
    rw [advances.phase_of_ne other, answered]
  · have other : p ≠ q := by
      rintro rfl
      exact not_answered_of_isCycle circle answer answered
    rw [aborted, phase_setPhase_of_ne other, answered]

theorem CreateState.isEngaged_step (engaged : IsEngaged state p) (action : CreateAction n) :
    IsEngaged (state.step calls action) p := by
  rcases engaged with seen | ⟨response, answered, created⟩ | ⟨error, answered⟩
  · rcases state.step_cases calls action with
      same | ⟨q, -, -, advances⟩ | ⟨q, others, -, -, aborted⟩
    · rw [same]
      exact Or.inl seen
    · by_cases own : p = q
      · subst own
        generalize state.step calls action = after at advances ⊢
        cases advances with
        | find phase _ => simp [hasSeenAbsent, phase] at seen
        | miss phase _ => simp [hasSeenAbsent, phase] at seen
        | release phase => simp [hasSeenAbsent, phase] at seen
        | clash phase _ => exact Or.inr (Or.inr ⟨_, phase_setPhase_self⟩)
        | insertAsset phase _ => exact Or.inl (by simp [hasSeenAbsent])
        | skipFeed phase _ => exact Or.inl (by simp [hasSeenAbsent])
        | insertFeed phase _ _ => exact Or.inl (by simp [hasSeenAbsent])
        | commit phase => exact Or.inr (Or.inl ⟨_, phase_commit_self, rfl⟩)
        | vanished phase _ => simp [hasSeenAbsent, phase] at seen
        | reread phase _ => simp [hasSeenAbsent, phase] at seen
      · exact Or.inl (by rw [hasSeenAbsent_congr (advances.phase_of_ne own), seen])
    · rw [aborted]
      by_cases own : p = q
      · subst own
        exact Or.inr (Or.inr ⟨_, phase_setPhase_self⟩)
      · exact Or.inl (by rw [hasSeenAbsent_congr (phase_setPhase_of_ne own), seen])
  · exact Or.inr (Or.inl ⟨response, answered_step answered action, created⟩)
  · exact Or.inr (Or.inr ⟨error, answered_step answered action⟩)

theorem CreateState.isBroken_step (broken : IsBroken calls state) (action : CreateAction n) :
    IsBroken calls (state.step calls action) := by
  rcases broken with ⟨p, error, answered⟩ | ⟨p, q, other, same, engagedP, engagedQ⟩
  · exact Or.inl ⟨p, error, answered_step answered action⟩
  · exact Or.inr ⟨p, q, other, same, isEngaged_step engagedP action,
      isEngaged_step engagedQ action⟩

/-- A step that is not orderly breaks something. -/
theorem CreateState.isBroken_of_not_orderly {action : CreateAction n}
    (violated : ¬ Orderly calls state action) : IsBroken calls (state.step calls action) := by
  cases action with
  | abort p others =>
      have circle : isCycle (state.waits calls) p others = true := eq_true_of_ne_false violated
      refine Or.inl ⟨p, .internal "internal error creating asset", ?_⟩
      rw [step, if_pos circle]
      exact phase_setPhase_self
  | next p =>
      simp only [Orderly, SelectsAlone, not_forall, not_not] at violated
      rcases violated with ⟨phase, missing, q, seen, same⟩
      have other : q ≠ p := by
        rintro rfl
        simp [hasSeenAbsent, phase] at seen
      have free : state.isBlocked calls p = false := by
        have idle : state.wants calls p = none := by simp [wants, phase, missing]
        exact List.any_eq_false.mpr
          (fun r _ => by rw [waits, waitsFor_of_none _ idle]; exact Bool.false_ne_true)
      have stepped : state.step calls (.next p) = state.setPhase p .absent := by
        simp [step, free, advance, phase, missing]
      rw [stepped]
      refine Or.inr ⟨q, p, other, same, Or.inl ?_, Or.inl ?_⟩
      · rw [hasSeenAbsent_congr (phase_setPhase_of_ne other), seen]
      · simp [hasSeenAbsent]

/-- A finished state in which something is broken is not as expected. -/
theorem CreateInv.not_linearized (inv : CreateInv calls db₀ state) (finished : IsFinished state)
    (broken : IsBroken calls state) : ¬ Linearized calls db₀ state := by
  intro linearized
  have created : forall p, IsEngaged state p -> HasCreated state p := by
    rintro p (seen | created | ⟨error, answered⟩)
    · rcases finished p with ⟨answer, answered⟩
      simp [CreateState.hasSeenAbsent, answered] at seen
    · exact created
    · exact absurd answered (linearized.no_error p error)
  rcases broken with ⟨p, error, answered⟩ | ⟨p, q, other, same, engagedP, engagedQ⟩
  · exact linearized.no_error p error answered
  · exact other (inv.unique p q (created p engagedP) (created q engagedQ) same)

/-! ## Every call ends -/

/-- The statements a call can still make. -/
def remainingStatements (call : CreateCall) : CreatePhase -> Nat
  | .selecting => call.timeframes.length + 3
  | .found _ => 2
  | .absent => call.timeframes.length + 2
  | .inserting _ pending => pending.length + 1
  | .rereading _ => 1
  | .answered _ => 0

def CreateState.remaining (calls : Fin n -> CreateCall) (state : CreateState F n) : Nat :=
  ∑ p, remainingStatements (calls p) (state.phase p)

theorem remainingStatements_pos (call : CreateCall)
    (unanswered : forall answer, phase ≠ .answered answer) : 0 < remainingStatements call phase := by
  cases phase with
  | answered answer => exact absurd rfl (unanswered answer)
  | _ => exact Nat.succ_pos _

theorem Advances.remaining {after : CreateState F n} (advances : Advances calls state p after) :
    remainingStatements (calls p) (after.phase p) <
      remainingStatements (calls p) (state.phase p) := by
  cases advances <;> simp_all [remainingStatements, CreateState.internalError]

/-- Each step that changes something makes one statement less remain. -/
theorem CreateState.remaining_step (state : CreateState F n) (action : CreateAction n) :
    state.step calls action = state ∨
      (state.step calls action).remaining calls < state.remaining calls := by
  have decreases : forall (after : CreateState F n) (p : Fin n),
      (forall q, q ≠ p -> after.phase q = state.phase q) ->
        remainingStatements (calls p) (after.phase p) <
          remainingStatements (calls p) (state.phase p) ->
        after.remaining calls < state.remaining calls := by
    intro after p others less
    refine Finset.sum_lt_sum (fun q _ => ?_) ⟨p, Finset.mem_univ p, less⟩
    by_cases own : q = p
    · subst own
      exact le_of_lt less
    · exact le_of_eq (congrArg _ (others q own))
  rcases state.step_cases calls action with
    same | ⟨p, -, -, advances⟩ | ⟨p, others, -, circle, aborted⟩
  · exact Or.inl same
  · exact Or.inr (decreases _ p (fun q other => advances.phase_of_ne other) advances.remaining)
  · refine Or.inr (decreases _ p (fun q other => ?_) ?_)
    · rw [aborted, phase_setPhase_of_ne other]
    · rw [aborted, phase_setPhase_self]
      exact remainingStatements_pos _ (not_answered_of_isCycle circle)

/-- When no step changes anything any more, every call has its answer. -/
theorem CreateState.isFinished_of_stuck
    (stuck : forall action, state.step calls action = state) : IsFinished state := by
  have acyclic : forall p others, isCycle (state.waits calls) p others = false := by
    intro p others
    cases circle : isCycle (state.waits calls) p others with
    | false => rfl
    | true =>
        have aborted : state.setPhase p internalError = state := by
          have stepped := stuck (.abort p others)
          rwa [step, if_pos circle] at stepped
        have answered : state.phase p = internalError := by
          rw [← aborted]
          exact phase_setPhase_self
        exact absurd answered (not_answered_of_isCycle circle _)
  intro p
  by_contra open_yet
  rcases exists_free acyclic p with ⟨q, path, free⟩
  -- the call that everything waits for could go on
  have unanswered : forall answer, state.phase q ≠ .answered answer := by
    intro answer answered
    rcases path.cases_tail with same | ⟨r, -, waiting⟩
    · subst same
      exact open_yet ⟨answer, answered⟩
    · rcases waitsFor_eq_true_iff.mp waiting with ⟨lock, -, held⟩
      simp [holds, answered] at held
  have less := (advances_of_free calls free unanswered).remaining
  rw [stuck (.next q)] at less
  exact lt_irrefl _ less

/-- From every state the calls can be brought to their answers. -/
theorem CreateState.exists_isFinished (calls : Fin n -> CreateCall) (state : CreateState F n) :
    exists actions, IsFinished (run (step calls) state actions) := by
  induction remaining : state.remaining calls using Nat.strong_induction_on generalizing state with
  | _ count ih =>
      by_cases stuck : forall action, state.step calls action = state
      · exact ⟨[], isFinished_of_stuck stuck⟩
      · rcases not_forall.mp stuck with ⟨action, changed⟩
        have less := (state.remaining_step action).resolve_left changed
        rcases ih _ (remaining ▸ less) (state.step calls action) rfl with ⟨actions, finished⟩
        exact ⟨action :: actions, finished⟩

/-! ## Which creates succeed -/

/-- Creates that go on in an orderly way behave as if they came one after the
other, in every state of a run.  A run that answers every call does so only
where each of its steps is orderly. -/
theorem creates_linearize_iff (calls : Fin n -> CreateCall) (db₀ : Database F)
    (actions : List (CreateAction n)) :
    (Along (CreateState.step calls) (Orderly calls) (CreateState.initial db₀) actions ->
      forall shorter, shorter <+: actions ->
        Linearized calls db₀ (run (CreateState.step calls) (CreateState.initial db₀) shorter)) ∧
    (IsFinished (run (CreateState.step calls) (CreateState.initial db₀) actions) ->
      Linearized calls db₀ (run (CreateState.step calls) (CreateState.initial db₀) actions) ->
        Along (CreateState.step calls) (Orderly calls) (CreateState.initial db₀) actions) := by
  constructor
  · intro orderly shorter initial
    exact linearized_of_orderly calls db₀ (orderly.of_prefix (CreateState.step calls) initial)
  · intro finished linearized
    have stays : forall (state : CreateState F n) (action : CreateAction n),
        IsBroken calls state -> IsBroken calls (state.step calls action) :=
      fun _ action broken => CreateState.isBroken_step broken action
    refine along_of_avoids (CreateState.step calls) stays
      (fun _ _ violated => CreateState.isBroken_of_not_orderly violated) (fun broken => ?_)
    exact (createInv_run calls db₀ actions).not_linearized finished broken linearized

end Concurrent

/-- Two requests for the same asset. -/
def adaTwice : Fin 2 -> CreateCall := fun p => ⟨adaRequest, 100000 + p.val, by decide +kernel⟩

/-- The first create, and then the second one. -/
def inTurn : List (CreateAction 2) :=
  [.next 0, .next 0, .next 0, .next 0, .next 1, .next 1, .next 1]

theorem creates_linearize_in_turn :
    forall shorter, shorter <+: inTurn -> Linearized adaTwice Database.empty
      (run (CreateState.step adaTwice) (CreateState.initial (Database.empty : Database Rat))
        shorter) :=
  (creates_linearize_iff adaTwice Database.empty inTurn).1 (by decide +kernel)

/-- Both selects come before the first insert. -/
def bothSelect : List (CreateAction 2) :=
  [.next 0, .next 1, .next 0, .next 0, .next 0, .next 1]

/-- Two assets with one storage symbol; the second request names the
timeframes the other way round. -/
def crossedTimeframes : Fin 2 -> CreateCall
  | 0 => ⟨{ adaRequest with timeframes := ["1h", "4h"] }, 100000, by decide +kernel⟩
  | 1 =>
    ⟨{ adaRequest with
        asset := { adaRequest.asset with symbol := "BINANCE:ADAUSDT" }
        timeframes := ["4h", "1h"] }, 100000, by decide +kernel⟩

/-- Each transaction has inserted its first feed and waits for the other one. -/
def bothWait : List (CreateAction 2) :=
  [.next 0, .next 0, .next 0, .next 1, .next 1, .next 1, .abort 1 [0]]

/-- The second of two creates of one asset fails, and so does the victim of
two creates that wait for each other. -/
theorem create_fails :
    ¬ Linearized adaTwice Database.empty
      (run (CreateState.step adaTwice) (CreateState.initial (Database.empty : Database Rat))
        bothSelect) ∧
    ¬ Linearized crossedTimeframes Database.empty
      (run (CreateState.step crossedTimeframes)
        (CreateState.initial (Database.empty : Database Rat)) bothWait) := by
  constructor
  · intro linearized
    exact linearized.no_error 1 (.internal "internal error creating asset") (by decide +kernel)
  · intro linearized
    exact linearized.no_error 1 (.internal "internal error creating asset") (by decide +kernel)

/-! ## Requests that cannot disturb each other -/

section Concurrent

variable {F : Type} {n : Nat} {calls : Fin n -> CreateCall} {db₀ : Database F}
  {state : CreateState F n}

/-- The locks in the order in which a call takes them, for a common order of
the timeframes. -/
def lockRank (position : String -> Nat) : CreateLock -> Nat
  | .feed key => position key.2 + 1
  | _ => 0

/-- Timeframes in a common order leave no circle.  A call that wants a feed
holds its asset and the feeds of earlier timeframes. -/
theorem CreateInv.acyclic (inv : CreateInv calls db₀ state) {position : String -> Nat}
    (ordered : forall p, (calls p).timeframes.Pairwise (fun timeframe later =>
      timeframe = later ∨ position timeframe < position later))
    (p : Fin n) (others : List (Fin n)) : isCycle (state.waits calls) p others = false := by
  refine isCycle_of_ordered (lockRank position) (fun q key held wanted own => ?_) p others
  cases phase : state.phase q with
  | selecting => simp [CreateState.holds, phase] at own
  | found row => simp [CreateState.wants, phase] at wanted
  | absent => simp [CreateState.holds, phase] at own
  | rereading symbol => simp [CreateState.wants, phase] at wanted
  | answered answer => simp [CreateState.wants, phase] at wanted
  | inserting written pending =>
      rcases inv.phaseHolds phase with ⟨-, done, split, writing⟩
      cases pending with
      | nil => simp [CreateState.wants, phase] at wanted
      | cons timeframe rest =>
          simp only [CreateState.wants, phase, Option.ite_none_left_eq_some, Bool.or_eq_true,
            not_or, Bool.not_eq_true, Option.some.injEq] at wanted
          rcases wanted with ⟨⟨-, unwritten⟩, rfl⟩
          cases held with
          | row symbol => simp [CreateState.holds, phase] at own
          | asset symbol => exact Nat.succ_pos _
          | feed key =>
              simp only [CreateState.holds, phase] at own
              rcases CreateState.hasWritten_iff.mp own with ⟨row, member, same⟩
              rcases writing.own row member with ⟨earlier, listed, rfl⟩
              have before := ordered q
              rw [split, List.pairwise_append] at before
              subst same
              rcases before.2.2 earlier listed timeframe List.mem_cons_self with equal | less
              · subst equal
                exact absurd (unwritten.symm.trans own) Bool.false_ne_true
              · exact Nat.succ_lt_succ less

/-- Requests for different new symbols, with their timeframes in a common
order, behave as if they came one after the other in every run. -/
theorem linearized_of_independent (calls : Fin n -> CreateCall) (db₀ : Database F)
    {position : String -> Nat}
    (ordered : forall p, (calls p).timeframes.Pairwise (fun timeframe later =>
      timeframe = later ∨ position timeframe < position later))
    (different : forall p q, (calls p).symbol = (calls q).symbol ->
      db₀.assets.lookup (calls p).symbol = none -> p = q)
    (actions : List (CreateAction n)) :
    Linearized calls db₀ (run (CreateState.step calls) (CreateState.initial db₀) actions) := by
  have kept : forall (state : CreateState F n) (action : CreateAction n),
      CreateInv calls db₀ state -> CreateInv calls db₀ (state.step calls action) :=
    fun _ action inv => inv.step action
  have orderly : forall (state : CreateState F n) (action : CreateAction n),
      CreateInv calls db₀ state -> Orderly calls state action := by
    intro state action inv
    cases action with
    | abort p others => exact inv.acyclic ordered p others
    | next p =>
        intro phase missing q seen same
        have own := different q p same (inv.missing_before (same ▸ missing))
        subst own
        simp [CreateState.hasSeenAbsent, phase] at seen
  exact linearized_of_orderly calls db₀
    (along_of_invariant (CreateState.step calls) kept orderly (createInv_initial calls db₀) actions)

end Concurrent

end HybridDataSvc
