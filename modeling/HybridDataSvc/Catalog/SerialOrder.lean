import HybridDataSvc.Catalog.Transactions

namespace HybridDataSvc

open Relational AssetsRepo AssetServiceServicer Transition Deadlock

/-!
# What concurrent creates leave

Whatever the schedule, locks are held by one transaction each, and a commit
changes the catalog as its call alone would.  So the committed catalog is
always the one that the calls that created their asset leave one after the
other.
-/

section Concurrent

variable {F : Type} {n : Nat} {calls : Fin n -> CreateCall} {db₀ : Database F}
  {state : CreateState F n} {p q : Fin n} {phase : CreatePhase}

namespace CreateState

@[simp] theorem db_setPhase : (state.setPhase p phase).db = state.db := rfl

@[simp] theorem phase_setPhase_self : (state.setPhase p phase).phase p = phase :=
  Function.update_self ..

theorem phase_setPhase_of_ne (other : q ≠ p) :
    (state.setPhase p phase).phase q = state.phase q := Function.update_of_ne other ..

@[simp] theorem db_commit {written : List FeedRecord} :
    (state.commit calls p written).db = committed (calls p) written state.db := rfl

@[simp] theorem phase_commit_self {written : List FeedRecord} :
    (state.commit calls p written).phase p = .answered (.ok (calls p).freshResponse) :=
  Function.update_self ..

theorem phase_commit_of_ne {written : List FeedRecord} (other : q ≠ p) :
    (state.commit calls p written).phase q = state.phase q := Function.update_of_ne other ..

/-- What holds of the phase that a call gets and of the phases of the others. -/
theorem forall_setPhase (holds : Fin n -> CreatePhase -> Prop) (own : holds p phase)
    (others : forall q, q ≠ p -> holds q (state.phase q)) :
    forall q, holds q ((state.setPhase p phase).phase q) :=
  (Function.forall_update_iff state.phase (p := holds)).mpr ⟨own, others⟩

theorem forall_commit {written : List FeedRecord} (holds : Fin n -> CreatePhase -> Prop)
    (own : holds p (.answered (.ok (calls p).freshResponse)))
    (others : forall q, q ≠ p -> holds q (state.phase q)) :
    forall q, holds q ((state.commit calls p written).phase q) :=
  (Function.forall_update_iff state.phase (p := holds)).mpr ⟨own, others⟩

theorem hasWritten_iff {written : List FeedRecord} {key : String × String} :
    hasWritten written key = true ↔ exists row, row ∈ written ∧ row.key = key := by
  simp [hasWritten]

/-- What a transaction holds depends on its phase alone. -/
theorem holds_congr {other : CreateState F n} (same : other.phase p = state.phase p)
    (lock : CreateLock) : other.holds calls p lock = state.holds calls p lock := by
  unfold holds
  rw [same]

end CreateState

/-! ## Locks -/

/-- Nobody shares a lock. -/
def LocksExclusive (calls : Fin n -> CreateCall) (state : CreateState F n) : Prop :=
  forall lock p q, state.holds calls p lock = true -> state.holds calls q lock = true -> p = q

/-- A statement of one call leaves the other ones where they are. -/
theorem Advances.phase_of_ne {after : CreateState F n} (advances : Advances calls state p after)
    (other : q ≠ p) : after.phase q = state.phase q := by
  cases advances with
  | commit phase => exact CreateState.phase_commit_of_ne other
  | _ => exact CreateState.phase_setPhase_of_ne other

/-- A call holds afterwards what it held or wanted before. -/
theorem Advances.holds {after : CreateState F n} (advances : Advances calls state p after)
    {lock : CreateLock} (held : after.holds calls p lock = true) :
    state.holds calls p lock = true ∨ state.wants calls p = some lock := by
  cases advances with
  | find phase present =>
      apply Or.inr
      cases lock with
      | row symbol =>
          simp only [CreateState.holds, CreateState.phase_setPhase_self, decide_eq_true_eq] at held
          simp [CreateState.wants, phase, present, held]
      | asset symbol => simp [CreateState.holds] at held
      | feed key => simp [CreateState.holds] at held
  | miss phase missing => simp [CreateState.holds] at held
  | release phase => simp [CreateState.holds] at held
  | clash phase present => simp [CreateState.holds, CreateState.internalError] at held
  | insertAsset phase missing =>
      apply Or.inr
      cases lock with
      | row symbol => simp [CreateState.holds] at held
      | asset symbol =>
          simp only [CreateState.holds, CreateState.phase_setPhase_self, decide_eq_true_eq] at held
          simp [CreateState.wants, phase, missing, held]
      | feed key => simp [CreateState.holds, CreateState.hasWritten] at held
  | skipFeed phase taken =>
      apply Or.inl
      unfold CreateState.holds at held ⊢
      rw [CreateState.phase_setPhase_self] at held
      rw [phase]
      cases lock with
      | row symbol => exact held
      | asset symbol => exact held
      | feed key => exact held
  | insertFeed phase missing unwritten =>
      rename_i written timeframe rest
      unfold CreateState.holds at held ⊢
      rw [CreateState.phase_setPhase_self] at held
      rw [phase]
      cases lock with
      | row symbol => exact Or.inl held
      | asset symbol => exact Or.inl held
      | feed key =>
          rcases CreateState.hasWritten_iff.mp held with ⟨row, member, same⟩
          rcases List.mem_append.mp member with old | new
          · exact Or.inl (CreateState.hasWritten_iff.mpr ⟨row, old, same⟩)
          · rw [List.mem_singleton.mp new, CreateCall.key_feed] at same
            subst same
            apply Or.inr
            simp [CreateState.wants, phase, missing, unwritten]
  | commit phase => simp [CreateState.holds] at held
  | vanished phase missing => simp [CreateState.holds] at held
  | reread phase present => simp [CreateState.holds] at held

theorem LocksExclusive.step (exclusive : LocksExclusive calls state) (action : CreateAction n) :
    LocksExclusive calls (state.step calls action) := by
  rcases state.step_cases calls action with
    same | ⟨p, -, free, advances⟩ | ⟨p, others, -, -, aborted⟩
  · rw [same]
    exact exclusive
  · -- a lock that the call has got was held by nobody
    have before : forall lock q, (state.step calls action).holds calls q lock = true ->
        q ≠ p -> state.holds calls q lock = true ∧ state.wants calls p ≠ some lock := by
      intro lock q held other
      rw [CreateState.holds_congr (advances.phase_of_ne other)] at held
      refine ⟨held, fun wanted => ?_⟩
      have waiting : state.waits calls p q = true :=
        waitsFor_eq_true_iff.mpr ⟨lock, wanted, held⟩
      rw [free q] at waiting
      cases waiting
    intro lock q r heldQ heldR
    by_cases first : q = p
    · by_cases second : r = p
      · rw [first, second]
      · subst first
        rcases before lock r heldR second with ⟨heldBefore, unwanted⟩
        exact exclusive lock q r ((advances.holds heldQ).resolve_right unwanted) heldBefore
    · rcases before lock q heldQ first with ⟨heldBefore, unwanted⟩
      by_cases second : r = p
      · subst second
        exact exclusive lock q r heldBefore ((advances.holds heldR).resolve_right unwanted)
      · exact exclusive lock q r heldBefore (before lock r heldR second).1
  · rw [aborted]
    have idle : forall lock, (state.setPhase p CreateState.internalError).holds calls p lock =
        false := by
      intro lock
      simp [CreateState.holds, CreateState.internalError]
    have kept : forall lock q, (state.setPhase p CreateState.internalError).holds calls q lock =
        true -> state.holds calls q lock = true := by
      intro lock q held
      by_cases own : q = p
      · subst own
        rw [idle] at held
        cases held
      · rwa [CreateState.holds_congr (CreateState.phase_setPhase_of_ne own)] at held
    exact fun lock q r heldQ heldR => exclusive lock q r (kept lock q heldQ) (kept lock r heldR)

/-! ## The invariant -/

/-- The feeds of an open transaction: for every timeframe that is done there
is a row, committed or its own, and its own rows have free keys. -/
structure Writing (call : CreateCall) (db : Database F) (written : List FeedRecord)
    (done : List String) : Prop where
  covered : forall timeframe, timeframe ∈ done ->
    (db.feedAt call.storageSymbol timeframe).isSome = true ∨
      CreateState.hasWritten written (call.storageSymbol, timeframe) = true
  own : forall row, row ∈ written -> exists timeframe, timeframe ∈ done ∧ row = call.feed timeframe
  free : forall row, row ∈ written -> db.feeds.lookup row.key = none

/-- The answer carries the row of the catalog. -/
def Shows (response : CreateAssetResponse) (row : AssetRecord) : Prop :=
  response.assetWithStatus.asset = rowToAssetMessage row.toAssetRow ∧
    response.assetWithStatus.addedAt = row.addedAt

/-- An answer to a call and the catalog. -/
structure AnswerHolds (call : CreateCall) (db : Database F) (response : CreateAssetResponse) :
    Prop where
  fresh : response.created = true -> response = call.freshResponse ∧
    db.assets.lookup call.symbol = some call.record ∧
    forall timeframe, timeframe ∈ call.timeframes ->
      (db.feedAt call.storageSymbol timeframe).isSome = true
  existing : response.created = false -> exists row,
    db.assets.lookup call.symbol = some row ∧ Shows response row

/-- What the phase of a call says about the catalog. -/
def PhaseHolds (call : CreateCall) (db : Database F) : CreatePhase -> Prop
  | .found row => db.assets.lookup call.symbol = some row
  | .inserting written pending => db.assets.lookup call.symbol = none ∧
      exists done, call.timeframes = done ++ pending ∧ Writing call db written done
  | .rereading symbol => symbol = call.symbol ∧ exists row, db.assets.lookup symbol = some row
  | .answered (.ok response) => AnswerHolds call db response
  | _ => True

/-- The call has created its asset. -/
def HasCreated (state : CreateState F n) (p : Fin n) : Prop :=
  exists response, state.phase p = .answered (.ok response) ∧ response.created = true

structure CreateInv (calls : Fin n -> CreateCall) (db₀ : Database F) (state : CreateState F n) :
    Prop where
  locks : LocksExclusive calls state
  phases : forall p, PhaseHolds (calls p) state.db (state.phase p)
  unique : forall p q, HasCreated state p -> HasCreated state q ->
    (calls p).symbol = (calls q).symbol -> p = q
  new : forall p, HasCreated state p -> db₀.assets.lookup (calls p).symbol = none
  kept : forall symbol row, db₀.assets.lookup symbol = some row ->
    state.db.assets.lookup symbol = some row
  origin : forall symbol row, state.db.assets.lookup symbol = some row ->
    db₀.assets.lookup symbol = some row ∨
      exists p, HasCreated state p ∧ (calls p).symbol = symbol ∧ row = (calls p).record

theorem createInv_initial (calls : Fin n -> CreateCall) (db₀ : Database F) :
    CreateInv calls db₀ (CreateState.initial db₀) where
  locks := by
    intro lock p q held
    simp [CreateState.holds, CreateState.initial] at held
  phases := fun _ => trivial
  unique := fun p q ⟨response, answered, _⟩ => (nomatch answered)
  new := fun p ⟨response, answered, _⟩ => (nomatch answered)
  kept := fun _ _ stored => stored
  origin := fun _ _ stored => Or.inl stored

theorem HasCreated.congr {other : CreateState F n} (same : other.phase p = state.phase p) :
    HasCreated other p ↔ HasCreated state p := by
  unfold HasCreated
  rw [same]

/-- A step in which one call changes its phase, and does not answer that it
has created its asset. -/
theorem CreateInv.setPhase (inv : CreateInv calls db₀ state)
    (locks : LocksExclusive calls (state.setPhase p phase))
    (holds : PhaseHolds (calls p) state.db phase) (open_before : ¬ HasCreated state p)
    (not_created : forall response, phase = .answered (.ok response) -> response.created = false) :
    CreateInv calls db₀ (state.setPhase p phase) := by
  have created : forall q, HasCreated (state.setPhase p phase) q ↔ HasCreated state q := by
    intro q
    by_cases own : q = p
    · subst own
      constructor
      · rintro ⟨response, answered, fresh⟩
        rw [CreateState.phase_setPhase_self] at answered
        rw [not_created response answered] at fresh
        cases fresh
      · exact fun before => absurd before open_before
    · exact HasCreated.congr (CreateState.phase_setPhase_of_ne own)
  refine ⟨locks, ?_, ?_, ?_, inv.kept, ?_⟩
  · exact CreateState.forall_setPhase (fun q => PhaseHolds (calls q) state.db) holds
      (fun q _ => inv.phases q)
  · intro q r createdQ createdR same
    exact inv.unique q r ((created q).mp createdQ) ((created r).mp createdR) same
  · exact fun q createdQ => inv.new q ((created q).mp createdQ)
  · intro symbol row stored
    rcases inv.origin symbol row stored with old | ⟨q, createdQ, rest⟩
    · exact Or.inl old
    · exact Or.inr ⟨q, (created q).mpr createdQ, rest⟩

theorem CreateInv.phaseHolds (inv : CreateInv calls db₀ state) {known : CreatePhase}
    (same : state.phase p = known) : PhaseHolds (calls p) state.db known := by
  have holds := inv.phases p
  rwa [same] at holds

/-- The row of a call that has created its asset. -/
theorem CreateInv.stored_of_hasCreated (inv : CreateInv calls db₀ state)
    (created : HasCreated state p) :
    state.db.assets.lookup (calls p).symbol = some (calls p).record ∧
      forall timeframe, timeframe ∈ (calls p).timeframes ->
        (state.db.feedAt (calls p).storageSymbol timeframe).isSome = true := by
  rcases created with ⟨response, answered, fresh⟩
  exact ((inv.phaseHolds answered).fresh fresh).2

/-- A symbol that is missing was missing at the beginning. -/
theorem CreateInv.missing_before (inv : CreateInv calls db₀ state) {symbol : String}
    (missing : state.db.assets.lookup symbol = none) : db₀.assets.lookup symbol = none := by
  cases old : db₀.assets.lookup symbol with
  | none => rfl
  | some row =>
      rw [inv.kept symbol row old] at missing
      cases missing

/-- Two calls that are inserting have different symbols. -/
theorem CreateInv.symbol_ne (inv : CreateInv calls db₀ state) {written written' : List FeedRecord}
    {pending pending' : List String} (phase : state.phase p = .inserting written pending)
    (phase' : state.phase q = .inserting written' pending') (other : q ≠ p) :
    (calls q).symbol ≠ (calls p).symbol := by
  intro same
  refine other (inv.locks (.asset (calls p).symbol) q p ?_ ?_)
  · simp [CreateState.holds, phase', same]
  · simp [CreateState.holds, phase]

/-- The keys of the feeds that two calls have written are different. -/
theorem CreateInv.not_written (inv : CreateInv calls db₀ state)
    {written written' : List FeedRecord} {pending pending' : List String}
    (phase : state.phase p = .inserting written pending)
    (phase' : state.phase q = .inserting written' pending') (other : q ≠ p) {row : FeedRecord}
    (member : row ∈ written') : CreateState.hasWritten written row.key = false := by
  cases own : CreateState.hasWritten written row.key with
  | false => rfl
  | true =>
      refine absurd (inv.locks (.feed row.key) q p ?_ ?_) other
      · simp only [CreateState.holds, phase']
        exact CreateState.hasWritten_iff.mpr ⟨row, member, rfl⟩
      · simpa only [CreateState.holds, phase] using own

theorem lookup_insertNewAll_of_unwritten (feeds : Table FeedRecord.key)
    {written : List FeedRecord} {key : String × String}
    (unwritten : CreateState.hasWritten written key = false) :
    (feeds.insertNewAll written).lookup key = feeds.lookup key := by
  rw [Table.lookup_insertNewAll]
  cases found : Table.firstUnder FeedRecord.key written key with
  | none => rw [Option.or_none]
  | some row =>
      have member := Table.mem_of_firstUnder found
      rw [CreateState.hasWritten_iff.mpr ⟨row, member⟩] at unwritten
      cases unwritten

theorem isSome_lookup_insertNewAll (feeds : Table FeedRecord.key) {written : List FeedRecord}
    {key : String × String} (present : (feeds.lookup key).isSome = true ∨
      CreateState.hasWritten written key = true) :
    ((feeds.insertNewAll written).lookup key).isSome = true := by
  rw [Table.lookup_insertNewAll, Option.isSome_or]
  rcases present with stored | own
  · rw [stored, Bool.true_or]
  · rw [(Table.firstUnder_isSome_iff written key).mpr (CreateState.hasWritten_iff.mp own),
      Bool.or_true]

theorem lookup_asset_committed {call : CreateCall} {db : Database F}
    (missing : db.assets.lookup call.symbol = none) (written : List FeedRecord) (symbol : String) :
    (committed call written db).assets.lookup symbol =
      if symbol = call.symbol then some call.record else db.assets.lookup symbol := by
  rw [committed, Table.lookup_insertNew, CreateCall.key_record]
  by_cases same : symbol = call.symbol
  · subst same
    rw [missing, Option.none_or]
  · rw [if_neg (Ne.symm same), if_neg same, Option.or_none]

/-- A row of the catalog stays. -/
theorem lookup_asset_committed_of_some {call : CreateCall} {db : Database F}
    (missing : db.assets.lookup call.symbol = none) {written : List FeedRecord} {symbol : String}
    {row : AssetRecord} (stored : db.assets.lookup symbol = some row) :
    (committed call written db).assets.lookup symbol = some row := by
  rw [lookup_asset_committed missing]
  by_cases same : symbol = call.symbol
  · subst same
    rw [missing] at stored
    cases stored
  · rw [if_neg same, stored]

/-- A commit of another call keeps what a phase says. -/
theorem CreateInv.phase_committed (inv : CreateInv calls db₀ state) {written : List FeedRecord}
    (phase : state.phase p = .inserting written []) (other : q ≠ p) :
    PhaseHolds (calls q) (committed (calls p) written state.db) (state.phase q) := by
  have holds := inv.phases q
  have missing : state.db.assets.lookup (calls p).symbol = none := (inv.phaseHolds phase).1
  have assets : forall symbol row, state.db.assets.lookup symbol = some row ->
      (committed (calls p) written state.db).assets.lookup symbol = some row :=
    fun symbol row stored => lookup_asset_committed_of_some missing stored
  have feeds : forall storageSymbol timeframe,
      (state.db.feedAt storageSymbol timeframe).isSome = true ->
        ((committed (calls p) written state.db).feedAt storageSymbol timeframe).isSome = true :=
    fun storageSymbol timeframe stored => isSome_lookup_insertNewAll _ (Or.inl stored)
  cases phase' : state.phase q with
  | selecting => trivial
  | absent => trivial
  | found row =>
      rw [phase'] at holds
      exact assets _ row holds
  | rereading symbol =>
      rw [phase'] at holds
      rcases holds with ⟨same, row, stored⟩
      exact ⟨same, row, assets _ row stored⟩
  | inserting written' pending =>
      rw [phase'] at holds
      rcases holds with ⟨absent, done, split, writing⟩
      refine ⟨?_, done, split, ?_, writing.own, ?_⟩
      · rw [lookup_asset_committed missing, if_neg (inv.symbol_ne phase phase' other), absent]
      · intro timeframe member
        rcases writing.covered timeframe member with stored | own
        · exact Or.inl (feeds _ timeframe stored)
        · exact Or.inr own
      · intro row member
        have free := writing.free row member
        rw [← free]
        exact lookup_insertNewAll_of_unwritten _ (inv.not_written phase phase' other member)
  | answered answer =>
      rw [phase'] at holds
      cases answer with
      | error error => trivial
      | ok response =>
          refine ⟨fun created => ?_, fun created => ?_⟩
          · rcases holds.fresh created with ⟨fresh, stored, present⟩
            exact ⟨fresh, assets _ _ stored, fun timeframe member =>
              feeds _ timeframe (present timeframe member)⟩
          · rcases holds.existing created with ⟨row, stored, same⟩
            exact ⟨row, assets _ row stored, same⟩

theorem hasCreated_commit_iff {written : List FeedRecord} :
    HasCreated (state.commit calls p written) q ↔ q = p ∨ HasCreated state q := by
  by_cases same : q = p
  · subst same
    exact ⟨fun _ => Or.inl rfl, fun _ => ⟨_, CreateState.phase_commit_self, rfl⟩⟩
  · rw [HasCreated.congr (CreateState.phase_commit_of_ne same)]
    exact ⟨Or.inr, fun either => either.resolve_left same⟩

/-- A commit keeps the invariant. -/
theorem CreateInv.commit (inv : CreateInv calls db₀ state) {written : List FeedRecord}
    (phase : state.phase p = .inserting written [])
    (locks : LocksExclusive calls (state.commit calls p written)) :
    CreateInv calls db₀ (state.commit calls p written) := by
  rcases inv.phaseHolds phase with ⟨missing, done, split, writing⟩
  rw [List.append_nil] at split
  -- nobody else has created the symbol
  have alone : forall q, HasCreated state q -> (calls q).symbol ≠ (calls p).symbol := by
    intro q created same
    have stored := (inv.stored_of_hasCreated created).1
    rw [same, missing] at stored
    cases stored
  refine ⟨locks, ?_, ?_, ?_, ?_, ?_⟩
  · refine CreateState.forall_commit
      (fun q => PhaseHolds (calls q) (committed (calls p) written state.db))
      ⟨fun _ => ⟨rfl, ?_, ?_⟩, nofun⟩ (fun q other => inv.phase_committed phase other)
    · exact (lookup_asset_committed missing written _).trans (if_pos rfl)
    · intro timeframe member
      rw [split] at member
      exact isSome_lookup_insertNewAll _ (writing.covered timeframe member)
  · intro q r createdQ createdR same
    rcases hasCreated_commit_iff.mp createdQ with first | createdQ
    · rcases hasCreated_commit_iff.mp createdR with second | createdR
      · rw [first, second]
      · rw [first] at same
        exact absurd same.symm (alone r createdR)
    · rcases hasCreated_commit_iff.mp createdR with second | createdR
      · rw [second] at same
        exact absurd same (alone q createdQ)
      · exact inv.unique q r createdQ createdR same
  · intro q createdQ
    rcases hasCreated_commit_iff.mp createdQ with first | createdQ
    · rw [first]
      exact inv.missing_before missing
    · exact inv.new q createdQ
  · exact fun symbol row stored => lookup_asset_committed_of_some missing (inv.kept symbol row stored)
  · intro symbol row stored
    replace stored := (lookup_asset_committed missing written symbol).symm.trans stored
    by_cases same : symbol = (calls p).symbol
    · rw [if_pos same] at stored
      cases stored
      exact Or.inr ⟨p, hasCreated_commit_iff.mpr (Or.inl rfl), same.symm, rfl⟩
    · rw [if_neg same] at stored
      rcases inv.origin symbol row stored with old | ⟨q, createdQ, rest⟩
      · exact Or.inl old
      · exact Or.inr ⟨q, hasCreated_commit_iff.mpr (Or.inr createdQ), rest⟩

/-! ### Steps -/

theorem Writing.nil (call : CreateCall) (db : Database F) : Writing call db [] [] where
  covered := fun _ member => (nomatch member)
  own := fun _ member => (nomatch member)
  free := fun _ member => (nomatch member)

/-- A timeframe that has a row is done. -/
theorem Writing.skip {call : CreateCall} {db : Database F} {written : List FeedRecord}
    {done : List String} (writing : Writing call db written done) {timeframe : String}
    (taken : (db.feeds.lookup (call.storageSymbol, timeframe)).isSome = true ∨
      CreateState.hasWritten written (call.storageSymbol, timeframe) = true) :
    Writing call db written (done ++ [timeframe]) where
  covered := by
    intro other member
    rcases List.mem_append.mp member with before | last
    · exact writing.covered other before
    · rw [List.mem_singleton.mp last]
      exact taken
  own := by
    intro row member
    rcases writing.own row member with ⟨other, listed, same⟩
    exact ⟨other, List.mem_append_left _ listed, same⟩
  free := writing.free

/-- A timeframe whose row is written is done. -/
theorem Writing.write {call : CreateCall} {db : Database F} {written : List FeedRecord}
    {done : List String} (writing : Writing call db written done) {timeframe : String}
    (missing : db.feeds.lookup (call.storageSymbol, timeframe) = none) :
    Writing call db (written ++ [call.feed timeframe]) (done ++ [timeframe]) where
  covered := by
    intro other member
    rcases List.mem_append.mp member with before | last
    · refine (writing.covered other before).imp id (fun own => ?_)
      rcases CreateState.hasWritten_iff.mp own with ⟨row, listed, same⟩
      exact CreateState.hasWritten_iff.mpr ⟨row, List.mem_append_left _ listed, same⟩
    · rw [List.mem_singleton.mp last]
      refine Or.inr (CreateState.hasWritten_iff.mpr ⟨call.feed timeframe, ?_, rfl⟩)
      exact List.mem_append_right _ List.mem_cons_self
  own := by
    intro row member
    rcases List.mem_append.mp member with before | last
    · rcases writing.own row before with ⟨other, listed, same⟩
      exact ⟨other, List.mem_append_left _ listed, same⟩
    · exact ⟨timeframe, List.mem_append_right _ List.mem_cons_self, List.mem_singleton.mp last⟩
  free := by
    intro row member
    rcases List.mem_append.mp member with before | last
    · exact writing.free row before
    · rw [List.mem_singleton.mp last, CreateCall.key_feed]
      exact missing

/-- A call that goes on has no answer yet. -/
theorem Advances.not_answered {after : CreateState F n} (advances : Advances calls state p after)
    (answer : Except GrpcError CreateAssetResponse) : state.phase p ≠ .answered answer := by
  intro answered
  cases advances <;> simp_all

theorem CreateInv.advances (inv : CreateInv calls db₀ state) {after : CreateState F n}
    (locks : LocksExclusive calls after) (advances : Advances calls state p after) :
    CreateInv calls db₀ after := by
  have open_before : ¬ HasCreated state p := by
    rintro ⟨response, answered, -⟩
    exact advances.not_answered _ answered
  cases advances with
  | find phase present =>
      exact inv.setPhase locks present open_before (by simp)
  | miss phase missing =>
      exact inv.setPhase locks trivial open_before (by simp)
  | release phase =>
      rename_i row
      have stored : state.db.assets.lookup (calls p).symbol = some row := inv.phaseHolds phase
      have same : row.key = (calls p).symbol := Table.key_of_lookup stored
      rw [← same] at stored
      exact inv.setPhase locks ⟨same, row, stored⟩ open_before (by simp)
  | clash phase present =>
      exact inv.setPhase locks trivial open_before (by simp [CreateState.internalError])
  | insertAsset phase missing =>
      exact inv.setPhase locks ⟨missing, [], rfl, Writing.nil _ _⟩
        open_before (by simp)
  | skipFeed phase taken =>
      rcases inv.phaseHolds phase with ⟨missing, done, split, writing⟩
      refine inv.setPhase locks ⟨missing, _, ?_, writing.skip taken⟩
        open_before (by simp)
      rw [split, List.append_assoc, List.singleton_append]
  | insertFeed phase unstored unwritten =>
      rcases inv.phaseHolds phase with ⟨missing, done, split, writing⟩
      refine inv.setPhase locks ⟨missing, _, ?_, writing.write unstored⟩
        open_before (by simp)
      rw [split, List.append_assoc, List.singleton_append]
  | commit phase => exact inv.commit phase locks
  | vanished phase missing =>
      exact inv.setPhase locks trivial open_before (by simp)
  | reread phase present =>
      rcases inv.phaseHolds phase with ⟨rfl, -⟩
      rw [getWithStatus, Option.map_eq_some_iff] at present
      rcases present with ⟨row, stored, rfl⟩
      refine inv.setPhase locks ⟨by simp, fun _ => ⟨row, stored, rfl, rfl⟩⟩
        open_before ?_
      rintro response ⟨⟩
      rfl

/-- A call in a circle has no answer yet. -/
theorem not_answered_of_isCycle {others : List (Fin n)}
    (circle : isCycle (state.waits calls) p others = true)
    (answer : Except GrpcError CreateAssetResponse) : state.phase p ≠ .answered answer := by
  intro answered
  have idle : state.wants calls p = none := by simp [CreateState.wants, answered]
  have free := isCycle_of_free (waitsFor_of_none (state.holds calls) idle) others
  rw [CreateState.waits, free] at circle
  cases circle

theorem CreateInv.step (inv : CreateInv calls db₀ state) (action : CreateAction n) :
    CreateInv calls db₀ (state.step calls action) := by
  have locks := inv.locks.step action
  rcases state.step_cases calls action with
    same | ⟨p, -, -, advances⟩ | ⟨p, others, -, circle, aborted⟩
  · rw [same]
    exact inv
  · exact inv.advances locks advances
  · rw [aborted] at locks ⊢
    refine inv.setPhase locks trivial ?_ nofun
    rintro ⟨response, answered, -⟩
    exact not_answered_of_isCycle circle _ answered

theorem createInv_run (calls : Fin n -> CreateCall) (db₀ : Database F)
    (actions : List (CreateAction n)) :
    CreateInv calls db₀ (run (CreateState.step calls) (CreateState.initial db₀) actions) :=
  invariant_run_always (CreateState.step calls) (fun _ action inv => inv.step action)
    (createInv_initial calls db₀) actions

/-! ## The catalog as it is meant -/

/-- The rows that are there, by their keys. -/
structure Catalog where
  asset : String -> Option AssetRecord
  feed : String × String -> Option FeedRecord

def Database.catalog (db : Database F) : Catalog := ⟨db.assets.lookup, db.feeds.lookup⟩

/-- A call on its own: a new symbol gets its asset, and the timeframes that
have no feed get one. -/
def Catalog.create (calls : Fin n -> CreateCall) (catalog : Catalog) (p : Fin n) : Catalog :=
  let call := calls p
  match catalog.asset call.symbol with
  | some _ => catalog
  | none =>
    { asset := fun symbol =>
        (catalog.asset symbol).or (if call.symbol = symbol then some call.record else none)
      feed := fun key =>
        (catalog.feed key).or
          (if key.1 = call.storageSymbol ∧ key.2 ∈ call.timeframes then some (call.feed key.2)
          else none) }

theorem firstUnder_feeds (call : CreateCall) (timeframes : List String) (key : String × String) :
    Table.firstUnder FeedRecord.key (timeframes.map call.feed) key =
      if key.1 = call.storageSymbol ∧ key.2 ∈ timeframes then some (call.feed key.2) else none := by
  rcases key with ⟨storageSymbol, timeframe⟩
  by_cases own : storageSymbol = call.storageSymbol
  · subst own
    apply (firstUnder_pendingFeed _ _ _ _ _).trans
    simp [CreateCall.feed]
  · rw [if_neg (fun both => own both.1)]
    cases found : Table.firstUnder FeedRecord.key (timeframes.map call.feed)
        (storageSymbol, timeframe) with
    | none => rfl
    | some row =>
        rcases Table.mem_of_firstUnder found with ⟨member, same⟩
        rcases List.mem_map.mp member with ⟨other, -, rfl⟩
        exact absurd (congrArg Prod.fst same).symm own

/-- `CreateAsset` on its own changes the catalog so. -/
theorem catalog_createAsset (calls : Fin n -> CreateCall) (p : Fin n) (db : Database F) :
    (createAsset ⟨(calls p).now, true⟩ (calls p).request db).2.catalog =
      db.catalog.create calls p := by
  by_cases creates : Creates ⟨(calls p).now, true⟩ (calls p).request db
  · have missing : db.assets.lookup (calls p).symbol = none := creates.2.2
    rw [createAsset_of_creates creates]
    unfold Catalog.create Database.catalog
    simp only [missing]
    congr 1
    · funext symbol
      exact Table.lookup_insertNew db.assets (calls p).record symbol
    · funext key
      apply (Table.lookup_insertNewAll db.feeds _ key).trans
      exact congrArg _ (firstUnder_feeds (calls p) (calls p).timeframes key)
  · rw [(createAsset_of_not_creates creates).1]
    unfold Catalog.create
    cases present : db.catalog.asset (calls p).symbol with
    | some row => simp only [present]
    | none => exact absurd ⟨(calls p).valid, rfl, present⟩ creates

/-- A commit changes the catalog as its call on its own does, whatever has been
committed in between. -/
theorem CreateInv.catalog_commit (inv : CreateInv calls db₀ state) {written : List FeedRecord}
    (phase : state.phase p = .inserting written []) :
    (state.commit calls p written).db.catalog = state.db.catalog.create calls p := by
  rcases inv.phaseHolds phase with ⟨missing, done, split, writing⟩
  rw [List.append_nil] at split
  unfold Catalog.create
  have absent : state.db.catalog.asset (calls p).symbol = none := missing
  simp only [absent]
  unfold Database.catalog
  congr 1
  · funext symbol
    exact Table.lookup_insertNew state.db.assets (calls p).record symbol
  · funext key
    apply (Table.lookup_insertNewAll state.db.feeds written key).trans
    change (state.db.feeds.lookup key).or _ = (state.db.feeds.lookup key).or _
    cases stored : state.db.feeds.lookup key with
    | some row => rw [Option.some_or, Option.some_or]
    | none =>
        rw [Option.none_or, Option.none_or]
        by_cases asked : key.1 = (calls p).storageSymbol ∧ key.2 ∈ (calls p).timeframes
        · -- the timeframe has no committed row, so the call has written one
          rw [if_pos asked]
          have same : key = ((calls p).storageSymbol, key.2) := Prod.ext asked.1 rfl
          have own : CreateState.hasWritten written key = true := by
            rcases writing.covered key.2 (split ▸ asked.2) with present | own
            · rw [Database.feedAt, ← same, stored] at present
              cases present
            · rwa [same]
          rcases Option.isSome_iff_exists.mp
            ((Table.firstUnder_isSome_iff written key).mpr (CreateState.hasWritten_iff.mp own))
            with ⟨row, found⟩
          rcases Table.mem_of_firstUnder found with ⟨member, keyed⟩
          rcases writing.own row member with ⟨timeframe, -, rfl⟩
          rw [found, ← keyed]
          rfl
        · rw [if_neg asked]
          cases found : Table.firstUnder FeedRecord.key written key with
          | none => rfl
          | some row =>
              rcases Table.mem_of_firstUnder found with ⟨member, keyed⟩
              rcases writing.own row member with ⟨timeframe, listed, rfl⟩
              rw [← keyed] at asked
              exact absurd ⟨rfl, split ▸ listed⟩ asked

theorem Advances.catalog (inv : CreateInv calls db₀ state) {after : CreateState F n}
    (advances : Advances calls state p after) :
    after.db.catalog = state.db.catalog ∨
      after.db.catalog = state.db.catalog.create calls p := by
  cases advances with
  | commit phase => exact Or.inr (inv.catalog_commit phase)
  | _ => exact Or.inl rfl

/-- The database after a call that has it for itself. -/
def createAlone (calls : Fin n -> CreateCall) (db : Database F) (p : Fin n) : Database F :=
  (createAsset ⟨(calls p).now, true⟩ (calls p).request db).2

theorem catalog_run_createAlone (calls : Fin n -> CreateCall) (order : List (Fin n))
    (db : Database F) :
    (run (createAlone calls) db order).catalog = run (Catalog.create calls) db.catalog order := by
  induction order generalizing db with
  | nil => rfl
  | cons p rest ih => rw [run_cons, run_cons, ih, createAlone, catalog_createAsset]

/-- After every schedule the committed catalog is the one that some of the
calls leave one after the other. -/
theorem catalog_serialises (calls : Fin n -> CreateCall) (db₀ : Database F)
    (actions : List (CreateAction n)) :
    exists order : List (Fin n),
      (run (CreateState.step calls) (CreateState.initial db₀) actions).db.catalog =
        (run (createAlone calls) db₀ order).catalog := by
  have kept : forall (state : CreateState F n) (action : CreateAction n),
      CreateInv calls db₀ state -> CreateInv calls db₀ (state.step calls action) :=
    fun _ action inv => inv.step action
  have refines : forall (state : CreateState F n) (action : CreateAction n),
      CreateInv calls db₀ state -> exists order,
        (state.step calls action).db.catalog = run (Catalog.create calls) state.db.catalog order := by
    intro state action inv
    rcases state.step_cases calls action with
      same | ⟨p, -, -, advances⟩ | ⟨p, others, -, -, aborted⟩
    · exact ⟨[], by rw [same]; rfl⟩
    · rcases advances.catalog inv with unchanged | changed
      · exact ⟨[], unchanged⟩
      · exact ⟨[p], changed⟩
    · exact ⟨[], by rw [aborted]; rfl⟩
  rcases run_refines_of_invariant (CreateState.step calls) (fun state => state.db.catalog)
    (Catalog.create calls) kept refines (createInv_initial calls db₀) actions with ⟨order, same⟩
  refine ⟨order, same.trans ?_⟩
  exact (catalog_run_createAlone calls order db₀).symm

end Concurrent

end HybridDataSvc
