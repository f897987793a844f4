import HybridDataSvc.Seed.SeedFromSqlite

namespace HybridDataSvc

open Relational Migrations

namespace Seed

/-!
# When the migration from SQLite is safe

The insert names `symbol, timeframe, ts` as its conflict target, and since the
fourth migration no unique constraint is on these columns.  So the first batch
is refused, whatever is in it, and only a run without any batch completes.
-/

section Runs

variable {F : Type}

/-- A run on a connection that is not lost. -/
def seed (schema : Schema) (source : Table (SourceRow.key (F := F))) (target : Store F) :
    Except PyError Int × Session (Store F) :=
  main schema (some source) (Session.open_ target none false)

/-- A safe and idempotent union. -/
structure SafeUnion (schema : Schema) (source : Table (SourceRow.key (F := F)))
    (target : Store F) : Prop where
  completes : exists code after, seed schema source target = (.ok code, after)
  /-- The old content stays, and the source rows whose key was missing come in. -/
  union : forall code after, seed schema source target = (.ok code, after) ->
    forall bucket ts, after.committed.bars.lookup (bucket, ts) =
      (target.bars.lookup (bucket, ts)).or
        (if bucket.provider = defaultProvider then
          (source.lookup (bucket.symbol, bucket.timeframe, ts)).map toRow else none)
  again : forall code after, seed schema source target = (.ok code, after) ->
    exists other last, seed schema source after.committed = (.ok other, last) ∧
      last.committed.bars = after.committed.bars
  /-- A run that fails at any call leaves the bars. -/
  atomic : forall remaining commitStands raised after,
    main schema (some source) (Session.open_ target remaining commitStands) =
      (.error raised, after) -> after.committed.bars = target.bars
  answer : (seed schema source target).1 = .ok 0 ↔
    forall row, row ∈ source.rows ->
      exists stored, stored ∈ (seed schema source target).2.committed.bars.rows ∧
        stored.bucket.symbol = row.symbol ∧ stored.bucket.timeframe = row.timeframe ∧
          stored.ts = row.ts

/-! ## The bars stay -/

section Bars

variable {schema : Schema} (migrated : Migrated schema) {bars : Table (BarRow.key (F := F))}

include migrated

/-- No constraint is inferred from the conflict target. -/
theorem conflictTarget_refused : infersArbiter (schema.uniques .bars) conflictTarget = false := by
  rw [migrated.uniques_bars]
  decide

theorem raises_insertBatch (batch : List (BarRow F)) (session : Session (Store F)) :
    Db.Raises (insertBatch schema batch) session := by
  unfold Db.Raises insertBatch Db.call
  rw [conflictTarget_refused migrated]
  split
  · exact ⟨_, rfl⟩
  · exact ⟨_, rfl⟩

theorem keeps_insertBatch (batch : List (BarRow F)) :
    Db.Keeps (fun store => store.bars = bars) (insertBatch schema batch) := by
  apply Db.keeps_call
  intro store _ value after done
  rw [conflictTarget_refused migrated] at done
  cases done

theorem keeps_seedLoop (size : Nat) (rows : List (SourceRow F)) (batch : List (BarRow F))
    (total : Nat) :
    Db.Keeps (fun store => store.bars = bars) (seedLoop schema size rows batch total) := by
  induction rows generalizing batch total with
  | nil => exact Db.keeps_pure _
  | cons row rest ih =>
      rw [seedLoop]
      split
      · exact Db.keeps_bind (keeps_insertBatch migrated _) (fun _ => ih _ _)
      · exact ih _ _

theorem keeps_seedBars (rows : List (SourceRow F)) :
    Db.Keeps (fun store => store.bars = bars) (seedBars schema rows) := by
  apply Db.keeps_bind (keeps_seedLoop migrated _ _ _ _)
  intro left
  have rest : Db.Keeps (fun store => store.bars = bars) (seedRest schema left) := by
    rw [seedRest]
    split
    · exact Db.keeps_pure _
    · exact Db.keeps_bind (keeps_insertBatch migrated _) (fun _ => Db.keeps_pure _)
  apply Db.keeps_bind rest
  intro total
  exact Db.keeps_bind (Db.keeps_commit _) (fun _ => Db.keeps_pure _)

omit migrated in
theorem keeps_readPgCounts :
    Db.Keeps (fun store : Store F => store.bars = bars) readPgCounts := by
  apply Db.keeps_call
  intro store holds value after done
  cases done
  exact holds

omit migrated in
theorem keeps_refreshCacheMeta :
    Db.Keeps (fun store : Store F => store.bars = bars) refreshCacheMeta := by
  apply Db.keeps_bind
  · apply Db.keeps_call
    intro store holds value after done
    cases done
    exact holds
  · intro _
    apply Db.keeps_bind
    · apply Db.keeps_call
      intro store holds value after done
      cases inserted : store.cacheMeta.insertRows (metaRows store) with
      | none => rw [inserted] at done; cases done
      | some cacheMeta =>
          rw [inserted] at done
          cases done
          exact holds
    · intro _
      exact Db.keeps_commit _

/-- Whatever happens in a run, the bars stay as they are. -/
theorem keeps_main (source : Option (Table (SourceRow.key (F := F)))) :
    Db.Keeps (fun store => store.bars = bars) (main schema source) := by
  cases source with
  | none => exact Db.keeps_pure _
  | some source =>
      have block : Db.Keeps (fun store => store.bars = bars) (seedBlock schema source) := by
        apply Db.keeps_bind keeps_readPgCounts
        intro _
        apply Db.keeps_bind (keeps_seedBars migrated _)
        intro _
        apply Db.keeps_bind keeps_refreshCacheMeta
        intro _
        exact Db.keeps_bind keeps_readPgCounts (fun _ => keeps_readPgCounts)
      exact Db.keeps_bind (Db.keeps_connection block) (fun _ => Db.keeps_pure _)

theorem bars_main (source : Option (Table (SourceRow.key (F := F)))) (target : Store F)
    (remaining : Option Nat) (commitStands : Bool) :
    (main schema source (Session.open_ target remaining commitStands)).2.committed.bars =
      target.bars :=
  (keeps_main migrated source (Session.open_ target remaining commitStands) ⟨rfl, rfl⟩).1

/-! ## A source with rows -/

/-- What the loop has not sent when it ends is not nothing. -/
theorem seedLoop_left (size : Nat) {rows : List (SourceRow F)} {batch : List (BarRow F)}
    {total : Nat} {session after : Session (Store F)} {left : List (BarRow F) × Nat}
    (done : seedLoop schema size rows batch total session = (.ok left, after))
    (some_ : rows ≠ [] ∨ batch ≠ []) : left.1 ≠ [] := by
  induction rows generalizing batch total with
  | nil =>
      cases done
      exact some_.resolve_left (fun other => other rfl)
  | cons row rest ih =>
      rw [seedLoop] at done
      split at done
      · have raises := raises_insertBatch migrated (batch ++ [toRow row]) session
        exact absurd done (Db.raises_bind_of_raises raises).ne_ok
      · exact ih done (Or.inr (by simp))

theorem raises_seedBars {rows : List (SourceRow F)} (nonempty : rows ≠ [])
    (session : Session (Store F)) : Db.Raises (seedBars schema rows) session := by
  apply Db.raises_bind
  intro left after done
  have sent := seedLoop_left migrated batchSize done (Or.inl nonempty)
  apply Db.raises_bind
  intro total later rested
  rw [seedRest, if_neg (by simpa using sent)] at rested
  have raises := raises_insertBatch migrated left.1 after
  exact absurd rested (Db.raises_bind_of_raises raises).ne_ok

/-- A run over a source with rows raises. -/
theorem raises_seed {source : Table (SourceRow.key (F := F))} (nonempty : source.rows ≠ [])
    (session : Session (Store F)) : Db.Raises (main schema (some source)) session := by
  have rows : sourceRows source ≠ [] := by
    intro empty
    have same := List.length_insertionSort sourceOrder source.rows
    rw [sourceRows] at empty
    rw [empty] at same
    exact nonempty (List.length_eq_zero_iff.mp same.symm)
  have block : Db.Raises (seedBlock schema source) session := by
    apply Db.raises_bind
    intro _ after _
    exact Db.raises_bind_of_raises (raises_seedBars migrated rows after)
  exact Db.raises_bind_of_raises (Db.raises_connection block)

end Bars

/-! ## The batches -/

section Batches

variable {schema : Schema}
  (inferred : infersArbiter (schema.uniques .bars) conflictTarget = true)

include inferred

theorem insertBatch_of_some {session : Session (Store F)} (lives : session.remaining = none)
    {batch : List (BarRow F)} {bars : Table (BarRow.key (F := F))}
    (inserted : session.working.bars.insertUnlessAll (sameColumns conflictTarget) batch =
      some bars) :
    insertBatch schema batch session =
      (.ok (), session.write { session.working with bars := bars }) := by
  rw [insertBatch, Db.call, lives, if_neg (by intro same; cases same), if_pos inferred, inserted]

/-- On a schema that has the constraint the batches, whatever their size, insert
what one statement over all rows would. -/
theorem seedLoop_inserts (size : Nat) (rows : List (SourceRow F)) (batch : List (BarRow F))
    (total : Nat) {session : Session (Store F)} (lives : session.remaining = none)
    {bars : Table (BarRow.key (F := F))}
    (inserted : session.working.bars.insertUnlessAll (sameColumns conflictTarget)
      (batch ++ rows.map toRow) = some bars) :
    exists after, (seedLoop schema size rows batch total >>= seedRest schema) session =
      (.ok (total + batch.length + rows.length), after) ∧ after.working.bars = bars := by
  induction rows generalizing batch total session with
  | nil =>
      rw [List.map_nil, List.append_nil] at inserted
      have ended : seedLoop schema size [] batch total session = (.ok (batch, total), session) := rfl
      rw [Db.bind_of_ok _ ended, seedRest]
      by_cases empty : batch = []
      · subst empty
        cases inserted
        exact ⟨session, rfl, rfl⟩
      · rw [if_neg (by simpa using empty),
          Db.bind_of_ok _ (insertBatch_of_some inferred lives inserted)]
        exact ⟨_, rfl, rfl⟩
  | cons row rest ih =>
      rw [List.map_cons, List.append_cons] at inserted
      rw [seedLoop]
      split
      · rw [Table.insertUnlessAll, List.foldlM_append] at inserted
        rcases Option.bind_eq_some_iff.mp inserted with ⟨first, sent, later⟩
        have flushed := Db.bind_of_ok (fun _ => seedLoop schema size rest []
          (total + (batch ++ [toRow row]).length)) (insertBatch_of_some inferred lives sent)
        have alive : (session.write { session.working with bars := first }).remaining = none := by
          simp [Session.write, Session.answered, lives]
        rcases ih [] (total + (batch ++ [toRow row]).length) alive later with ⟨after, done, same⟩
        refine ⟨after, ?_, same⟩
        rw [Db.bind_congr flushed, done, List.length_append, List.length_singleton,
          List.length_nil, List.length_cons]
        congr 2
        omega
      · rcases ih (batch ++ [toRow row]) total lives inserted with ⟨after, done, same⟩
        refine ⟨after, ?_, same⟩
        rw [done, List.length_append, List.length_singleton, List.length_cons]
        congr 2
        omega

end Batches

/-! ## A source without rows -/

section Empty

/-- The summary that is rebuilt has one row for each symbol and timeframe. -/
theorem nodup_metaRows (store : Store F) : ((metaRows store).map MetaRow.bucket).Nodup := by
  rw [metaRows, groupBy, List.map_map, List.map_map]
  apply (nodup_eraseDups _).map
  intro first second same
  have buckets : defaultBucket first.1 first.2 = defaultBucket second.1 second.2 := same
  simp only [defaultBucket, Bucket.mk.injEq] at buckets
  exact Prod.ext buckets.1 buckets.2.1

theorem returns_refreshCacheMeta {session : Session (Store F)}
    (lives : session.remaining = none) : Db.Returns refreshCacheMeta session := by
  apply Db.returns_bind (Db.returns_call lives _ rfl)
  intro _ deleted done alive
  apply Db.returns_bind
  · have empty : forall bucket, deleted.working.cacheMeta.lookup bucket = none := by
      intro bucket
      rw [Db.call, lives, if_neg (by intro same; cases same)] at done
      cases done
      rw [Table.lookup_eq_none_iff]
      intro row member
      simp [Session.write] at member
    rcases Table.insertRows_of_fresh (nodup_metaRows deleted.working)
      (fun row _ => empty row.bucket) with ⟨cacheMeta, inserted⟩
    apply Db.returns_call alive ((), { deleted.working with cacheMeta := cacheMeta })
    rw [inserted]
  · intro _ last _ lasts
    exact Db.returns_commit _ lasts

theorem returns_readPgCounts {session : Session (Store F)} (lives : session.remaining = none) :
    Db.Returns readPgCounts session :=
  Db.returns_call lives _ rfl

theorem returns_seedBars (schema : Schema) {session : Session (Store F)}
    (lives : session.remaining = none) : Db.Returns (seedBars schema []) session := by
  apply Db.returns_bind (Db.returns_pure _ lives)
  intro left after done alive
  cases done
  apply Db.returns_bind (Db.returns_pure _ alive)
  intro total later _ lives'
  apply Db.returns_bind (Db.returns_commit _ lives')
  intro _ last _ lasts
  exact Db.returns_pure _ lasts

/-- A run over a source without rows answers 0. -/
theorem seed_of_empty (schema : Schema) {source : Table (SourceRow.key (F := F))}
    (empty : source.rows = []) (target : Store F) :
    exists after, seed schema source target = (.ok 0, after) := by
  have block : Db.Returns (seedBlock schema source) (Session.open_ target none false) := by
    apply Db.returns_bind (returns_readPgCounts rfl)
    intro _ _ _ lives
    have rows : sourceRows source = [] := by rw [sourceRows, empty]; rfl
    rw [rows]
    apply Db.returns_bind (returns_seedBars schema lives)
    intro _ _ _ lives
    apply Db.returns_bind (returns_refreshCacheMeta lives)
    intro _ _ _ lives
    apply Db.returns_bind (returns_readPgCounts lives)
    intro _ _ _ lives
    exact returns_readPgCounts lives
  rcases Db.returns_connection PyError.databaseError block with
    ⟨pgCounts, after, done, _⟩
  refine ⟨after, ?_⟩
  have counts : readSqliteCounts source = [] := by rw [readSqliteCounts, empty]; rfl
  rw [seed, main, Db.bind_of_ok _ done, counts]
  rfl

end Empty

/-- On a migrated database the run is a safe union exactly when the source has no
rows. -/
theorem seed_safe_iff_empty {schema : Schema} (migrated : Migrated schema)
    (source : Table (SourceRow.key (F := F))) (target : Store F) :
    SafeUnion schema source target ↔ source.rows = [] := by
  constructor
  · intro safe
    by_contra nonempty
    rcases safe.completes with ⟨code, after, done⟩
    exact (raises_seed migrated nonempty (Session.open_ target none false)).ne_ok done
  · intro empty
    have noRow : forall key, source.lookup key = none := by
      intro key
      rw [Table.lookup_eq_none_iff, empty]
      intro row member
      cases member
    have kept : forall code after, seed schema source target = (.ok code, after) ->
        after.committed.bars = target.bars := by
      intro code after done
      have bars := bars_main migrated (some source) target none false
      rw [seed] at done
      rw [done] at bars
      exact bars
    constructor
    · rcases seed_of_empty schema empty target with ⟨after, done⟩
      exact ⟨0, after, done⟩
    · intro code after done bucket ts
      rw [kept code after done, noRow]
      simp
    · intro code after done
      rcases seed_of_empty schema empty after.committed with ⟨last, again⟩
      refine ⟨0, last, again, ?_⟩
      have bars := bars_main migrated (some source) after.committed none false
      rw [seed] at again
      rw [again] at bars
      exact bars
    · intro remaining commitStands raised after failed
      have bars := bars_main migrated (some source) target remaining commitStands
      rw [failed] at bars
      exact bars
    · rcases seed_of_empty schema empty target with ⟨after, done⟩
      rw [done, empty]
      constructor
      · intro _ row member
        cases member
      · intro _
        rfl

/-- The migrations, applied to a new database. -/
theorem migrated_current : Migrated current := .first (by decide)

theorem seed_safe_iff_empty_new :
    Migrated current ∧ SafeUnion (F := Rat) current Table.empty Store.empty :=
  ⟨migrated_current, (seed_safe_iff_empty migrated_current Table.empty Store.empty).mpr rfl⟩

/-- One legacy bar. -/
def oneBar : Table (SourceRow.key (F := Rat)) where
  rows :=
    [{ (seedBar 3600 10).toOhlcv with symbol := "BTC", timeframe := "1h", ts := 3600, fetchedAt := 9 }]
  unique := List.nodup_singleton _

/-- The first batch is refused. -/
theorem seed_of_one_bar_raises :
    Migrated current ∧ ¬ SafeUnion current oneBar (Store.empty (F := Rat)) := by
  refine ⟨.first (by decide), ?_⟩
  intro safe
  rcases safe.completes with ⟨code, after, done⟩
  have failed : (seed current oneBar (Store.empty (F := Rat))).1 = .error .databaseError := by
    decide +kernel
  rw [done] at failed
  cases failed

end Runs

end Seed

end HybridDataSvc
