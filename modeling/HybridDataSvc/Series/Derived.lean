import HybridDataSvc.Series.LastWins
import HybridDataSvc.Transition.Runs
import Mathlib.Data.List.Dedup

namespace Series

universe u v w x

open Relational

/-!
# Derived series

A derived series has one row for each bucket of keys, computed from the rows
of the normalized base series in that bucket.  It is kept in a table that each
run of the derivation upserts into and none deletes from.

A run may derive from the rows at or after a cut-off only.  When the base
series never loses a key, and no bucket straddles a cut-off that lies at or
before everything that has changed, the table holds the derived series of the
newest base series after every run: `upsertAll_derive` is the step and
`run_derive` the whole history.
-/

variable {Row : Type u} {Key : Type v} {Bucket : Type w} {Out : Type x}
  [LinearOrder Key] [LinearOrder Bucket]

/-- How a series is derived: the buckets of keys, and the row made of the rows
of one bucket. -/
structure Derivation (Row : Type u) (Key : Type v) (Bucket : Type w) (Out : Type x) where
  key : Row -> Key
  bucket : Key -> Bucket
  make : Bucket -> List Row -> Out
  outKey : Out -> Bucket
  outKey_make : forall bucket rows, outKey (make bucket rows) = bucket

namespace Derivation

variable (d : Derivation Row Key Bucket Out)

/-- The buckets of some rows, in order. -/
def buckets (rows : List Row) : List Bucket :=
  ((rows.map (fun row => d.bucket (d.key row))).dedup).insertionSort (fun first second =>
    first ≤ second)

/-- The rows of one bucket. -/
def group (rows : List Row) (bucket : Bucket) : List Row :=
  rows.filter (fun row => decide (d.bucket (d.key row) = bucket))

/-- The derived rows of a normalized series. -/
def ofNormalized (rows : List Row) : List Out :=
  (d.buckets rows).map (fun bucket => d.make bucket (d.group rows bucket))

/-- The derived series. -/
def derive (rows : List Row) : List Out := d.ofNormalized (normalize d.key rows)

omit [LinearOrder Key] in
theorem mem_buckets (rows : List Row) (bucket : Bucket) :
    bucket ∈ d.buckets rows ↔ d.group rows bucket ≠ [] := by
  rw [buckets, List.mem_insertionSort, List.mem_dedup, List.mem_map, group, ne_eq,
    List.filter_eq_nil_iff]
  simp only [decide_eq_true_eq, not_forall, not_not]
  constructor
  · rintro ⟨row, member, here⟩
    exact ⟨row, member, here⟩
  · rintro ⟨row, member, here⟩
    exact ⟨row, member, here⟩

omit [LinearOrder Key] in
theorem nodup_buckets (rows : List Row) : (d.buckets rows).Nodup :=
  (List.perm_insertionSort _ _).nodup_iff.mpr (List.nodup_dedup _)

theorem map_outKey_derive (rows : List Row) :
    (d.derive rows).map d.outKey = d.buckets (normalize d.key rows) := by
  simp only [derive, ofNormalized, List.map_map, Function.comp_def, d.outKey_make, List.map_id']

/-- No bucket has two derived rows. -/
theorem nodup_derive (rows : List Row) : ((d.derive rows).map d.outKey).Nodup := by
  rw [map_outKey_derive]
  exact d.nodup_buckets _

/-- The derived row of a bucket, if the series has a row in it. -/
def rowAt (rows : List Row) (bucket : Bucket) : Option Out :=
  if d.group (normalize d.key rows) bucket = [] then none
  else some (d.make bucket (d.group (normalize d.key rows) bucket))

theorem mem_derive (rows : List Row) (out : Out) :
    out ∈ d.derive rows ↔ d.rowAt rows (d.outKey out) = some out := by
  rw [derive, ofNormalized, List.mem_map]
  simp only [mem_buckets, rowAt]
  constructor
  · rintro ⟨bucket, present, rfl⟩
    rw [d.outKey_make, if_neg present]
  · intro found
    by_cases empty : d.group (normalize d.key rows) (d.outKey out) = []
    · rw [if_pos empty] at found
      cases found
    · rw [if_neg empty, Option.some_inj] at found
      exact ⟨_, empty, found⟩

/-- What a batch of derived rows does to a table. -/
theorem lastUnder_derive (rows : List Row) (bucket : Bucket) :
    Table.lastUnder d.outKey (d.derive rows) bucket = d.rowAt rows bucket := by
  apply Option.ext
  intro out
  have lookup : Table.lastUnder d.outKey (d.derive rows) bucket = some out ↔
      out ∈ d.derive rows ∧ d.outKey out = bucket :=
    Table.lastUnder_eq_some_iff (d.nodup_derive rows) bucket out
  rw [lookup, mem_derive]
  constructor
  · rintro ⟨found, rfl⟩
    exact found
  · intro found
    have here : d.outKey out = bucket := by
      unfold rowAt at found
      by_cases empty : d.group (normalize d.key rows) bucket = []
      · rw [if_pos empty] at found
        cases found
      · rw [if_neg empty, Option.some_inj] at found
        rw [← found, d.outKey_make]
    rw [here]
    exact ⟨found, rfl⟩

/-! ## What a derived row depends on -/

theorem ascending_group (rows : List Row) (bucket : Bucket) :
    Ascending d.key (d.group (normalize d.key rows) bucket) :=
  List.Pairwise.sublist List.filter_sublist (ascending_normalize rows)

theorem mem_group_normalize (rows : List Row) (bucket : Bucket) (row : Row) :
    row ∈ d.group (normalize d.key rows) bucket ↔
      Table.lastUnder d.key rows (d.key row) = some row ∧ d.bucket (d.key row) = bucket := by
  rw [group, List.mem_filter, mem_normalize, decide_eq_true_iff]

/-- A derived row depends on what the series shows in its bucket. -/
theorem rowAt_congr {first second : List Row} {bucket : Bucket}
    (same : forall k, d.bucket k = bucket ->
      Table.lastUnder d.key first k = Table.lastUnder d.key second k) :
    d.rowAt first bucket = d.rowAt second bucket := by
  have groups : d.group (normalize d.key first) bucket =
      d.group (normalize d.key second) bucket := by
    apply (d.ascending_group first bucket).eq_of_mem_iff (d.ascending_group second bucket)
    intro row
    rw [mem_group_normalize, mem_group_normalize]
    constructor
    · rintro ⟨last, here⟩
      exact ⟨(same _ here).symm.trans last, here⟩
    · rintro ⟨last, here⟩
      exact ⟨(same _ here).trans last, here⟩
  rw [rowAt, rowAt, groups]

theorem rowAt_eq_none_iff (rows : List Row) (bucket : Bucket) :
    d.rowAt rows bucket = none ↔
      forall k, d.bucket k = bucket -> Table.lastUnder d.key rows k = none := by
  have empty_iff : d.rowAt rows bucket = none ↔ d.group (normalize d.key rows) bucket = [] := by
    unfold rowAt
    by_cases empty : d.group (normalize d.key rows) bucket = []
    · simp [empty]
    · simp [empty]
  rw [empty_iff, List.eq_nil_iff_forall_not_mem]
  simp only [mem_group_normalize, not_and]
  constructor
  · intro absent k here
    cases last : Table.lastUnder d.key rows k with
    | none => rfl
    | some row =>
        have keyEq := (Table.mem_of_lastUnder last).2
        rw [← keyEq] at last here
        exact absurd here (absent row last)
  · intro absent row last here
    rw [absent _ here] at last
    cases last

/-! ## Runs of the derivation -/

/-- The rows at or after a cut-off. -/
def since (cutOff : Option Key) (rows : List Row) : List Row :=
  match cutOff with
  | none => rows
  | some start => rows.filter (fun row => decide (start ≤ d.key row))

/-- No bucket has keys on both sides. -/
def Boundary (start : Key) : Prop :=
  forall k other, d.bucket k = d.bucket other -> start ≤ k -> start ≤ other

omit [LinearOrder Bucket] in
theorem lastUnder_since (start : Key) (rows : List Row) (k : Key) :
    Table.lastUnder d.key (d.since (some start) rows) k =
      if start ≤ k then Table.lastUnder d.key rows k else none := by
  rw [lastUnder_eq_getLast?, since, List.filter_filter, lastUnder_eq_getLast?]
  by_cases within : start ≤ k
  · rw [if_pos within]
    congr 1
    apply List.filter_congr
    intro row _
    by_cases here : d.key row = k
    · simp [here, within]
    · simp [here]
  · rw [if_neg within, List.getLast?_eq_none_iff, List.filter_eq_nil_iff]
    intro row _
    simp only [Bool.and_eq_true, decide_eq_true_eq, not_and]
    rintro rfl
    exact within

/-- What a run derives: the rows of the buckets that have a key at or after
the cut-off. -/
theorem rowAt_since {start : Key} (boundary : d.Boundary start) (rows : List Row)
    (bucket : Bucket) :
    (exists k, d.bucket k = bucket ∧ start ≤ k ∧
        d.rowAt (d.since (some start) rows) bucket = d.rowAt rows bucket) ∨
      ((forall k, d.bucket k = bucket -> ¬ start ≤ k) ∧
        d.rowAt (d.since (some start) rows) bucket = none) := by
  by_cases reached : exists k, d.bucket k = bucket ∧ start ≤ k
  · rcases reached with ⟨k, here, within⟩
    refine Or.inl ⟨k, here, within, ?_⟩
    apply d.rowAt_congr
    intro other otherHere
    rw [lastUnder_since, if_pos (boundary k other (here.trans otherHere.symm) within)]
  · have outside : forall k, d.bucket k = bucket -> ¬ start ≤ k := by
      intro k here within
      exact reached ⟨k, here, within⟩
    refine Or.inr ⟨outside, ?_⟩
    rw [rowAt_eq_none_iff]
    intro k here
    rw [lastUnder_since, if_neg (outside k here)]

/-- A run over the rows of the series at that time. -/
structure Rerun (Row : Type u) (Key : Type v) where
  rows : List Row
  cutOff : Option Key

/-- No key is lost. -/
def Grows (before after : List Row) : Prop :=
  forall k, Table.lastUnder d.key before k ≠ none -> Table.lastUnder d.key after k ≠ none

/-- The series has grown since the run before, and the cut-off, if there is
one, is a boundary at or before every row added or replaced. -/
structure Continues (before : List Row) (rerun : Rerun Row Key) : Prop where
  grows : d.Grows before rerun.rows
  boundary : forall start, rerun.cutOff = some start -> d.Boundary start
  covers : forall start, rerun.cutOff = some start -> forall k,
    Table.lastUnder d.key rerun.rows k ≠ Table.lastUnder d.key before k -> start ≤ k

/-- The table of the derived rows, with the base series of the last run. -/
structure Derived (Row : Type u) (outKey : Out -> Bucket) where
  rows : List Row
  table : Table outKey

/-- One run. -/
def upsertDerived (state : Derived Row d.outKey) (rerun : Rerun Row Key) : Derived Row d.outKey where
  rows := rerun.rows
  table := state.table.upsertAll (d.derive (d.since rerun.cutOff rerun.rows))

/-- The table shows the derived series of its base series. -/
def UpToDate (state : Derived Row d.outKey) : Prop :=
  forall bucket, state.table.lookup bucket = d.rowAt state.rows bucket

theorem rowAt_none_of_grows {before after : List Row} (grows : d.Grows before after)
    {bucket : Bucket} (absent : d.rowAt after bucket = none) : d.rowAt before bucket = none := by
  rw [rowAt_eq_none_iff] at absent ⊢
  intro k here
  by_contra present
  exact grows k present (absent k here)

/-- A run keeps the table up to date. -/
theorem upToDate_upsertDerived {state : Derived Row d.outKey} {rerun : Rerun Row Key}
    (upToDate : d.UpToDate state) (continues : d.Continues state.rows rerun) :
    d.UpToDate (d.upsertDerived state rerun) := by
  intro bucket
  have looked : (d.upsertDerived state rerun).table.lookup bucket =
      (d.rowAt (d.since rerun.cutOff rerun.rows) bucket).or (state.table.lookup bucket) := by
    rw [upsertDerived, Table.lookup_upsertAll, lastUnder_derive]
  have full : (d.rowAt rerun.rows bucket).or (d.rowAt state.rows bucket) =
      d.rowAt rerun.rows bucket := by
    cases derived : d.rowAt rerun.rows bucket with
    | some out => rfl
    | none => exact d.rowAt_none_of_grows continues.grows derived
  rw [looked, upToDate bucket]
  change _ = d.rowAt rerun.rows bucket
  cases cutOff : rerun.cutOff with
  | none => exact full
  | some start =>
      rcases d.rowAt_since (continues.boundary start cutOff) rerun.rows bucket with
        ⟨k, here, within, same⟩ | ⟨outside, nothing⟩
      · rw [same]
        exact full
      · rw [nothing, Option.none_or]
        -- nothing has changed in a bucket before the cut-off
        apply d.rowAt_congr
        intro k here
        by_contra changed
        exact outside k here (continues.covers start cutOff k (fun same => changed same.symm))

/-- After every history of runs the table holds the derived series of the
newest base series, each row once. -/
theorem run_derive {state : Derived Row d.outKey} (upToDate : d.UpToDate state)
    {reruns : List (Rerun Row Key)}
    (chain : Transition.Along d.upsertDerived (fun state rerun => d.Continues state.rows rerun)
      state reruns) :
    (Transition.run d.upsertDerived state reruns).table.rows.Perm
      (d.derive (Transition.run d.upsertDerived state reruns).rows) := by
  have shows := Transition.invariant_run d.upsertDerived
    (fun _ _ current continues => d.upToDate_upsertDerived current continues) upToDate chain
  apply Table.rows_perm_of_lookup (d.nodup_derive _)
  intro bucket
  rw [shows bucket, lastUnder_derive]

end Derivation

end Series
