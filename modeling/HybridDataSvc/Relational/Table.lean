import Mathlib.Data.List.Nodup
import Mathlib.Data.List.Sort

namespace Relational

universe u v

/-!
# Tables with a primary key

A table is the list of its rows together with the fact that no two of them
share a primary key.  The list order is the order of insertion and carries no
meaning; what a statement can observe is the partial map `lookup` from keys
to rows, the rows a condition selects, and their order under `ORDER BY`.

The statements are the ones a small SQL program uses: an insert that rewrites
the row it conflicts with, a batch of such inserts, a conditional delete and
a select.  Each keeps the key constraint by construction, so no later proof
has to carry it, and each is characterised by the rows it leaves.
-/

/-- `DISTINCT` leaves no name twice. -/
theorem nodup_eraseDups {Name : Type u} [DecidableEq Name] (names : List Name) :
    names.eraseDups.Nodup := by
  cases names with
  | nil => exact List.nodup_nil
  | cons name rest =>
      rw [List.eraseDups_cons, List.nodup_cons]
      have later := nodup_eraseDups (rest.filter (fun other => !other == name))
      refine ⟨?_, later⟩
      intro again
      rw [List.mem_eraseDups, List.mem_filter] at again
      simp at again
termination_by names.length
decreasing_by exact Nat.lt_succ_of_le (List.length_filter_le _ rest)

/-- A table whose rows are pairwise distinct in the column `key`. -/
@[ext] structure Table {Row : Type u} {Key : Type v} (key : Row -> Key) where
  rows : List Row
  unique : (rows.map key).Nodup

namespace Table

variable {Row : Type u} {Key : Type v} {key : Row -> Key}

/-- Two rows of one table with the same key are the same row. -/
theorem eq_of_key_eq (table : Table key) {first second : Row}
    (firstMem : first ∈ table.rows) (secondMem : second ∈ table.rows)
    (same : key first = key second) : first = second :=
  List.inj_on_of_nodup_map table.unique firstMem secondMem same

/-- The table without rows. -/
def empty : Table key := ⟨[], List.nodup_nil⟩

@[simp] theorem rows_empty : (empty : Table key).rows = [] := rfl

/-- `SELECT ... WHERE condition`. -/
def select (table : Table key) (condition : Row -> Bool) : List Row :=
  table.rows.filter condition

@[simp] theorem mem_select (table : Table key) (condition : Row -> Bool) (row : Row) :
    row ∈ table.select condition ↔ row ∈ table.rows ∧ condition row = true :=
  List.mem_filter

/-- `DELETE ... WHERE condition`. -/
def deleteWhere (table : Table key) (condition : Row -> Bool) : Table key where
  rows := table.rows.filter (fun row => !condition row)
  unique := (List.filter_sublist.map key).nodup table.unique

@[simp] theorem mem_deleteWhere (table : Table key) (condition : Row -> Bool) (row : Row) :
    row ∈ (table.deleteWhere condition).rows ↔ row ∈ table.rows ∧ condition row = false := by
  simp [deleteWhere, List.mem_filter]

/-- Rows a delete does not meet are selected as before. -/
theorem select_deleteWhere_of_disjoint (table : Table key) (deleted condition : Row -> Bool)
    (disjoint : forall row, condition row = true -> deleted row = false) :
    (table.deleteWhere deleted).select condition = table.select condition := by
  simp only [select, deleteWhere, List.filter_filter]
  apply List.filter_congr
  intro row _member
  cases holds : condition row with
  | false => simp
  | true => simp [disjoint row holds]

/-! ## `COUNT(*)` -/

section Count

variable {small large : Table key} {condition : Row -> Bool}

theorem nodup_keys_select (table : Table key) (condition : Row -> Bool) :
    ((table.select condition).map key).Nodup :=
  (List.filter_sublist.map key).nodup table.unique

/-- Of two tables, one with all keys of the other, the rows of a condition on the
key have their keys there. -/
theorem keys_select_subset
    (onKey : forall row other, key row = key other -> condition row = condition other)
    (below : forall row, row ∈ small.rows -> condition row = true ->
      exists other, other ∈ large.rows ∧ key other = key row) :
    (small.select condition).map key ⊆ (large.select condition).map key := by
  intro k member
  rcases List.mem_map.mp member with ⟨row, rowMem, rfl⟩
  have parts := (small.mem_select condition row).mp rowMem
  rcases below row parts.1 parts.2 with ⟨other, otherMem, same⟩
  refine List.mem_map.mpr ⟨other, (large.mem_select condition other).mpr ⟨otherMem, ?_⟩, same⟩
  rw [onKey other row same]
  exact parts.2

/-- So they are no more rows. -/
theorem length_select_le
    (onKey : forall row other, key row = key other -> condition row = condition other)
    (below : forall row, row ∈ small.rows -> condition row = true ->
      exists other, other ∈ large.rows ∧ key other = key row) :
    (small.select condition).length ≤ (large.select condition).length := by
  have subset := keys_select_subset onKey below
  have length_le := (List.subperm_of_subset (small.nodup_keys_select condition) subset).length_le
  simpa only [List.length_map] using length_le

/-- And they are as many exactly when neither table has a key more. -/
theorem length_select_eq_iff
    (onKey : forall row other, key row = key other -> condition row = condition other)
    (below : forall row, row ∈ small.rows -> condition row = true ->
      exists other, other ∈ large.rows ∧ key other = key row) :
    (small.select condition).length = (large.select condition).length ↔
      forall row, row ∈ large.rows -> condition row = true ->
        exists other, other ∈ small.rows ∧ key other = key row := by
  have subset := keys_select_subset onKey below
  have subperm := List.subperm_of_subset (small.nodup_keys_select condition) subset
  constructor
  · intro sameCount row rowMem met
    have whole := subperm.perm_of_length_le (by simp only [List.length_map]; omega)
    have inLarge := (large.mem_select condition row).mpr ⟨rowMem, met⟩
    rcases List.mem_map.mp (whole.mem_iff.mpr (List.mem_map_of_mem inLarge)) with
      ⟨other, otherMem, same⟩
    exact ⟨other, ((small.mem_select condition other).mp otherMem).1, same⟩
  · intro covered
    exact Nat.le_antisymm (length_select_le onKey below) (length_select_le onKey covered)

end Count

variable [DecidableEq Key]

theorem key_of_find? {rows : List Row} {k : Key} {row : Row}
    (found : rows.find? (fun other => decide (key other = k)) = some row) : key row = k := by
  have holds := List.find?_some found
  exact of_decide_eq_true holds

/-- The row stored under a key, if there is one. -/
def lookup (table : Table key) (k : Key) : Option Row :=
  table.rows.find? (fun row => decide (key row = k))

theorem lookup_eq_some_iff (table : Table key) (k : Key) (row : Row) :
    table.lookup k = some row ↔ row ∈ table.rows ∧ key row = k := by
  constructor
  · intro found
    exact ⟨List.mem_of_find?_eq_some found, key_of_find? found⟩
  · rintro ⟨member, rfl⟩
    cases found : table.lookup (key row) with
    | none =>
        have absent := List.find?_eq_none.mp found row member
        simp at absent
    | some other =>
        have same : key other = key row := key_of_find? found
        rw [table.eq_of_key_eq (List.mem_of_find?_eq_some found) member same]

/-- A row is stored exactly when its key looks it up. -/
theorem mem_rows_iff_lookup (table : Table key) (row : Row) :
    row ∈ table.rows ↔ table.lookup (key row) = some row := by
  rw [lookup_eq_some_iff]
  exact ⟨fun member => ⟨member, rfl⟩, fun found => found.1⟩

@[simp] theorem lookup_empty (k : Key) : (empty : Table key).lookup k = none := rfl

/-! ## `INSERT ... ON CONFLICT (key) DO UPDATE` -/

/-- The rows after an insert that rewrites the conflicting row in place. -/
def upsertRows (key : Row -> Key) (row : Row) (rows : List Row) : List Row :=
  if rows.any (fun old => decide (key old = key row)) then
    rows.map (fun old => if key old = key row then row else old)
  else rows ++ [row]

theorem mem_upsertRows (row : Row) (rows : List Row) (other : Row) :
    other ∈ upsertRows key row rows ↔
      other = row ∨ (other ∈ rows ∧ key other ≠ key row) := by
  unfold upsertRows
  by_cases conflict : rows.any (fun old => decide (key old = key row)) = true
  · rw [if_pos conflict, List.mem_map]
    constructor
    · rintro ⟨old, member, rewritten⟩
      by_cases same : key old = key row
      · rw [if_pos same] at rewritten
        exact Or.inl rewritten.symm
      · rw [if_neg same] at rewritten
        exact Or.inr ⟨rewritten ▸ member, rewritten ▸ same⟩
    · rintro (rfl | ⟨member, different⟩)
      · rcases List.any_eq_true.mp conflict with ⟨old, member, same⟩
        exact ⟨old, member, if_pos (of_decide_eq_true same)⟩
      · exact ⟨other, member, if_neg different⟩
  · rw [if_neg conflict, List.mem_append, List.mem_singleton]
    have fresh : forall old, old ∈ rows -> key old ≠ key row := by
      intro old member same
      exact conflict (List.any_eq_true.mpr ⟨old, member, decide_eq_true same⟩)
    constructor
    · rintro (member | rfl)
      · exact Or.inr ⟨member, fresh other member⟩
      · exact Or.inl rfl
    · rintro (rfl | ⟨member, _⟩)
      · exact Or.inr rfl
      · exact Or.inl member

theorem upsertRows_unique (row : Row) (rows : List Row) (unique : (rows.map key).Nodup) :
    ((upsertRows key row rows).map key).Nodup := by
  unfold upsertRows
  by_cases conflict : rows.any (fun old => decide (key old = key row)) = true
  · rw [if_pos conflict, List.map_map]
    have keysKept : (key ∘ fun old => if key old = key row then row else old) = key := by
      funext old
      by_cases same : key old = key row <;> simp [same]
    rw [keysKept]
    exact unique
  · rw [if_neg conflict, List.map_append, List.map_singleton]
    refine List.nodup_append.mpr ⟨unique, List.nodup_singleton _, ?_⟩
    intro first firstMem second secondMem same
    rcases List.mem_map.mp firstMem with ⟨old, member, rfl⟩
    rw [List.mem_singleton.mp secondMem] at same
    exact conflict (List.any_eq_true.mpr ⟨old, member, decide_eq_true same⟩)

/-- `INSERT ... ON CONFLICT (key) DO UPDATE SET` every other column. -/
def upsert (table : Table key) (row : Row) : Table key where
  rows := upsertRows key row table.rows
  unique := upsertRows_unique row table.rows table.unique

/-- Of two upserts under one key the second remains. -/
theorem upsert_upsert (table : Table key) (first second : Row) (same : key first = key second) :
    (table.upsert first).upsert second = table.upsert second := by
  apply Table.ext
  simp only [upsert, upsertRows, same]
  by_cases conflict : table.rows.any (fun old => decide (key old = key second)) = true
  · have still : (table.rows.map (fun old => if key old = key second then first else old)).any
        (fun old => decide (key old = key second)) = true := by
      rcases List.any_eq_true.mp conflict with ⟨old, member, clash⟩
      refine List.any_eq_true.mpr ⟨first, List.mem_map.mpr ⟨old, member, ?_⟩, decide_eq_true same⟩
      exact if_pos (of_decide_eq_true clash)
    rw [if_pos conflict, if_pos still, if_pos conflict, List.map_map]
    apply List.map_congr_left
    intro old _
    by_cases clash : key old = key second
    · simp [clash, same]
    · simp [clash]
  · have added : (table.rows ++ [first]).any (fun old => decide (key old = key second)) = true := by
      simp [same]
    have fresh : forall old, old ∈ table.rows -> key old ≠ key second := by
      intro old member clash
      exact conflict (List.any_eq_true.mpr ⟨old, member, decide_eq_true clash⟩)
    rw [if_neg conflict, if_pos added, if_neg conflict, List.map_append, List.map_singleton,
      if_pos same]
    congr 1
    rw [List.map_congr_left (fun old member => if_neg (fresh old member)), List.map_id']

@[simp] theorem mem_upsert (table : Table key) (row other : Row) :
    other ∈ (table.upsert row).rows ↔
      other = row ∨ (other ∈ table.rows ∧ key other ≠ key row) :=
  mem_upsertRows row table.rows other

/-- On the partial map from keys to rows an upsert is a single update. -/
theorem lookup_upsert (table : Table key) (row : Row) (k : Key) :
    (table.upsert row).lookup k = if k = key row then some row else table.lookup k := by
  apply Option.ext
  intro other
  rw [lookup_eq_some_iff, mem_upsert]
  by_cases same : k = key row
  · subst same
    rw [if_pos rfl, Option.some_inj]
    constructor
    · rintro ⟨rfl | ⟨_, different⟩, equal⟩
      · rfl
      · exact absurd equal different
    · rintro rfl
      exact ⟨Or.inl rfl, rfl⟩
  · rw [if_neg same, lookup_eq_some_iff]
    constructor
    · rintro ⟨rfl | ⟨member, _⟩, equal⟩
      · exact absurd equal.symm same
      · exact ⟨member, equal⟩
    · rintro ⟨member, equal⟩
      exact ⟨Or.inr ⟨member, fun clash => same (equal.symm.trans clash)⟩, equal⟩

/-- A condition that no row under the inserted key meets selects the same rows. -/
theorem select_upsert_of_disjoint (table : Table key) (row : Row) (condition : Row -> Bool)
    (disjoint : forall other, key other = key row -> condition other = false) :
    (table.upsert row).select condition = table.select condition := by
  simp only [select, upsert, upsertRows]
  by_cases conflict : table.rows.any (fun old => decide (key old = key row)) = true
  · rw [if_pos conflict]
    induction table.rows with
    | nil => rfl
    | cons head tail ih =>
        by_cases same : key head = key row
        · simp [same, disjoint row rfl, disjoint head same, ih]
        · simp [same, List.filter_cons, ih]
  · rw [if_neg conflict, List.filter_append]
    simp [disjoint row rfl]

/-! ## A batch of upserts -/

/-- `executemany` of one upsert: the rows are inserted in the order given. -/
def upsertAll (table : Table key) (batch : List Row) : Table key :=
  batch.foldl upsert table

@[simp] theorem upsertAll_cons (table : Table key) (row : Row) (batch : List Row) :
    table.upsertAll (row :: batch) = (table.upsert row).upsertAll batch := rfl

/-- The row of a batch that a key ends up with: the last one, as every later
upsert rewrites what an earlier one left. -/
def lastUnder (key : Row -> Key) (batch : List Row) (k : Key) : Option Row :=
  batch.reverse.find? (fun row => decide (key row = k))

theorem mem_of_lastUnder {batch : List Row} {k : Key} {row : Row}
    (found : lastUnder key batch k = some row) : row ∈ batch ∧ key row = k :=
  ⟨List.mem_reverse.mp (List.mem_of_find?_eq_some found), key_of_find? found⟩

theorem lastUnder_isSome_iff (batch : List Row) (k : Key) :
    (lastUnder key batch k).isSome = true ↔ exists row, row ∈ batch ∧ key row = k := by
  simp [lastUnder, List.find?_isSome]

/-- In a batch without repeated keys the last row of a key is its only one. -/
theorem lastUnder_eq_some_iff {batch : List Row} (unique : (batch.map key).Nodup) (k : Key)
    (row : Row) : lastUnder key batch k = some row ↔ row ∈ batch ∧ key row = k := by
  have reversed : (batch.reverse.map key).Nodup := by
    rw [List.map_reverse]
    exact List.nodup_reverse.mpr unique
  have found := lookup_eq_some_iff ⟨batch.reverse, reversed⟩ k row
  rw [List.mem_reverse] at found
  exact found

/-- A table that shows exactly a batch has its rows. -/
theorem rows_perm_of_lookup {table : Table key} {batch : List Row}
    (unique : (batch.map key).Nodup)
    (shows : forall k, table.lookup k = lastUnder key batch k) : table.rows.Perm batch := by
  apply (List.perm_ext_iff_of_nodup table.unique.of_map unique.of_map).mpr
  intro row
  rw [mem_rows_iff_lookup, shows, lastUnder_eq_some_iff unique]
  exact and_iff_left rfl

theorem lastUnder_append (first second : List Row) (k : Key) :
    lastUnder key (first ++ second) k = (lastUnder key second k).or (lastUnder key first k) := by
  rw [lastUnder, List.reverse_append, List.find?_append]
  rfl

/-- A batch overrides the table at its own keys and nowhere else. -/
theorem lookup_upsertAll (table : Table key) (batch : List Row) (k : Key) :
    (table.upsertAll batch).lookup k = (lastUnder key batch k).or (table.lookup k) := by
  induction batch generalizing table with
  | nil => rfl
  | cons row batch ih =>
      rw [upsertAll_cons, ih, lookup_upsert]
      simp only [lastUnder, List.reverse_cons, List.find?_append]
      rw [Option.or_assoc]
      congr 1
      by_cases same : key row = k
      · simp [same]
      · simp [same, Ne.symm same]

/-- Rows outside the keys of a batch are left alone. -/
theorem lookup_upsertAll_of_not_mem (table : Table key) (batch : List Row) (k : Key)
    (outside : forall row, row ∈ batch -> key row ≠ k) :
    (table.upsertAll batch).lookup k = table.lookup k := by
  have unset : lastUnder key batch k = none := by
    rw [← Option.not_isSome_iff_eq_none, lastUnder_isSome_iff]
    rintro ⟨row, member, same⟩
    exact outside row member same
  rw [lookup_upsertAll, unset, Option.none_or]

/-- Every row after a batch is a row of the batch or was there under a key
the batch does not touch. -/
theorem mem_upsertAll (table : Table key) (batch : List Row) (row : Row) :
    row ∈ (table.upsertAll batch).rows ↔
      lastUnder key batch (key row) = some row ∨
        (row ∈ table.rows ∧ forall other, other ∈ batch -> key other ≠ key row) := by
  rw [mem_rows_iff_lookup, lookup_upsertAll]
  cases found : lastUnder key batch (key row) with
  | some last =>
      have present := (lastUnder_isSome_iff batch (key row)).mp (by rw [found]; rfl)
      rcases present with ⟨other, member, same⟩
      rw [Option.some_or]
      constructor
      · exact Or.inl
      · rintro (equal | ⟨_, outside⟩)
        · exact equal
        · exact absurd same (outside other member)
  | none =>
      rw [Option.none_or, ← mem_rows_iff_lookup]
      constructor
      · intro member
        refine Or.inr ⟨member, ?_⟩
        intro other otherMem same
        have present := (lastUnder_isSome_iff batch (key row)).mpr ⟨other, otherMem, same⟩
        rw [found] at present
        exact Bool.noConfusion present
      · rintro (impossible | ⟨member, _⟩)
        · cases impossible
        · exact member

theorem select_upsertAll_of_disjoint (table : Table key) (batch : List Row)
    (condition : Row -> Bool)
    (disjoint : forall row, row ∈ batch ->
      forall other, key other = key row -> condition other = false) :
    (table.upsertAll batch).select condition = table.select condition := by
  induction batch generalizing table with
  | nil => rfl
  | cons row batch ih =>
      rw [upsertAll_cons, ih _ (fun other member => disjoint other (List.mem_cons_of_mem _ member))]
      exact table.select_upsert_of_disjoint row condition (disjoint row List.mem_cons_self)

end Table

/-! ## `ORDER BY column DESC` -/

section OrderBy

variable {Row : Type u}

/-- The rows from the largest value of a column to the smallest. -/
def orderByDesc (column : Row -> Int) (rows : List Row) : List Row :=
  rows.insertionSort (fun first second => column second ≤ column first)

theorem mem_orderByDesc (column : Row -> Int) (rows : List Row) (row : Row) :
    row ∈ orderByDesc column rows ↔ row ∈ rows :=
  (List.perm_insertionSort _ rows).mem_iff

theorem orderByDesc_pairwise (column : Row -> Int) (rows : List Row) :
    (orderByDesc column rows).Pairwise (fun first second => column second ≤ column first) := by
  have total : Std.Total (fun first second : Row => column second ≤ column first) :=
    ⟨fun first second => Int.le_total (column second) (column first)⟩
  have transitive : IsTrans Row (fun first second => column second ≤ column first) :=
    ⟨fun _ _ _ left right => Int.le_trans right left⟩
  exact List.pairwise_insertionSort _ rows

/-- `ORDER BY column DESC LIMIT 1` returns a row with the largest value. -/
theorem head?_orderByDesc {column : Row -> Int} {rows : List Row} {row : Row}
    (first : (orderByDesc column rows).head? = some row) :
    row ∈ rows ∧ forall other, other ∈ rows -> column other ≤ column row := by
  have sorted := orderByDesc_pairwise column rows
  have members := mem_orderByDesc column rows
  cases order : orderByDesc column rows with
  | nil =>
      rw [order] at first
      cases first
  | cons head tail =>
      rw [order] at first sorted members
      have same : head = row := Option.some_inj.mp first
      subst same
      refine ⟨(members head).mp List.mem_cons_self, ?_⟩
      intro other member
      rcases List.mem_cons.mp ((members other).mpr member) with equal | later
      · exact equal ▸ Int.le_refl _
      · exact List.rel_of_pairwise_cons sorted later

theorem head?_orderByDesc_eq_none_iff (column : Row -> Int) (rows : List Row) :
    (orderByDesc column rows).head? = none ↔ rows = [] := by
  rw [List.head?_eq_none_iff]
  constructor
  · intro empty
    have permuted := List.perm_insertionSort (fun first second => column second ≤ column first) rows
    exact List.perm_nil.mp (permuted.symm.trans (List.Perm.of_eq empty))
  · rintro rfl
    rfl

end OrderBy

end Relational
