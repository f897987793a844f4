import HybridDataSvc.Relational.Table

namespace Relational

universe u v w

/-!
# More statements on tables

Inserts that give way to a conflicting row, inserts that merge with it,
conditional updates and outer joins.  Each statement on a table is
characterised by what it does to `lookup`.
-/

namespace Table

variable {Row : Type u} {Key : Type v} {key : Row -> Key} [DecidableEq Key]

theorem lookup_eq_none_iff (table : Table key) (k : Key) :
    table.lookup k = none ↔ forall row, row ∈ table.rows -> key row ≠ k := by
  rw [lookup, List.find?_eq_none]
  constructor
  · intro absent row member same
    exact absent row member (decide_eq_true same)
  · intro absent row member same
    exact absent row member (of_decide_eq_true same)

theorem key_of_lookup {table : Table key} {k : Key} {row : Row} (found : table.lookup k = some row) :
    key row = k :=
  ((table.lookup_eq_some_iff k row).mp found).2

/-! ## `INSERT ... ON CONFLICT (key) DO NOTHING` -/

/-- A row is added unless its key is taken. -/
def insertNew (table : Table key) (row : Row) : Table key :=
  if free : table.lookup (key row) = none then
    { rows := table.rows ++ [row]
      unique := by
        rw [List.map_append, List.map_singleton]
        refine List.nodup_append.mpr ⟨table.unique, List.nodup_singleton _, ?_⟩
        intro first firstMem second secondMem same
        rcases List.mem_map.mp firstMem with ⟨old, member, rfl⟩
        rw [List.mem_singleton.mp secondMem] at same
        exact (table.lookup_eq_none_iff (key row)).mp free old member same }
  else table

/-- An insert that gives way changes `lookup` only at a free key. -/
theorem lookup_insertNew (table : Table key) (row : Row) (k : Key) :
    (table.insertNew row).lookup k =
      (table.lookup k).or (if key row = k then some row else none) := by
  unfold insertNew
  by_cases free : table.lookup (key row) = none
  · rw [dif_pos free]
    simp only [lookup, List.find?_append]
    congr 1
    by_cases same : key row = k
    · simp [same]
    · simp [same]
  · rw [dif_neg free]
    by_cases same : key row = k
    · subst same
      rcases Option.ne_none_iff_exists'.mp free with ⟨old, found⟩
      rw [found, Option.some_or]
    · rw [if_neg same, Option.or_none]

/-- `executemany` of such an insert. -/
def insertNewAll (table : Table key) (batch : List Row) : Table key :=
  batch.foldl insertNew table

/-- The row of a batch that gets a free key: the first one. -/
def firstUnder (key : Row -> Key) (batch : List Row) (k : Key) : Option Row :=
  batch.find? (fun row => decide (key row = k))

theorem mem_of_firstUnder {batch : List Row} {k : Key} {row : Row}
    (found : firstUnder key batch k = some row) : row ∈ batch ∧ key row = k :=
  ⟨List.mem_of_find?_eq_some found, key_of_find? found⟩

theorem firstUnder_isSome_iff (batch : List Row) (k : Key) :
    (firstUnder key batch k).isSome = true ↔ exists row, row ∈ batch ∧ key row = k := by
  simp [firstUnder, List.find?_isSome]

/-- Among different keys the only row under one is found. -/
theorem firstUnder_eq_of_mem {batch : List Row} (unique : (batch.map key).Nodup) {k : Key}
    {row : Row} (member : row ∈ batch) (named : key row = k) :
    firstUnder key batch k = some row := by
  have present := (firstUnder_isSome_iff batch k).mpr ⟨row, member, named⟩
  rcases Option.isSome_iff_exists.mp present with ⟨other, found⟩
  have parts := mem_of_firstUnder found
  have same := List.inj_on_of_nodup_map unique parts.1 member (parts.2.trans named.symm)
  rw [found, same]

theorem lookup_insertNewAll (table : Table key) (batch : List Row) (k : Key) :
    (table.insertNewAll batch).lookup k = (table.lookup k).or (firstUnder key batch k) := by
  induction batch generalizing table with
  | nil => rw [firstUnder, List.find?_nil, Option.or_none]; rfl
  | cons row batch ih =>
      change ((table.insertNew row).insertNewAll batch).lookup k = _
      rw [ih, lookup_insertNew, Option.or_assoc]
      congr 1
      by_cases same : key row = k
      · simp [firstUnder, same]
      · simp [firstUnder, same]

/-! ## `INSERT ... ON CONFLICT (key) DO UPDATE SET` some columns -/

/-- A row is added, or merged into the row that has its key. -/
def merge (table : Table key) (combine : Row -> Row -> Row) (row : Row) : Table key :=
  match table.lookup (key row) with
  | none => table.upsert row
  | some old => table.upsert (combine old row)

theorem lookup_merge (table : Table key) {combine : Row -> Row -> Row}
    (keeps : forall old new, key (combine old new) = key old) (row : Row) (k : Key) :
    (table.merge combine row).lookup k =
      if k = key row then
        some (match table.lookup k with
          | none => row
          | some old => combine old row)
      else table.lookup k := by
  unfold merge
  cases found : table.lookup (key row) with
  | none =>
      rw [lookup_upsert]
      by_cases same : k = key row
      · rw [if_pos same, if_pos same, same, found]
      · rw [if_neg same, if_neg same]
  | some old =>
      have oldKey := key_of_lookup found
      rw [lookup_upsert, keeps, oldKey]
      by_cases same : k = key row
      · rw [if_pos same, if_pos same, same, found]
      · rw [if_neg same, if_neg same]

/-! ## `UPDATE ... SET ... WHERE condition` -/

omit [DecidableEq Key] in
theorem map_key_update (condition : Row -> Bool) (change : Row -> Row)
    (keeps : forall row, key (change row) = key row) (rows : List Row) :
    (rows.map (fun row => if condition row then change row else row)).map key = rows.map key := by
  rw [List.map_map]
  apply List.map_congr_left
  intro row _
  by_cases met : condition row = true
  · simp [met, keeps]
  · simp [met]

/-- The rows that meet the condition are changed, their keys stay. -/
def updateWhere (table : Table key) (condition : Row -> Bool) (change : Row -> Row)
    (keeps : forall row, key (change row) = key row) : Table key where
  rows := table.rows.map (fun row => if condition row then change row else row)
  unique := by
    rw [map_key_update condition change keeps]
    exact table.unique

theorem lookup_updateWhere (table : Table key) (condition : Row -> Bool) (change : Row -> Row)
    (keeps : forall row, key (change row) = key row) (k : Key) :
    (table.updateWhere condition change keeps).lookup k =
      (table.lookup k).map (fun row => if condition row then change row else row) := by
  have keyKept : forall row, key (if condition row then change row else row) = key row := by
    intro row
    by_cases met : condition row = true
    · rw [if_pos met, keeps]
    · rw [if_neg met]
  rw [lookup, updateWhere, List.find?_map]
  congr 2
  funext row
  simp only [Function.comp_apply, keyKept]

end Table

/-! ## `LEFT JOIN` -/

section LeftJoin

variable {Left : Type u} {Right : Type v}

/-- Every row on the left with the rows that match it, or once without any. -/
def leftJoin (left : List Left) (matching : Left -> List Right) : List (Left × Option Right) :=
  left.flatMap (fun row =>
    if (matching row).isEmpty then [(row, none)]
    else (matching row).map (fun other => (row, some other)))

theorem mem_leftJoin (left : List Left) (matching : Left -> List Right) (row : Left)
    (other : Option Right) :
    (row, other) ∈ leftJoin left matching ↔ row ∈ left ∧
      match other with
      | none => matching row = []
      | some found => found ∈ matching row := by
  simp only [leftJoin, List.mem_flatMap]
  constructor
  · rintro ⟨first, member, joined⟩
    by_cases empty : (matching first).isEmpty = true
    · rw [if_pos empty, List.mem_singleton] at joined
      cases joined
      exact ⟨member, List.isEmpty_iff.mp empty⟩
    · rw [if_neg empty] at joined
      rcases List.mem_map.mp joined with ⟨found, foundMem, equal⟩
      cases equal
      exact ⟨member, foundMem⟩
  · rintro ⟨member, joined⟩
    refine ⟨row, member, ?_⟩
    cases other with
    | none =>
        rw [if_pos (List.isEmpty_iff.mpr joined)]
        exact List.mem_singleton.mpr rfl
    | some found =>
        have nonempty : ¬ (matching row).isEmpty = true := by
          intro empty
          rw [List.isEmpty_iff.mp empty] at joined
          cases joined
        rw [if_neg nonempty]
        exact List.mem_map.mpr ⟨found, joined, rfl⟩

/-- No row on the left is lost. -/
theorem exists_mem_leftJoin {left : List Left} {row : Left} (member : row ∈ left)
    (matching : Left -> List Right) : exists other, (row, other) ∈ leftJoin left matching := by
  cases matched : matching row with
  | nil => exact ⟨none, (mem_leftJoin left matching row none).mpr ⟨member, matched⟩⟩
  | cons found rest =>
      refine ⟨some found, (mem_leftJoin left matching row (some found)).mpr ⟨member, ?_⟩⟩
      rw [matched]
      exact List.mem_cons_self

end LeftJoin

/-! ## `COALESCE(MAX(column), 0)` -/

/-- The largest of some values, and 0 when there are none. -/
def maxOrZero (values : List Int) : Int := values.max?.getD 0

theorem maxOrZero_eq_zero_iff (values : List Int) :
    maxOrZero values = 0 ↔ values = [] ∨ (0 ∈ values ∧ forall value, value ∈ values -> value ≤ 0) := by
  unfold maxOrZero
  cases largest : values.max? with
  | none =>
      rw [List.max?_eq_none_iff.mp largest]
      simp
  | some value =>
      have spec := List.max?_eq_some_iff.mp largest
      rw [Option.getD_some]
      constructor
      · rintro rfl
        exact Or.inr spec
      · rintro (rfl | ⟨zero, upper⟩)
        · cases largest
        · exact Int.le_antisymm (upper value spec.1) (spec.2 0 zero)

end Relational
