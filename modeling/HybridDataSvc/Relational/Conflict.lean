import HybridDataSvc.Relational.Statements

namespace Relational

universe u v w

/-!
# Inserts that name a conflict target

`ON CONFLICT (columns) DO NOTHING` lets an insert give way to a row that has
the same values in these columns.  It is accepted only where a unique
constraint on exactly these columns, in any order, exists; any other
constraint still makes the insert fail.
-/

/-- Whether a unique constraint is on exactly the columns of a conflict target. -/
def infersArbiter {Column : Type w} [DecidableEq Column] (uniques : List (List Column))
    (target : List Column) : Bool :=
  uniques.any (fun columns => columns.isPerm target)

namespace Table

variable {Row : Type u} {Key : Type v} {key : Row -> Key} [DecidableEq Key]

/-- A plain insert, which a taken key makes fail. -/
def insertRow (table : Table key) (row : Row) : Option (Table key) :=
  if (table.lookup (key row)).isSome then none else some (table.insertNew row)

/-- `INSERT ... SELECT`. -/
def insertRows (table : Table key) (rows : List Row) : Option (Table key) :=
  rows.foldlM (fun current row => current.insertRow row) table

/-- An insert that gives way to a row that is the same in the columns of the target. -/
def insertUnless (same : Row -> Row -> Bool) (table : Table key) (row : Row) :
    Option (Table key) :=
  if table.rows.any (fun stored => same stored row) then some table else table.insertRow row

/-- `executemany` of such an insert. -/
def insertUnlessAll (same : Row -> Row -> Bool) (table : Table key) (batch : List Row) :
    Option (Table key) :=
  batch.foldlM (fun current row => insertUnless same current row) table

/-- Rows with fresh and different keys are inserted. -/
theorem insertRows_of_fresh {table : Table key} {rows : List Row}
    (different : (rows.map key).Nodup)
    (fresh : forall row, row ∈ rows -> table.lookup (key row) = none) :
    exists after, table.insertRows rows = some after := by
  induction rows generalizing table with
  | nil => exact ⟨table, rfl⟩
  | cons row rest ih =>
      rw [List.map_cons, List.nodup_cons] at different
      have free : table.insertRow row = some (table.insertNew row) := by
        rw [insertRow, fresh row List.mem_cons_self]
        rfl
      have later : forall other, other ∈ rest ->
          (table.insertNew row).lookup (key other) = none := by
        intro other member
        have elsewhere : key row ≠ key other := by
          intro same
          exact different.1 (same.symm ▸ List.mem_map_of_mem member)
        rw [lookup_insertNew, fresh other (List.mem_cons_of_mem _ member)]
        simp [elsewhere]
      rcases ih different.2 later with ⟨after, done⟩
      refine ⟨after, ?_⟩
      rw [insertRows, List.foldlM_cons, free]
      exact done

end Table

end Relational
